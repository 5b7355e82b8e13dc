import Tela.Properties.Locks

/-!
# Single-flight recovery

A recovery lock serializes the recoveries of a server only as long as the lock
table keeps its entry. `disconnect_all` empties the table, and pruning tests
neither the waiters nor a lock that is about to be woken.
-/

namespace Tela

open Coop

/-- The task is between acquiring and releasing a recovery lock of the server. -/
def State.Recovers (s : State) (serverName : String) (task : TaskId) : Prop :=
  ∃ lock, s.lockServers[lock]? = some serverName ∧
    (s.locks (.recovery lock)).holder = some task

/-- At most one task recovers each server. -/
def State.SingleFlight (s : State) : Prop :=
  ∀ serverName task other, s.Recovers serverName task → s.Recovers serverName other →
    task = other

/-- The block takes this lock out of the lock table. -/
def Act.Discards : Act → State → LockId → Prop
  | resetForDisconnect, s, lock => ∃ serverName, s.recoveryLocks.get? serverName = some lock
  | pruneRecoveryLock serverName, s, lock =>
      s.recoveryLocks.get? serverName = some lock ∧
        (s.locks (.recovery lock)).locked = false ∧ s.clients.contains serverName = false
  | _, _, _ => False

/-- Only locks that nobody holds or waits for leave the lock table. -/
def DiscardsIdleLocks : Guard world
  | s, _, .executed _ a => ∀ lock, a.Discards s lock → (s.locks (.recovery lock)).Idle
  | _, _, _ => True

/-! ## The invariant -/

/-- Every recovery lock in the table or in use was made for its server. -/
structure LocksMade (v : Watched world Trace) : Prop where
  table : ∀ serverName lock, v.state.recoveryLocks.get? serverName = some lock →
    v.state.lockServers[lock]? = some serverName
  used : ∀ task hold, (v.traces task).recovery = some hold →
    v.state.lockServers[hold.lock]? = some hold.server

/-- The lock table has every recovery lock that a task has looked up. -/
def LockTableFits (v : Watched world Trace) : Prop :=
  ∀ task hold, (v.traces task).recovery = some hold →
    v.state.recoveryLocks.get? hold.server = some hold.lock

theorem recovery_after {a : Act} {g : Trace} (kept : a.writesRecoveryLocks = false) (v : a.Val)
    {hold : Hold} (held : (a.after v g).recovery = some hold) : g.recovery = some hold := by
  cases a with
  | fetchRecoveryLock serverName => cases kept
  | release lock =>
      cases lock with
      | registry => exact held
      | recovery id => cases held
  | getRuntimeConfig =>
      change Trace.recovery (if g.role = .reload then { g with config := some v } else g) = _ at held
      split at held <;> exact held
  | _ => exact held

theorem recovery_woken (w : Wait) (r : Option w.Res) {g : Trace} {hold : Hold}
    (held : (w.woken r g).recovery = some hold) :
    ∃ before, g.recovery = some before ∧ before.server = hold.server ∧
      before.lock = hold.lock := by
  cases w with
  | acquire lock =>
      cases lock with
      | registry => cases r <;> exact ⟨hold, held, rfl, rfl⟩
      | recovery id =>
          cases r with
          | none => cases held
          | some value =>
              obtain ⟨before, found, rfl⟩ := Option.map_eq_some_iff.mp held
              exact ⟨before, found, rfl, rfl⟩
  | listTools session => cases r <;> exact ⟨hold, held, rfl, rfl⟩
  | _ => exact ⟨hold, held, rfl, rfl⟩

theorem Req.begin_recovery (request : Req) : request.begin.recovery = none := by
  cases request <;> rfl

/-- A suspended task uses the recovery lock it has looked up. -/
theorem not_idle_of_recovery {v : Watched world Trace} (fit : LocksFit v) {task : TaskId}
    (stable : discipline.Stable v task) {hold : Hold}
    (held : (v.traces task).recovery = some hold) :
    ¬ (v.state.locks (.recovery hold.lock)).Idle := by
  intro idle
  unfold Discipline.Stable at stable
  split at stable
  · rename_i w waiting
    have fetched (settled : (v.traces task).Settled) : False := by
      have acquired := settled.recovery hold held
      refine fit.not_holds_of_idle idle task ⟨hold.server, ?_⟩
      rw [held, ← acquired]
    cases w with
    | acquire lock =>
        cases lock with
        | registry => exact fetched stable.toSettled
        | recovery id =>
            obtain ⟨server, same⟩ := stable.1
            obtain rfl := Option.some.inj (held.symm.trans same)
            have queued := (fit.waiters _ _).mpr waiting
            rw [idle.2] at queued
            cases queued
    | gather batch => exact fetched stable.1
    | listTools session => exact fetched stable.1
    | _ => exact fetched stable
  · rw [stable] at held
    cases held

/-! Pruning takes out at most one entry. -/

theorem prune_made (s : State) {serverName : String} :
    (s.pruneRecoveryLock serverName).lockServers = s.lockServers := by
  obtain ⟨_, same⟩ := s.pruneRecoveryLock_frame serverName
  rw [same]

theorem prune_entry (s : State) {serverName name : String} {lock : LockId}
    (found : (s.pruneRecoveryLock serverName).recoveryLocks.get? name = some lock) :
    s.recoveryLocks.get? name = some lock := by
  unfold State.pruneRecoveryLock at found
  split at found
  · exact found
  · split at found
    · exact found
    · split at found
      · exact found
      · rw [Dict.get?_erase] at found
        split at found
        · cases found
        · exact found

theorem prune_kept (s : State) {serverName name : String} {lock : LockId}
    (found : s.recoveryLocks.get? name = some lock)
    (used : ¬ (Act.pruneRecoveryLock serverName).Discards s lock) :
    (s.pruneRecoveryLock serverName).recoveryLocks.get? name = some lock := by
  unfold State.pruneRecoveryLock
  split
  · exact found
  · rename_i existing entry
    split
    · exact found
    · rename_i unlocked
      split
      · exact found
      · rename_i gone
        rw [Dict.get?_erase, if_neg]
        · exact found
        · rintro rfl
          rw [found] at entry
          cases entry
          exact used ⟨found, by simpa using unlocked, by simpa using gone⟩

/-- Looking up a lock finds the entry of the table, or adds a lock made for the server. -/
theorem fetch_cases (s : State) (serverName : String) :
    (∃ lock held, s.recoveryLocks.get? serverName = some lock ∧
      s.fetchRecoveryLock serverName = ((lock, held), s)) ∨
    (∃ held, s.recoveryLocks.get? serverName = none ∧
      s.fetchRecoveryLock serverName =
        ((s.lockServers.length, held),
          { s with
            recoveryLocks := s.recoveryLocks.set serverName s.lockServers.length
            lockServers := s.lockServers ++ [serverName] })) := by
  unfold State.fetchRecoveryLock
  split
  · rename_i lock found
    exact .inl ⟨lock, _, found, rfl⟩
  · rename_i missing
    exact .inr ⟨_, missing, rfl⟩

theorem made_append {made : List String} {lock : LockId} {server serverName : String}
    (found : made[lock]? = some server) : (made ++ [serverName])[lock]? = some server := by
  rw [List.getElem?_append_left (List.getElem?_eq_some_iff.mp found).1]
  exact found

namespace LocksMade

variable {v : Watched world Trace} {task : TaskId}

/-- Entries may leave the table, and one trace looks up nothing new. -/
theorem retrace (made : LocksMade v) {g : Trace} {waits : TaskId → Option Wait} {state : State}
    (table : ∀ serverName lock, state.recoveryLocks.get? serverName = some lock →
      v.state.recoveryLocks.get? serverName = some lock)
    (same : state.lockServers = v.state.lockServers)
    (held : ∀ hold, g.recovery = some hold → ∃ before, (v.traces task).recovery = some before ∧
      before.server = hold.server ∧ before.lock = hold.lock) :
    LocksMade ⟨assign v.traces task g, waits, state⟩ where
  table serverName lock found := by
    simp only [same]
    exact made.table serverName lock (table serverName lock found)
  used other hold now := by
    simp only [same]
    by_cases self : other = task
    · subst self
      simp only [assign_self] at now
      obtain ⟨before, found, server, lock⟩ := held hold now
      rw [← server, ← lock]
      exact made.used other before found
    · simp only [assign_of_ne _ self] at now
      exact made.used other hold now

theorem fetched (made : LocksMade v) {serverName : String} :
    LocksMade ⟨assign v.traces task
      ((Act.fetchRecoveryLock serverName).after (v.state.fetchRecoveryLock serverName).1
        (v.traces task)), v.waits, (v.state.fetchRecoveryLock serverName).2⟩ := by
  obtain ⟨lock, held, found, same⟩ | ⟨held, missing, same⟩ := fetch_cases v.state serverName
  · rw [same]
    refine ⟨made.table, fun other hold now => ?_⟩
    by_cases self : other = task
    · subst self
      simp only [assign_self] at now
      cases now
      exact made.table serverName lock found
    · simp only [assign_of_ne _ self] at now
      exact made.used other hold now
  · rw [same]
    refine ⟨fun name id now => ?_, fun other hold now => ?_⟩
    · simp only [Dict.get?_set] at now
      split at now
      · rename_i this
        cases now
        simp [this]
      · exact made_append (made.table name id now)
    · by_cases self : other = task
      · subst self
        simp only [assign_self] at now
        cases now
        simp
      · simp only [assign_of_ne _ self] at now
        exact made_append (made.used other hold now)

end LocksMade

theorem locksMade_keeps (ok : Guard world) (given : Watched world Trace → Prop) :
    KeepsActs ok given LocksMade where
  admitted v task request state _ made _ _ _ accepted := by
    obtain ⟨_, _, _, _, rfl⟩ := State.accept_frame accepted
    refine made.retrace (fun _ _ found => found) rfl fun hold held => ?_
    exact nomatch (request.begin_recovery.symm.trans held)
  executed v task a _ made _ _ _ _ := by
    cases kept : a.writesRecoveryLocks with
    | false =>
        have unwritten := State.exec_unwritten task a v.state
        refine made.retrace (fun serverName lock found => ?_) (unwritten.lockServers kept)
          fun hold held => ⟨hold, recovery_after kept _ held, rfl, rfl⟩
        rwa [unwritten.recoveryLocks kept] at found
    | true =>
        cases a with
        | fetchRecoveryLock serverName => exact made.fetched
        | resetForDisconnect =>
            exact made.retrace (fun _ _ found => nomatch found) rfl
              fun hold held => ⟨hold, held, rfl, rfl⟩
        | pruneRecoveryLock serverName =>
            exact made.retrace (fun _ _ => prune_entry v.state) (prune_made v.state)
              fun hold held => ⟨hold, held, rfl, rfl⟩
        | _ => cases kept
  waited v task w r _ _ _ _ made _ :=
    made.retrace (fun _ _ found => found) rfl fun hold held => recovery_woken w r held
  finished v task _ made _ :=
    made.retrace (fun _ _ found => found) rfl fun hold held => nomatch held
  suspended v _ _ made := ⟨made.table, made.used⟩

theorem locksMade_initial (config : Option TelaConfig) (notifyCallback : Bool) :
    LocksMade ⟨fun _ => discipline.idle, fun _ => none, State.launch config notifyCallback⟩ where
  table _ _ found := nomatch found
  used _ _ held := nomatch held

namespace LockTableFits

variable {v : Watched world Trace} {task : TaskId}

/-- The table is the same and one trace looks up nothing new. -/
theorem retrace (fits : LockTableFits v) {g : Trace} {waits : TaskId → Option Wait}
    {state : State} (table : state.recoveryLocks = v.state.recoveryLocks)
    (held : ∀ hold, g.recovery = some hold → ∃ before, (v.traces task).recovery = some before ∧
      before.server = hold.server ∧ before.lock = hold.lock) :
    LockTableFits ⟨assign v.traces task g, waits, state⟩ := by
  intro other hold now
  simp only [table]
  by_cases same : other = task
  · subst same
    simp only [assign_self] at now
    obtain ⟨before, found, server, lock⟩ := held hold now
    rw [← server, ← lock]
    exact fits other before found
  · simp only [assign_of_ne _ same] at now
    exact fits other hold now

theorem fetched (fits : LockTableFits v) {serverName : String} :
    LockTableFits ⟨assign v.traces task
      ((Act.fetchRecoveryLock serverName).after (v.state.fetchRecoveryLock serverName).1
        (v.traces task)), v.waits, (v.state.fetchRecoveryLock serverName).2⟩ := by
  intro other hold now
  obtain ⟨lock, held, found, same⟩ | ⟨held, missing, same⟩ := fetch_cases v.state serverName
  · rw [same] at now ⊢
    by_cases self : other = task
    · subst self
      simp only [assign_self] at now
      cases now
      exact found
    · simp only [assign_of_ne _ self] at now
      exact fits other hold now
  · rw [same] at now ⊢
    simp only [Dict.get?_set]
    by_cases self : other = task
    · subst self
      simp only [assign_self] at now
      cases now
      exact if_pos rfl
    · simp only [assign_of_ne _ self] at now
      have tabled := fits other hold now
      rw [if_neg, tabled]
      intro this
      rw [this, missing] at tabled
      cases tabled

/-- Entries whose lock nobody uses leave the table. -/
theorem discarded (fits : LockTableFits v) (fit : LocksFit v)
    (stable : ∀ other, other ≠ task → discipline.Stable v other)
    (own : (v.traces task).recovery = none) {state : State}
    (kept : ∀ serverName lock, v.state.recoveryLocks.get? serverName = some lock →
      ¬ (v.state.locks (.recovery lock)).Idle →
      state.recoveryLocks.get? serverName = some lock) :
    LockTableFits ⟨assign v.traces task (v.traces task), v.waits, state⟩ := by
  intro other hold held
  simp only [assign_eq_self] at held
  have different : other ≠ task := by
    rintro rfl
    rw [own] at held
    cases held
  exact kept _ _ (fits other hold held) (not_idle_of_recovery fit (stable other different) held)

theorem singleFlight (fits : LockTableFits v) (made : LocksMade v) (fit : LocksFit v) :
    v.state.SingleFlight := by
  have known {serverName : String} {client : TaskId} (recovers : v.state.Recovers serverName client) :
      ∃ lock, v.state.recoveryLocks.get? serverName = some lock ∧
        (v.state.locks (.recovery lock)).holder = some client := by
    obtain ⟨lock, forServer, holder⟩ := recovers
    obtain ⟨server, held⟩ := (fit.holder _ _).mp holder
    have same := made.used _ _ held
    rw [forServer] at same
    cases same
    exact ⟨lock, fits _ _ held, holder⟩
  intro serverName task other first second
  obtain ⟨lock, found, holder⟩ := known first
  obtain ⟨lock', found', holder'⟩ := known second
  rw [found] at found'
  cases found'
  rw [holder] at holder'
  exact Option.some.inj holder'

end LockTableFits

theorem lockTableFits_keeps :
    KeepsActs DiscardsIdleLocks (fun v => True ∧ LocksFit v) LockTableFits where
  admitted v task request state _ fits _ _ _ accepted := by
    obtain ⟨_, _, _, _, rfl⟩ := State.accept_frame accepted
    refine fits.retrace rfl fun hold held => ?_
    exact nomatch (request.begin_recovery.symm.trans held)
  executed v task a given fits stable _ met may := by
    cases kept : a.writesRecoveryLocks with
    | false =>
        have unwritten := State.exec_unwritten task a v.state
        exact fits.retrace (unwritten.recoveryLocks kept)
          fun hold held => ⟨hold, recovery_after kept _ held, rfl, rfl⟩
    | true =>
        cases a with
        | fetchRecoveryLock serverName => exact fits.fetched
        | resetForDisconnect =>
            exact fits.discarded given.2 stable may.2
              fun serverName lock found used => absurd (met lock ⟨serverName, found⟩) used
        | pruneRecoveryLock serverName =>
            exact fits.discarded given.2 stable may.2 fun name lock found used =>
              prune_kept v.state found fun discards => used (met lock discards)
        | _ => cases kept
  waited v task w r _ _ _ _ fits _ := fits.retrace rfl fun hold held => recovery_woken w r held
  finished v task _ fits _ := fits.retrace rfl fun hold held => nomatch held
  suspended v _ _ fits := fits

theorem lockTableFits_initial (config : Option TelaConfig) (notifyCallback : Bool) :
    LockTableFits
      ⟨fun _ => discipline.idle, fun _ => none, State.launch config notifyCallback⟩ :=
  fun _ _ held => nomatch held

/-- While only idle locks leave the lock table, each server has one recovery at a time. -/
theorem single_flight {config : Option TelaConfig} {notifyCallback : Bool} {c : Config world}
    (run : Run (State.launch config notifyCallback) DiscardsIdleLocks c) :
    c.state.SingleFlight := by
  have keeps := ((locksFit_keeps DiscardsIdleLocks).and lockTableFits_keeps.keeps).and
    (locksMade_keeps DiscardsIdleLocks _).keeps
  obtain ⟨v, tracks, ⟨fit, fits⟩, made⟩ := keeps.reached
    ⟨⟨locksFit_initial fun _ => rfl, lockTableFits_initial config notifyCallback⟩,
      locksMade_initial config notifyCallback⟩ run
  rw [← tracks.state]
  exact fits.singleFlight made fit

/-! ## Runs with two callers -/

def filesServer : ServerConfig where
  name := "files"
  command := some "files-server"
  prefixValid := noPrefix_accepted
  nestedPrefixed := unnested_prefixed

def filesConfig : TelaConfig := { servers := .ofList [("files", filesServer)] }

def readTool : RawTool := { name := "read" }

/-- A server that answers every request, and lists these tools. -/
def answering (rawTools : List RawTool) : (w : Wait) → Except PyException w.Res
  | .acquire _ => .ok ()
  | .connectTransport _ => .ok ()
  | .handshake _ => .ok none
  | .listTools _ => .ok rawTools
  | .callTool _ _ _ => .ok .null
  | .aclose => .ok ()
  | .gather _ => .ok ()
  | .notify _ => .ok ()
  | .auditWrite => .ok ()

/-- `connect_all` starts the server and publishes its tools. -/
def startFiles : List (Choice world) :=
  [.request (.connectAll filesConfig.servers none), .request (.connectServer 0 0),
    .answer 1 (answering [readTool]),
    .answer 1 (answering [readTool]),
    .answer 1 (answering [readTool]),
    .answer 0 (answering [])]

/-- No block that takes entries out of the lock table. -/
def keepsLockTable : Check world
  | _, .executed _ .resetForDisconnect => false
  | _, .executed _ (.pruneRecoveryLock _) => false
  | _, _ => true

theorem keepsLockTable_sound : Run.Sound keepsLockTable DiscardsIdleLocks := by
  intro state waits event checked
  cases event with
  | executed task a =>
      intro lock discards
      cases a with
      | resetForDisconnect => cases checked
      | pruneRecoveryLock serverName => cases checked
      | _ => cases discards
  | _ => trivial

/-- The second caller of a server without a client waits for the recovery of the first. -/
theorem single_flight_two_callers :
    ∃ c : Config world, Run (State.launch (some filesConfig) false) DiscardsIdleLocks c ∧
      (c.state.locks (.recovery 0)) = ⟨some 0, [1]⟩ ∧ c.state.SingleFlight := by
  obtain ⟨c, run, contended⟩ := Run.exists_of_play keepsLockTable_sound
    (State.launch (some filesConfig) false) 40
    [.request (.callTool "files" "read" ∅), .request (.callTool "files" "read" ∅)]
    (fun c => decide (c.state.locks (.recovery 0) = ⟨some 0, [1]⟩)) (by decide +kernel)
  exact ⟨c, run, of_decide_eq_true contended, single_flight run⟩

/-- After `disconnect_all` a second caller recovers the server beside the first one. -/
theorem single_flight_violated :
    ∃ c : Config world, Reachable (State.launch (some filesConfig) false) c ∧
      ¬ c.state.SingleFlight := by
  obtain ⟨c, run, both⟩ := Run.exists_of_play (Run.sound_anything (W := world))
    (State.launch (some filesConfig) false) 40
    [.request (.callTool "files" "read" ∅), .request .disconnectAll,
      .request (.callTool "files" "read" ∅)]
    (fun c => decide (c.state.lockServers = ["files", "files"] ∧
      (c.state.locks (.recovery 0)).holder = some 0 ∧
      (c.state.locks (.recovery 1)).holder = some 2)) (by decide +kernel)
  obtain ⟨made, first, second⟩ := of_decide_eq_true both
  refine ⟨c, run, fun single => ?_⟩
  have same : (0 : TaskId) = 2 :=
    single "files" 0 2 ⟨0, by rw [made]; rfl, first⟩ ⟨1, by rw [made]; rfl, second⟩
  cases same

end Tela
