import Tela.Properties.RegistryUniqueness
import Tela.Properties.Tasks

/-!
# Fresh handles after a recovery

A handle is fresh for a task when it was opened after the attempt of that task
failed. The leader of a recovery installs a fresh handle; what `connect_all`
installs meanwhile is fresh too. A waiter trusts whatever handle it finds.
-/

namespace Tela

open Coop

/-- The installed handle of the server was opened after the task's attempt failed. -/
def State.Fresh (s : State) (task : TaskId) (serverName : String) : Prop :=
  ∃ handle, s.clients.get? serverName = some handle ∧ s.history.attemptAt task ≤ handle.serial

/-! ## The condition on steps -/

/-- A waiter finds no handle and entry in place whose handle is older than its attempt. -/
def WaitersFindFresh : Guard world
  | s, _, .executed task (.readClientAndTools serverName) =>
      ∀ handle, s.clients.get? serverName = some handle →
        (s.registry.getAllTools.get? serverName).isSome = true →
        s.history.attemptAt task ≤ handle.serial
  | _, _, _ => True

/-- Nobody has taken the client of the server away when its recovery returns. -/
def ReturnsInstalled : Guard world
  | s, _, .executed _ (.recovered serverName) => s.clients.contains serverName = true
  | _, _, _ => True

/-- A swap puts in no handle older than the attempt of another recovery of the server. -/
def SwapsYoungest : Guard world
  | s, _, .executed task (.swapClient serverName handle) =>
      ∀ other, other ≠ task → s.Recovers serverName other →
        s.history.attemptAt other ≤ handle.serial
  | _, _, _ => True

/-- The conditions under which recoveries return fresh handles. -/
def RecoversFresh : Guard world := fun s waits event =>
  WaitersFindFresh s waits event ∧ SwapsYoungest s waits event ∧ ReturnsInstalled s waits event

/-! ## The invariant -/

/-- The handles that tasks and coroutines carry are as young as they should be. -/
structure HandlesFit (v : Watched world Trace) : Prop where
  attempts : ∀ task, v.state.history.attemptAt task ≤ v.state.nextSerial
  spawned : ∀ batch, (v.state.batches batch).spawnedAt ≤ v.state.nextSerial
  worked : ∀ task batch index handle, (v.traces task).role = .worker batch index →
    (v.traces task).opened = some handle → (v.state.batches batch).spawnedAt ≤ handle.serial
  reported : ∀ (batch : BatchId) (index : Nat) (job : Job) startup handle,
    (v.state.batches batch).jobs[index]? = some job → job.outcome = some (.ok (.ok startup)) →
    startup.clientHandle = some handle → (v.state.batches batch).spawnedAt ≤ handle.serial
  opened : ∀ task handle, (v.traces task).opened = some handle →
    v.state.history.attemptAt task ≤ handle.serial

/-- A handle with this serial is fresh for every recovery that has swapped. -/
def Covered (v : Watched world Trace) (serial : Nat) : Prop :=
  ∀ task server, (v.traces task).swapped = some server →
    v.state.history.attemptAt task ≤ serial

/-- What a task with a cleared registry may publish is fresh for these recoveries. -/
def Trace.Publishes (v : Watched world Trace) (g : Trace) : Prop :=
  g.cleared = true →
    (∀ batch, g.batch = some batch → Covered v (v.state.batches batch).spawnedAt) ∧
      ∀ results startup handle, g.results = some results → .ok startup ∈ results →
        startup.clientHandle = some handle → Covered v handle.serial

/-- The task finds a fresh handle where it has swapped one in or found one. -/
structure Trace.Finds (s : State) (task : TaskId) (g : Trace) : Prop where
  swapped : ∀ server handle, g.swapped = some server → s.clients.get? server = some handle →
    s.history.attemptAt task ≤ handle.serial
  shortcut : ∀ server handle, g.shortcut = some (server, handle) →
    s.clients.get? server = some handle ∧ s.history.attemptAt task ≤ handle.serial

/-- What is or may be installed is fresh for every recovery that has swapped. -/
structure SwapsFit (v : Watched world Trace) : Prop where
  publishes : ∀ task, (v.traces task).Publishes v
  finds : ∀ task, (v.traces task).Finds v.state task

/-! ## What blocks do to the carried handles -/

theorem worker_after {a : Act} {v : a.Val} {g : Trace} {batch : BatchId} {index : Nat}
    (now : (a.after v g).role = .worker batch index) : g.role = .worker batch index := by
  obtain same | plain := Act.after_role a v g
  · exact same.symm.trans now
  · rw [plain] at now
    cases now

theorem opened_after {a : Act} (kept : a.writesAttempts = false) (v : a.Val) (g : Trace) :
    (a.after v g).opened = g.opened := by
  cases a with
  | release lock => cases lock <;> rfl
  | getRuntimeConfig =>
      change Trace.opened (if g.role = .reload then { g with config := some v } else g) = _
      split <;> rfl
  | _ => first | rfl | cases kept

/-- The blocks by which `connect_all` collects what it will publish. -/
def Act.collects : Act → Bool
  | resetForConnect _ => true
  | spawn _ => true
  | jobResults _ => true
  | _ => false

theorem collected_after {a : Act} (kept : a.collects = false) (v : a.Val) (g : Trace) :
    ((a.after v g).cleared = true → g.cleared = true) ∧ (a.after v g).batch = g.batch ∧
      (a.after v g).results = g.results := by
  cases a with
  | release lock =>
      cases lock with
      | registry => exact ⟨nofun, rfl, rfl⟩
      | recovery id => exact ⟨fun same => same, rfl, rfl⟩
  | getRuntimeConfig =>
      change (Trace.cleared (if g.role = .reload then { g with config := some v } else g) = true →
          _) ∧
        Trace.batch (if g.role = .reload then { g with config := some v } else g) = _ ∧
        Trace.results (if g.role = .reload then { g with config := some v } else g) = _
      split <;> exact ⟨fun same => same, rfl, rfl⟩
  | publish servers connected allResolved failures => exact ⟨nofun, rfl, rfl⟩
  | _ => first | exact ⟨fun same => same, rfl, rfl⟩ | cases kept

/-- The blocks by which a recovery finds, installs and returns a client. -/
def Act.finds : Act → Bool
  | readClientAndTools _ => true
  | swapClient _ _ => true
  | recovered _ => true
  | _ => false

theorem found_after {a : Act} (kept : a.finds = false) (v : a.Val) (g : Trace) :
    (a.after v g).swapped = g.swapped ∧ (a.after v g).shortcut = g.shortcut := by
  cases a with
  | release lock => cases lock <;> exact ⟨rfl, rfl⟩
  | getRuntimeConfig =>
      change Trace.swapped (if g.role = .reload then { g with config := some v } else g) = _ ∧
        Trace.shortcut (if g.role = .reload then { g with config := some v } else g) = _
      split <;> exact ⟨rfl, rfl⟩
  | _ => first | exact ⟨rfl, rfl⟩ | cases kept

/-- An await leaves the carried handles alone. -/
structure Trace.SameHandles (g g' : Trace) : Prop where
  role : g'.role = g.role
  cleared : g'.cleared = g.cleared
  shortcut : g'.shortcut = g.shortcut
  swapped : g'.swapped = g.swapped
  batch : g'.batch = g.batch
  results : g'.results = g.results
  opened : g'.opened = g.opened

theorem sameHandles_woken (w : Wait) (r : Option w.Res) (g : Trace) :
    g.SameHandles (w.woken r g) := by
  unfold Wait.woken
  split <;> exact ⟨rfl, rfl, rfl, rfl, rfl, rfl, rfl⟩

/-! ## Handles that tasks carry -/

namespace HandlesFit

variable {v : Watched world Trace} {task : TaskId}

/-- The carried handles stay. -/
theorem retrace (fit : HandlesFit v) {g : Trace} {waits : TaskId → Option Wait} {state : State}
    (role : ∀ batch index, g.role = .worker batch index →
      (v.traces task).role = .worker batch index)
    (kept : g.opened = (v.traces task).opened) (batches : state.batches = v.state.batches)
    (attemptAt : state.history.attemptAt = v.state.history.attemptAt)
    (next : state.nextSerial = v.state.nextSerial) :
    HandlesFit ⟨assign v.traces task g, waits, state⟩ where
  attempts := by
    simp only [attemptAt, next]
    exact fit.attempts
  spawned := by
    simp only [batches, next]
    exact fit.spawned
  worked other batch index handle works opened := by
    simp only [batches]
    by_cases same : other = task
    · subst same
      simp only [assign_self, kept] at works opened
      exact fit.worked other batch index handle (role batch index works) opened
    · simp only [assign_of_ne _ same] at works opened
      exact fit.worked other batch index handle works opened
  reported := by
    simp only [batches]
    exact fit.reported
  opened other handle opened := by
    simp only [attemptAt]
    by_cases same : other = task
    · subst same
      simp only [assign_self, kept] at opened
      exact fit.opened other handle opened
    · simp only [assign_of_ne _ same] at opened
      exact fit.opened other handle opened

/-- A task starts, ends or forgets the handle it opened. -/
theorem forgot (fit : HandlesFit v) {g : Trace} {waits : TaskId → Option Wait} {state : State}
    (opened : g.opened = none) (batches : state.batches = v.state.batches)
    (attemptAt : ∀ other, other ≠ task →
      state.history.attemptAt other = v.state.history.attemptAt other)
    (bound : state.history.attemptAt task ≤ v.state.nextSerial)
    (next : state.nextSerial = v.state.nextSerial) :
    HandlesFit ⟨assign v.traces task g, waits, state⟩ where
  attempts other := by
    simp only [next]
    by_cases same : other = task
    · subst same
      exact bound
    · rw [attemptAt other same]
      exact fit.attempts other
  spawned := by
    simp only [batches, next]
    exact fit.spawned
  worked other batch index handle role found := by
    simp only [batches]
    by_cases same : other = task
    · subst same
      simp only [assign_self, opened] at found
      cases found
    · simp only [assign_of_ne _ same] at role found
      exact fit.worked other batch index handle role found
  reported := by
    simp only [batches]
    exact fit.reported
  opened other handle found := by
    by_cases same : other = task
    · subst same
      simp only [assign_self, opened] at found
      cases found
    · simp only [assign_of_ne _ same] at found
      rw [attemptAt other same]
      exact fit.opened other handle found

/-- A new handle is younger than everything before it. -/
theorem newHandle (fit : HandlesFit v) {g : Trace} {session : SessionId}
    {instructions : Option String}
    (opened : g.opened = some (v.state.newHandle session instructions).1) :
    HandlesFit ⟨assign v.traces task g, v.waits, (v.state.newHandle session instructions).2⟩ where
  attempts other := Nat.le_succ_of_le (fit.attempts other)
  spawned batch := Nat.le_succ_of_le (fit.spawned batch)
  worked other batch index handle role found := by
    by_cases same : other = task
    · subst same
      simp only [assign_self, opened] at found
      cases found
      exact fit.spawned batch
    · simp only [assign_of_ne _ same] at role found
      exact fit.worked other batch index handle role found
  reported := fit.reported
  opened other handle found := by
    by_cases same : other = task
    · subst same
      simp only [assign_self, opened] at found
      cases found
      exact fit.attempts other
    · simp only [assign_of_ne _ same] at found
      exact fit.opened other handle found

/-- A new batch starts now. -/
theorem spawn (fit : HandlesFit v) (workers : WorkersFit v) {g : Trace}
    {servers : Dict String ServerConfig} (role : g.role = (v.traces task).role)
    (opened : g.opened = (v.traces task).opened) :
    HandlesFit ⟨assign v.traces task g, v.waits, (v.state.spawn servers).2⟩ := by
  have old {other : TaskId} {batch : BatchId} {index : Nat}
      (works : (v.traces other).role = .worker batch index) : batch ≠ v.state.nextBatch := by
    obtain ⟨job, found, -⟩ := workers.found other batch index works
    exact Nat.ne_of_lt (workers.bound batch index job found)
  have before : ∀ other batch index handle, (v.traces other).role = .worker batch index →
      (v.traces other).opened = some handle →
      ((v.state.spawn servers).2.batches batch).spawnedAt ≤ handle.serial := by
    intro other batch index handle works found
    simp only [State.spawn, assign_of_ne _ (old works)]
    exact fit.worked other batch index handle works found
  refine ⟨fit.attempts, fun batch => ?_, fun other batch index handle works found => ?_,
    fun batch index job startup handle found outcome installed => ?_, fun other handle found => ?_⟩
  · simp only [State.spawn]
    by_cases same : batch = v.state.nextBatch
    · subst same
      simp
    · simp only [assign_of_ne _ same]
      exact fit.spawned batch
  · by_cases same : other = task
    · subst same
      simp only [assign_self, role, opened] at works found
      exact before other batch index handle works found
    · simp only [assign_of_ne _ same] at works found
      exact before other batch index handle works found
  · simp only [State.spawn] at found ⊢
    by_cases same : batch = v.state.nextBatch
    · subst same
      simp only [assign_self, List.getElem?_map] at found
      obtain ⟨entry, -, rfl⟩ := Option.map_eq_some_iff.mp found
      cases outcome
    · simp only [assign_of_ne _ same] at found ⊢
      exact fit.reported batch index job startup handle found outcome installed
  · by_cases same : other = task
    · subst same
      simp only [assign_self, opened] at found
      exact fit.opened other handle found
    · simp only [assign_of_ne _ same] at found
      exact fit.opened other handle found

/-- A coroutine reports the handle that it opened itself. -/
theorem report (fit : HandlesFit v) {g : Trace} {batch : BatchId} {index : Nat}
    {outcome : Except PyException (Except String ConnectedServerData)}
    (role : ∀ batch index, g.role = .worker batch index →
      (v.traces task).role = .worker batch index)
    (kept : g.opened = (v.traces task).opened)
    (works : (v.traces task).role = .worker batch index)
    (reportable : (v.traces task).Reportable outcome) :
    HandlesFit ⟨assign v.traces task g, v.waits, v.state.report batch index outcome⟩ := by
  have start (other : BatchId) : ((v.state.report batch index outcome).batches other).spawnedAt =
      (v.state.batches other).spawnedAt := by
    simp only [State.report]
    by_cases same : other = batch
    · subst same
      simp
    · rw [assign_of_ne _ same]
  have fits : HandlesFit ⟨assign v.traces task g, v.waits, v.state⟩ :=
    fit.retrace role kept rfl rfl rfl
  refine ⟨fit.attempts, fun other => ?_, fun client other place handle role found => ?_,
    fun other place job startup handle found ended installed => ?_, fits.opened⟩
  · rw [start]
    exact fit.spawned other
  · rw [start]
    exact fits.worked client other place handle role found
  · rw [start]
    obtain ⟨before, was, rfl⟩ := WorkersFit.modified found
    by_cases here : other = batch ∧ place = index
    · obtain ⟨rfl, rfl⟩ := here
      simp only [and_self, if_true] at ended
      obtain rfl := Option.some.inj ended
      obtain ⟨-, own⟩ := reportable startup rfl
      exact fit.worked task other place handle works (own.symm.trans installed)
    · simp only [if_neg here] at ended
      exact fit.reported other place before startup handle was ended installed

end HandlesFit

/-- A coroutine that starts changes nothing of when its batch started. -/
theorem spawnedAt_accept {s s' : State} {task : TaskId} {request : Req}
    (accepted : State.accept task request s = some s') (batch : BatchId) :
    (s'.batches batch).spawnedAt = (s.batches batch).spawnedAt := by
  cases request with
  | connectServer other index =>
      simp only [State.accept] at accepted
      split at accepted
      · obtain ⟨-, same⟩ := Option.ite_none_right_eq_some.mp accepted
        cases same
        by_cases here : batch = other
        · subst here
          simp
        · simp only [assign_of_ne _ here]
      · cases accepted
  | deliver session message =>
      obtain ⟨-, same⟩ := Option.ite_none_right_eq_some.mp accepted
      cases same
      rfl
  | _ =>
      cases accepted
      rfl

theorem handlesFit_keeps (ok : Guard world) :
    KeepsActs ok (fun v => True ∧ TasksFit v) HandlesFit where
  admitted v task request state _ fit _ _ _ accepted := by
    have opened : request.begin.opened = none := by cases request <;> rfl
    have start := spawnedAt_accept accepted
    cases request with
    | connectServer batch index =>
        simp only [State.accept] at accepted
        split at accepted
        · obtain ⟨-, same⟩ := Option.ite_none_right_eq_some.mp accepted
          cases same
          have fits : HandlesFit ⟨assign v.traces task (Req.connectServer batch index).begin,
              v.waits, v.state⟩ :=
            fit.forgot opened rfl (fun _ _ => rfl) (fit.attempts task) rfl
          refine ⟨fits.attempts, fun other => ?_, fun client other place handle role found => ?_,
            fun other place job startup handle found ended installed => ?_, fits.opened⟩
          · rw [start]
            exact fits.spawned other
          · rw [start]
            exact fits.worked client other place handle role found
          · rw [start]
            obtain ⟨before, was, rfl⟩ := WorkersFit.modified found
            refine fit.reported other place before startup handle was ?_ installed
            split at ended <;> exact ended
        · cases accepted
    | deliver session message =>
        obtain ⟨-, same⟩ := Option.ite_none_right_eq_some.mp accepted
        cases same
        exact fit.forgot opened rfl (fun _ _ => rfl) (fit.attempts task) rfl
    | _ =>
        cases accepted
        exact fit.forgot opened rfl (fun _ _ => rfl) (fit.attempts task) rfl
  executed v task a given fit _ _ _ may := by
    have unwritten := State.exec_unwritten task a v.state
    cases a with
    | newHandle session instructions => exact fit.newHandle rfl
    | spawn servers => exact fit.spawn given.2.workers rfl rfl
    | report batch index outcome =>
        exact fit.report (fun _ _ => worker_after) rfl may.1 may.2
    | attemptFailed =>
        refine fit.forgot rfl rfl (fun other different => ?_) ?_ rfl
        · exact assign_of_ne _ different _
        · exact Nat.le_of_eq (assign_self _ _ _)
    | _ =>
        exact fit.retrace (fun _ _ => worker_after) (opened_after rfl _ _)
          (unwritten.batches rfl) (unwritten.attemptAt rfl) (unwritten.nextSerial rfl)
  waited v task w r _ _ _ _ fit _ := by
    have same := sameHandles_woken w r (v.traces task)
    exact fit.retrace (fun _ _ works => same.role ▸ works) same.opened rfl rfl rfl
  finished v task _ fit _ := fit.forgot rfl rfl (fun _ _ => rfl) (fit.attempts task) rfl
  suspended v _ _ fit := ⟨fit.attempts, fit.spawned, fit.worked, fit.reported, fit.opened⟩

theorem handlesFit_initial (config : Option TelaConfig) (notifyCallback : Bool) :
    HandlesFit ⟨fun _ => discipline.idle, fun _ => none, State.launch config notifyCallback⟩ where
  attempts _ := Nat.le_refl 0
  spawned _ := Nat.le_refl 0
  worked _ _ _ _ _ opened := nomatch opened
  reported _ _ _ _ _ found := nomatch found
  opened _ _ opened := nomatch opened

/-! ## Handles that are or may be installed -/

/-- Publishing installs only handles of the started servers. -/
theorem clients_publish {s : State} {servers : Dict String ServerConfig}
    {connected : Dict String ConnectedServerData}
    {allResolved : Dict String (List ResolvedTool)}
    {failures : Dict String ProviderStartupFailure} {server : String} {handle : ClientHandle}
    (found : (s.publish servers connected allResolved failures).clients.get? server =
      some handle) :
    s.clients.get? server = some handle ∨ ∃ startup, connected.get? server = some startup ∧
      startup.clientHandle = some handle := by
  have loop : ∀ (entries : List (String × ConnectedServerData)) (s : State),
      (entries.foldl (State.publishServer servers allResolved) s).clients.get? server =
        some handle → s.clients.get? server = some handle ∨
          ∃ startup, (server, startup) ∈ entries ∧ startup.clientHandle = some handle := by
    intro entries
    induction entries with
    | nil => exact fun s found => .inl found
    | cons entry rest ih =>
        intro s found
        obtain earlier | ⟨startup, member, installed⟩ := ih _ found
        · obtain ⟨serverName, startup⟩ := entry
          unfold State.publishServer at earlier
          cases installed : startup.clientHandle with
          | none =>
              simp only [installed] at earlier
              exact .inl earlier
          | some opened =>
              simp only [installed, Dict.get?_set] at earlier
              split at earlier
              · rename_i same
                subst same
                refine .inr ⟨startup, List.mem_cons_self .., ?_⟩
                rw [installed, earlier]
              · exact .inl earlier
        · exact .inr ⟨startup, List.mem_cons_of_mem _ member, installed⟩
  obtain earlier | ⟨startup, member, installed⟩ := loop connected.entries s found
  · exact .inl earlier
  · exact .inr ⟨startup, Dict.get?_eq_some_iff.mpr member, installed⟩

/-- The results of a finished `gather` are outcomes of its coroutines. -/
theorem job_of_jobResults {s : State} {batch : BatchId} {startup : ConnectedServerData}
    (listed : .ok startup ∈ s.jobResults batch) :
    ∃ (index : Nat) (job : Job), (s.batches batch).jobs[index]? = some job ∧
      job.outcome = some (.ok (.ok startup)) := by
  obtain ⟨job, member, outcome⟩ := List.mem_filterMap.mp listed
  obtain ⟨index, found⟩ := List.mem_iff_getElem?.mp member
  refine ⟨index, job, found, ?_⟩
  split at outcome
  · rename_i result ended
    rw [ended, Option.some.inj outcome]
  · cases outcome

theorem Covered.mono {v v' : Watched world Trace} {serial later : Nat} (covered : Covered v serial)
    (kept : ∀ task server, (v'.traces task).swapped = some server →
      (v.traces task).swapped = some server ∧
        v'.state.history.attemptAt task = v.state.history.attemptAt task)
    (above : serial ≤ later) : Covered v' later := by
  intro task server swapped
  obtain ⟨before, attempt⟩ := kept task server swapped
  rw [attempt]
  exact Nat.le_trans (covered task server before) above

/-- What a task may publish stays fresh while no further recovery swaps. -/
theorem Trace.Publishes.mono {v v' : Watched world Trace} {g g' : Trace}
    (publishes : g.Publishes v)
    (kept : ∀ task server, (v'.traces task).swapped = some server →
      (v.traces task).swapped = some server ∧
        v'.state.history.attemptAt task = v.state.history.attemptAt task)
    (cleared : g'.cleared = true → g.cleared = true) (batch : g'.batch = g.batch)
    (results : g'.results = g.results)
    (spawnedAt : ∀ other, g'.batch = some other →
      (v'.state.batches other).spawnedAt = (v.state.batches other).spawnedAt) :
    g'.Publishes v' := by
  intro now
  obtain ⟨fromBatch, fromResults⟩ := publishes (cleared now)
  refine ⟨fun other found => ?_, fun listed startup handle found member installed => ?_⟩
  · rw [spawnedAt other found]
    rw [batch] at found
    exact (fromBatch other found).mono kept (Nat.le_refl _)
  · rw [results] at found
    exact (fromResults listed startup handle found member installed).mono kept (Nat.le_refl _)

/-- No block but `spawn` changes when a batch started. -/
theorem spawnedAt_exec {s : State} {task : TaskId} {a : Act} {batch : BatchId}
    (old : batch ≠ s.nextBatch ∨ ∀ servers, a ≠ .spawn servers) :
    ((State.exec task a s).2.batches batch).spawnedAt = (s.batches batch).spawnedAt := by
  cases writes : a.writesBatches with
  | false => rw [(State.exec_unwritten task a s).batches writes]
  | true =>
      cases a with
      | spawn servers =>
          obtain different | other := old
          · simp only [State.exec, State.spawn, assign_of_ne _ different]
          · exact absurd rfl (other servers)
      | report place index outcome =>
          simp only [State.exec, State.report]
          by_cases same : batch = place
          · subst same
            simp
          · rw [assign_of_ne _ same]
      | _ => cases writes

/-- Whoever has swapped keeps the time of its attempt. -/
theorem attemptAt_exec {s : State} {task other : TaskId} {a : Act}
    (kept : other ≠ task ∨ a ≠ .attemptFailed) :
    (State.exec task a s).2.history.attemptAt other = s.history.attemptAt other := by
  cases writes : a.writesAttempts with
  | false => rw [(State.exec_unwritten task a s).attemptAt writes]
  | true =>
      cases a with
      | newHandle session instructions => rfl
      | attemptFailed =>
          obtain different | other := kept
          · exact assign_of_ne _ different _
          · exact absurd rfl other
      | _ => cases writes

/-- A block leaves no stale handle installed for a recovery that has swapped. -/
theorem installed_exec {v : Watched world Trace} (fit : SwapsFit v) {task other : TaskId}
    {a : Act} {server : String} {handle : ClientHandle}
    (swapped : (v.traces other).swapped = some server) (may : a.may (v.traces task))
    (elsewhere : ∀ swap, a ≠ .swapClient server swap)
    (found : (State.exec task a v.state).2.clients.get? server = some handle) :
    v.state.history.attemptAt other ≤ handle.serial := by
  have before := (fit.finds other).swapped server handle swapped
  cases writes : a.writesClients with
  | false =>
      rw [(State.exec_unwritten task a v.state).clients writes] at found
      exact before found
  | true =>
      cases a with
      | takeClients => cases found
      | publish servers connected allResolved failures =>
          obtain old | ⟨startup, started, installed⟩ := clients_publish found
          · exact before old
          · obtain ⟨-, cleared, -, -, resolved⟩ := may
            obtain ⟨⟨-, origin⟩, -⟩ := resolved server startup started
            obtain ⟨results, collected, member⟩ | ⟨bare, -⟩ := origin
            · exact (fit.publishes task cleared).2 results startup handle collected member
                installed other server swapped
            · rw [bare] at installed
              cases installed
      | dropClient serverName =>
          simp only [State.exec, State.dropClient, Dict.get?_erase] at found
          split at found
          · cases found
          · exact before found
      | swapClient serverName swap =>
          simp only [State.exec, State.swapClient, Dict.get?_set] at found
          split at found
          · rename_i same
            subst same
            exact absurd rfl (elsewhere swap)
          · exact before found
      | _ => cases writes

/-- Nobody else is between a shortcut and its return while a task runs. -/
theorem shortcut_of_stable {v : Watched world Trace} {task : TaskId}
    (stable : discipline.Stable v task) : (v.traces task).shortcut = none := by
  unfold Discipline.Stable at stable
  split at stable
  · rename_i w _
    cases w with
    | acquire lock =>
        cases lock with
        | registry => exact stable.shortcut
        | recovery id => exact stable.2.2.1
    | listTools session => exact stable.1.shortcut
    | gather batch => exact stable.1.shortcut
    | _ => exact stable.shortcut
  · rw [stable]
    rfl

/-- A suspended task that has swapped still holds the recovery lock. -/
theorem recovers_of_stable {v : Watched world Trace} {task : TaskId}
    (stable : discipline.Stable v task) {server : String}
    (swapped : (v.traces task).swapped = some server) :
    ∃ lock, (v.traces task).recovery = some ⟨server, lock, true⟩ := by
  unfold Discipline.Stable at stable
  split at stable
  · rename_i w _
    cases w with
    | acquire lock =>
        cases lock with
        | registry => exact stable.swapped server swapped
        | recovery id => exact nomatch (stable.2.2.2.2.1.symm.trans swapped)
    | listTools session => exact stable.1.swapped server swapped
    | gather batch => exact stable.1.swapped server swapped
    | _ => exact stable.swapped server swapped
  · rw [stable] at swapped
    cases swapped

/-- Only a swap adds to the recoveries that have swapped. -/
theorem swapped_after {a : Act} {v : a.Val} {g : Trace} {server : String}
    (kept : ∀ serverName handle, a ≠ .swapClient serverName handle)
    (now : (a.after v g).swapped = some server) : g.swapped = some server := by
  cases finds : a.finds with
  | false => rwa [(found_after finds v g).1] at now
  | true =>
      cases a with
      | readClientAndTools serverName => exact now
      | swapClient serverName handle => exact absurd rfl (kept serverName handle)
      | recovered serverName => cases now
      | _ => cases finds

theorem SwapsFit.retrace {v : Watched world Trace} {task : TaskId} {g : Trace}
    {waits : TaskId → Option Wait} {state : State}
    (own : g.Publishes ⟨assign v.traces task g, waits, state⟩) (finds : g.Finds state task)
    (others : ∀ other, other ≠ task →
      (v.traces other).Publishes ⟨assign v.traces task g, waits, state⟩ ∧
        (v.traces other).Finds state other) :
    SwapsFit ⟨assign v.traces task g, waits, state⟩ where
  publishes other := by
    by_cases same : other = task
    · subst same
      simpa only [assign_self] using own
    · simpa only [assign_of_ne _ same] using (others other same).1
  finds other := by
    by_cases same : other = task
    · subst same
      simpa only [assign_self] using finds
    · simpa only [assign_of_ne _ same] using (others other same).2

/-- A task that starts, waits or ends neither swaps nor installs anything. -/
theorem SwapsFit.rested {v : Watched world Trace} (fit : SwapsFit v) {task : TaskId} {g : Trace}
    {waits : TaskId → Option Wait} {state : State}
    (same : (v.traces task).SameHandles g ∨ (g.cleared = false ∧ g.swapped = none ∧
      g.shortcut = none))
    (clients : state.clients = v.state.clients)
    (attemptAt : state.history.attemptAt = v.state.history.attemptAt)
    (spawnedAt : ∀ batch, (state.batches batch).spawnedAt = (v.state.batches batch).spawnedAt) :
    SwapsFit ⟨assign v.traces task g, waits, state⟩ := by
  have kept : ∀ other server, (assign v.traces task g other).swapped = some server →
      (v.traces other).swapped = some server ∧
        state.history.attemptAt other = v.state.history.attemptAt other := by
    intro other server swapped
    rw [attemptAt]
    refine ⟨?_, rfl⟩
    by_cases self : other = task
    · subst self
      rw [assign_self] at swapped
      obtain same | ⟨-, none_, -⟩ := same
      · rwa [same.swapped] at swapped
      · rw [none_] at swapped
        cases swapped
    · rwa [assign_of_ne _ self] at swapped
  have finds (other : TaskId) : (v.traces other).Finds state other := by
    refine ⟨fun server handle swapped found => ?_, fun server handle taken => ?_⟩
    · rw [attemptAt]
      rw [clients] at found
      exact (fit.finds other).swapped server handle swapped found
    · rw [attemptAt, clients]
      exact (fit.finds other).shortcut server handle taken
  refine .retrace ?_ ?_ fun other _ => ⟨?_, finds other⟩
  · obtain same | ⟨uncleared, -, -⟩ := same
    · exact (fit.publishes task).mono kept (fun now => same.cleared ▸ now) same.batch same.results
        fun other _ => spawnedAt other
    · intro now
      rw [uncleared] at now
      cases now
  · obtain same | ⟨-, none_, free⟩ := same
    · refine ⟨fun server handle swapped found => ?_, fun server handle taken => ?_⟩
      · exact (finds task).swapped server handle (same.swapped ▸ swapped) found
      · exact (finds task).shortcut server handle (same.shortcut ▸ taken)
    · refine ⟨fun server handle swapped => ?_, fun server handle taken => ?_⟩
      · rw [none_] at swapped
        cases swapped
      · rw [free] at taken
        cases taken
  · exact (fit.publishes other).mono kept (fun now => now) rfl rfl fun other _ => spawnedAt other

section Executed

variable {v : Watched world Trace} {task : TaskId}

/-- The new client of a recovery is fresh for every recovery of the server under way. -/
theorem swapsFit_swap (fit : SwapsFit v) (locks : LocksFit v) (made : LocksMade v)
    (cleared : ClearedFits v) (handles : HandlesFit v) {serverName : String}
    {handle : ClientHandle} (stable : ∀ other, other ≠ task → discipline.Stable v other)
    (met : SwapsYoungest v.state v.waits (.executed task (.swapClient serverName handle)))
    (may : (Act.swapClient serverName handle).may (v.traces task)) :
    SwapsFit ⟨assign v.traces task
      ((Act.swapClient serverName handle).after (v.state.swapClient serverName handle).1
        (v.traces task)), v.waits, (v.state.swapClient serverName handle).2⟩ := by
  obtain ⟨registry, uncleared, free, opened, -⟩ := may
  have alone (other : TaskId) (different : other ≠ task) : (v.traces other).cleared = false := by
    refine Bool.eq_false_iff.mpr fun now => different ?_
    exact locks.unique .registry (cleared.held other now) registry
  refine .retrace (fun now => ?_) ?_ fun other different => ⟨fun now => ?_, ?_⟩
  · exact Bool.noConfusion (uncleared.symm.trans now)
  · refine ⟨fun server found same installed => ?_, fun server found taken => ?_⟩
    · cases same
      simp only [State.swapClient, Dict.get?_set_self, Option.some.injEq] at installed
      subst installed
      exact handles.opened task handle opened
    · cases free.symm.trans taken
  · exact Bool.noConfusion ((alone other different).symm.trans now)
  · refine ⟨fun server found swapped installed => ?_, fun server found taken => ?_⟩
    · simp only [State.swapClient, Dict.get?_set] at installed
      split at installed
      · rename_i same
        subst same
        cases installed
        obtain ⟨lock, held⟩ := recovers_of_stable (stable other different) swapped
        refine met other different ⟨lock, made.used other _ held, ?_⟩
        exact (locks.holder _ other).mpr ⟨server, held⟩
      · exact (fit.finds other).swapped server found swapped installed
    · rw [shortcut_of_stable (stable other different)] at taken
      cases taken

variable {a : Act}

/-- No other block adds to the recoveries that have swapped, or moves their attempts. -/
theorem swaps_kept (other : ∀ serverName handle, a ≠ .swapClient serverName handle)
    (may : a.may (v.traces task)) (result : a.Val) (client : TaskId) (server : String)
    (swapped : (assign v.traces task (a.after result (v.traces task)) client).swapped =
      some server) :
    (v.traces client).swapped = some server ∧
      (State.exec task a v.state).2.history.attemptAt client =
        v.state.history.attemptAt client := by
  by_cases same : client = task
  · subst same
    rw [assign_self] at swapped
    have before := swapped_after other swapped
    refine ⟨before, attemptAt_exec (.inr ?_)⟩
    rintro rfl
    exact nomatch (may.1.symm.trans before)
  · rw [assign_of_ne _ same] at swapped
    exact ⟨swapped, attemptAt_exec (.inl same)⟩

/-- What `connect_all` collects is younger than the coroutines that opened it. -/
theorem publishes_exec (fit : SwapsFit v) (handles : HandlesFit v)
    (other : ∀ serverName handle, a ≠ .swapClient serverName handle)
    (may : a.may (v.traces task)) :
    (a.after (State.exec task a v.state).1 (v.traces task)).Publishes
      ⟨assign v.traces task (a.after (State.exec task a v.state).1 (v.traces task)), v.waits,
        (State.exec task a v.state).2⟩ := by
  have kept := swaps_kept (v := v) other may (State.exec task a v.state).1
  have before := fit.publishes task
  cases collects : a.collects with
  | false =>
      obtain ⟨cleared, batch, results⟩ :=
        collected_after collects (State.exec task a v.state).1 (v.traces task)
      refine before.mono kept cleared batch results fun batch _ => spawnedAt_exec (.inr ?_)
      rintro servers rfl
      cases collects
  | true =>
      cases a with
      | resetForConnect serverNames =>
          exact fun _ => ⟨nofun, nofun⟩
      | spawn servers =>
          intro now
          obtain ⟨-, fromResults⟩ := before now
          refine ⟨fun batch found => ?_, fun results startup handle found member installed => ?_⟩
          · -- Every attempt so far failed before the new coroutines open anything.
            cases found
            intro client server swapped
            obtain ⟨-, attempt⟩ := kept client server swapped
            rw [attempt]
            simp only [State.exec, State.spawn, assign_self]
            exact handles.attempts client
          · exact (fromResults results startup handle found member installed).mono kept
              (Nat.le_refl _)
      | jobResults batch =>
          intro now
          obtain ⟨fromBatch, -⟩ := before now
          refine ⟨fun other found => (fromBatch other found).mono kept (Nat.le_refl _),
            fun results startup handle found member installed => ?_⟩
          cases found
          obtain ⟨index, job, listed, outcome⟩ := job_of_jobResults member
          exact (fromBatch batch may).mono kept
            (handles.reported batch index job startup handle listed outcome installed)
      | _ => cases collects

/-- The block leaves in place what the running recovery found. -/
theorem finds_exec (fit : SwapsFit v)
    (other : ∀ serverName handle, a ≠ .swapClient serverName handle)
    (met : WaitersFindFresh v.state v.waits (.executed task a)) (may : a.may (v.traces task)) :
    (a.after (State.exec task a v.state).1 (v.traces task)).Finds (State.exec task a v.state).2
      task := by
  refine ⟨fun server handle swapped installed => ?_, fun server handle taken => ?_⟩
  · have before := swapped_after other swapped
    refine (attemptAt_exec (.inr fun failed => ?_)).trans_le
      (installed_exec fit before may (fun swap => other server swap) installed)
    subst failed
    exact nomatch (may.1.symm.trans before)
  · cases finds : a.finds with
    | false =>
        rw [(found_after finds _ _).2] at taken
        obtain ⟨installed, fresh⟩ := (fit.finds task).shortcut server handle taken
        have unwritten := State.exec_unwritten task a v.state
        have writes : a.writesClients = false := by
          cases a with
          | takeClients => exact nomatch (may.2.symm.trans taken)
          | publish servers connected allResolved failures =>
              exact nomatch (may.2.2.1.symm.trans taken)
          | dropClient serverName => exact nomatch (may.2.symm.trans taken)
          | swapClient serverName swap => cases finds
          | _ => rfl
        refine ⟨(congrArg (Dict.get? · server) (unwritten.clients writes)).trans installed,
          (attemptAt_exec (.inr fun failed => ?_)).trans_le fresh⟩
        subst failed
        exact nomatch (may.2.1.symm.trans taken)
    | true =>
        cases a with
        | readClientAndTools serverName =>
            obtain ⟨tools, entry, found⟩ := Option.bind_eq_some_iff.mp taken
            obtain ⟨client, installed, same⟩ := Option.map_eq_some_iff.mp found
            cases same
            exact ⟨installed, met handle installed (Option.isSome_of_eq_some entry)⟩
        | swapClient serverName swap => exact absurd rfl (other serverName swap)
        | recovered serverName => cases taken
        | _ => cases finds

/-- Every other block keeps what is or may be installed fresh. -/
theorem swapsFit_other (fit : SwapsFit v) (locks : LocksFit v) (cleared : ClearedFits v)
    (handles : HandlesFit v) (other : ∀ serverName handle, a ≠ .swapClient serverName handle)
    (stable : ∀ other, other ≠ task → discipline.Stable v other)
    (met : WaitersFindFresh v.state v.waits (.executed task a)) (may : a.may (v.traces task)) :
    SwapsFit ⟨assign v.traces task (a.after (State.exec task a v.state).1 (v.traces task)),
      v.waits, (State.exec task a v.state).2⟩ := by
  refine .retrace (publishes_exec fit handles other may) (finds_exec fit other met may)
    fun client different => ⟨?_, fun server handle swapped installed => ?_,
      fun server handle taken => ?_⟩
  · intro now
    refine (fit.publishes client).mono (swaps_kept other may _) id rfl rfl
      (fun batch _ => spawnedAt_exec (.inr ?_)) now
    rintro servers rfl
    exact different (locks.unique .registry (cleared.held client now) may.1)
  · exact (attemptAt_exec (.inl different)).trans_le
      (installed_exec fit swapped may (fun swap => other server swap) installed)
  · rw [shortcut_of_stable (stable client different)] at taken
    cases taken

end Executed

theorem swapsFit_initial (config : Option TelaConfig) (notifyCallback : Bool) :
    SwapsFit ⟨fun _ => discipline.idle, fun _ => none, State.launch config notifyCallback⟩ where
  publishes _ cleared := nomatch cleared
  finds _ := ⟨nofun, nofun⟩

theorem swapsFit_keeps :
    KeepsActs RecoversFresh
      (fun v => True ∧ (((LocksFit v ∧ LocksMade v) ∧ ClearedFits v) ∧ TasksFit v) ∧ HandlesFit v)
      SwapsFit where
  admitted v task request state _ fit _ _ _ accepted := by
    have plain : request.begin.cleared = false ∧ request.begin.swapped = none ∧
        request.begin.shortcut = none := by cases request <;> exact ⟨rfl, rfl, rfl⟩
    have start := spawnedAt_accept accepted
    obtain ⟨_, _, _, _, rfl⟩ := State.accept_frame accepted
    exact fit.rested (.inr plain) rfl rfl start
  executed v task a given fit stable _ met may := by
    obtain ⟨-, ⟨⟨⟨locks, made⟩, cleared⟩, -⟩, handles⟩ := given
    by_cases swaps : ∃ serverName handle, a = .swapClient serverName handle
    · obtain ⟨serverName, handle, rfl⟩ := swaps
      exact swapsFit_swap fit locks made cleared handles stable met.2.1 may
    · refine swapsFit_other fit locks cleared handles (fun serverName handle same => ?_) stable
        met.1 may
      exact swaps ⟨serverName, handle, same⟩
  waited v task w r _ _ _ _ fit _ :=
    fit.rested (.inl (sameHandles_woken w r _)) rfl rfl fun _ => rfl
  finished v task _ fit _ := fit.rested (.inr ⟨rfl, rfl, rfl⟩) rfl rfl fun _ => rfl
  suspended v _ _ fit :=
    ⟨fit.publishes, fun task => ⟨(fit.finds task).swapped, (fit.finds task).shortcut⟩⟩

/-- Under the conditions, the handle in place when a recovery returns is fresh. -/
theorem fresh_handle {config : Option TelaConfig} {notifyCallback : Bool} {c c' : Config world}
    {task : TaskId} {serverName : String}
    (run : Run (State.launch config notifyCallback) RecoversFresh c)
    (met : RecoversFresh c.state c.waits (.executed task (.recovered serverName)))
    (returned : Step c (.executed task (.recovered serverName)) c') :
    c.state.Fresh task serverName := by
  have keeps := (((((locksFit_keeps RecoversFresh).and (locksMade_keeps _ _).keeps).and
    ((clearedFits_keeps _).keeps.assume fun v known => ⟨trivial, known.2.1⟩)).and
    (tasksFit_keeps _ _).keeps).and
    ((handlesFit_keeps _).keeps.assume fun v known => ⟨trivial, known.2.2⟩)).and
    swapsFit_keeps.keeps
  obtain ⟨v, tracks, -, fit⟩ := keeps.reached
    ⟨⟨⟨⟨⟨locksFit_initial fun _ => rfl, locksMade_initial config notifyCallback⟩,
      clearedFits_initial config notifyCallback⟩, tasksFit_initial config notifyCallback⟩,
      handlesFit_initial config notifyCallback⟩, swapsFit_initial config notifyCallback⟩ run
  have finds := fit.finds task
  have installed : c.state.clients.contains serverName = true := met.2.2
  rw [tracks.state] at finds
  obtain ⟨handle, shortcut⟩ | swapped := tracks.may_of_step returned
  · obtain ⟨found, fresh⟩ := finds.shortcut serverName handle shortcut
    exact ⟨handle, found, fresh⟩
  · obtain ⟨handle, found⟩ := Option.isSome_iff_exists.mp installed
    exact ⟨handle, found, finds.swapped serverName handle swapped found⟩

/-! ## Runs with two callers -/

/-- The task whose recovery is about to return, with its server. -/
def returning (c : Config world) : Option (TaskId × String) :=
  match c.running with
  | some (task, .act (.recovered serverName) _) => some (task, serverName)
  | _ => none

theorem step_of_returning {c : Config world} {task : TaskId} {serverName : String}
    (now : returning c = some (task, serverName)) :
    ∃ c', Step c (.executed task (.recovered serverName)) c' := by
  unfold returning at now
  split at now
  · rename_i running
    cases now
    exact ⟨_, .executed running⟩
  · cases now

/-- The client of a session whose process has died. -/
def sessionClosed : (w : Wait) → Except PyException w.Res := fun _ =>
  .error ⟨.runtimeError, "RuntimeError", "Server session was closed unexpectedly"⟩

/-- Two calls find the client of `files` dead; the second one waits for the first. -/
def twoFailures : List (Choice world) :=
  startFiles ++
    [.request (.callTool "files" "read" ∅), .request (.callTool "files" "read" ∅),
      .answer 2 sessionClosed, .answer 3 sessionClosed]

def recoversFresh : Check world
  | s, .executed task (.readClientAndTools serverName) =>
      (s.clients.get? serverName).all fun handle => decide (s.history.attemptAt task ≤ handle.serial)
  | s, .executed task (.swapClient _ handle) =>
      (List.range s.lockServers.length).all fun lock =>
        (s.locks (.recovery lock)).holder.all fun other =>
          decide (other = task ∨ s.history.attemptAt other ≤ handle.serial)
  | s, .executed _ (.recovered serverName) => s.clients.contains serverName
  | _, _ => true

theorem recoversFresh_sound : Run.Sound recoversFresh RecoversFresh := by
  intro state waits event checked
  cases event with
  | executed task a =>
      cases a with
      | readClientAndTools serverName =>
          refine ⟨fun handle installed _ => ?_, trivial, trivial⟩
          simpa [recoversFresh, installed] using checked
      | swapClient serverName handle =>
          refine ⟨trivial, ?_, trivial⟩
          rintro other different ⟨lock, made, holder⟩
          have bound := (List.getElem?_eq_some_iff.mp made).1
          have young := List.all_eq_true.mp checked lock (List.mem_range.mpr bound)
          have fresh : other = task ∨ state.history.attemptAt other ≤ handle.serial := by
            simpa [holder] using young
          exact fresh.resolve_left different
      | recovered serverName => exact ⟨trivial, trivial, checked⟩
      | _ => exact ⟨trivial, trivial, trivial⟩
  | _ => exact ⟨trivial, trivial, trivial⟩

/-- The leader opens a second handle and returns with it. -/
theorem fresh_handle_leader :
    ∃ c : Config world, Run (State.launch (some filesConfig) false) RecoversFresh c ∧
      returning c = some (2, "files") ∧ c.state.Fresh 2 "files" := by
  obtain ⟨c, run, now⟩ := Run.exists_of_playInto recoversFresh_sound
    (State.launch (some filesConfig) false) 80
    (twoFailures ++ [.answer 2 (answering [readTool]), .answer 2 (answering [readTool]),
      .answer 2 (answering [readTool])])
    (.answer 2 (answering [])) 1
    (fun c => decide (returning c = some (2, "files")) && c.state.clients.contains "files")
    (by decide +kernel)
  obtain ⟨now, installed⟩ := Bool.and_eq_true_iff.mp now
  obtain ⟨c', returned⟩ := step_of_returning (of_decide_eq_true now)
  exact ⟨c, run, of_decide_eq_true now,
    fresh_handle run ⟨trivial, trivial, installed⟩ returned⟩

/-- The leader cannot reconnect; the waiter returns with the dead handle. -/
theorem fresh_handle_violated :
    ∃ c c' : Config world, Reachable (State.launch (some filesConfig) false) c ∧
      Step c (.executed 3 (.recovered "files")) c' ∧ ¬ c.state.Fresh 3 "files" := by
  obtain ⟨c, run, now⟩ := Run.exists_of_playInto (Run.sound_anything (W := world))
    (State.launch (some filesConfig) false) 80
    (twoFailures ++ [.answer 2 sessionClosed, .answer 2 (answering [])])
    (.answer 3 (answering [])) 5
    (fun c => decide (returning c = some (3, "files") ∧ c.state.history.attemptAt 3 = 1 ∧
      (c.state.clients.get? "files").map ClientHandle.serial = some 0)) (by decide +kernel)
  obtain ⟨now, attempt, serial⟩ := of_decide_eq_true now
  obtain ⟨c', returned⟩ := step_of_returning now
  refine ⟨c, c', run, returned, ?_⟩
  rintro ⟨handle, installed, fresh⟩
  rw [installed] at serial
  rw [attempt, Option.some.inj serial] at fresh
  exact absurd fresh (by decide)

end Tela
