import Tela.Properties.IdleQueue

/-!
# Idle accounting

The connection count of the idle manager follows the runtime connection list, as
long as every block that removes connections removes exactly the one it will
uncount.
-/

namespace Tela

namespace Gateway

open Coop LifecycleRoutes

variable {platform : Platform}

/-! ## Identifiers are not empty -/

/-- No connection is listed, or about to be, without an identifier. -/
structure Named (traces : TaskId → Trace) (state : State) : Prop where
  listed : "" ∉ state.connectionIds
  named : ∀ task, (traces task).named ≠ some ""

theorem conn_ne_empty (digits : String) : "conn_" ++ digits ≠ "" := by
  intro empty
  have lengths := congrArg String.length empty
  rw [String.length_append] at lengths
  exact absurd lengths (by simp)

theorem mem_idsAfter {s : State} {a : Act} {connectionId : String}
    (member : connectionId ∈ s.idsAfter a) :
    connectionId ∈ s.connectionIds ∨
      ∃ ctx, a = .addRuntimeConnection ctx ∧ ctx.connectionId = connectionId := by
  unfold State.idsAfter at member
  split at member
  · rename_i ctx
    refine (List.mem_append.mp member).imp_right fun new => ⟨ctx, rfl, ?_⟩
    exact (List.mem_singleton.mp new).symm
  · exact .inl (List.mem_filter.mp member).1
  · exact .inl (List.mem_filter.mp member).1
  · split at member
    · exact .inl member
    · exact .inl (List.mem_filter.mp member).1
  · split at member
    · exact .inl (List.mem_filter.mp member).1
    · exact .inl member
  · exact .inl member

/-- The block tells its task which identifier it may use. -/
def Act.names : Act → Bool
  | newConnectionId | hasBridgeRegistration _ => true
  | _ => false

theorem named_after {a : Act} (plain : a.names = false) (v : a.Val) (g : Trace) :
    (a.after v g).named = g.named := by
  unfold Act.after
  split <;> first | rfl | cases plain

theorem named_executed {traces : TaskId → Trace} {state : State} {task : TaskId} {a : Act}
    (fits : Named traces state) (may : a.may (traces task)) :
    Named (assign traces task (a.after (State.exec task a state).1 (traces task)))
      (State.exec task a state).2 := by
  constructor
  · rw [State.exec_ids]
    intro member
    rcases mem_idsAfter member with old | ⟨ctx, rfl, empty⟩
    · exact fits.listed old
    · exact fits.named task (may.2.trans (congrArg some empty))
  · refine forall_assign (P := fun _ (g : Trace) => g.named ≠ some "") ?_ fun other _ =>
      fits.named other
    have plainly (plain : a.names = false) :
        (a.after (State.exec task a state).1 (traces task)).named ≠ some "" := by
      rw [named_after plain]
      exact fits.named task
    cases a with
    | newConnectionId => exact fun same => conn_ne_empty _ (Option.some.inj same)
    | hasBridgeRegistration connectionId =>
        by_cases empty : connectionId = ""
        · subst empty
          exact fits.named task
        · change (Act.after (.hasBridgeRegistration connectionId)
            (state.runtime.hasBridgeRegistration connectionId) (traces task)).named ≠ some ""
          rcases state.runtime.hasBridgeRegistration connectionId with error | _ | _
          · exact fits.named task
          · exact fits.named task
          · exact fun same => empty (Option.some.inj same)
    | _ => exact plainly rfl

theorem named_keeps (ok : Guard (world platform))
    (given : Watched (world platform) Trace → Prop) :
    KeepsActs ok given fun v => Named v.traces v.state where
  admitted v task request _ _ _ _ fits idle := by
    refine ⟨fits.listed, forall_assign (P := fun _ (g : Trace) => g.named ≠ some "") ?_
      fun other _ => fits.named other⟩
    cases request <;> nofun
  executed v task a _ fits _ may := named_executed fits may
  rested v task g _ _ _ _ fits same _ := by
    refine ⟨fits.listed, forall_assign (P := fun _ (g : Trace) => g.named ≠ some "") ?_
      fun other _ => fits.named other⟩
    rw [same.named]
    exact fits.named task
  finished v task _ fits _ :=
    ⟨fits.listed, forall_assign (P := fun _ (g : Trace) => g.named ≠ some "") nofun
      fun other _ => fits.named other⟩

/-! ## What is removed is uncounted -/

/--
A block removes at most the one connection that it will uncount: where it will, that
many are listed, and where it will not, none is.
-/
def CountsEach (s : State) : Act → Prop
  | .installIdleManager _ => s.idleManager = none → s.connectionIds = []
  | .removeRuntimeConnection connectionId =>
      s.idleManager ≠ none → s.connectionIds.count connectionId ≤ 1
  | .disconnect connectionId =>
      s.idleManager ≠ none → s.connectionIds.count connectionId ≤ 1
  | .cleanupConnection connectionId =>
      s.idleManager ≠ none → s.connectionIds.count connectionId = 0
  | .sweepConnection conn now =>
      s.idleManager ≠ none → (s.sessionGone conn || s.stale conn now) = true →
        s.connectionIds.count conn.connectionId = 1
  | _ => True

def CountsExactly : Guard (world platform)
  | s, _, .executed _ a => CountsEach s a
  | _, _, _ => True

/-- Count, connection list and ledger fit. -/
def Books (s : State) : Prop :=
  ∀ manager, s.idleManager = some manager →
    s.history.ledger.Balanced manager.connectionCount s.connectionIds.length

theorem length_filter_ne (ids : List String) (connectionId : String) :
    (ids.filter (· ≠ connectionId)).length + ids.count connectionId = ids.length := by
  induction ids with
  | nil => rfl
  | cons id rest ih =>
      by_cases same : id = connectionId
      · simp [same, ← ih, Nat.add_assoc]
      · simp [same, ← ih, Nat.add_right_comm]

theorem filter_eq_self {ids : List String} {connectionId : String}
    (absent : ids.count connectionId = 0) : ids.filter (· ≠ connectionId) = ids := by
  refine List.filter_eq_self.mpr fun id member => ?_
  simpa using fun same : id = connectionId => List.count_eq_zero.mp absent (same ▸ member)

/-- A block that neither counts nor changes the list. -/
theorem Books.same {s s' : State} (books : Books s) (manager : s'.idleManager = s.idleManager)
    (ledger : s'.history.ledger = s.history.ledger)
    (ids : s'.connectionIds = s.connectionIds) : Books s' := by
  intro found installed
  rw [ledger, ids]
  exact books found (manager.symm.trans installed)

/-- How the number of connections changes with the entry that a block makes. -/
def Sized (owed : Option Bool) (ids ids' : List String) : Prop :=
  match owed with
  | none => ids'.length = ids.length
  | some true => ids'.length = ids.length + 1
  | some false => ids'.length + 1 = ids.length

theorem Enters.books {task : TaskId} {owed : Option Bool} {s s' : State}
    (enters : Enters task owed s s') (books : Books s)
    (sized : s.idleManager ≠ none → Sized owed s.connectionIds s'.connectionIds) : Books s' := by
  intro manager installed
  have found := enters.manager.symm.trans installed
  have balanced := books manager found
  have size := sized (by rw [found]; rintro ⟨⟩)
  rw [enters.ledger]
  match owed, size with
  | none, size => rwa [size]
  | some true, size =>
      rw [size]
      exact balanced.add
  | some false, size =>
      rw [← size] at balanced
      exact balanced.remove

/-- A removal that is uncounted exactly when it removes the one connection there is. -/
theorem sized_filter {ids : List String} {connectionId : String} {owed : Bool}
    (atMost : ids.count connectionId ≤ 1) (noticed : owed = (ids.count connectionId != 0)) :
    Sized (owing owed false) ids (ids.filter (· ≠ connectionId)) := by
  have lengths := length_filter_ne ids connectionId
  rcases Nat.le_one_iff_eq_zero_or_eq_one.mp atMost with none | one
  · rw [none] at noticed lengths
    subst noticed
    exact lengths
  · rw [one] at noticed lengths
    subst noticed
    exact lengths

section Blocks

variable {task : TaskId} {s : State} {connectionId : String}

theorem owes_installed (runtime : GatewayRuntime) (installed : s.idleManager ≠ none)
    (added : Bool) : (State.owes { s with runtime := runtime } task added).1 = true := by
  simp [State.owes, Option.isSome_iff_ne_none.mpr installed]

/-- The removal of a listed identifier is noticed. -/
theorem removed_flag (s : State) (connectionId : String) :
    (s.runtime.removeRuntimeConnection connectionId).1 =
      (s.connectionIds.count connectionId != 0) := by
  have lengths := length_filter_ne s.connectionIds connectionId
  rw [State.connectionIds, ← State.filter_ids, List.length_map, List.length_map] at lengths
  dsimp only [GatewayRuntime.removeRuntimeConnection, State.connectionIds]
  rw [Bool.eq_iff_iff, bne_iff_ne, bne_iff_ne]
  omega

theorem uncounts_removeRuntimeConnection (installed : s.idleManager ≠ none) :
    (s.removeRuntimeConnection task connectionId).1.2 =
      (s.connectionIds.count connectionId != 0) := by
  rw [← removed_flag]
  unfold State.removeRuntimeConnection
  dsimp only
  split
  · rename_i removed
    rw [removed]
    exact owes_installed _ installed false
  · rename_i kept
    exact (Bool.eq_false_of_not_eq_true kept).symm

/-- A cleanup fails for the empty identifier only. -/
theorem cleanup_ok (nonempty : connectionId ≠ "") (r : GatewayRuntime) :
    ∃ registered, (r.cleanupConnectionById connectionId).1 =
      .ok ⟨(r.removeRuntimeConnection connectionId).1, registered⟩ := by
  unfold GatewayRuntime.cleanupConnectionById GatewayRuntime.removeBridgeRegistration
  dsimp only
  rw [if_neg nonempty]
  exact ⟨_, rfl⟩

theorem uncounts_sweepConnection {conn : ConnectionContext} {now : Int}
    (installed : s.idleManager ≠ none) (nonempty : conn.connectionId ≠ "")
    (reaped : (s.sessionGone conn || s.stale conn now) = true) :
    (s.sweepConnection task conn now).1 = true := by
  obtain ⟨registered, cleaned⟩ := cleanup_ok nonempty s.runtime
  unfold State.sweepConnection
  rw [if_pos reaped]
  split
  · rename_i failed
    rw [failed] at cleaned
    cases cleaned
  · exact owes_installed _ installed false

/-- A disconnect that is refused has nothing to uncount. -/
theorem uncounts_refused {error : String} {r : GatewayRuntime}
    (refused : admittedDisconnect s.runtime ⟨connectionId⟩ = (.ok (.error error), r)) :
    (s.disconnect task connectionId).1.toOption.any Prod.snd = false := by
  unfold State.disconnect ensured
  rw [refused]
  dsimp only
  cases disconnectPost (.error error) <;> rfl

theorem uncounts_disconnect (installed : s.idleManager ≠ none) (listed : "" ∉ s.connectionIds)
    (started : ¬ (s.runtime.config.isNone || !s.runtime.running) = true) :
    (s.disconnect task connectionId).1.toOption.any Prod.snd =
      (s.connectionIds.count connectionId != 0) := by
  have existed : (s.runtime.connections.any fun conn => conn.connectionId = connectionId) =
      (s.connectionIds.count connectionId != 0) := by
    rw [Bool.eq_iff_iff, bne_iff_ne, ne_eq, List.count_eq_zero, not_not]
    simp [State.connectionIds]
  by_cases empty : connectionId = ""
  · subst empty
    rw [List.count_eq_zero.mpr listed]
    exact uncounts_refused (if_neg started)
  · obtain ⟨registered, cleaned⟩ := cleanup_ok empty s.runtime
    rw [removed_flag] at cleaned
    cases result : s.runtime.cleanupConnectionById connectionId with
    | mk outcome runtime =>
        rw [result] at cleaned
        subst cleaned
        have answered : admittedDisconnect s.runtime ⟨connectionId⟩ =
            if (s.connectionIds.count connectionId != 0 || registered) = true then
              (.ok (.ok ⟨connectionId, "disconnected"⟩), runtime)
            else
              (.ok (.error s!"CONNECTION_NOT_FOUND: connection '{connectionId}' not found"),
                runtime) := by
          unfold admittedDisconnect
          rw [if_neg started, result]
        cases present : s.connectionIds.count connectionId != 0 || registered with
        | false =>
            rw [present] at answered
            rw [(Bool.or_eq_false_iff.mp present).1]
            exact uncounts_refused answered
        | true =>
            rw [present] at answered
            unfold State.disconnect
            rw [answered, existed]
            cases s.connectionIds.count connectionId != 0 with
            | true => exact owes_installed _ installed false
            | false => rfl

end Blocks

theorem increment_count {task : TaskId} {s : State} {manager after : IdleShutdownManager}
    (found : s.idleManager = some manager)
    (installed : (s.increment task).2.idleManager = some after) :
    after.connectionCount = manager.connectionCount + 1 := by
  unfold State.increment at installed
  rw [found] at installed
  dsimp only at installed
  split at installed <;> exact (Option.some.inj installed) ▸ rfl

theorem decrement_count {task : TaskId} {s : State} {manager after : IdleShutdownManager}
    {count : Nat} (found : s.idleManager = some manager)
    (positive : manager.connectionCount = count + 1)
    (installed : (s.decrement task).2.idleManager = some after) :
    after.connectionCount = count := by
  unfold State.decrement at installed
  rw [found] at installed
  dsimp only at installed
  rw [positive] at installed
  dsimp only at installed
  split at installed <;> exact (Option.some.inj installed) ▸ rfl

theorem sized_same (ids : List String) : Sized none ids ids := rfl

theorem books_executed {traces : TaskId → Trace} {waits : TaskId → Option Wait} {s : State}
    {task : TaskId} {a : Act} (lined : Lined traces waits s) (named : Named traces s)
    (books : Books s) (met : CountsEach s a) (may : a.may (traces task)) :
    Books (State.exec task a s).2 := by
  have ids := State.exec_ids task a s
  cases a with
  | removeRuntimeConnection connectionId =>
      refine (Enters.removeRuntimeConnection connectionId).books books fun installed => ?_
      rw [show (s.removeRuntimeConnection task connectionId).2.connectionIds = _ from ids]
      exact sized_filter (met installed) (uncounts_removeRuntimeConnection installed)
  | addRuntimeConnection ctx =>
      refine (Enters.addRuntimeConnection ctx).books books fun installed => ?_
      have noticed : (s.addRuntimeConnection task ctx).1 = true := owes_installed _ installed true
      rw [noticed, show (s.addRuntimeConnection task ctx).2.connectionIds = _ from ids]
      exact List.length_append
  | disconnect connectionId =>
      refine (Enters.disconnect connectionId).books books fun installed => ?_
      rw [show (s.disconnect task connectionId).2.connectionIds = _ from ids]
      simp only [State.idsAfter]
      split
      · rename_i started
        have refused : (s.disconnect task connectionId).1.toOption.any Prod.snd = false :=
          uncounts_refused (if_pos started)
        rw [refused]
        exact sized_same _
      · rename_i started
        exact sized_filter (met installed) (uncounts_disconnect installed named.listed started)
  | sweepConnection conn now =>
      refine (Enters.sweepConnection conn now).books books fun installed => ?_
      rw [show (s.sweepConnection task conn now).2.connectionIds = _ from ids]
      simp only [State.idsAfter]
      split
      · rename_i reaped
        have one := met installed reaped
        have nonempty : conn.connectionId ≠ "" := by
          intro empty
          rw [empty, List.count_eq_zero.mpr named.listed] at one
          cases one
        refine sized_filter (le_of_eq one) ?_
        rw [uncounts_sweepConnection installed nonempty reaped, one]
        rfl
      · rename_i spared
        have kept : (s.sweepConnection task conn now).1 = false := by
          unfold State.sweepConnection
          rw [if_neg spared]
        rw [kept]
        exact sized_same _
  | cleanupConnection connectionId =>
      intro manager installed
      rw [ids]
      change (Ledger.Balanced _ (s.connectionIds.filter (· ≠ connectionId)).length _)
      have found : s.idleManager = some manager := installed
      rw [filter_eq_self (met (by rw [found]; rintro ⟨⟩))]
      exact books manager found
  | installIdleManager shutdownDisabled =>
      cases found : s.idleManager with
      | some manager =>
          refine books.same ?_ ?_ ids
          · simp [State.exec, State.installIdleManager, found]
          · simp [State.exec, State.installIdleManager, found]
      | none =>
          obtain ⟨empty, unlocked⟩ := lined.uninstalled found
          obtain ⟨-, ledger, manager, now, zero⟩ := installIdleManager_fresh task
            shutdownDisabled found empty unlocked
          intro other installed
          obtain rfl : manager = other := Option.some.inj (now.symm.trans installed)
          change Ledger.Balanced _ _ (s.installIdleManager task shutdownDisabled).history.ledger
          rw [ids, ledger, zero]
          change Ledger.Balanced 0 s.connectionIds.length []
          rw [met found]
          exact .nil 0
  | increment =>
      obtain ⟨rest, split⟩ := lined.first may.2 may.1
      intro after installed
      cases found : s.idleManager with
      | none =>
          rw [(lined.uninstalled found).1] at split
          cases split
      | some manager =>
          have balanced := books manager found
          rw [split] at balanced
          have settled := (increment_settles task (by rw [found]; rintro ⟨⟩)).2.1
          rw [ids, show (State.exec task .increment s).2.history.ledger = _ from settled, split,
            Ledger.settle_cons, increment_count found installed]
          exact balanced.settle_added
  | decrement retired =>
      obtain ⟨rest, split⟩ := lined.first may.2.1 may.1
      intro after installed
      cases found : s.idleManager with
      | none =>
          rw [(lined.uninstalled found).1] at split
          cases split
      | some manager =>
          have balanced := books manager found
          rw [split] at balanced
          obtain ⟨count, positive, balanced⟩ := balanced.settle_removed
          have settled := (decrement_settles task (by rw [found]; rintro ⟨⟩)).2.1
          rw [ids, show (State.exec task (.decrement retired) s).2.history.ledger = _ from settled,
            split, Ledger.settle_cons, decrement_count found positive installed]
          exact balanced
  | clearTimer =>
      intro manager installed
      obtain ⟨before, found, rfl⟩ := Option.map_eq_some_iff.mp installed
      exact books before found
  | captureSession connectionId session origin => exact books.same rfl rfl ids
  | ensureConnection session => exact books.same rfl rfl ids
  | _ => exact books.same rfl rfl ids

theorem books_keeps :
    KeepsActs (CountsExactly : Guard (world platform))
      (fun v => Lined v.traces v.waits v.state ∧ Named v.traces v.state)
      fun v => Books v.state where
  admitted _ _ _ _ _ _ _ books _ := books.same rfl rfl rfl
  executed _ _ _ given books met may := books_executed given.1 given.2 books met may
  rested _ _ _ _ _ _ _ books _ _ := books.same rfl rfl rfl
  finished _ _ _ books _ := books

/-! ## Over runs -/

theorem lined_initial (config : TelaConfig) (uuids : Nat → String) :
    Lined (fun _ => {}) (fun _ => none) (State.launch config uuids) where
  held _ := iff_of_false nofun nofun
  waiting _ := iff_of_false nofun nofun
  owed _ _ := iff_of_false nofun nofun
  nodup := List.nodup_nil
  line := ⟨[], rfl, nofun⟩
  uninstalled _ := ⟨rfl, rfl, rfl⟩

/--
While every block removes at most the one connection that it will uncount, the count
of the idle manager is the number of connections whenever no task is left.
-/
theorem idle_accounting {config : TelaConfig} {uuids : Nat → String}
    {c : Config (world platform)} (run : Run (State.launch config uuids) CountsExactly c)
    (quiet : c.Quiescent) {manager : IdleShutdownManager}
    (installed : c.state.idleManager = some manager) :
    manager.connectionCount = c.state.runtime.connections.length := by
  have keeps := (((steady_keeps (CountsExactly : Guard (world platform)) fun _ => True).keeps.and
    ((lined_keeps CountsExactly).assume fun _ known => known.2)).and
    (named_keeps CountsExactly _).keeps).and
    (books_keeps.keeps.assume fun _ known => ⟨known.2.1.2, known.2.2⟩)
  obtain ⟨⟨traces, waits, state⟩, tracks, ⟨⟨-, lined⟩, -⟩, books⟩ := keeps.reached
    ⟨⟨⟨fun _ => rfl, lined_initial config uuids⟩, nofun, nofun⟩, fun _ gone => nomatch gone⟩ run
  obtain rfl : state = c.state := tracks.state
  have empty : c.state.history.ledger = [] := by
    refine List.eq_nil_iff_forall_not_mem.mpr fun entry member => ?_
    have owed : (traces entry.1).owed = some entry.2 := (lined.owed entry.1 entry.2).mp member
    rw [show traces entry.1 = {} from tracks.traces_of_quiescent quiet entry.1] at owed
    cases owed
  have balanced : c.state.history.ledger.Balanced manager.connectionCount
      (State.connectionIds c.state).length := books manager installed
  rw [empty] at balanced
  exact balanced.count_eq.trans (List.length_map _)

/-! ## Two runs -/

/-- A platform on which no signature is ever checked. -/
def unsigned : Platform where
  hmac := ⟨fun _ _ => "", fun _ _ => rfl⟩
  str
    | .str text => text
    | _ => ""
  str_text _ := rfl

def openConfig : TelaConfig :=
  { profiles := .ofList [("dev", { name := "dev" })], auth := { mode := .open },
    resolvedDefaultProfile := some "dev" }

/-- The await ends well. -/
def answered (w : Wait) : Except PyException w.Res := .ok ()

/-- The await ends with an exception. -/
def failed (w : Wait) : Except PyException w.Res :=
  .error ⟨.runtimeError, "RuntimeError", "broken stream"⟩

def countsExactly : Check (world unsigned)
  | s, .executed _ a =>
      match a with
      | .installIdleManager _ => s.connectionIds.isEmpty
      | .removeRuntimeConnection connectionId => s.connectionIds.count connectionId ≤ 1
      | .disconnect connectionId => s.connectionIds.count connectionId ≤ 1
      | .cleanupConnection connectionId => s.connectionIds.count connectionId == 0
      | .sweepConnection conn _ => s.connectionIds.count conn.connectionId == 1
      | _ => true
  | _, _ => true

theorem countsExactly_sound : Run.Sound countsExactly (CountsExactly : Guard (world unsigned)) := by
  intro state waits event checked
  cases event with
  | executed task a =>
      cases a with
      | installIdleManager shutdownDisabled => exact fun _ => List.isEmpty_iff.mp checked
      | removeRuntimeConnection connectionId => exact fun _ => of_decide_eq_true checked
      | disconnect connectionId => exact fun _ => of_decide_eq_true checked
      | cleanupConnection connectionId => exact fun _ => beq_iff_eq.mp checked
      | sweepConnection conn now => exact fun _ _ => beq_iff_eq.mp checked
      | _ => trivial
  | _ => trivial

/-- Nothing runs, and no task that has been started is parked. -/
def settledDown (c : Config (world unsigned)) : Bool :=
  c.running.isNone && (List.range c.fresh).all fun task => (c.parked task).isNone

theorem quiescent_of_settledDown {start : State} {c : Config (world unsigned)}
    (reachable : Reachable start c)
    (settled : settledDown c = true) : c.Quiescent := by
  have keeps : (discipline unsigned).Keeps (fun _ _ _ => True) (fun _ => True) fun _ => True :=
    ⟨by intros; trivial, by intros; trivial, by intros; trivial, by intros; trivial,
      by intros; trivial, by intros; trivial, by intros; trivial⟩
  obtain ⟨v, tracks, -⟩ := keeps.reached trivial reachable
  obtain ⟨idle, parked⟩ := (Bool.and_eq_true _ _).mp settled
  refine tracks.quiescent (Option.isNone_iff_eq_none.mp idle) fun task used => ?_
  exact Option.isNone_iff_eq_none.mp (List.all_eq_true.mp parked task (List.mem_range.mpr used))

/-- The count of the idle manager beside the number of connections. -/
def counts (s : State) : Option Nat × Nat :=
  (s.idleManager.map IdleShutdownManager.connectionCount, s.runtime.connections.length)

/-- Two sessions initialize, and the connection of the first is disconnected again. -/
def disconnectFirst : List (Choice (world unsigned)) :=
  [.request (.installIdleManager false),
    .request (.initializeRequest 7 ∅), .answer 1 answered, .answer 1 answered,
    .request (.initializeRequest 8 ∅), .answer 2 answered,
    .request (.disconnect "conn_0")]

/-- The session's original handler raises after the connection has been counted. -/
def failOriginalHandler : List (Choice (world unsigned)) :=
  [.request (.installIdleManager false),
    .request (.initializeRequest 7 ∅), .answer 1 answered, .answer 1 failed]

def uuids : Nat → String
  | 0 => "0"
  | _ => "1"

theorem idle_accounting_after_disconnect :
    ∃ (c : Config (world unsigned)) (manager : IdleShutdownManager),
      Run (State.launch openConfig uuids) CountsExactly c ∧ c.Quiescent ∧
        c.state.idleManager = some manager ∧ c.state.runtime.connections.length = 1 ∧
          manager.connectionCount = c.state.runtime.connections.length := by
  obtain ⟨c, run, ended⟩ := Run.exists_of_play countsExactly_sound (State.launch openConfig uuids)
    80 disconnectFirst (fun c => settledDown c && decide (counts c.state = (some 1, 1)))
    (by decide +kernel)
  obtain ⟨settled, ended⟩ := (Bool.and_eq_true _ _).mp ended
  obtain ⟨count, listed⟩ := Prod.mk.inj (of_decide_eq_true ended)
  obtain ⟨manager, installed, -⟩ := Option.map_eq_some_iff.mp count
  have quiet := quiescent_of_settledDown run.reachable settled
  exact ⟨c, manager, run, quiet, installed, listed, idle_accounting run quiet installed⟩

/-- The connection is removed and never uncounted. -/
theorem idle_accounting_violated :
    ∃ (c : Config (world unsigned)) (manager : IdleShutdownManager),
      Reachable (State.launch openConfig uuids) c ∧ c.Quiescent ∧
        c.state.idleManager = some manager ∧
          manager.connectionCount ≠ c.state.runtime.connections.length := by
  obtain ⟨c, run, ended⟩ := Run.exists_of_play (Run.sound_anything (W := world unsigned))
    (State.launch openConfig uuids) 80 failOriginalHandler
    (fun c => settledDown c && decide (counts c.state = (some 1, 0))) (by decide +kernel)
  obtain ⟨settled, ended⟩ := (Bool.and_eq_true _ _).mp ended
  obtain ⟨count, listed⟩ := Prod.mk.inj (of_decide_eq_true ended)
  obtain ⟨manager, installed, one⟩ := Option.map_eq_some_iff.mp count
  refine ⟨c, manager, run, quiescent_of_settledDown run settled, installed, ?_⟩
  rw [one, listed]
  exact one_ne_zero

end Gateway

end Tela
