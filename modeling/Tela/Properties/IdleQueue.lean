import Tela.Shell.GatewayEffects

/-!
# The queue at the idle lock

In every run the open entries of the ledger belong to the task that holds the idle
lock, then to the tasks that wait for it in their order, and last to the running
task before it arrives there. The lock is fair, so entries are settled in order.
-/

namespace Tela

namespace Gateway

open Coop

variable {platform : Platform}

/-- The holder of the idle lock, as long as it has an open entry. -/
def served (traces : TaskId → Trace) (state : State) : List TaskId :=
  state.idleLock.holder.toList.filter fun task => (traces task).owed.isSome

/-- The ledger, the idle lock and the traces fit. -/
structure Lined (traces : TaskId → Trace) (waits : TaskId → Option Wait) (state : State) :
    Prop where
  held : ∀ task, (traces task).idleLock = true ↔ state.idleLock.holder = some task
  waiting : ∀ task, task ∈ state.idleLock.waiters ↔ waits task = some .idleLock
  owed : ∀ task added, (task, added) ∈ state.history.ledger ↔ (traces task).owed = some added
  nodup : state.history.ledger.holders.Nodup
  line : ∃ late,
    state.history.ledger.holders = served traces state ++ state.idleLock.waiters ++ late ∧
      ∀ task ∈ late, waits task = none ∧ (traces task).idleLock = false
  uninstalled : state.idleManager = none → state.history.ledger = [] ∧ state.idleLock.Idle

/-- The other tasks are not there or wait. -/
def OthersWait (task : TaskId) (traces : TaskId → Trace) (waits : TaskId → Option Wait) : Prop :=
  ∀ other, other ≠ task → waits other = none → (traces other).owed = none

theorem othersWait {v : Watched (world platform) Trace} {task : TaskId}
    (stable : ∀ other, other ≠ task → (discipline platform).Stable v other) :
    OthersWait task v.traces v.waits := by
  intro other different gone
  have idle := stable other different
  unfold Discipline.Stable at idle
  rw [gone] at idle
  rw [idle]
  rfl

namespace Lined

variable {traces : TaskId → Trace} {waits : TaskId → Option Wait} {state : State} {task : TaskId}

theorem mem_holders (lined : Lined traces waits state) :
    task ∈ state.history.ledger.holders ↔ (traces task).owed.isSome = true := by
  constructor
  · intro member
    obtain ⟨⟨who, added⟩, entry, rfl⟩ := List.mem_map.mp member
    rw [(lined.owed who added).mp entry, Option.isSome_some]
  · intro some
    obtain ⟨added, owed⟩ := Option.isSome_iff_exists.mp some
    exact List.mem_map.mpr ⟨_, (lined.owed task added).mpr owed, rfl⟩

/-- The holder's own entry is the oldest. -/
theorem first (lined : Lined traces waits state) (held : (traces task).idleLock = true) {added : Bool}
    (owed : (traces task).owed = some added) :
    ∃ rest, state.history.ledger = (task, added) :: rest := by
  obtain ⟨late, line, -⟩ := lined.line
  have turn : served traces state = [task] := by
    simp [served, (lined.held task).mp held, owed]
  rw [turn] at line
  obtain ⟨⟨who, entry⟩, rest, split, rfl, -⟩ := List.map_eq_cons_iff.mp line
  have same := (lined.owed who entry).mp (split ▸ List.mem_cons_self ..)
  rw [owed] at same
  cases same
  exact ⟨rest, split⟩

/-- A running task that does not hold the lock has the last entry. -/
theorem last (lined : Lined traces waits state) (others : OthersWait task traces waits)
    (running : waits task = none) (free : (traces task).idleLock = false)
    (owed : (traces task).owed.isSome = true) :
    state.history.ledger.holders = served traces state ++ state.idleLock.waiters ++ [task] := by
  obtain ⟨late, line, last⟩ := lined.line
  have alone : ∀ other ∈ late, other = task := by
    intro other member
    by_contra different
    have gone := others other different (last other member).1
    have holder : other ∈ state.history.ledger.holders := by
      rw [line]
      exact List.mem_append_right _ member
    rw [lined.mem_holders, gone] at holder
    cases holder
  have member : task ∈ late := by
    have holder := lined.mem_holders.mpr owed
    rw [line] at holder
    rcases List.mem_append.mp holder with earlier | late
    · rcases List.mem_append.mp earlier with turn | waits
      · have holds := (List.mem_filter.mp turn).1
        rw [Option.mem_toList, ← lined.held, free] at holds
        cases holds
      · rw [lined.waiting, running] at waits
        cases waits
    · exact late
  have distinct : late.Nodup := by
    have nodup := lined.nodup
    rw [line] at nodup
    exact nodup.of_append_right
  rw [line]
  congr 1
  rw [List.eq_replicate_of_mem alone] at distinct member ⊢
  have short : late.length = 1 := by
    have atMost := List.nodup_replicate.mp distinct
    have some := List.length_pos_of_mem member
    rw [List.length_replicate] at some
    omega
  rw [short]
  rfl

/-- Nothing that the queue looks at changes. -/
theorem same (lined : Lined traces waits state) {traces' : TaskId → Trace}
    {waits' : TaskId → Option Wait} {state' : State}
    (locks : ∀ task, (traces' task).idleLock = (traces task).idleLock)
    (debts : ∀ task, (traces' task).owed = (traces task).owed)
    (stops : ∀ task, waits' task = waits task ∨ (traces task).owed = none ∧
      waits task ≠ some .idleLock ∧ waits' task ≠ some .idleLock)
    (lock : state'.idleLock = state.idleLock)
    (ledger : state'.history.ledger = state.history.ledger)
    (manager : state'.idleManager = none → state.idleManager = none) :
    Lined traces' waits' state' where
  held task := by rw [locks, lock, lined.held]
  waiting task := by
    rw [lock, lined.waiting]
    rcases stops task with same | ⟨-, before, after⟩
    · rw [same]
    · exact iff_of_false before after
  owed task added := by rw [debts, ledger, lined.owed]
  nodup := by rw [ledger]; exact lined.nodup
  line := by
    obtain ⟨late, line, last⟩ := lined.line
    refine ⟨late, ?_, fun task member => ?_⟩
    · simpa only [served, debts, lock, ledger] using line
    · have holder : task ∈ state.history.ledger.holders := by
        rw [line]
        exact List.mem_append_right _ member
      rcases stops task with same | ⟨paid, -⟩
      · exact ⟨same.trans (last task member).1, (locks task).trans (last task member).2⟩
      · rw [lined.mem_holders, paid] at holder
        cases holder
  uninstalled gone := by
    rw [ledger, lock]
    exact lined.uninstalled (manager gone)

/-! ## Entries -/

/-- What a changed trace of one task means for the queue of the other tasks. -/
theorem served_assign {g : Trace} {state' : State}
    (lock : state'.idleLock.holder = state.idleLock.holder)
    (elsewhere : state.idleLock.holder ≠ some task) :
    served (assign traces task g) state' = served traces state := by
  unfold served
  rw [lock]
  refine List.filter_congr fun other member => ?_
  rw [assign_of_ne]
  rintro rfl
  exact elsewhere (Option.mem_toList.mp member)

/-- The running task enters the ledger. -/
theorem enter (lined : Lined traces waits state) (running : waits task = none)
    (free : (traces task).idleLock = false) (paid : (traces task).owed = none) {g : Trace}
    {added : Bool} (open' : g.owed = some added) (free' : g.idleLock = false) {state' : State}
    (lock : state'.idleLock = state.idleLock)
    (ledger : state'.history.ledger = state.history.ledger.enter task added)
    (installed : state'.idleManager ≠ none) : Lined (assign traces task g) waits state' where
  held := forall_assign (P := fun other (g : Trace) => g.idleLock = true ↔ _ = some other)
    (by rw [lock, ← lined.held, free, free']) fun other _ => by rw [lock, lined.held]
  waiting := by rw [lock]; exact lined.waiting
  owed := by
    intro other entry
    rw [ledger]
    refine forall_assign (P := fun other (g : Trace) =>
      (other, entry) ∈ state.history.ledger.enter task added ↔ g.owed = some entry) ?_ ?_ other
    · simp [Ledger.enter, lined.owed, paid, open', eq_comm]
    · intro other different
      simp [Ledger.enter, lined.owed, different]
  nodup := by
    rw [ledger, Ledger.holders_enter]
    refine lined.nodup.append (List.nodup_singleton task) ?_
    rintro other member ⟨⟩
    · rw [lined.mem_holders, paid] at member
      cases member
    · contradiction
  line := by
    obtain ⟨late, line, last⟩ := lined.line
    have elsewhere : state.idleLock.holder ≠ some task := by
      rw [ne_eq, ← lined.held, free]
      exact Bool.false_ne_true
    refine ⟨late ++ [task], ?_, fun other member => ?_⟩
    · rw [ledger, Ledger.holders_enter, line, served_assign (congrArg _ lock) elsewhere, lock]
      exact List.append_assoc _ _ _
    · rcases List.mem_append.mp member with earlier | now
      · refine ⟨(last other earlier).1, ?_⟩
        exact forall_assign (P := fun other (g : Trace) => other ∈ late → g.idleLock = false)
          (fun _ => free') (fun other _ earlier => (last other earlier).2) other earlier
      · obtain rfl := List.mem_singleton.mp now
        exact ⟨running, by rwa [assign_self]⟩
  uninstalled gone := absurd gone installed

/-- The holder settles its entry, which is the oldest. -/
theorem settle (lined : Lined traces waits state) (held : (traces task).idleLock = true)
    (owes : (traces task).owed.isSome = true) {g : Trace} (paid : g.owed = none)
    (held' : g.idleLock = true) {state' : State} (lock : state'.idleLock = state.idleLock)
    (ledger : state'.history.ledger = state.history.ledger.settle task)
    (installed : state'.idleManager ≠ none) : Lined (assign traces task g) waits state' := by
  obtain ⟨added, owed⟩ := Option.isSome_iff_exists.mp owes
  obtain ⟨rest, split⟩ := lined.first held owed
  have holder := (lined.held task).mp held
  rw [split, Ledger.settle_cons] at ledger
  have nodup := lined.nodup
  rw [split] at nodup
  obtain ⟨absent, distinct⟩ := List.nodup_cons.mp nodup
  constructor
  case held =>
    exact forall_assign (P := fun other (g : Trace) => g.idleLock = true ↔ _ = some other)
      (by rw [lock, holder, held', eq_self, eq_self]) fun other _ => by rw [lock, lined.held]
  case waiting =>
    rw [lock]
    exact lined.waiting
  case owed =>
    intro other entry
    rw [ledger]
    refine forall_assign (P := fun other (g : Trace) =>
      (other, entry) ∈ rest ↔ g.owed = some entry) ?_ (fun other different => ?_) other
    · refine iff_of_false (fun member => absent ?_) (by rw [paid]; nofun)
      exact List.mem_map.mpr ⟨_, member, rfl⟩
    · rw [← lined.owed, split, List.mem_cons, Prod.mk.injEq]
      exact ⟨.inr, fun member => member.resolve_left fun same => different same.1⟩
  case nodup =>
    rw [ledger]
    exact distinct
  case line =>
    obtain ⟨late, line, last⟩ := lined.line
    have before : served traces state = [task] := by simp [served, holder, owed]
    have after : served (assign traces task g) state' = [] := by
      simp [served, lock, holder, paid]
    refine ⟨late, ?_, fun other member => ⟨(last other member).1, ?_⟩⟩
    · rw [split, before] at line
      rw [ledger, after, lock]
      exact (List.cons.inj line).2
    · rw [assign_of_ne]
      · exact (last other member).2
      · rintro rfl
        rw [(last other member).2] at held
        cases held
  case uninstalled => exact fun gone => absurd gone installed

/-! ## The lock -/

/-- The holder, with no entry left, releases the lock. -/
theorem release (lined : Lined traces waits state) (held : (traces task).idleLock = true)
    (paid : (traces task).owed = none) {g : Trace} (free : g.idleLock = false)
    (paid' : g.owed = none) {state' : State}
    (lock : state'.idleLock = state.idleLock.release)
    (ledger : state'.history.ledger = state.history.ledger)
    (manager : state'.idleManager = state.idleManager) :
    Lined (assign traces task g) waits state' := by
  have holder := (lined.held task).mp held
  constructor
  case held =>
    refine forall_assign (P := fun other (g : Trace) => g.idleLock = true ↔ _ = some other) ?_ ?_
    · exact iff_of_false (by rw [free]; nofun) (by rw [lock]; nofun)
    · intro other different
      refine iff_of_false ?_ (by rw [lock]; nofun)
      rw [lined.held, holder]
      exact fun same => different (Option.some.inj same).symm
  case waiting =>
    rw [lock]
    exact lined.waiting
  case owed =>
    intro other entry
    rw [ledger]
    exact forall_assign (P := fun other (g : Trace) =>
      (other, entry) ∈ state.history.ledger ↔ g.owed = some entry)
      (by rw [lined.owed, paid, paid']) (fun other _ => lined.owed other entry) other
  case nodup =>
    rw [ledger]
    exact lined.nodup
  case line =>
    obtain ⟨late, line, last⟩ := lined.line
    have before : served traces state = [] := by simp [served, holder, paid]
    refine ⟨late, ?_, fun other member => ⟨(last other member).1, ?_⟩⟩
    · rw [before] at line
      have after : served (assign traces task g) state' = [] := by
        simp [served, lock, FifoLock.release]
      rw [ledger, line, after, lock]
      rfl
    · exact forall_assign (P := fun other (g : Trace) => other ∈ late → g.idleLock = false)
        (fun _ => free) (fun other _ member => (last other member).2) other member
  case uninstalled =>
    intro gone
    obtain ⟨empty, idle⟩ := lined.uninstalled (manager.symm.trans gone)
    rw [ledger, lock]
    exact ⟨empty, rfl, idle.2⟩

/-- The running task with its entry takes the lock. -/
theorem take (lined : Lined traces waits state) (others : OthersWait task traces waits)
    (running : waits task = none) (free : (traces task).idleLock = false)
    (owes : (traces task).owed.isSome = true) {g : Trace} (held : g.idleLock = true)
    (owed : g.owed = (traces task).owed) (idle : state.idleLock.Idle) {state' : State}
    (lock : state'.idleLock = ⟨some task, []⟩)
    (ledger : state'.history.ledger = state.history.ledger)
    (manager : state'.idleManager = state.idleManager) :
    Lined (assign traces task g) waits state' := by
  have line := lined.last others running free owes
  have before : served traces state = [] := by simp [served, idle.1]
  constructor
  case held =>
    refine forall_assign (P := fun other (g : Trace) => g.idleLock = true ↔ _ = some other) ?_ ?_
    · exact iff_of_true held (by rw [lock])
    · intro other different
      rw [lined.held, idle.1, lock]
      exact iff_of_false nofun fun same => different (Option.some.inj same).symm
  case waiting =>
    intro other
    rw [← lined.waiting, lock, idle.2]
  case owed =>
    intro other entry
    rw [ledger]
    exact forall_assign (P := fun other (g : Trace) =>
      (other, entry) ∈ state.history.ledger ↔ g.owed = some entry)
      (by rw [lined.owed, owed]) (fun other _ => lined.owed other entry) other
  case nodup =>
    rw [ledger]
    exact lined.nodup
  case line =>
    refine ⟨[], ?_, nofun⟩
    rw [before, idle.2] at line
    rw [ledger, line]
    simp [served, lock, owed, owes]
  case uninstalled =>
    intro gone
    obtain ⟨empty, -⟩ := lined.uninstalled (manager.symm.trans gone)
    have holder := lined.mem_holders.mpr owes
    rw [empty] at holder
    cases holder

/-- The running task with its entry joins the queue. -/
theorem queue (lined : Lined traces waits state) (others : OthersWait task traces waits)
    (running : waits task = none) (free : (traces task).idleLock = false)
    (owes : (traces task).owed.isSome = true) {state' : State}
    (lock : state'.idleLock = ⟨state.idleLock.holder, state.idleLock.waiters ++ [task]⟩)
    (ledger : state'.history.ledger = state.history.ledger)
    (manager : state'.idleManager = state.idleManager) :
    Lined traces (assign waits task (some .idleLock)) state' := by
  have line := lined.last others running free owes
  constructor
  case held =>
    rw [lock]
    exact lined.held
  case waiting =>
    intro other
    rw [lock, List.mem_append, List.mem_singleton, lined.waiting]
    refine forall_assign (P := fun other (wait : Option Wait) =>
      waits other = _ ∨ other = task ↔ wait = _) ?_ ?_ other
    · exact iff_of_true (.inr rfl) rfl
    · exact fun other different => or_iff_left different
  case owed =>
    rw [ledger]
    exact lined.owed
  case nodup =>
    rw [ledger]
    exact lined.nodup
  case line =>
    refine ⟨[], ?_, nofun⟩
    rw [ledger, line]
    simp [served, lock]
  case uninstalled =>
    intro gone
    obtain ⟨empty, -⟩ := lined.uninstalled (manager.symm.trans gone)
    have holder := lined.mem_holders.mpr owes
    rw [empty] at holder
    cases holder

/-- The first waiter gets the free lock. -/
theorem grant (lined : Lined traces waits state) (waiting : waits task = some .idleLock)
    (owes : (traces task).owed.isSome = true) {g : Trace} (held : g.idleLock = true)
    (owed : g.owed = (traces task).owed) {rest : List TaskId}
    (free : state.idleLock.holder = none) (line : state.idleLock.waiters = task :: rest)
    {state' : State} (lock : state'.idleLock = ⟨some task, rest⟩)
    (ledger : state'.history.ledger = state.history.ledger)
    (manager : state'.idleManager = state.idleManager) :
    Lined (assign traces task g) (assign waits task none) state' := by
  obtain ⟨late, order, last⟩ := lined.line
  have before : served traces state = [] := by simp [served, free]
  have after : served (assign traces task g) state' = [task] := by
    simp [served, lock, owed, owes]
  have absent : task ∉ rest := by
    have nodup := lined.nodup
    rw [order, before, line] at nodup
    exact (List.nodup_cons.mp nodup.of_append_left).1
  constructor
  case held =>
    refine forall_assign (P := fun other (g : Trace) => g.idleLock = true ↔ _ = some other) ?_ ?_
    · exact iff_of_true held (by rw [lock])
    · intro other different
      rw [lined.held, free, lock]
      exact iff_of_false nofun fun same => different (Option.some.inj same).symm
  case waiting =>
    intro other
    rw [lock]
    refine forall_assign (P := fun other (wait : Option Wait) =>
      other ∈ rest ↔ wait = some .idleLock) ?_ ?_ other
    · exact iff_of_false absent nofun
    · intro other different
      rw [← lined.waiting, line, List.mem_cons, or_iff_right different]
  case owed =>
    intro other entry
    rw [ledger]
    exact forall_assign (P := fun other (g : Trace) =>
      (other, entry) ∈ state.history.ledger ↔ g.owed = some entry)
      (by rw [lined.owed, owed]) (fun other _ => lined.owed other entry) other
  case nodup =>
    rw [ledger]
    exact lined.nodup
  case line =>
    have elsewhere : ∀ other ∈ late, other ≠ task := by
      rintro other member rfl
      rw [(last other member).1] at waiting
      cases waiting
    refine ⟨late, ?_, fun other member => ?_⟩
    · rw [ledger, order, before, line, after, lock]
      rfl
    · rw [assign_of_ne _ (elsewhere other member), assign_of_ne _ (elsewhere other member)]
      exact last other member
  case uninstalled =>
    intro gone
    obtain ⟨-, -, empty⟩ := lined.uninstalled (manager.symm.trans gone)
    rw [line] at empty
    cases empty

end Lined

/-! ## Blocks -/

/-- A block that neither counts nor owes leaves the queue alone. -/
def Act.counts : Act → Bool
  | removeRuntimeConnection _ | addRuntimeConnection _ | disconnect _ | sweepConnection _ _
  | installIdleManager _ | increment | clearTimer | decrement _ | releaseIdleLock => true
  | _ => false

theorem exec_uncounted {a : Act} (plain : a.counts = false) (task : TaskId) (s : State) :
    (State.exec task a s).2.idleLock = s.idleLock ∧
      (State.exec task a s).2.history.ledger = s.history.ledger ∧
        (State.exec task a s).2.idleManager = s.idleManager := by
  cases a with
  | removeRuntimeConnection _ | addRuntimeConnection _ | disconnect _ | sweepConnection _ _
  | installIdleManager _ | increment | clearTimer | decrement _ | releaseIdleLock => cases plain
  | _ => exact ⟨rfl, rfl, rfl⟩

theorem after_uncounted {a : Act} (plain : a.counts = false) (v : a.Val) (g : Trace) :
    (a.after v g).idleLock = g.idleLock ∧ (a.after v g).owed = g.owed := by
  unfold Act.after
  split <;> first | exact ⟨rfl, rfl⟩ | cases plain

/-- What a block that adds or removes a connection enters, as the task then owes it. -/
structure Enters (task : TaskId) (owed : Option Bool) (s s' : State) : Prop where
  lock : s'.idleLock = s.idleLock
  manager : s'.idleManager = s.idleManager
  ledger : s'.history.ledger =
    match owed with
    | none => s.history.ledger
    | some added => s.history.ledger.enter task added
  installed : owed.isSome = true → s.idleManager ≠ none

namespace Enters

variable {task : TaskId} {s : State}

theorem nothing (runtime : GatewayRuntime) :
    Enters task none s { s with runtime := runtime } :=
  ⟨rfl, rfl, rfl, nofun⟩

theorem owes (runtime : GatewayRuntime) (added : Bool) :
    Enters task (owing (State.owes { s with runtime := runtime } task added).1 added) s
      (State.owes { s with runtime := runtime } task added).2 := by
  unfold State.owes
  split
  · rename_i installed
    exact ⟨rfl, rfl, rfl, fun _ => Option.isSome_iff_ne_none.mp installed⟩
  · exact nothing runtime

theorem removeRuntimeConnection (connectionId : String) :
    Enters task (owing (s.removeRuntimeConnection task connectionId).1.2 false) s
      (s.removeRuntimeConnection task connectionId).2 := by
  unfold State.removeRuntimeConnection
  dsimp only
  split
  · exact owes _ false
  · exact nothing _

theorem addRuntimeConnection (ctx : ConnectionContext) :
    Enters task (owing (s.addRuntimeConnection task ctx).1 true) s
      (s.addRuntimeConnection task ctx).2 :=
  owes _ true

theorem disconnect (connectionId : String) :
    Enters task (owing ((s.disconnect task connectionId).1.toOption.any Prod.snd) false) s
      (s.disconnect task connectionId).2 := by
  unfold State.disconnect
  dsimp only
  split
  · exact nothing _
  · exact nothing _
  · split
    · exact owes _ false
    · exact nothing _

theorem sweepConnection (conn : ConnectionContext) (now : Int) :
    Enters task (owing (s.sweepConnection task conn now).1 false) s
      (s.sweepConnection task conn now).2 := by
  unfold State.sweepConnection
  split
  · split
    · exact nothing _
    · exact owes _ false
  · exact nothing s.runtime

/-- A task that owes nothing and adds or removes a connection. -/
theorem lined {traces : TaskId → Trace} {waits : TaskId → Option Wait} {s' : State}
    {owed : Option Bool} (enters : Enters task owed s s') (lined : Lined traces waits s)
    (running : waits task = none) (paid : (traces task).Paid) {g : Trace}
    (lock : g.idleLock = (traces task).idleLock) (debt : g.owed = owed) :
    Lined (assign traces task g) waits s' := by
  cases owed with
  | none =>
      refine lined.same (fun other => ?_) (fun other => ?_) (fun _ => .inl rfl) enters.lock
        enters.ledger (fun gone => enters.manager.symm.trans gone)
      · exact forall_assign (P := fun other (g : Trace) => g.idleLock = (traces other).idleLock)
          lock (fun _ _ => rfl) other
      · exact forall_assign (P := fun other (g : Trace) => g.owed = (traces other).owed)
          (debt.trans paid.owed.symm) (fun _ _ => rfl) other
  | some added =>
      exact lined.enter running paid.idleLock paid.owed debt (lock.trans paid.idleLock)
        enters.lock enters.ledger (enters.manager.symm ▸ enters.installed rfl)

end Enters

/-- An increment settles an entry and keeps the lock. -/
theorem increment_settles (task : TaskId) {s : State} (installed : s.idleManager ≠ none) :
    (s.increment task).2.idleLock = s.idleLock ∧
      (s.increment task).2.history.ledger = s.history.ledger.settle task ∧
        (s.increment task).2.idleManager ≠ none := by
  unfold State.increment
  split
  · contradiction
  · dsimp only
    split <;> exact ⟨rfl, rfl, nofun⟩

theorem decrement_settles (task : TaskId) {s : State} (installed : s.idleManager ≠ none) :
    (s.decrement task).2.idleLock = s.idleLock ∧
      (s.decrement task).2.history.ledger = s.history.ledger.settle task ∧
        (s.decrement task).2.idleManager ≠ none := by
  unfold State.decrement
  dsimp only
  split
  · contradiction
  · rename_i manager found
    split
    · exact ⟨rfl, rfl, by rw [found]; nofun⟩
    · split <;> exact ⟨rfl, rfl, nofun⟩

/-- A decrement counts unless there is nothing to count. -/
theorem decrement_counts {task : TaskId} {s : State} {manager : IdleShutdownManager}
    (installed : s.idleManager = some manager) :
    (s.decrement task).1 = (manager.connectionCount != 0) := by
  unfold State.decrement
  rw [installed]
  cases count : manager.connectionCount with
  | zero =>
      dsimp only
      rw [count]
      rfl
  | succ rest =>
      dsimp only
      rw [count]
      dsimp only
      split <;> rfl

/-- Installing the manager starts with an empty ledger and a new lock. -/
theorem installIdleManager_fresh (task : TaskId) {s : State} (shutdownDisabled : Bool)
    (gone : s.idleManager = none) (empty : s.history.ledger = []) (idle : s.idleLock.Idle) :
    (s.installIdleManager task shutdownDisabled).idleLock = s.idleLock ∧
      (s.installIdleManager task shutdownDisabled).history.ledger = [] ∧
        ∃ manager, (s.installIdleManager task shutdownDisabled).idleManager = some manager ∧
          manager.connectionCount = 0 := by
  have same : s.idleLock = {} := by
    cases lock : s.idleLock with
    | mk holder waiters =>
        rw [lock] at idle
        obtain ⟨rfl, rfl⟩ := idle
        rfl
  unfold State.installIdleManager
  rw [gone, same]
  dsimp only
  split
  · exact ⟨rfl, empty, _, rfl, rfl⟩
  · rename_i enabled
    simp [State.increment, State.decrement, enabled, empty, Ledger.settle]

/-! ## The queue over runs -/

theorem lined_executed {traces : TaskId → Trace} {waits : TaskId → Option Wait} {state : State}
    {task : TaskId} {a : Act} (lined : Lined traces waits state) (running : waits task = none)
    (may : a.may (traces task)) :
    Lined (assign traces task (a.after (State.exec task a state).1 (traces task))) waits
      (State.exec task a state).2 := by
  have installed (owes : (traces task).owed.isSome = true) : state.idleManager ≠ none := by
    intro gone
    have holder := lined.mem_holders.mpr owes
    rw [(lined.uninstalled gone).1] at holder
    cases holder
  have idle (g : Trace) (state' : State) (lock : g.idleLock = (traces task).idleLock)
      (debt : g.owed = (traces task).owed) (frame : state'.idleLock = state.idleLock ∧
        state'.history.ledger = state.history.ledger ∧
          (state'.idleManager = none → state.idleManager = none)) :
      Lined (assign traces task g) waits state' :=
    lined.same
      (forall_assign (P := fun other (g : Trace) => g.idleLock = (traces other).idleLock) lock
        fun _ _ => rfl)
      (forall_assign (P := fun other (g : Trace) => g.owed = (traces other).owed) debt
        fun _ _ => rfl)
      (fun _ => .inl rfl) frame.1 frame.2.1 frame.2.2
  have plainly (plain : a.counts = false) :
      Lined (assign traces task (a.after (State.exec task a state).1 (traces task))) waits
        (State.exec task a state).2 := by
    have frame := exec_uncounted plain task state
    have still := after_uncounted plain (State.exec task a state).1 (traces task)
    exact idle _ _ still.1 still.2 ⟨frame.1, frame.2.1, fun gone => frame.2.2.symm.trans gone⟩
  cases a with
  | removeRuntimeConnection connectionId =>
      exact (Enters.removeRuntimeConnection connectionId).lined lined running may rfl rfl
  | addRuntimeConnection ctx =>
      exact (Enters.addRuntimeConnection ctx).lined lined running may.1 rfl rfl
  | disconnect connectionId =>
      exact (Enters.disconnect connectionId).lined lined running may rfl rfl
  | sweepConnection conn now =>
      exact (Enters.sweepConnection conn now).lined lined running may rfl rfl
  | installIdleManager shutdownDisabled =>
      cases found : state.idleManager with
      | some manager =>
          refine idle _ _ rfl rfl ?_
          simp [State.exec, State.installIdleManager, found]
      | none =>
          obtain ⟨empty, unlocked⟩ := lined.uninstalled found
          have fresh := installIdleManager_fresh task shutdownDisabled
            found empty unlocked
          exact idle _ _ rfl rfl ⟨fresh.1, fresh.2.1.trans empty.symm, fun _ => found⟩
  | increment =>
      obtain ⟨owed, held⟩ := may
      have owes : (traces task).owed.isSome = true := by rw [owed]; rfl
      obtain ⟨lock, ledger, still⟩ := increment_settles task (installed owes)
      refine lined.settle held owes ?_ ?_ lock ledger still
      · rfl
      · exact held
  | decrement retired =>
      obtain ⟨owed, held, -⟩ := may
      have owes : (traces task).owed.isSome = true := by rw [owed]; rfl
      obtain ⟨lock, ledger, still⟩ := decrement_settles task (installed owes)
      refine lined.settle held owes ?_ ?_ lock ledger still
      · rfl
      · exact held
  | clearTimer => exact idle _ _ rfl rfl ⟨rfl, rfl, Option.map_eq_none_iff.mp⟩
  | releaseIdleLock =>
      refine lined.release may.2 may.1 ?_ ?_ rfl rfl rfl
      · rfl
      · exact may.1
  | _ => exact plainly rfl

theorem Wait.may.owed {w : Wait} {g : Trace} (may : w.may g) (elsewhere : w ≠ .idleLock) :
    g.owed = none := by
  cases w with
  | idleLock => contradiction
  | _ => exact may

theorem Wait.woken_elsewhere {w : Wait} (elsewhere : w ≠ .idleLock) (r : Option w.Res)
    (g : Trace) : (w.woken r g).idleLock = g.idleLock := by
  cases w with
  | idleLock => contradiction
  | _ => cases r <;> rfl

theorem lined_keeps (ok : Guard (world platform)) :
    (discipline platform).Keeps ok Steady fun v => Lined v.traces v.waits v.state where
  admitted v task request state _ lined _ idle _ _ accepted := by
    obtain ⟨_, _, _, rfl⟩ :=
      State.accept_frame (show State.accept task request v.state = some state from accepted)
    refine lined.same ?_ ?_ (fun _ => .inl rfl) rfl rfl id
    · refine forall_assign (P := fun other (g : Trace) => g.idleLock = (v.traces other).idleLock)
        ?_ fun _ _ => rfl
      rw [idle]
      cases request <;> rfl
    · refine forall_assign (P := fun other (g : Trace) => g.owed = (v.traces other).owed)
        ?_ fun _ _ => rfl
      rw [idle]
      cases request <;> rfl
  executed v task a _ lined _ running _ may := lined_executed lined running may
  passed v task w result state _ lined stable running _ may entered := by
    by_cases lock : w = .idleLock
    · subst lock
      obtain ⟨_, taken, rfl⟩ := State.enter_taken entered
      obtain ⟨idle, lock⟩ := FifoLock.arrive_taken taken
      refine lined.take (othersWait stable) running may.1 may.2 ?_ ?_ idle lock rfl rfl
      · rfl
      · rfl
    · obtain rfl := State.enter_elsewhere lock entered
      refine lined.same ?_ ?_ (fun _ => .inl rfl) rfl rfl id
      · exact forall_assign (P := fun other (g : Trace) =>
          g.idleLock = (v.traces other).idleLock) (Wait.woken_elsewhere lock _ _) fun _ _ => rfl
      · exact forall_assign (P := fun other (g : Trace) => g.owed = (v.traces other).owed)
          (sameDebts_woken w _ _).owed fun _ _ => rfl
  suspended v task w state _ lined stable running _ may entered := by
    by_cases lock : w = .idleLock
    · subst lock
      obtain ⟨_, queued, rfl⟩ := State.enter_queued entered
      have lock := FifoLock.arrive_queued queued
      exact lined.queue (othersWait stable) running may.1 may.2 lock rfl rfl
    · obtain rfl := State.enter_elsewhere lock entered
      refine lined.same (fun _ => rfl) (fun _ => rfl) ?_ rfl rfl id
      refine forall_assign (P := fun other wait => wait = v.waits other ∨ _ ∧ _ ∧ wait ≠ _) ?_
        fun _ _ => .inl rfl
      refine .inr ⟨may.owed lock, ?_, fun same => lock (Option.some.inj same)⟩
      rw [running]
      nofun
  woken v task w outcome state steady lined _ waiting may _ ended := by
    by_cases lock : w = .idleLock
    · subst lock
      cases outcome with
      | error exc => cases ended
      | ok _ =>
          obtain ⟨next, granted, rfl⟩ := Option.map_eq_some_iff.mp ended
          obtain ⟨free, rest, line, lock⟩ := FifoLock.grant_eq_some granted
          refine lined.grant waiting may.2 ?_ ?_ free line lock rfl rfl
          · rfl
          · rfl
    · obtain ⟨timers, rfl⟩ := State.wake_elsewhere lock ended
      refine lined.same ?_ ?_ ?_ rfl rfl id
      · exact forall_assign (P := fun other (g : Trace) =>
          g.idleLock = (v.traces other).idleLock) (Wait.woken_elsewhere lock _ _) fun _ _ => rfl
      · exact forall_assign (P := fun other (g : Trace) => g.owed = (v.traces other).owed)
          (sameDebts_woken w _ _).owed fun _ _ => rfl
      · refine forall_assign (P := fun other wait => wait = v.waits other ∨ _ ∧ _ ∧ wait ≠ _) ?_
          fun _ _ => .inl rfl
        refine .inr ⟨may.owed lock, ?_, nofun⟩
        rw [waiting]
        exact fun same => lock (Option.some.inj same)
  lapsed v task w limit state _ _ _ _ _ _ _ ended := nomatch ended
  finished v task steady lined _ _ _ done := by
    have paid : (v.traces task).Paid := done.resolve_left (by rw [steady task]; exact Bool.false_ne_true)
    refine lined.same ?_ ?_ (fun _ => .inl rfl) rfl rfl id
    · exact forall_assign (P := fun other (g : Trace) => g.idleLock = (v.traces other).idleLock)
        paid.idleLock.symm fun _ _ => rfl
    · exact forall_assign (P := fun other (g : Trace) => g.owed = (v.traces other).owed)
        paid.owed.symm fun _ _ => rfl

end Gateway

end Tela
