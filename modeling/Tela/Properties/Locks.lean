import Tela.Shell.Disciplined
import Tela.Shell.Effects

/-!
# Lock holders and lock queues

In every run the holder of a lock is the one task whose trace says so, and a lock
queues exactly the tasks that wait for it.
-/

namespace Tela

open Coop

/-- The task is between acquiring and releasing the lock. -/
def Trace.Holds (g : Trace) : LockName → Prop
  | .registry => g.registry = true
  | .recovery lock => ∃ server, g.recovery = some ⟨server, lock, true⟩

/-- Lock holders and queues fit the traces and the pending waits. -/
structure LocksFit (v : Watched world Trace) : Prop where
  holder : ∀ lock task, (v.state.locks lock).holder = some task ↔ (v.traces task).Holds lock
  waiters : ∀ lock task,
    task ∈ (v.state.locks lock).waiters ↔ v.waits task = some (.acquire lock)
  nodup : ∀ lock, (v.state.locks lock).waiters.Nodup

/-! ## How traces gain and lose locks -/

theorem holds_after {a : Act} {g : Trace} (may : a.may g) (kept : a.writesLocks = false)
    (v : a.Val) (lock : LockName) : (a.after v g).Holds lock ↔ g.Holds lock := by
  cases a with
  | release lock => cases kept
  | fetchRecoveryLock serverName =>
      cases lock with
      | registry => exact Iff.rfl
      | recovery lock =>
          refine iff_of_false ?_ ?_
          · rintro ⟨server, same⟩
            cases same
          · rintro ⟨server, same⟩
            rw [may.2] at same
            cases same
  | getRuntimeConfig =>
      change Trace.Holds (if g.role = .reload then { g with config := some v } else g) lock ↔ _
      split <;> cases lock <;> exact Iff.rfl
  | _ => cases lock <;> exact Iff.rfl

theorem holds_release {g : Trace} {lock : LockName} (may : (Act.release lock).may g)
    (other : LockName) :
    ((Act.release lock).after () g).Holds other ↔ g.Holds other ∧ other ≠ lock := by
  cases lock with
  | registry =>
      cases other with
      | registry => exact iff_of_false nofun fun h => h.2 rfl
      | recovery id => exact (and_iff_left nofun).symm
  | recovery id =>
      obtain ⟨server, held⟩ := may
      cases other with
      | registry => exact (and_iff_left nofun).symm
      | recovery other =>
          refine iff_of_false nofun ?_
          rintro ⟨⟨_, same⟩, different⟩
          rw [held] at same
          cases same
          exact different rfl

theorem holds_woken {w : Wait} {g : Trace} (may : w.may g) (r : Option w.Res)
    (lock : LockName) :
    (w.woken r g).Holds lock ↔ g.Holds lock ∨ (w = .acquire lock ∧ r.isSome = true) := by
  cases w with
  | acquire taken =>
      cases taken with
      | registry =>
          cases r <;> cases lock <;> simp [Wait.woken, Trace.Holds, Trace.locked, Trace.interrupt]
      | recovery id =>
          obtain ⟨⟨server, fetched⟩, -⟩ := may
          cases r <;> cases lock <;> simp [Wait.woken, Trace.Holds, fetched]
  | listTools session =>
      cases r <;> cases lock <;> simp [Wait.woken, Trace.Holds]
  | _ => cases lock <;> simp [Wait.woken, Trace.Holds]

theorem Trace.Done.not_holds {g : Trace} (done : g.Done) (lock : LockName) : ¬ g.Holds lock := by
  cases lock with
  | registry =>
      intro held
      exact Bool.noConfusion (done.registry.symm.trans held)
  | recovery id =>
      rintro ⟨server, held⟩
      exact Bool.noConfusion (done.recovery _ held)

theorem Req.begin_not_holds (request : Req) (lock : LockName) : ¬ request.begin.Holds lock := by
  cases request <;> cases lock <;> nofun

theorem idle_not_holds (lock : LockName) : ¬ discipline.idle.Holds lock := by
  cases lock <;> nofun

/-! ## The invariant -/

namespace LocksFit

variable {v : Watched world Trace} {task other : TaskId} {lock : LockName}

/-- At most one task holds a lock. -/
theorem unique (fit : LocksFit v) (lock : LockName) (first : (v.traces task).Holds lock)
    (second : (v.traces other).Holds lock) : task = other := by
  have held := (fit.holder lock task).mpr first
  rw [(fit.holder lock other).mpr second] at held
  exact (Option.some.inj held).symm

/-- An idle lock is neither held nor waited for. -/
theorem not_holds_of_idle (fit : LocksFit v) (idle : (v.state.locks lock).Idle)
    (task : TaskId) : ¬ (v.traces task).Holds lock := by
  intro held
  rw [← fit.holder, idle.1] at held
  cases held

/-- One trace changes and the locks do not. -/
theorem retrace (fit : LocksFit v) {g : Trace} {state : State}
    (locks : state.locks = v.state.locks)
    (holds : ∀ lock, g.Holds lock ↔ (v.traces task).Holds lock) :
    LocksFit ⟨assign v.traces task g, v.waits, state⟩ where
  holder lock other := by
    by_cases same : other = task
    · subst same
      simp only [assign_self, holds, locks]
      exact fit.holder lock other
    · simp only [assign_of_ne _ same, locks]
      exact fit.holder lock other
  waiters lock other := by
    simp only [locks]
    exact fit.waiters lock other
  nodup lock := by
    simp only [locks]
    exact fit.nodup lock

/-- A task that waits for no lock starts or ends its wait. -/
theorem rewait (fit : LocksFit v) {w : Option Wait}
    (before : ∀ lock, v.waits task ≠ some (.acquire lock))
    (after : ∀ lock, w ≠ some (.acquire lock)) :
    LocksFit ⟨v.traces, assign v.waits task w, v.state⟩ where
  holder := fit.holder
  waiters lock other := by
    by_cases same : other = task
    · subst same
      simp only [assign_self]
      rw [fit.waiters]
      exact iff_of_false (before lock) (after lock)
    · simp only [assign_of_ne _ same]
      exact fit.waiters lock other
  nodup := fit.nodup

theorem released (fit : LocksFit v) (may : (Act.release lock).may (v.traces task)) :
    LocksFit ⟨assign v.traces task ((Act.release lock).after () (v.traces task)), v.waits,
      v.state.updateLock lock (v.state.locks lock).release⟩ where
  holder other client := by
    have held : (v.state.locks lock).holder = some task := by
      rw [fit.holder]
      cases lock with
      | registry => exact may
      | recovery id => exact may
    by_cases same : other = lock
    · subst same
      refine iff_of_false (by simp [State.updateLock, FifoLock.release]) fun holds => ?_
      by_cases self : client = task
      · subst self
        simp only [assign_self] at holds
        exact ((holds_release may other).mp holds).2 rfl
      · simp only [assign_of_ne _ self] at holds
        rw [← fit.holder, held] at holds
        exact self (Option.some.inj holds).symm
    · simp only [State.updateLock, if_neg same]
      rw [fit.holder]
      by_cases self : client = task
      · subst self
        simp only [assign_self]
        rw [holds_release may]
        exact (and_iff_left same).symm
      · simp only [assign_of_ne _ self]
  waiters other client := by
    rw [← fit.waiters]
    by_cases same : other = lock
    · subst same
      simp [State.updateLock, FifoLock.release]
    · simp [State.updateLock, same]
  nodup other := by
    by_cases same : other = lock
    · subst same
      simpa [State.updateLock, FifoLock.release] using fit.nodup other
    · simpa [State.updateLock, same] using fit.nodup other

/-- A free lock gets its next holder, which leaves the queue. -/
theorem granted (fit : LocksFit v) {rest : List TaskId} {r : Option (Wait.acquire lock).Res}
    {waits : TaskId → Option Wait} (may : (Wait.acquire lock).may (v.traces task))
    (taken : r.isSome = true) (free : (v.state.locks lock).holder = none)
    (nodup : rest.Nodup)
    (queue : ∀ other, other ∈ rest ↔ waits other = some (.acquire lock))
    (elsewhere : ∀ different, different ≠ lock → ∀ other,
      waits other = some (.acquire different) ↔ v.waits other = some (.acquire different)) :
    LocksFit ⟨assign v.traces task ((Wait.acquire lock).woken r (v.traces task)), waits,
      v.state.updateLock lock ⟨some task, rest⟩⟩ where
  holder other client := by
    have gained := holds_woken may r other
    by_cases self : client = task
    · subst self
      simp only [assign_self]
      rw [gained]
      by_cases same : other = lock
      · subst same
        exact iff_of_true (by simp [State.updateLock]) (.inr ⟨rfl, taken⟩)
      · simp only [State.updateLock, if_neg same]
        rw [fit.holder]
        exact (or_iff_left fun h => same (Wait.acquire.inj h.1).symm).symm
    · simp only [assign_of_ne _ self]
      by_cases same : other = lock
      · subst same
        refine iff_of_false ?_ fun held => ?_
        · simpa [State.updateLock] using fun h => self h.symm
        · rw [← fit.holder, free] at held
          cases held
      · simp only [State.updateLock, if_neg same]
        exact fit.holder other client
  waiters other client := by
    by_cases same : other = lock
    · subst same
      simpa [State.updateLock] using queue client
    · simp only [State.updateLock, if_neg same]
      rw [fit.waiters]
      exact (elsewhere other same client).symm
  nodup other := by
    by_cases same : other = lock
    · subst same
      simpa [State.updateLock] using nodup
    · simpa [State.updateLock, same] using fit.nodup other

/-- A waiter leaves the queue without the lock. -/
theorem withdrawn (fit : LocksFit v) (may : (Wait.acquire lock).may (v.traces task))
    (waiting : v.waits task = some (.acquire lock)) :
    LocksFit ⟨assign v.traces task ((Wait.acquire lock).woken none (v.traces task)),
      assign v.waits task none, v.state.leaveQueue task lock⟩ where
  holder other client := by
    have kept : ((v.state.leaveQueue task lock).locks other).holder =
        (v.state.locks other).holder := by
      by_cases same : other = lock
      · subst same
        simp [State.leaveQueue, State.updateLock, FifoLock.withdraw]
      · simp [State.leaveQueue, State.updateLock, same]
    rw [kept, fit.holder]
    by_cases self : client = task
    · subst self
      simp only [assign_self]
      rw [holds_woken may none other]
      exact (or_iff_left (by simp)).symm
    · simp only [assign_of_ne _ self]
  waiters other client := by
    by_cases self : client = task
    · subst self
      simp only [assign_self]
      refine iff_of_false ?_ nofun
      by_cases same : other = lock
      · subst same
        simp [State.leaveQueue, State.updateLock, FifoLock.withdraw]
      · simp only [State.leaveQueue, State.updateLock, if_neg same]
        rw [fit.waiters, waiting]
        exact fun h => same (Wait.acquire.inj (Option.some.inj h)).symm
    · simp only [assign_of_ne _ self]
      rw [← fit.waiters]
      by_cases same : other = lock
      · subst same
        simp [State.leaveQueue, State.updateLock, FifoLock.withdraw, self]
      · simp [State.leaveQueue, State.updateLock, same]
  nodup other := by
    by_cases same : other = lock
    · subst same
      simpa [State.leaveQueue, State.updateLock, FifoLock.withdraw] using (fit.nodup other).filter _
    · simpa [State.leaveQueue, State.updateLock, same] using fit.nodup other

/-- A task joins the queue. -/
theorem queued (fit : LocksFit v) (running : v.waits task = none) :
    LocksFit ⟨v.traces, assign v.waits task (some (.acquire lock)),
      v.state.updateLock lock
        ⟨(v.state.locks lock).holder, (v.state.locks lock).waiters ++ [task]⟩⟩ where
  holder other client := by
    rw [← fit.holder]
    by_cases same : other = lock
    · subst same
      simp [State.updateLock]
    · simp [State.updateLock, same]
  waiters other client := by
    by_cases self : client = task
    · subst self
      simp only [assign_self]
      by_cases same : other = lock
      · subst same
        simp [State.updateLock]
      · simp only [State.updateLock, if_neg same]
        rw [fit.waiters, running]
        exact iff_of_false nofun fun h => same (Wait.acquire.inj (Option.some.inj h)).symm
    · simp only [assign_of_ne _ self]
      rw [← fit.waiters]
      by_cases same : other = lock
      · subst same
        simp [State.updateLock, self]
      · simp [State.updateLock, same]
  nodup other := by
    by_cases same : other = lock
    · subst same
      have absent : task ∉ (v.state.locks other).waiters := by
        rw [fit.waiters, running]
        nofun
      simpa [State.updateLock] using List.Nodup.concat absent (fit.nodup other)
    · simpa [State.updateLock, same] using fit.nodup other

end LocksFit

/-- Locks fit in every run. -/
theorem locksFit_keeps (ok : Guard world) : discipline.Keeps ok (fun _ => True) LocksFit where
  admitted v task request state _ fit _ idle _ _ accepted := by
    obtain ⟨_, _, _, _, rfl⟩ := State.accept_frame accepted
    refine fit.retrace rfl fun lock => iff_of_false (request.begin_not_holds lock) ?_
    rw [idle]
    exact idle_not_holds lock
  executed v task a _ fit _ _ _ may := by
    cases kept : a.writesLocks with
    | false => exact fit.retrace ((State.exec_unwritten _ _ _).locks kept) (holds_after may kept _)
    | true =>
        cases a with
        | release lock =>
            have released := fit.released may
            cases lock <;> exact ⟨released.holder, released.waiters, released.nodup⟩
        | _ => cases kept
  passed v task w result state _ fit _ running _ may entered := by
    obtain ⟨lock, rfl, idle, rfl⟩ | ⟨other, rfl⟩ := State.enter_passed entered
    · refine fit.granted may rfl idle.1 List.nodup_nil (fun other => ?_) fun _ _ _ => Iff.rfl
      rw [← fit.waiters, idle.2]
    · exact fit.retrace rfl fun lock => (holds_woken may _ lock).trans
        (or_iff_left fun h => other lock h.1)
  suspended v task w state _ fit _ running _ _ entered := by
    obtain ⟨lock, rfl, rfl⟩ | ⟨other, rfl⟩ := State.enter_suspended entered
    · exact fit.queued running
    · refine fit.rewait (fun lock => ?_) fun lock same => other lock (Option.some.inj same)
      rw [running]
      nofun
  woken v task w outcome state _ fit _ waiting may _ ended := by
    obtain ⟨lock, rest, rfl, taken, free, queue, rfl⟩ | ⟨lock, rfl, failed, rfl⟩ | ⟨other, locks⟩ :=
      State.wake_locks ended
    · have nodup := fit.nodup lock
      rw [queue, List.nodup_cons] at nodup
      refine fit.granted may taken free nodup.2 (fun other => ?_) fun different ne other => ?_
      · by_cases self : other = task
        · subst self
          simpa using nodup.1
        · rw [assign_of_ne _ self, ← fit.waiters, queue]
          simp [self]
      · by_cases self : other = task
        · subst self
          rw [assign_self, waiting]
          exact iff_of_false nofun fun h => ne (Wait.acquire.inj (Option.some.inj h)).symm
        · rw [assign_of_ne _ self]
    · rw [failed]
      exact fit.withdrawn may waiting
    · have traced : LocksFit ⟨assign v.traces task (w.woken outcome.toOption (v.traces task)),
          v.waits, state⟩ := fit.retrace locks fun lock =>
        (holds_woken may outcome.toOption lock).trans (or_iff_left fun h => other lock h.1)
      refine traced.rewait (fun lock same => other lock ?_) nofun
      exact Option.some.inj (waiting.symm.trans same)
  lapsed v task w limit state _ fit _ waiting may _ _ ended := by
    obtain ⟨lock, rfl, rfl⟩ | ⟨other, rfl⟩ := State.lapse_locks ended
    · exact fit.withdrawn may waiting
    · have traced : LocksFit ⟨assign v.traces task (w.woken none (v.traces task)), v.waits,
          v.state⟩ := fit.retrace rfl fun lock =>
        (holds_woken may none lock).trans (or_iff_left fun h => other lock h.1)
      refine traced.rewait (fun lock same => other lock ?_) nofun
      exact Option.some.inj (waiting.symm.trans same)
  finished v task _ fit _ _ _ done :=
    fit.retrace rfl fun lock => iff_of_false (idle_not_holds lock) (done.not_holds lock)

/-- Every lock starts idle. -/
theorem locksFit_initial {state : State} (idle : ∀ lock, state.locks lock = {}) :
    LocksFit ⟨fun _ => discipline.idle, fun _ => none, state⟩ where
  holder lock task := by
    simp only [idle lock]
    exact iff_of_false nofun (idle_not_holds lock)
  waiters lock task := by
    simp only [idle lock]
    exact iff_of_false nofun nofun
  nodup lock := by
    simp only [idle lock]
    exact List.nodup_nil

end Tela
