import Tela.Library.Scheduler

/-!
# Fair cooperative locks

A released lock is free until its first waiter runs again, but a newcomer queues
behind that waiter: it takes the lock at once only when nobody waits.
-/

namespace Coop

/-- A lock with its waiters, the longest waiting first. -/
structure FifoLock where
  holder : Option TaskId := none
  waiters : List TaskId := []
  deriving DecidableEq, Repr

namespace FifoLock

/-- Nobody holds the lock or waits for it. -/
def Idle (lock : FifoLock) : Prop := lock.holder = none ∧ lock.waiters = []

instance (lock : FifoLock) : Decidable lock.Idle :=
  inferInstanceAs (Decidable (_ ∧ _))

def locked (lock : FifoLock) : Bool := lock.holder.isSome

/-- Take an idle lock; otherwise join the queue. The flag tells which. -/
def arrive (lock : FifoLock) (task : TaskId) : Bool × FifoLock :=
  if lock.Idle then (true, ⟨some task, []⟩) else (false, ⟨lock.holder, lock.waiters ++ [task]⟩)

/-- The first waiter takes the free lock. -/
def grant (lock : FifoLock) (task : TaskId) : Option FifoLock :=
  match lock.holder, lock.waiters with
  | none, first :: rest => if first = task then some ⟨some task, rest⟩ else none
  | _, _ => none

/-- A waiter gives up. -/
def withdraw (lock : FifoLock) (task : TaskId) : FifoLock :=
  ⟨lock.holder, lock.waiters.filter (· ≠ task)⟩

def release (lock : FifoLock) : FifoLock := ⟨none, lock.waiters⟩

theorem arrive_taken {lock lock' : FifoLock} {task : TaskId}
    (taken : lock.arrive task = (true, lock')) : lock.Idle ∧ lock' = ⟨some task, []⟩ := by
  unfold arrive at taken
  split at taken
  · exact ⟨‹_›, (Prod.mk.inj taken).2.symm⟩
  · cases (Prod.mk.inj taken).1

theorem arrive_queued {lock lock' : FifoLock} {task : TaskId}
    (queued : lock.arrive task = (false, lock')) :
    lock' = ⟨lock.holder, lock.waiters ++ [task]⟩ := by
  unfold arrive at queued
  split at queued
  · cases (Prod.mk.inj queued).1
  · exact (Prod.mk.inj queued).2.symm

theorem grant_eq_some {lock lock' : FifoLock} {task : TaskId}
    (granted : lock.grant task = some lock') :
    lock.holder = none ∧ ∃ rest, lock.waiters = task :: rest ∧ lock' = ⟨some task, rest⟩ := by
  unfold grant at granted
  split at granted
  · rename_i first rest free queue
    split at granted
    · rename_i same
      subst same
      exact ⟨free, rest, queue, (Option.some.inj granted).symm⟩
    · cases granted
  · cases granted

end FifoLock

end Coop
