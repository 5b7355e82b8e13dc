import Tela.Core.Models
import Tela.Library.FifoLock

/-!
# The idle shutdown manager

The manager by itself: any number of tasks that call `increment`, `decrement` and
`reset`, and the timer tasks that they create and cancel. A block of code between two
awaits is one act.
-/

namespace Tela

namespace IdleShutdown

open Coop

abbrev TimerId := Nat

inductive TimerPhase
  /-- `create_task` was called and the task has not run yet. -/
  | created
  | sleeping
  /-- In the shutdown callback. -/
  | expired
  | ended (outcome : Except PyException Unit)

/-- The task behind an idle timer; a cancelled one is told so at its next step. -/
structure Timer where
  phase : TimerPhase
  cancelled : Bool := false

/-- What has happened so far; only properties read it. -/
structure History where
  /-- How many increments have returned. -/
  incremented : Nat := 0
  /-- The same, at the moment when the timer was armed. -/
  armed : TimerId → Nat := fun _ => 0

structure State where
  connectionCount : Int := 0
  lock : FifoLock := {}
  idleHandle : Option TimerId := none
  timers : TimerId → Option Timer := fun _ => none
  nextTimer : TimerId := 0
  history : History := {}

/-! ## Acts and awaits -/

inductive Act
  | increment
  | decrement
  | cancelIdleTimer
  | clearIdleHandle
  | resetCount
  | releaseLock
  /-- An increment returns. -/
  | incremented
  /-- The timer calls the shutdown callback. -/
  | shutdownStarted (id : TimerId)
  | timerEnded (id : TimerId) (outcome : Except PyException Unit)

@[reducible] def Act.Val : Act → Type
  -- The cancelled timer to wait for.
  | increment => Option TimerId
  | cancelIdleTimer => Option TimerId
  -- Whether the count was above zero.
  | decrement => Bool
  | _ => Unit

inductive Wait
  | lock
  /-- `await self._idle_handle`. -/
  | idleHandle (id : TimerId)
  | sleep (id : TimerId)
  | shutdownCallback (id : TimerId)

@[reducible] def Wait.Res : Wait → Type
  -- How the timer task has ended.
  | idleHandle _ => Except PyException Unit
  | _ => Unit

abbrev sig : Sig := ⟨Act, Act.Val, Wait, Wait.Res⟩

abbrev Prog (α : Type) := Coro sig PyException α

namespace State

def setTimer (s : State) (id : TimerId) (timer : Timer) : State :=
  { s with timers := assign s.timers id (some timer) }

/-- `task.cancel()`: nothing happens to a task that has ended. -/
def cancel (s : State) (id : TimerId) : State :=
  match s.timers id with
  | some ⟨.ended _, _⟩ => s
  | some timer => s.setTimer id { timer with cancelled := true }
  | none => s

/-- `_cancel_idle_timer` up to its await. -/
def cancelIdleTimer (s : State) : Option TimerId × State :=
  match s.idleHandle with
  | some id => (some id, s.cancel id)
  | none => (none, s)

/-- `_start_idle_timer`. -/
def startIdleTimer (s : State) : State :=
  { s with
    idleHandle := some s.nextTimer
    timers := assign s.timers s.nextTimer (some { phase := .created })
    nextTimer := s.nextTimer + 1
    history :=
      { s.history with armed := assign s.history.armed s.nextTimer s.history.incremented } }

/-- `increment` inside the lock, up to its await. -/
def increment (s : State) : Option TimerId × State :=
  { s with connectionCount := s.connectionCount + 1 }.cancelIdleTimer

/-- `decrement` inside the lock; `is_shutdown_disabled` when the timeout is not positive. -/
def decrement (timeoutSeconds : ℚ) (s : State) : Bool × State :=
  if s.connectionCount ≤ 0 then (false, s)
  else
    let counted := { s with connectionCount := s.connectionCount - 1 }
    if counted.connectionCount = 0 ∧ 0 < timeoutSeconds then (true, counted.startIdleTimer)
    else (true, counted)

/-! ## The world -/

variable (timeoutSeconds : ℚ)

def exec (_ : TaskId) : (a : Act) → State → a.Val × State
  | .increment, s => s.increment
  | .decrement, s => s.decrement timeoutSeconds
  | .cancelIdleTimer, s => s.cancelIdleTimer
  | .clearIdleHandle, s => ((), { s with idleHandle := none })
  | .resetCount, s => ((), { s with connectionCount := 0 })
  | .releaseLock, s => ((), { s with lock := s.lock.release })
  | .incremented, s =>
      ((), { s with history := { s.history with incremented := s.history.incremented + 1 } })
  | .shutdownStarted id, s =>
      ((), { s with timers := assign s.timers id ((s.timers id).map ({ · with phase := .expired })) })
  | .timerEnded id outcome, s =>
      ((), { s with
        timers := assign s.timers id ((s.timers id).map ({ · with phase := .ended outcome })) })

/-- How the timer task has ended, when it has. -/
def outcome? (s : State) (id : TimerId) : Option (Except PyException Unit) :=
  match s.timers id with
  | some ⟨.ended outcome, _⟩ => some outcome
  | _ => none

def isCancelled (s : State) (id : TimerId) : Bool :=
  (s.timers id).any Timer.cancelled

/-- A free lock is taken, and an ended timer is passed, without suspending. -/
def enter (task : TaskId) : (w : Wait) → State → Option w.Res × State
  | .lock, s =>
      match s.lock.arrive task with
      | (true, next) => (some (), { s with lock := next })
      | (false, next) => (none, { s with lock := next })
  | .idleHandle id, s => (s.outcome? id, s)
  | .sleep _, s => (none, s)
  | .shutdownCallback _, s => (none, s)

/-- How an await may end. The callback may end in every way. -/
def wake (task : TaskId) : (w : Wait) → Except PyException w.Res → State → Option State
  | .lock, .ok (), s => (s.lock.grant task).map fun next => { s with lock := next }
  -- The task is cancelled while it waits.
  | .lock, .error exc, s =>
      if exc.isCancelled then some { s with lock := s.lock.withdraw task } else none
  | .idleHandle id, .ok outcome, s => if s.outcome? id = some outcome then some s else none
  | .idleHandle _, .error _, _ => none
  | .sleep id, .ok (), s => if s.isCancelled id then none else some s
  | .sleep id, .error exc, s =>
      if s.isCancelled id && exc == .cancelledError then some s else none
  | .shutdownCallback _, _, s => some s

end State

/-! ## Programs -/

def act (a : Act) : Prog a.Val := .act (S := sig) a .ret

def pause (w : Wait) : Prog w.Res := Coro.await (S := sig) w

/-- `async with self._lock`. -/
def withLock {α : Type} (body : Prog α) : Prog α := do
  pause .lock
  body.ensure (act .releaseLock)

/-- The await of `_cancel_idle_timer`, and what follows it. -/
def awaitCancelled : Option TimerId → Prog Unit
  | none => return ()
  | some id => do
      match ← pause (.idleHandle id) with
      | .ok () => act .clearIdleHandle
      | .error exc => if exc.isCancelled then act .clearIdleHandle else .raise exc

def increment : Prog (Except String Unit) := do
  withLock do
    let cancelled : Option TimerId ← act .increment
    awaitCancelled cancelled
  act .incremented
  return .ok ()

def underflow : String :=
  "CONNECTION_COUNT_UNDERFLOW: disconnect called without matching connect"

def decrement : Prog (Except String Unit) :=
  withLock do
    let counted : Bool ← act .decrement
    if counted then return .ok () else return .error underflow

def reset : Prog (Except String Unit) := do
  withLock do
    let cancelled : Option TimerId ← act .cancelIdleTimer
    awaitCancelled cancelled
    act .resetCount
  return .ok ()

/-- `_idle_timer_expired`. -/
def idleTimerExpired (id : TimerId) : Prog Unit := do
  let body : Prog Unit := do
    pause (.sleep id)
    act (.shutdownStarted id)
    pause (.shutdownCallback id)
  match ← body.attempt with
  | .ok () => return ()
  | .error exc => if exc.isCancelled then return () else .raise exc

/-- What starts a task. -/
inductive Req
  | increment
  | decrement
  | reset
  /-- A created timer task runs for the first time. -/
  | timer (id : TimerId)
  /-- A timer task that was cancelled before it has run ends without running. -/
  | dropTimer (id : TimerId)

namespace Req

def program : Req → Prog Unit
  | increment => IdleShutdown.increment.bind fun _ => .ret ()
  | decrement => IdleShutdown.decrement.bind fun _ => .ret ()
  | reset => IdleShutdown.reset.bind fun _ => .ret ()
  | timer id => (idleTimerExpired id).attempt.bind fun outcome => act (.timerEnded id outcome)
  | dropTimer _ => .ret ()

def accept : Req → State → Option State
  | timer id, s =>
      match s.timers id with
      | some ⟨.created, false⟩ => some (s.setTimer id ⟨.sleeping, false⟩)
      | _ => none
  | dropTimer id, s =>
      match s.timers id with
      | some ⟨.created, true⟩ => some (s.setTimer id ⟨.ended (.error .cancelledError), true⟩)
      | _ => none
  | _, s => some s

end Req

/-- The manager with its timeout, and all tasks that use it. -/
abbrev world (timeoutSeconds : ℚ) : World sig PyException where
  State := State
  Req := Req
  exec := State.exec timeoutSeconds
  enter := State.enter
  wake := State.wake
  lapse _ _ _ _ := none
  accept _ := Req.accept
  program _ := Req.program

end IdleShutdown

end Tela
