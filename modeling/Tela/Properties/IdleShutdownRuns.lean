import Tela.Library.Monitor
import Tela.Library.Solo
import Tela.Shell.IdleShutdown

/-!
# Runs of the idle shutdown manager

An unfinished timer task is the stored one. One that nobody has cancelled proves that
nobody is connected, and that nobody has been counted since it was armed.
-/

namespace Tela

namespace IdleShutdown

open Coop

/-! ## What a task may do -/

/-- Where a timer task is. -/
inductive TimerStep
  | sleeping
  /-- The sleep is over and the callback not yet called. -/
  | awake
  | calling
  | finished
  deriving DecidableEq

inductive Trace
  | gone
  /-- Outside the lock. -/
  | outside
  | holding
  /-- The timer is cancelled and not yet known to have ended. -/
  | cancelling (id : TimerId) (incrementing : Bool)
  /-- No timer task is unfinished. -/
  | quiet (incrementing : Bool)
  /-- An increment has released the lock and not returned. -/
  | returning
  | timer (id : TimerId) (step : TimerStep)
  deriving DecidableEq

namespace Trace

/-- The task holds the lock. -/
def Holds : Trace → Prop
  | holding => True
  | cancelling _ _ => True
  | quiet _ => True
  | _ => False

def Done : Trace → Prop
  | gone => False
  | outside => True
  | returning => True
  | timer _ .finished => True
  | _ => False

end Trace

def Act.may : Act → Trace → Prop
  | increment, g => g = .holding
  | decrement, g => g = .holding
  | cancelIdleTimer, g => g = .holding
  | clearIdleHandle, g => ∃ incrementing, g = .quiet incrementing
  | resetCount, g => g = .quiet false
  | releaseLock, g => g = .holding ∨ ∃ incrementing, g = .quiet incrementing
  | incremented, g => g = .returning
  | shutdownStarted id, g => g = .timer id .awake
  | timerEnded id _, g => ∃ step, g = .timer id step

/-- The trace after the cancellation of a stored timer, when there is one. -/
def Trace.cancelled (incrementing : Bool) : Option TimerId → Trace
  | some id => cancelling id incrementing
  | none => quiet incrementing

def Act.after : (a : Act) → a.Val → Trace → Trace
  | increment, cancelled, _ => .cancelled true cancelled
  | cancelIdleTimer, cancelled, _ => .cancelled false cancelled
  | releaseLock, _, .quiet true => .returning
  | releaseLock, _, _ => .outside
  | incremented, _, _ => .outside
  | shutdownStarted id, _, _ => .timer id .calling
  | timerEnded id _, _, _ => .timer id .finished
  | _, _, g => g

def Wait.may : Wait → Trace → Prop
  | lock, g => g = .outside
  | idleHandle id, g => ∃ incrementing, g = .cancelling id incrementing
  | sleep id, g => g = .timer id .sleeping
  | shutdownCallback id, g => g = .timer id .calling

def Wait.woken : (w : Wait) → Option w.Res → Trace → Trace
  | lock, some _, _ => .holding
  | idleHandle _, _, .cancelling _ incrementing => .quiet incrementing
  | sleep id, some _, _ => .timer id .awake
  | _, _, g => g

def monitor : Monitor sig Trace where
  may := Act.may
  after := Act.after
  mayWait := Wait.may
  woken := Wait.woken
  mayTime _ := False
  mayTime_after := id
  mayTime_woken := id

/-! ## Every program keeps to it -/

section Programs

variable {α : Type} {g : Trace} {onRet : α → Trace → Prop} {onRaise : PyException → Trace → Prop}

theorem follows_act {a : Act} {onRet : a.Val → Trace → Prop} :
    Follows monitor onRet onRaise (act a) g ↔ a.may g ∧ ∀ v, onRet v (a.after v g) := Iff.rfl

theorem follows_awaitCancelled {cancelled : Option TimerId} {incrementing : Bool} :
    Follows monitor (fun _ g => g = .quiet incrementing) (fun _ g => g = .quiet incrementing)
      (awaitCancelled cancelled) (.cancelled incrementing cancelled) := by
  cases cancelled with
  | none => exact rfl
  | some id =>
      refine Follows.bind_iff.mpr (Follows.await_iff.mpr ⟨⟨incrementing, rfl⟩, ?_, fun _ => rfl⟩)
      have cleared : Follows monitor (fun _ g => g = .quiet incrementing)
          (fun _ g => g = .quiet incrementing) (act .clearIdleHandle) (.quiet incrementing) :=
        ⟨⟨incrementing, rfl⟩, fun _ => rfl⟩
      rintro (exc | _)
      · change Follows monitor (fun _ g => g = .quiet incrementing)
          (fun _ g => g = .quiet incrementing)
          (if exc.isCancelled then act .clearIdleHandle else .raise exc) (.quiet incrementing)
        split
        · exact cleared
        · exact rfl
      · exact cleared

/-- The body runs with the lock, and leaves it as it may be released. -/
theorem follows_withLock {body : Prog α}
    (follows : Follows monitor
      (fun value g => Act.releaseLock.may g ∧ onRet value (Act.releaseLock.after () g))
      (fun exc g => Act.releaseLock.may g ∧ onRaise exc (Act.releaseLock.after () g))
      body .holding)
    (withdrawn : ∀ exc, onRaise exc .outside) :
    Follows monitor onRet onRaise (withLock body) .outside := by
  refine Follows.bind_iff.mpr (Follows.await_iff.mpr ⟨rfl, fun _ => ?_, withdrawn⟩)
  refine Follows.ensure (follows.mono (fun value g h => ?_) fun exc g h => ?_)
  · exact follows_act.mpr ⟨h.1, fun _ => h.2⟩
  · exact follows_act.mpr ⟨h.1, fun _ => h.2⟩

theorem follows_increment :
    Follows monitor (fun _ => Trace.Done) (fun _ => Trace.Done) increment .outside := by
  refine Follows.bind_iff.mpr (follows_withLock ?_ fun _ => trivial)
  refine Follows.bind_iff.mpr (follows_act.mpr ⟨rfl, fun cancelled => ?_⟩)
  refine follows_awaitCancelled.mono ?_ ?_
  · rintro _ _ rfl
    refine ⟨.inr ⟨true, rfl⟩, ?_⟩
    exact Follows.bind_iff.mpr (follows_act.mpr ⟨rfl, fun _ => trivial⟩)
  · rintro _ _ rfl
    exact ⟨.inr ⟨true, rfl⟩, trivial⟩

theorem follows_decrement :
    Follows monitor (fun _ => Trace.Done) (fun _ => Trace.Done) decrement .outside := by
  refine follows_withLock ?_ fun _ => trivial
  refine Follows.bind_iff.mpr (follows_act.mpr ⟨rfl, fun counted => ?_⟩)
  cases counted <;> exact ⟨.inl rfl, trivial⟩

theorem follows_reset :
    Follows monitor (fun _ => Trace.Done) (fun _ => Trace.Done) reset .outside := by
  refine Follows.bind_iff.mpr (follows_withLock ?_ fun _ => trivial)
  refine Follows.bind_iff.mpr (follows_act.mpr ⟨rfl, fun cancelled => ?_⟩)
  refine Follows.bind_iff.mpr (follows_awaitCancelled.mono ?_ ?_)
  · rintro _ _ rfl
    exact follows_act.mpr ⟨rfl, fun _ => ⟨.inr ⟨false, rfl⟩, trivial⟩⟩
  · rintro _ _ rfl
    exact ⟨.inr ⟨false, rfl⟩, trivial⟩

theorem follows_idleTimerExpired (id : TimerId) :
    Follows monitor (fun _ g => ∃ step, g = .timer id step) (fun _ g => ∃ step, g = .timer id step)
      (idleTimerExpired id) (.timer id .sleeping) := by
  have handled (exc : PyException) (step : TimerStep) :
      Follows monitor (fun _ g => ∃ step, g = .timer id step)
        (fun _ g => ∃ step, g = .timer id step)
        (if exc.isCancelled then .ret () else .raise exc : Prog Unit) (.timer id step) := by
    split <;> exact ⟨step, rfl⟩
  refine Follows.bind_iff.mpr (Follows.attempt_iff.mpr ?_)
  refine Follows.bind_iff.mpr (Follows.await_iff.mpr ⟨rfl, fun _ => ?_, fun exc => handled exc _⟩)
  refine Follows.bind_iff.mpr (follows_act.mpr ⟨rfl, fun _ => ?_⟩)
  exact Follows.await_iff.mpr ⟨rfl, fun _ => ⟨.calling, rfl⟩, fun exc => handled exc _⟩

/-- The trace of a task at its start. -/
def Req.start : Req → Trace
  | timer id => .timer id .sleeping
  | _ => .outside

theorem follows_program (request : Req) :
    Follows monitor (fun _ => Trace.Done) (fun _ => Trace.Done) request.program request.start := by
  cases request with
  | increment => exact Follows.bind_iff.mpr follows_increment
  | decrement => exact Follows.bind_iff.mpr follows_decrement
  | reset => exact Follows.bind_iff.mpr follows_reset
  | dropTimer id => exact trivial
  | timer id =>
      refine Follows.bind_iff.mpr (Follows.attempt_iff.mpr
        ((follows_idleTimerExpired id).mono ?_ ?_))
      · rintro _ _ ⟨step, rfl⟩
        exact follows_act.mpr ⟨⟨step, rfl⟩, fun _ => trivial⟩
      · rintro _ _ ⟨step, rfl⟩
        exact follows_act.mpr ⟨⟨step, rfl⟩, fun _ => trivial⟩

end Programs

def discipline (timeoutSeconds : ℚ) : Discipline (world timeoutSeconds) Trace where
  toMonitor := monitor
  idle := .gone
  start _ := Req.start
  done := Trace.Done
  follows _ := follows_program

/-! ## The lock -/

variable {timeoutSeconds : ℚ}

/-- A task holds the lock where its trace says so. -/
def Held (v : Watched (world timeoutSeconds) Trace) : Prop :=
  ∀ task, (v.traces task).Holds ↔ v.state.lock.holder = some task

theorem accept_lock {request : Req} {s s' : State} (accepted : request.accept s = some s') :
    s'.lock = s.lock := by
  cases request with
  | timer id =>
      simp only [Req.accept] at accepted
      split at accepted
      · cases accepted
        rfl
      · cases accepted
  | dropTimer id =>
      simp only [Req.accept] at accepted
      split at accepted
      · cases accepted
        rfl
      · cases accepted
  | _ =>
      cases accepted
      rfl

theorem cancel_lock (s : State) (id : TimerId) : (s.cancel id).lock = s.lock := by
  unfold State.cancel
  split <;> rfl

theorem cancelIdleTimer_lock (s : State) : s.cancelIdleTimer.2.lock = s.lock := by
  unfold State.cancelIdleTimer
  split
  · exact cancel_lock s _
  · rfl

theorem decrement_lock (s : State) : (s.decrement timeoutSeconds).2.lock = s.lock := by
  unfold State.decrement
  split
  · rfl
  · dsimp only
    split <;> rfl

/-- Only a release changes the lock. -/
theorem exec_lock {task : TaskId} {a : Act} (other : a ≠ .releaseLock) (s : State) :
    (State.exec timeoutSeconds task a s).2.lock = s.lock := by
  cases a with
  | increment => exact cancelIdleTimer_lock _
  | decrement => exact decrement_lock s
  | cancelIdleTimer => exact cancelIdleTimer_lock s
  | releaseLock => exact absurd rfl other
  | _ => rfl

theorem holds_after {a : Act} {g : Trace} (may : a.may g) (other : a ≠ .releaseLock) (v : a.Val) :
    (a.after v g).Holds ↔ g.Holds := by
  cases a with
  | increment =>
      obtain rfl := may
      cases v <;> exact iff_of_true trivial trivial
  | decrement => rfl
  | cancelIdleTimer =>
      obtain rfl := may
      cases v <;> exact iff_of_true trivial trivial
  | clearIdleHandle => rfl
  | resetCount => rfl
  | releaseLock => exact absurd rfl other
  | incremented =>
      obtain rfl := may
      exact iff_of_false id id
  | shutdownStarted id =>
      obtain rfl := may
      rfl
  | timerEnded id outcome =>
      obtain ⟨step, rfl⟩ := may
      rfl

theorem done_not_holds {g : Trace} (done : g.Done) : ¬ g.Holds := by
  cases g <;> first | exact done.elim | exact id

theorem enter_lock {task : TaskId} {s s' : State}
    (entered : State.enter task .lock s = (some (), s')) :
    s.lock.holder = none ∧ s'.lock.holder = some task := by
  simp only [State.enter] at entered
  split at entered
  · rename_i next arrived
    cases entered
    obtain ⟨idle, rfl⟩ := FifoLock.arrive_taken arrived
    exact ⟨idle.1, rfl⟩
  · cases entered

theorem enter_lock_queued {task : TaskId} {s s' : State}
    (entered : State.enter task .lock s = (none, s')) : s'.lock.holder = s.lock.holder := by
  simp only [State.enter] at entered
  split at entered
  · cases entered
  · rename_i next arrived
    cases entered
    rw [FifoLock.arrive_queued arrived]

theorem wake_lock {task : TaskId} {s s' : State}
    (ended : State.wake task .lock (.ok ()) s = some s') :
    s.lock.holder = none ∧ s'.lock.holder = some task := by
  obtain ⟨next, granted, rfl⟩ := Option.map_eq_some_iff.mp ended
  obtain ⟨free, rest, -, rfl⟩ := FifoLock.grant_eq_some granted
  exact ⟨free, rfl⟩

theorem wake_lock_error {task : TaskId} {exc : PyException} {s s' : State}
    (ended : State.wake task .lock (.error exc) s = some s') :
    s'.lock.holder = s.lock.holder := by
  simp only [State.wake] at ended
  split at ended
  · cases ended
    rfl
  · cases ended

/-- Only arriving at the lock changes the state. -/
theorem enter_other (task : TaskId) (w : Wait) {result : Option w.Res} {s s' : State}
    (other : w ≠ .lock) (entered : State.enter task w s = (result, s')) : s' = s := by
  cases w with
  | lock => exact absurd rfl other
  | _ => exact (Prod.mk.inj entered).2.symm

/-- Nor does the end of any other await. -/
theorem wake_other (task : TaskId) (w : Wait) {outcome : Except PyException w.Res} {s s' : State}
    (other : w ≠ .lock) (ended : State.wake task w outcome s = some s') : s' = s := by
  cases w with
  | lock => exact absurd rfl other
  | idleHandle id =>
      cases outcome with
      | error exc => cases ended
      | ok result =>
          simp only [State.wake] at ended
          split at ended
          · exact (Option.some.inj ended).symm
          · cases ended
  | sleep id =>
      cases outcome with
      | error exc =>
          simp only [State.wake] at ended
          split at ended
          · exact (Option.some.inj ended).symm
          · cases ended
      | ok result =>
          simp only [State.wake] at ended
          split at ended
          · cases ended
          · exact (Option.some.inj ended).symm
  | shutdownCallback id => cases outcome <;> exact (Option.some.inj ended).symm

section Locks

variable {v : Watched (world timeoutSeconds) Trace} {task other : TaskId}

theorem Held.unique (held : Held v) (first : (v.traces task).Holds)
    (second : (v.traces other).Holds) : task = other :=
  Option.some.inj (((held task).mp first).symm.trans ((held other).mp second))

/-- A step that changes neither the holder nor whether the moving task holds the lock. -/
theorem Held.same (held : Held v) {g : Trace} {waits : TaskId → Option Wait} {state : State}
    (lock : state.lock.holder = v.state.lock.holder) (same : g.Holds ↔ (v.traces task).Holds) :
    Held (⟨assign v.traces task g, waits, state⟩ :
        Watched (world timeoutSeconds) Trace) := by
  refine forall_assign (P := fun other (g : Trace) => g.Holds ↔ state.lock.holder = some other) ?_ ?_
  · rw [same, lock]
    exact held task
  · intro other _
    rw [lock]
    exact held other

/-- The free lock is taken. -/
theorem Held.take (held : Held v) {g : Trace} {waits : TaskId → Option Wait} {state : State}
    (free : v.state.lock.holder = none) (taken : state.lock.holder = some task) (holds : g.Holds) :
    Held (⟨assign v.traces task g, waits, state⟩ :
        Watched (world timeoutSeconds) Trace) := by
  refine forall_assign (P := fun other (g : Trace) => g.Holds ↔ state.lock.holder = some other)
    (iff_of_true holds taken) fun other different => ?_
  refine iff_of_false (fun owner => ?_) fun owner => ?_
  · have holder := (held other).mp owner
    rw [free] at holder
    cases holder
  · exact different (Option.some.inj (owner.symm.trans taken))

/-- The lock is given back. -/
theorem Held.release (held : Held v) {g : Trace} {waits : TaskId → Option Wait} {state : State}
    (owner : (v.traces task).Holds) (free : state.lock.holder = none) (left : ¬ g.Holds) :
    Held (⟨assign v.traces task g, waits, state⟩ :
        Watched (world timeoutSeconds) Trace) := by
  have empty (other : TaskId) : state.lock.holder ≠ some other := by
    rw [free]
    exact nofun
  refine forall_assign (P := fun other (g : Trace) => g.Holds ↔ state.lock.holder = some other)
    (iff_of_false left (empty task)) fun other different => ?_
  exact iff_of_false (fun holds => different (held.unique holds owner)) (empty other)

end Locks

theorem held_keeps (ok : Guard (world timeoutSeconds)) :
    (discipline timeoutSeconds).Keeps ok (fun _ => True) Held where
  admitted v task request state _ held _ idle _ _ accepted := by
    refine held.same (by rw [accept_lock accepted]) ?_
    rw [idle]
    cases request <;> exact iff_of_false id id
  executed v task a _ held stable free _ may := by
    by_cases release : a = .releaseLock
    · subst release
      rcases may with holding | ⟨incrementing, quiet⟩
      · exact held.release (by rw [holding]; trivial) rfl (by rw [holding]; exact id)
      · exact held.release (by rw [quiet]; trivial) rfl (by rw [quiet]; cases incrementing <;> exact id)
    · exact held.same (by rw [exec_lock release]) (holds_after may release _)
  passed v task w result state _ held stable free _ may entered := by
    cases w with
    | lock =>
        obtain ⟨free, holder⟩ := enter_lock entered
        exact held.take free holder trivial
    | idleHandle id =>
        obtain ⟨incrementing, cancelling⟩ := may
        refine held.same (congrArg (·.lock.holder) (enter_other task (.idleHandle id) nofun entered)) ?_
        rw [cancelling]
        exact iff_of_true trivial trivial
    | sleep id => cases entered
    | shutdownCallback id => cases entered
  suspended v task w state _ held stable free _ may entered := by
    have lock : state.lock.holder = v.state.lock.holder := by
      cases w with
      | lock => exact enter_lock_queued entered
      | _ => exact congrArg (·.lock.holder) (Prod.mk.inj entered).2.symm
    intro other
    rw [lock]
    exact held other
  woken v task w outcome state _ held stable waiting may _ ended := by
    cases w with
    | lock =>
        have outside : v.traces task = .outside := may
        cases outcome with
        | ok result =>
            obtain ⟨free, holder⟩ := wake_lock ended
            exact held.take free holder trivial
        | error exc =>
            refine held.same (wake_lock_error ended) ?_
            rw [outside]
            exact iff_of_false id id
    | idleHandle id =>
        obtain ⟨incrementing, cancelling⟩ := may
        have same : state = v.state := wake_other task (.idleHandle id) nofun ended
        refine held.same (by rw [same]) ?_
        rw [cancelling]
        exact iff_of_true trivial trivial
    | sleep id =>
        have asleep : v.traces task = .timer id .sleeping := may
        have same : state = v.state := wake_other task (.sleep id) nofun ended
        refine held.same (by rw [same]) ?_
        rw [asleep]
        cases outcome <;> exact iff_of_false (fun h => h) fun h => h
    | shutdownCallback id =>
        have same : state = v.state := by cases outcome <;> exact (Option.some.inj ended).symm
        exact held.same (by rw [same]) Iff.rfl
  lapsed _ _ _ _ _ _ _ _ _ _ _ _ ended := by cases ended
  finished v task _ held stable free _ done := by
    refine held.same rfl (iff_of_false id ?_)
    exact done_not_holds done

/-! ## What the blocks do to the timers -/

def Timer.unfinished (timer : Timer) : Bool :=
  match timer.phase with
  | .ended _ => false
  | _ => true

/-- The timer task has not ended. -/
def State.Unfinished (s : State) (id : TimerId) : Prop :=
  ∃ timer, s.timers id = some timer ∧ timer.unfinished = true

/-- The timer task has not ended, and nobody has cancelled it. -/
def State.Pending (s : State) (id : TimerId) : Prop :=
  ∃ timer, s.timers id = some timer ∧ timer.unfinished = true ∧ timer.cancelled = false

/-- The timer task has begun to run, or has ended without running. -/
def State.Begun (s : State) (id : TimerId) : Prop :=
  ∃ timer, s.timers id = some timer ∧ timer.phase ≠ .created

theorem State.Pending.unfinished {s : State} {id : TimerId} (pending : s.Pending id) :
    s.Unfinished id := by
  obtain ⟨timer, found, unfinished, -⟩ := pending
  exact ⟨timer, found, unfinished⟩

/-- Cancelling a timer changes its flag, while it has not ended. -/
theorem cancel_cases (s : State) (id : TimerId) :
    s.cancel id = s ∧ ¬ s.Unfinished id ∨
      ∃ timer, s.timers id = some timer ∧ timer.unfinished = true ∧
        s.cancel id = s.setTimer id { timer with cancelled := true } := by
  unfold State.cancel
  split
  · rename_i outcome cancelled found
    refine .inl ⟨rfl, ?_⟩
    rintro ⟨timer, found', unfinished⟩
    rw [found] at found'
    cases found'
    cases unfinished
  · rename_i timer running found
    refine .inr ⟨timer, found, ?_, rfl⟩
    obtain ⟨phase, cancelled⟩ := timer
    cases phase with
    | ended outcome => exact absurd rfl (running outcome cancelled)
    | _ => rfl
  · rename_i missing
    refine .inl ⟨rfl, ?_⟩
    rintro ⟨timer, found, -⟩
    rw [missing] at found
    cases found

section Set

variable {s : State} {id other : TimerId} {timer : Timer}

theorem unfinished_setTimer :
    (s.setTimer id timer).Unfinished other ↔
      other = id ∧ timer.unfinished = true ∨ other ≠ id ∧ s.Unfinished other := by
  unfold State.setTimer State.Unfinished
  by_cases same : other = id
  · subst same
    simp
  · simp [assign_of_ne _ same, same]

theorem pending_setTimer :
    (s.setTimer id timer).Pending other ↔
      other = id ∧ timer.unfinished = true ∧ timer.cancelled = false ∨
        other ≠ id ∧ s.Pending other := by
  unfold State.setTimer State.Pending
  by_cases same : other = id
  · subst same
    simp
  · simp [assign_of_ne _ same, same]

theorem begun_setTimer :
    (s.setTimer id timer).Begun other ↔
      other = id ∧ timer.phase ≠ .created ∨ other ≠ id ∧ s.Begun other := by
  unfold State.setTimer State.Begun
  by_cases same : other = id
  · subst same
    simp
  · simp [assign_of_ne _ same, same]

end Set

theorem unfinished_cancel (s : State) (id other : TimerId) :
    (s.cancel id).Unfinished other ↔ s.Unfinished other := by
  rcases cancel_cases s id with ⟨same, -⟩ | ⟨timer, found, unfinished, set⟩
  · rw [same]
  · rw [set, unfinished_setTimer]
    by_cases same : other = id
    · subst same
      exact iff_of_true (.inl ⟨rfl, unfinished⟩) ⟨timer, found, unfinished⟩
    · simp [same]

theorem pending_cancel (s : State) (id other : TimerId) :
    (s.cancel id).Pending other ↔ other ≠ id ∧ s.Pending other := by
  rcases cancel_cases s id with ⟨same, ended⟩ | ⟨timer, found, unfinished, set⟩
  · rw [same]
    refine ⟨fun pending => ⟨?_, pending⟩, And.right⟩
    rintro rfl
    exact ended pending.unfinished
  · rw [set, pending_setTimer]
    simp

theorem begun_cancel (s : State) (id other : TimerId) :
    (s.cancel id).Begun other ↔ s.Begun other := by
  rcases cancel_cases s id with ⟨same, -⟩ | ⟨timer, found, -, set⟩
  · rw [same]
  · rw [set, begun_setTimer]
    by_cases same : other = id
    · subst same
      simp [State.Begun, found]
    · simp [same]

theorem cancel_fields (s : State) (id : TimerId) :
    (s.cancel id).idleHandle = s.idleHandle ∧ (s.cancel id).nextTimer = s.nextTimer ∧
      (s.cancel id).connectionCount = s.connectionCount ∧ (s.cancel id).history = s.history := by
  unfold State.cancel
  split <;> exact ⟨rfl, rfl, rfl, rfl⟩

theorem cancel_none {s : State} {id other : TimerId} (missing : s.timers other = none) :
    (s.cancel id).timers other = none := by
  rcases cancel_cases s id with ⟨same, -⟩ | ⟨timer, found, -, set⟩
  · rw [same, missing]
  · have different : other ≠ id := by
      rintro rfl
      rw [missing] at found
      cases found
    rw [set]
    exact (assign_of_ne _ different _).trans missing

/-! ## One task for each timer -/

/-- A step keeps the timers that have begun, and the unused names. -/
structure Ages (s s' : State) : Prop where
  begun : ∀ id, s.Begun id → s'.Begun id
  fresh : (∀ id, s.nextTimer ≤ id → s.timers id = none) →
    ∀ id, s'.nextTimer ≤ id → s'.timers id = none

theorem Ages.same {s s' : State} (timers : s'.timers = s.timers)
    (next : s'.nextTimer = s.nextTimer) : Ages s s' where
  begun id begun := by
    unfold State.Begun
    rw [timers]
    exact begun
  fresh fresh id above := by
    rw [timers]
    exact fresh id (next ▸ above)

theorem ages_cancelIdleTimer (s : State) : Ages s s.cancelIdleTimer.2 := by
  unfold State.cancelIdleTimer
  split
  · rename_i id _
    refine ⟨fun other => (begun_cancel s id other).mpr, fun fresh other above => ?_⟩
    rw [(cancel_fields s id).2.1] at above
    exact cancel_none (fresh other above)
  · exact .same rfl rfl

theorem ages_decrement {s : State} (fresh : ∀ id, s.nextTimer ≤ id → s.timers id = none) :
    Ages s (s.decrement timeoutSeconds).2 := by
  unfold State.decrement
  split
  · exact .same rfl rfl
  · dsimp only
    split
    · refine ⟨fun id begun => ?_, fun _ id above => ?_⟩
      · obtain ⟨timer, found, phase⟩ := begun
        have different : id ≠ s.nextTimer := by
          rintro rfl
          rw [fresh _ (Nat.le_refl _)] at found
          cases found
        exact ⟨timer, (assign_of_ne _ different _).trans found, phase⟩
      · have different : id ≠ s.nextTimer := Nat.ne_of_gt above
        exact (assign_of_ne _ different _).trans (fresh id (Nat.le_of_succ_le above))
    · exact .same rfl rfl

/-- The phase of one timer changes. -/
theorem ages_map {s s' : State} {id : TimerId} {f : Timer → Timer}
    (timers : s'.timers = assign s.timers id ((s.timers id).map f))
    (next : s'.nextTimer = s.nextTimer) (begun : ∀ timer, (f timer).phase ≠ .created) :
    Ages s s' where
  begun other was := by
    obtain ⟨timer, found, phase⟩ := was
    unfold State.Begun
    rw [timers]
    by_cases same : other = id
    · subst same
      exact ⟨f timer, by rw [assign_self, found]; rfl, begun timer⟩
    · exact ⟨timer, (assign_of_ne _ same _).trans found, phase⟩
  fresh fresh other above := by
    have missing := fresh other (next ▸ above)
    rw [timers]
    by_cases same : other = id
    · subst same
      rw [assign_self, missing]
      rfl
    · exact (assign_of_ne _ same _).trans missing

theorem ages_exec {s : State} (fresh : ∀ id, s.nextTimer ≤ id → s.timers id = none)
    (task : TaskId) (a : Act) : Ages s (State.exec timeoutSeconds task a s).2 := by
  cases a with
  | increment =>
      have counted : Ages s { s with connectionCount := s.connectionCount + 1 } := .same rfl rfl
      have cancelled :=
        ages_cancelIdleTimer { s with connectionCount := s.connectionCount + 1 }
      exact ⟨fun id begun => cancelled.begun id (counted.begun id begun),
        fun fresh => cancelled.fresh (counted.fresh fresh)⟩
  | decrement => exact ages_decrement fresh
  | cancelIdleTimer => exact ages_cancelIdleTimer s
  | shutdownStarted id => exact ages_map rfl rfl nofun
  | timerEnded id outcome => exact ages_map rfl rfl nofun
  | _ => exact .same rfl rfl

theorem ages_enter {task : TaskId} {w : Wait} {result : Option w.Res} {s s' : State}
    (entered : State.enter task w s = (result, s')) : Ages s s' := by
  cases w with
  | lock =>
      simp only [State.enter] at entered
      split at entered <;> cases entered <;> exact .same rfl rfl
  | _ =>
      cases entered
      exact .same rfl rfl

theorem ages_wake {task : TaskId} {w : Wait} {outcome : Except PyException w.Res} {s s' : State}
    (ended : State.wake task w outcome s = some s') : Ages s s' := by
  by_cases lock : w = .lock
  · subst lock
    cases outcome with
    | ok result =>
        obtain ⟨next, -, rfl⟩ := Option.map_eq_some_iff.mp ended
        exact .same rfl rfl
    | error exc =>
        simp only [State.wake] at ended
        split at ended
        · cases ended
          exact .same rfl rfl
        · cases ended
  · rw [wake_other task w lock ended]
    exact .same rfl rfl

structure Owned (v : Watched (world timeoutSeconds) Trace) : Prop where
  begun : ∀ task id step, v.traces task = .timer id step → v.state.Begun id
  unique : ∀ task other id step step', v.traces task = .timer id step →
    v.traces other = .timer id step' → task = other
  fresh : ∀ id, v.state.nextTimer ≤ id → v.state.timers id = none

section Owners

variable {v : Watched (world timeoutSeconds) Trace} {task other : TaskId} {g : Trace}
  {waits : TaskId → Option Wait} {state : State}

/-- A step in which no timer task starts. -/
theorem Owned.step (owned : Owned v) (begun : ∀ id, v.state.Begun id → state.Begun id)
    (fresh : ∀ id, state.nextTimer ≤ id → state.timers id = none)
    (timer : ∀ id step, g = .timer id step → ∃ step', v.traces task = .timer id step') :
    Owned (⟨assign v.traces task g, waits, state⟩ :
        Watched (world timeoutSeconds) Trace) := by
  have before (owner : TaskId) (id : TimerId) (step : TimerStep)
      (owns : assign v.traces task g owner = .timer id step) :
      ∃ step', v.traces owner = .timer id step' := by
    by_cases here : owner = task
    · subst here
      rw [assign_self] at owns
      exact timer id step owns
    · rw [assign_of_ne _ here] at owns
      exact ⟨step, owns⟩
  refine ⟨fun owner id step owns => ?_, fun first second id step step' one two => ?_, fresh⟩
  · obtain ⟨_, owns⟩ := before owner id step owns
    exact begun id (owned.begun owner id _ owns)
  · obtain ⟨_, one⟩ := before first id step one
    obtain ⟨_, two⟩ := before second id step' two
    exact owned.unique first second id _ _ one two

theorem timer_after {a : Act} {value : a.Val} {id : TimerId} {step : TimerStep} (may : a.may g)
    (after : a.after value g = .timer id step) : ∃ step', g = .timer id step' := by
  cases a with
  | increment => cases value <;> cases after
  | cancelIdleTimer => cases value <;> cases after
  | releaseLock =>
      rcases may with rfl | ⟨incrementing, rfl⟩
      · cases after
      · cases incrementing <;> cases after
  | incremented => cases after
  | shutdownStarted other =>
      cases after
      exact ⟨.awake, may⟩
  | timerEnded other outcome =>
      cases after
      exact may
  | _ => exact ⟨step, after⟩

theorem timer_woken {w : Wait} {result : Option w.Res} {id : TimerId} {step : TimerStep}
    (may : w.may g) (woken : w.woken result g = .timer id step) :
    ∃ step', g = .timer id step' := by
  cases w with
  | lock =>
      cases result with
      | none => exact ⟨step, woken⟩
      | some _ => cases woken
  | idleHandle other =>
      obtain ⟨incrementing, rfl⟩ := may
      cases result <;> cases woken
  | sleep other =>
      cases result with
      | none => exact ⟨step, woken⟩
      | some _ =>
          cases woken
          exact ⟨.sleeping, may⟩
  | shutdownCallback other => cases result <;> exact ⟨step, woken⟩

/-- A timer task starts once. -/
theorem Owned.admit (owned : Owned v) {request : Req} (idle : v.traces task = .gone)
    (accepted : request.accept v.state = some state) :
    Owned (⟨assign v.traces task request.start, waits, state⟩ :
        Watched (world timeoutSeconds) Trace) := by
  cases request with
  | timer id =>
      simp only [Req.accept] at accepted
      split at accepted
      · rename_i found
        cases accepted
        have unborn (owner : TaskId) (step : TimerStep) : v.traces owner ≠ .timer id step := by
          intro owns
          obtain ⟨timer, found', begun⟩ := owned.begun owner id step owns
          rw [found] at found'
          cases found'
          exact begun rfl
        have owner_cases {owner : TaskId} {other : TimerId} {step : TimerStep}
            (owns : assign v.traces task (.timer id .sleeping) owner = .timer other step) :
            owner = task ∧ other = id ∨ v.traces owner = .timer other step := by
          by_cases here : owner = task
          · subst here
            rw [assign_self] at owns
            cases owns
            exact .inl ⟨rfl, rfl⟩
          · rw [assign_of_ne _ here] at owns
            exact .inr owns
        refine ⟨?_, fun first second other step step' one two => ?_, fun other above => ?_⟩
        · refine forall_assign (P := fun _ (g : Trace) => ∀ other step, g = .timer other step →
            (State.setTimer v.state id ⟨.sleeping, false⟩).Begun other) ?_ ?_
          · rintro _ _ ⟨⟩
            exact begun_setTimer.mpr (.inl ⟨rfl, nofun⟩)
          · intro owner _ other step owns
            by_cases same : other = id
            · exact begun_setTimer.mpr (.inl ⟨same, nofun⟩)
            · exact begun_setTimer.mpr (.inr ⟨same, owned.begun owner other step owns⟩)
        · rcases owner_cases one with ⟨rfl, rfl⟩ | before <;>
            rcases owner_cases two with ⟨rfl, same⟩ | after
          · rfl
          · exact absurd after (unborn second step')
          · subst same
            exact absurd before (unborn first step)
          · exact owned.unique first second other step step' before after
        · have missing := owned.fresh other above
          have different : other ≠ id := by
            rintro rfl
            rw [missing] at found
            cases found
          exact (assign_of_ne _ different _).trans missing
      · cases accepted
  | dropTimer id =>
      simp only [Req.accept] at accepted
      split at accepted
      · rename_i found
        cases accepted
        refine owned.step (fun other begun => ?_) (fun other above => ?_) nofun
        · by_cases same : other = id
          · exact begun_setTimer.mpr (.inl ⟨same, nofun⟩)
          · exact begun_setTimer.mpr (.inr ⟨same, begun⟩)
        · have missing := owned.fresh other above
          have different : other ≠ id := by
            rintro rfl
            rw [missing] at found
            cases found
          exact (assign_of_ne _ different _).trans missing
      · cases accepted
  | _ =>
      cases accepted
      exact owned.step (fun _ begun => begun) owned.fresh nofun

end Owners

theorem owned_keeps (ok : Guard (world timeoutSeconds)) :
    (discipline timeoutSeconds).Keeps ok (fun _ => True) Owned where
  admitted _ _ _ _ _ owned _ idle _ _ accepted := owned.admit idle accepted
  executed v task a _ owned _ _ _ may := by
    have ages : Ages v.state (State.exec timeoutSeconds task a v.state).2 :=
      ages_exec owned.fresh task a
    exact owned.step ages.begun (ages.fresh owned.fresh) fun _ _ => timer_after may
  passed _ _ w _ _ _ owned _ _ _ may entered := by
    have ages := ages_enter entered
    exact owned.step ages.begun (ages.fresh owned.fresh) fun _ _ => timer_woken may
  suspended v task w state _ owned _ _ _ may entered := by
    have ages := ages_enter entered
    exact ⟨fun owner id step owns => ages.begun id (owned.begun owner id step owns), owned.unique,
      ages.fresh owned.fresh⟩
  woken _ _ _ _ _ _ owned _ _ may _ ended := by
    have ages := ages_wake ended
    exact owned.step ages.begun (ages.fresh owned.fresh) fun _ _ => timer_woken may
  lapsed _ _ _ _ _ _ _ _ _ _ _ _ ended := by cases ended
  finished _ _ _ owned _ _ _ _ := owned.step (fun _ begun => begun) owned.fresh nofun

/-! ## The timers -/

/-- What a task knows of the timers. -/
def Trace.Knows (s : State) : Trace → Prop
  | cancelling id _ => s.idleHandle = some id ∧ ¬ s.Pending id
  | quiet _ => ∀ id, ¬ s.Unfinished id
  | returning => ∀ id, ¬ s.Unfinished id
  | timer id .awake => s.Pending id
  | timer _ .finished => True
  | timer id _ => s.Unfinished id
  | _ => True

structure Timers (v : Watched (world timeoutSeconds) Trace) : Prop where
  nonneg : 0 ≤ v.state.connectionCount
  stored : ∀ id, v.state.Unfinished id → v.state.idleHandle = some id
  pending : ∀ id, v.state.Pending id →
    v.state.connectionCount = 0 ∧ v.state.history.armed id = v.state.history.incremented
  cancelled : ∀ id, v.state.Unfinished id → ¬ v.state.Pending id →
    ∃ task incrementing, v.traces task = .cancelling id incrementing
  knows : ∀ task, (v.traces task).Knows v.state

section Steps

variable {v : Watched (world timeoutSeconds) Trace} {task other : TaskId} {g : Trace}
  {waits : TaskId → Option Wait} {state : State}

/-- What a task may be doing while another one runs. -/
theorem cases_of_stable (stable : (discipline timeoutSeconds).Stable v other) :
    v.traces other = .gone ∨ v.traces other = .outside ∨
      (∃ id incrementing, v.traces other = .cancelling id incrementing) ∨
      ∃ id, v.traces other = .timer id .sleeping ∨ v.traces other = .timer id .calling := by
  unfold Discipline.Stable at stable
  split at stable
  · rename_i w _
    cases w with
    | lock => exact .inr (.inl stable)
    | idleHandle id =>
        obtain ⟨incrementing, cancelling⟩ := stable
        exact .inr (.inr (.inl ⟨id, incrementing, cancelling⟩))
    | sleep id => exact .inr (.inr (.inr ⟨id, .inl stable⟩))
    | shutdownCallback id => exact .inr (.inr (.inr ⟨id, .inr stable⟩))
  · exact .inl stable

/-- The same timers are unfinished, and the same ones pending. -/
structure SameTimers (s s' : State) : Prop where
  unfinished : ∀ id, s'.Unfinished id ↔ s.Unfinished id
  pending : ∀ id, s'.Pending id ↔ s.Pending id

theorem SameTimers.of_eq {s s' : State} (same : s'.timers = s.timers) : SameTimers s s' where
  unfinished id := by
    unfold State.Unfinished
    rw [same]
  pending id := by
    unfold State.Pending
    rw [same]

/-- A timer goes on in another phase. -/
theorem SameTimers.of_set {s : State} {id : TimerId} {timer timer' : Timer}
    (found : s.timers id = some timer) (before : timer.unfinished = true)
    (after : timer'.unfinished = true) (flag : timer'.cancelled = timer.cancelled) :
    SameTimers s (s.setTimer id timer') where
  unfinished other := by
    rw [unfinished_setTimer]
    by_cases same : other = id
    · subst same
      exact iff_of_true (.inl ⟨rfl, after⟩) ⟨timer, found, before⟩
    · simp [same]
  pending other := by
    rw [pending_setTimer]
    by_cases same : other = id
    · subst same
      simp [State.Pending, found, before, after, flag]
    · simp [same]

/-- What a task knows depends on the timers and the stored handle. -/
theorem knows_congr (same : SameTimers v.state state)
    (handle : ∀ id incrementing, g = .cancelling id incrementing →
      state.idleHandle = v.state.idleHandle) (knows : g.Knows v.state) : g.Knows state := by
  cases g with
  | cancelling id incrementing =>
      exact ⟨(handle id incrementing rfl).trans knows.1,
        fun waiting => knows.2 ((same.pending id).mp waiting)⟩
  | quiet incrementing => exact fun id running => knows id ((same.unfinished id).mp running)
  | returning => exact fun id running => knows id ((same.unfinished id).mp running)
  | timer id step =>
      cases step with
      | sleeping => exact (same.unfinished id).mpr knows
      | awake => exact (same.pending id).mpr knows
      | calling => exact (same.unfinished id).mpr knows
      | finished => trivial
  | _ => trivial

/--
A step that leaves the timers as they are. Where one is unfinished, the rest of what
the timers depend on stays as well.
-/
theorem Timers.still (timers : Timers v) (same : SameTimers v.state state)
    (nonneg : 0 ≤ state.connectionCount)
    (rest : ∀ id, v.state.Unfinished id → state.idleHandle = v.state.idleHandle ∧
      state.connectionCount = v.state.connectionCount ∧ state.history = v.state.history)
    (left : ∀ id incrementing, v.traces task = .cancelling id incrementing →
      g = .cancelling id incrementing ∨ ¬ v.state.Unfinished id)
    (mine : g.Knows state) (others : ∀ other, other ≠ task → (v.traces other).Knows state) :
    Timers (⟨assign v.traces task g, waits, state⟩ :
        Watched (world timeoutSeconds) Trace) where
  nonneg := nonneg
  stored id running := by
    have before := (same.unfinished id).mp running
    exact (rest id before).1.trans (timers.stored id before)
  pending id waiting := by
    have before := (same.pending id).mp waiting
    obtain ⟨-, count, history⟩ := rest id before.unfinished
    rw [count, history]
    exact timers.pending id before
  cancelled id running waiting := by
    have before := (same.unfinished id).mp running
    obtain ⟨owner, incrementing, owns⟩ :=
      timers.cancelled id before fun still => waiting ((same.pending id).mpr still)
    by_cases here : owner = task
    · subst here
      rcases left id incrementing owns with kept | ended
      · exact ⟨owner, incrementing, (assign_self ..).trans kept⟩
      · exact absurd before ended
    · exact ⟨owner, incrementing, (assign_of_ne _ here _).trans owns⟩
  knows := forall_assign (P := fun _ (g : Trace) => g.Knows state) mine others

/-- A step that changes neither the timers nor anything they depend on. -/
theorem Timers.same (timers : Timers v) (same : SameTimers v.state state)
    (handle : state.idleHandle = v.state.idleHandle)
    (count : state.connectionCount = v.state.connectionCount)
    (history : state.history = v.state.history)
    (left : ∀ id incrementing, v.traces task = .cancelling id incrementing →
      g = .cancelling id incrementing ∨ ¬ v.state.Unfinished id)
    (mine : g.Knows v.state) :
    Timers (⟨assign v.traces task g, waits, state⟩ :
        Watched (world timeoutSeconds) Trace) :=
  timers.still same (count ▸ timers.nonneg) (fun _ _ => ⟨handle, count, history⟩) left
    (knows_congr same (fun _ _ _ => handle) mine)
    fun other _ => knows_congr same (fun _ _ _ => handle) (timers.knows other)

/-- While another task runs, no timer is cancelled by one that does not hold the lock. -/
theorem Held.alone (held : Held v) (holds : (v.traces task).Holds) (different : other ≠ task)
    (id : TimerId) (incrementing : Bool) : v.traces other ≠ .cancelling id incrementing := by
  intro cancelling
  refine different (held.unique ?_ holds)
  rw [cancelling]
  trivial

/-- What a waiting task knows stays true where the timers that it speaks of allow it. -/
theorem knows_of_stable (timers : Timers v) (stable : (discipline timeoutSeconds).Stable v other)
    (cancelling : ∀ id incrementing, v.traces other = .cancelling id incrementing →
      state.idleHandle = v.state.idleHandle ∧ (state.Pending id → v.state.Pending id))
    (timer : ∀ id step, v.traces other = .timer id step → v.state.Unfinished id →
      state.Unfinished id) : (v.traces other).Knows state := by
  have knows := timers.knows other
  rcases cases_of_stable stable with gone | outside | ⟨id, incrementing, waits⟩ |
    ⟨id, sleeping | calling⟩
  · rw [gone]
    trivial
  · rw [outside]
    trivial
  · obtain ⟨handle, pending⟩ := cancelling id incrementing waits
    rw [waits] at knows ⊢
    exact ⟨handle.trans knows.1, fun waiting => knows.2 (pending waiting)⟩
  · have running := timer id .sleeping sleeping
    rw [sleeping] at knows ⊢
    exact running knows
  · have running := timer id .calling calling
    rw [calling] at knows ⊢
    exact running knows

/-- Cancelling the stored timer, whatever the count is set to before. -/
theorem Timers.cancelIdleTimer (timers : Timers v) {count : Int} (nonneg : 0 ≤ count)
    (incrementing : Bool) (holding : v.traces task = .holding)
    (stable : ∀ other, other ≠ task → (discipline timeoutSeconds).Stable v other) :
    Timers
      (⟨assign v.traces task (.cancelled incrementing
          { v.state with connectionCount := count }.cancelIdleTimer.1), waits,
        { v.state with connectionCount := count }.cancelIdleTimer.2⟩ :
        Watched (world timeoutSeconds) Trace) := by
  have kept (id : TimerId) (incrementing : Bool) : v.traces task ≠ .cancelling id incrementing := by
    rw [holding]
    exact nofun
  cases stored : v.state.idleHandle with
  | none =>
      have none' (id : TimerId) : ¬ v.state.Unfinished id := by
        intro running
        have handle := timers.stored id running
        rw [stored] at handle
        cases handle
      have same : { v.state with connectionCount := count }.cancelIdleTimer =
          (none, { v.state with connectionCount := count }) := by
        unfold State.cancelIdleTimer
        rw [stored]
      rw [same]
      exact timers.still (.of_eq rfl) nonneg (fun id running => absurd running (none' id))
        (fun id incrementing cancelling => absurd cancelling (kept id incrementing)) none'
        fun other different => knows_of_stable timers (stable other different)
          (fun _ _ _ => ⟨rfl, fun pending => pending⟩) fun _ _ _ running => running
  | some id =>
      let s : State := { v.state with connectionCount := count }
      have same : s.cancelIdleTimer = (some id, s.cancel id) := by
        change (match v.state.idleHandle with
          | some id => (some id, s.cancel id)
          | none => (none, s)) = _
        rw [stored]
      have unfinished (other : TimerId) :
          (s.cancel id).Unfinished other ↔ v.state.Unfinished other := unfinished_cancel s id other
      have pending (other : TimerId) :
          (s.cancel id).Pending other ↔ other ≠ id ∧ v.state.Pending other :=
        pending_cancel s id other
      obtain ⟨handle, -, after, history⟩ := cancel_fields s id
      change Timers ⟨assign v.traces task (.cancelled incrementing s.cancelIdleTimer.1), waits,
        s.cancelIdleTimer.2⟩
      rw [same]
      refine ⟨after ▸ nonneg, fun other running => ?_, fun other waiting => ?_,
        fun other running _ => ?_, ?_⟩
      · exact handle.trans (timers.stored other ((unfinished other).mp running))
      · obtain ⟨different, before⟩ := (pending other).mp waiting
        have current := timers.stored other before.unfinished
        rw [stored] at current
        exact absurd (Option.some.inj current).symm different
      · have current := timers.stored other ((unfinished other).mp running)
        rw [stored] at current
        obtain rfl := Option.some.inj current
        exact ⟨task, incrementing, assign_self ..⟩
      · refine forall_assign (P := fun _ (g : Trace) => g.Knows (s.cancel id)) ?_ ?_
        · exact ⟨handle.trans stored, fun waiting => ((pending id).mp waiting).1 rfl⟩
        · intro other different
          exact knows_of_stable timers (stable other different)
            (fun other _ _ => ⟨handle, fun waiting => ((pending other).mp waiting).2⟩)
            fun other _ _ running => (unfinished other).mpr running

/-- A decrement, which arms a timer where it brings the count to zero. -/
theorem Timers.decrement (timers : Timers v) (held : Held v) (holding : v.traces task = .holding)
    (stable : ∀ other, other ≠ task → (discipline timeoutSeconds).Stable v other) :
    Timers (⟨assign v.traces task .holding, waits,
      (v.state.decrement timeoutSeconds).2⟩ :
        Watched (world timeoutSeconds) Trace) := by
  have holds : (v.traces task).Holds := by
    rw [holding]
    trivial
  have kept (id : TimerId) (incrementing : Bool) : v.traces task ≠ .cancelling id incrementing := by
    rw [holding]
    exact nofun
  unfold State.decrement
  split
  · exact timers.same (.of_eq rfl) rfl rfl rfl
      (fun id incrementing cancelling => absurd cancelling (kept id incrementing)) trivial
  · rename_i positive
    -- A pending timer would say that the count is zero, a cancelled one that another task
    -- holds the lock.
    have none' (id : TimerId) : ¬ v.state.Unfinished id := by
      intro running
      by_cases waiting : v.state.Pending id
      · exact positive (timers.pending id waiting).1.le
      · obtain ⟨owner, incrementing, cancelling⟩ := timers.cancelled id running waiting
        by_cases same : owner = task
        · subst same
          exact kept id incrementing cancelling
        · exact held.alone holds same id incrementing cancelling
    have alone (other : TaskId) (different : other ≠ task) (state : State) :
        (v.traces other).Knows state := by
      have knows := timers.knows other
      rcases cases_of_stable (stable other different) with gone | outside |
        ⟨id, incrementing, cancelling⟩ | ⟨id, sleeping | calling⟩
      · rw [gone]
        trivial
      · rw [outside]
        trivial
      · exact absurd cancelling (held.alone holds different id incrementing)
      · rw [sleeping] at knows
        exact absurd knows (none' id)
      · rw [calling] at knows
        exact absurd knows (none' id)
    have nonneg : 0 ≤ v.state.connectionCount - 1 := by omega
    dsimp only
    split
    · rename_i zero
      have armed (id : TimerId)
          (running : (State.startIdleTimer
            { v.state with connectionCount := v.state.connectionCount - 1 }).Unfinished id) :
          id = v.state.nextTimer := by
        obtain ⟨timer, found, unfinished⟩ := running
        by_contra different
        exact none' id ⟨timer, (assign_of_ne _ different _).symm.trans found, unfinished⟩
      refine ⟨nonneg, fun id running => ?_, fun id waiting => ?_, fun id running waiting => ?_, ?_⟩
      · rw [armed id running]
        rfl
      · obtain rfl := armed id waiting.unfinished
        exact ⟨zero.1, assign_self ..⟩
      · obtain rfl := armed id running
        exact absurd ⟨_, assign_self .., rfl, rfl⟩ waiting
      · exact forall_assign (P := fun _ (g : Trace) => g.Knows (State.startIdleTimer
          { v.state with connectionCount := v.state.connectionCount - 1 })) trivial
          fun other different => alone other different _
    · exact timers.still (.of_eq rfl) nonneg (fun id running => absurd running (none' id))
        (fun id incrementing cancelling => absurd cancelling (kept id incrementing)) trivial
        fun other different => alone other different _

/-- With no timer unfinished, the stored handle, the count and the history may change. -/
theorem Timers.settled (timers : Timers v) (held : Held v)
    (none' : ∀ id, ¬ v.state.Unfinished id) (same : SameTimers v.state state)
    (nonneg : 0 ≤ state.connectionCount)
    (handle : state.idleHandle = v.state.idleHandle ∨ (v.traces task).Holds)
    (mine : g.Knows state) :
    Timers (⟨assign v.traces task g, waits, state⟩ :
        Watched (world timeoutSeconds) Trace) := by
  refine timers.still same nonneg (fun id running => absurd running (none' id))
    (fun id _ _ => .inr (none' id)) mine fun other different => ?_
  refine knows_congr same (fun id incrementing cancelling => ?_) (timers.knows other)
  rcases handle with kept | holds
  · exact kept
  · exact absurd cancelling (held.alone holds different id incrementing)

/-- The callback of a timer starts. -/
theorem Timers.shutdownStarted (timers : Timers v) {id : TimerId}
    (awake : v.traces task = .timer id .awake) :
    Timers (⟨assign v.traces task (.timer id .calling), waits,
      { v.state with
        timers := assign v.state.timers id
          ((v.state.timers id).map ({ · with phase := .expired })) }⟩ :
        Watched (world timeoutSeconds) Trace) := by
  have knows := timers.knows task
  rw [awake] at knows
  obtain ⟨timer, found, unfinished, active⟩ := knows
  have set : ({ v.state with
      timers := assign v.state.timers id
        ((v.state.timers id).map ({ · with phase := .expired })) } : State) =
      State.setTimer v.state id { timer with phase := .expired } := by
    rw [found]
    rfl
  rw [set]
  have same : SameTimers v.state (State.setTimer v.state id { timer with phase := .expired }) :=
    .of_set found unfinished rfl rfl
  refine timers.same same rfl rfl rfl (fun other incrementing cancelling => ?_)
    ⟨timer, found, unfinished⟩
  rw [awake] at cancelling
  cases cancelling

/-- A timer task ends, and no other task runs it. -/
theorem Timers.ended (timers : Timers v) {id : TimerId} {timer : Timer}
    (over' : timer.unfinished = false)
    (kept : ∀ other incrementing, v.traces task ≠ .cancelling other incrementing)
    (mine : g.Knows (State.setTimer v.state id timer))
    (others : ∀ other, other ≠ task → (∀ step, v.traces other ≠ .timer id step) ∧
      (discipline timeoutSeconds).Stable v other) :
    Timers
      (⟨assign v.traces task g, waits, State.setTimer v.state id timer⟩ :
        Watched (world timeoutSeconds) Trace) := by
  have unfinished (other : TimerId) : (State.setTimer v.state id timer).Unfinished other ↔
      other ≠ id ∧ v.state.Unfinished other := by
    rw [unfinished_setTimer, over']
    simp
  have pending (other : TimerId) : (State.setTimer v.state id timer).Pending other ↔
      other ≠ id ∧ v.state.Pending other := by
    rw [pending_setTimer, over']
    simp
  refine ⟨timers.nonneg,
    fun other running => timers.stored other ((unfinished other).mp running).2,
    fun other waiting => timers.pending other ((pending other).mp waiting).2,
    fun other running waiting => ?_, ?_⟩
  · obtain ⟨different, before⟩ := (unfinished other).mp running
    obtain ⟨owner, incrementing, cancelling⟩ := timers.cancelled other before
      fun still => waiting ((pending other).mpr ⟨different, still⟩)
    have elsewhere : owner ≠ task := by
      rintro rfl
      exact kept other incrementing cancelling
    exact ⟨owner, incrementing, (assign_of_ne _ elsewhere _).trans cancelling⟩
  · refine forall_assign (P := fun _ (g : Trace) => g.Knows (State.setTimer v.state id timer))
      mine fun other different => ?_
    obtain ⟨apart, stable⟩ := others other different
    refine knows_of_stable timers stable
      (fun other _ _ => ⟨rfl, fun waiting => ((pending other).mp waiting).2⟩) ?_
    intro other step running before
    refine (unfinished other).mpr ⟨?_, before⟩
    rintro rfl
    exact apart step running

/-- A call starts, or a timer task runs for the first time, or never. -/
theorem Timers.admit (timers : Timers v) (owned : Owned v) {request : Req}
    (idle : v.traces task = .gone)
    (stable : ∀ other, (discipline timeoutSeconds).Stable v other)
    (accepted : request.accept v.state = some state) :
    Timers
      (⟨assign v.traces task request.start, waits, state⟩ :
        Watched (world timeoutSeconds) Trace) := by
  have kept (other : TimerId) (incrementing : Bool) :
      v.traces task ≠ .cancelling other incrementing := by
    rw [idle]
    exact nofun
  cases request with
  | timer id =>
      simp only [Req.accept] at accepted
      split at accepted
      · rename_i found
        cases accepted
        exact timers.same (.of_set found rfl rfl rfl) rfl rfl rfl
          (fun other incrementing cancelling => absurd cancelling (kept other incrementing))
          ⟨_, found, rfl⟩
      · cases accepted
  | dropTimer id =>
      simp only [Req.accept] at accepted
      split at accepted
      · rename_i found
        cases accepted
        refine timers.ended rfl kept trivial fun other _ => ⟨fun step owns => ?_, stable other⟩
        obtain ⟨timer, found', begun⟩ := owned.begun other id step owns
        rw [found] at found'
        cases found'
        exact begun rfl
      · cases accepted
  | _ =>
      cases accepted
      exact timers.same (.of_eq rfl) rfl rfl rfl
        (fun other incrementing cancelling => absurd cancelling (kept other incrementing)) trivial

end Steps

section Ends

variable {v : Watched (world timeoutSeconds) Trace} {task other : TaskId} {g : Trace}
  {waits : TaskId → Option Wait} {state : State}

/-- A task that holds the lock gives it back. -/
theorem Timers.releaseLock (timers : Timers v) (may : Act.releaseLock.may (v.traces task)) :
    Timers
      (⟨assign v.traces task (Act.releaseLock.after () (v.traces task)), waits,
        { v.state with lock := v.state.lock.release }⟩ :
        Watched (world timeoutSeconds) Trace) := by
  have knows := timers.knows task
  refine timers.same (.of_eq rfl) rfl rfl rfl (fun id incrementing cancelling => ?_) ?_
  · rcases may with holding | ⟨quietly, quiet⟩
    · rw [holding] at cancelling
      cases cancelling
    · rw [quiet] at cancelling
      cases cancelling
  · rcases may with holding | ⟨quietly, quiet⟩
    · rw [holding]
      trivial
    · rw [quiet] at knows ⊢
      cases quietly with
      | true => exact knows
      | false => trivial

theorem Timers.timerEnded (timers : Timers v) (owned : Owned v) {id : TimerId}
    {outcome : Except PyException Unit} {step : TimerStep} (owns : v.traces task = .timer id step)
    (stable : ∀ other, other ≠ task → (discipline timeoutSeconds).Stable v other) :
    Timers (⟨assign v.traces task (.timer id .finished), waits,
      { v.state with
        timers := assign v.state.timers id
          ((v.state.timers id).map ({ · with phase := .ended outcome })) }⟩ :
        Watched (world timeoutSeconds) Trace) := by
  obtain ⟨timer, found, -⟩ := owned.begun task id step owns
  have set : ({ v.state with
      timers := assign v.state.timers id
        ((v.state.timers id).map ({ · with phase := .ended outcome })) } : State) =
      State.setTimer v.state id { timer with phase := .ended outcome } := by
    rw [found]
    rfl
  rw [set]
  refine timers.ended rfl (fun other incrementing cancelling => ?_) trivial
    fun other different => ⟨fun step' theirs => ?_, stable other different⟩
  · rw [owns] at cancelling
    cases cancelling
  · exact different (owned.unique other task id step' step theirs owns)

/-- The cancelled timer has ended, so no timer is unfinished. -/
theorem Timers.none_of_outcome (timers : Timers v) {id : TimerId} {incrementing : Bool}
    (cancelling : v.traces task = .cancelling id incrementing)
    (ended : (v.state.outcome? id).isSome = true) (other : TimerId) :
    ¬ v.state.Unfinished other := by
  intro running
  have knows := timers.knows task
  rw [cancelling] at knows
  have current := timers.stored other running
  rw [knows.1] at current
  obtain rfl := Option.some.inj current
  obtain ⟨⟨phase, cancelled⟩, found, unfinished⟩ := running
  unfold State.outcome? at ended
  rw [found] at ended
  cases phase with
  | ended outcome => cases unfinished
  | _ => cases ended

/-- An await in which only the lock may change. -/
theorem Timers.await (timers : Timers v) (same : state.timers = v.state.timers)
    (handle : state.idleHandle = v.state.idleHandle)
    (count : state.connectionCount = v.state.connectionCount)
    (history : state.history = v.state.history) (mine : g.Knows v.state)
    (left : ∀ id incrementing, v.traces task = .cancelling id incrementing →
      g = .cancelling id incrementing ∨ ¬ v.state.Unfinished id) :
    Timers (⟨assign v.traces task g, waits, state⟩ :
        Watched (world timeoutSeconds) Trace) :=
  timers.same (.of_eq same) handle count history left mine

theorem not_cancelling (outside : v.traces task = g) (id : TimerId) (incrementing : Bool)
    (other : g ≠ .cancelling id incrementing) {P : Prop}
    (cancelling : v.traces task = .cancelling id incrementing) : P :=
  absurd (outside.symm.trans cancelling) other

theorem enter_fields {w : Wait} {result : Option w.Res} {s s' : State}
    (entered : State.enter task w s = (result, s')) :
    s'.timers = s.timers ∧ s'.idleHandle = s.idleHandle ∧
      s'.connectionCount = s.connectionCount ∧ s'.history = s.history := by
  cases w with
  | lock =>
      simp only [State.enter] at entered
      split at entered <;> cases entered <;> exact ⟨rfl, rfl, rfl, rfl⟩
  | _ =>
      cases entered
      exact ⟨rfl, rfl, rfl, rfl⟩

theorem wake_fields {w : Wait} {outcome : Except PyException w.Res} {s s' : State}
    (ended : State.wake task w outcome s = some s') :
    s'.timers = s.timers ∧ s'.idleHandle = s.idleHandle ∧
      s'.connectionCount = s.connectionCount ∧ s'.history = s.history := by
  by_cases lock : w = .lock
  · subst lock
    cases outcome with
    | ok result =>
        obtain ⟨next, -, rfl⟩ := Option.map_eq_some_iff.mp ended
        exact ⟨rfl, rfl, rfl, rfl⟩
    | error exc =>
        simp only [State.wake] at ended
        split at ended
        · cases ended
          exact ⟨rfl, rfl, rfl, rfl⟩
        · cases ended
  · rw [wake_other task w lock ended]
    exact ⟨rfl, rfl, rfl, rfl⟩

/-- The sleep of a timer is over and nobody has cancelled it. -/
theorem pending_of_awake (task : TaskId) {s s' : State} {id : TimerId} (running : s.Unfinished id)
    (ended : State.wake task (.sleep id) (.ok ()) s = some s') : s.Pending id := by
  simp only [State.wake] at ended
  split at ended
  · cases ended
  · rename_i active
    obtain ⟨timer, found, unfinished⟩ := running
    refine ⟨timer, found, unfinished, ?_⟩
    simpa [State.isCancelled, found] using active

theorem outcome_of_wake {s s' : State} {id : TimerId}
    {outcome : Except PyException (Except PyException Unit)}
    (ended : State.wake task (.idleHandle id) outcome s = some s') :
    (s.outcome? id).isSome = true := by
  cases outcome with
  | error exc => cases ended
  | ok result =>
      simp only [State.wake] at ended
      split at ended
      · rename_i found
        rw [found]
        rfl
      · cases ended

end Ends

theorem timers_keeps (ok : Guard (world timeoutSeconds)) :
    (discipline timeoutSeconds).Keeps ok (fun v => Held v ∧ Owned v) Timers where
  admitted v task request state base timers stable idle free _ accepted :=
    timers.admit base.2 idle stable accepted
  executed v task a base timers stable free _ may := by
    obtain ⟨held, owned⟩ := base
    have knows := timers.knows task
    cases a with
    | increment => exact timers.cancelIdleTimer (Int.le_add_one timers.nonneg) true may stable
    | decrement =>
        have holding : v.traces task = .holding := may
        change Timers ⟨assign v.traces task (v.traces task), v.waits,
          (State.decrement timeoutSeconds v.state).2⟩
        rw [holding]
        exact timers.decrement held holding stable
    | cancelIdleTimer => exact timers.cancelIdleTimer timers.nonneg false may stable
    | clearIdleHandle =>
        obtain ⟨incrementing, quiet⟩ := may
        rw [quiet] at knows
        refine timers.settled held knows (.of_eq rfl) timers.nonneg (.inr ?_) ?_
        · rw [quiet]
          trivial
        · change Trace.Knows _ (v.traces task)
          rw [quiet]
          exact knows
    | resetCount =>
        have quiet : v.traces task = .quiet false := may
        rw [quiet] at knows
        refine timers.settled held knows (.of_eq rfl) (Int.le_refl 0) (.inl rfl) ?_
        change Trace.Knows _ (v.traces task)
        rw [quiet]
        exact knows
    | releaseLock => exact timers.releaseLock may
    | incremented =>
        have returning : v.traces task = .returning := may
        rw [returning] at knows
        exact timers.settled held knows (.of_eq rfl) timers.nonneg (.inl rfl) trivial
    | shutdownStarted id => exact timers.shutdownStarted may
    | timerEnded id outcome =>
        obtain ⟨step, owns⟩ := may
        exact timers.timerEnded owned owns stable
  passed v task w result state base timers stable free _ may entered := by
    obtain ⟨same, handle, count, history⟩ := enter_fields entered
    cases w with
    | lock =>
        exact timers.await same handle count history trivial fun id incrementing =>
          not_cancelling may id incrementing nofun
    | idleHandle id =>
        obtain ⟨incrementing, cancelling⟩ := may
        have ended : (v.state.outcome? id).isSome = true := by
          rw [(Prod.mk.inj entered).1]
          rfl
        have none' := timers.none_of_outcome cancelling ended
        rw [cancelling]
        exact timers.await same handle count history none' fun other _ _ => .inr (none' other)
    | sleep id => cases entered
    | shutdownCallback id => cases entered
  suspended v task w state base timers stable free _ may entered := by
    obtain ⟨same, handle, count, history⟩ := enter_fields entered
    have step : Timers ⟨assign v.traces task (v.traces task), assign v.waits task (some w),
        state⟩ :=
      timers.await same handle count history (timers.knows task)
        fun _ _ cancelling => .inl cancelling
    rwa [assign_eq_self] at step
  woken v task w outcome state base timers stable waiting may _ ended := by
    obtain ⟨same, handle, count, history⟩ := wake_fields ended
    have knows := timers.knows task
    cases w with
    | lock =>
        have outside : v.traces task = .outside := may
        refine timers.await same handle count history ?_ fun id incrementing =>
          not_cancelling may id incrementing nofun
        rw [outside]
        cases outcome <;> trivial
    | idleHandle id =>
        obtain ⟨incrementing, cancelling⟩ := may
        have none' := timers.none_of_outcome cancelling (outcome_of_wake ended)
        rw [cancelling]
        exact timers.await same handle count history none' fun other _ _ => .inr (none' other)
    | sleep id =>
        have asleep : v.traces task = .timer id .sleeping := may
        rw [asleep] at knows
        refine timers.await same handle count history ?_ fun other incrementing =>
          not_cancelling may other incrementing nofun
        cases outcome with
        | ok result => exact pending_of_awake task knows ended
        | error exc =>
            rw [asleep]
            exact knows
    | shutdownCallback id =>
        exact timers.await same handle count history knows fun other incrementing =>
          not_cancelling may other incrementing nofun
  lapsed _ _ _ _ _ _ _ _ _ _ _ _ ended := by cases ended
  finished v task base timers stable free _ done := by
    refine timers.await rfl rfl rfl rfl trivial fun id incrementing cancelling => ?_
    rw [cancelling] at done
    exact done.elim

/-! ## The main result -/

/-- A decrement that finds no connection returns the error and gives back the lock. -/
theorem decrement_underflow {rely : State → State → Prop} {task : TaskId} {s s' : State}
    {out : Except String Unit}
    (ran : Solo (world timeoutSeconds) rely task decrement s (.ok out) s') :
    ∃ locked, Ended (world timeoutSeconds) rely task .lock s (.ok ()) locked ∧
      (locked.connectionCount ≤ 0 →
        out = .error underflow ∧ s' = { locked with lock := locked.lock.release }) := by
  obtain ⟨first, locked, waited, ran⟩ := Solo.bind_iff.mp ran
  have waited := Solo.await_iff.mp waited
  cases first with
  | error exc => cases ran.1
  | ok result =>
      refine ⟨locked, waited, fun empty => ?_⟩
      have found : locked.decrement timeoutSeconds = (false, locked) := if_pos empty
      obtain ⟨outcome, after, last, body, release, same⟩ := Solo.ensure_iff.mp ran
      obtain ⟨rfl, rfl⟩ := release
      change Solo (world timeoutSeconds) rely task
        (if (locked.decrement timeoutSeconds).1 = true then .ret (.ok ())
          else .ret (.error underflow)) (locked.decrement timeoutSeconds).2 outcome after at body
      rw [found] at body
      obtain ⟨rfl, rfl⟩ := body
      cases same
      exact ⟨rfl, rfl⟩

/-- Nobody is connected and no timer was ever armed. -/
def State.initial : State := {}

/--
In every state of every run: the count is not negative; at most one timer task has not
ended; where one is neither ended nor cancelled, the count is zero; the callback starts
only where the count is zero and no increment has returned since its timer was armed;
and a decrement that finds a count of zero returns an error and changes nothing.
-/
theorem idle_shutdown_runs {c : Config (world timeoutSeconds)}
    (run : Reachable (State.initial : State) c) :
    0 ≤ c.state.connectionCount ∧
      (∀ first second, State.Unfinished c.state first → State.Unfinished c.state second →
        first = second) ∧
      (∀ id, State.Pending c.state id → c.state.connectionCount = 0) ∧
      (∀ task id c', Step c (.executed task (.shutdownStarted id)) c' →
        c.state.connectionCount = 0 ∧
          c.state.history.armed id = c.state.history.incremented) ∧
      ∀ (rely : State → State → Prop) (task : TaskId) (s s' : State) (out : Except String Unit),
        Solo (world timeoutSeconds) rely task decrement s (.ok out) s' →
        ∃ locked, Ended (world timeoutSeconds) rely task .lock s (.ok ()) locked ∧
          (locked.connectionCount = 0 →
            out = .error underflow ∧ s' = { locked with lock := locked.lock.release }) := by
  have keeps := ((held_keeps fun (_ : (world timeoutSeconds).State) _ _ => True).and
    ((owned_keeps fun _ _ _ => True).assume fun _ _ => trivial)).and
      ((timers_keeps fun _ _ _ => True).assume fun _ known => known.2)
  have unarmed (id : TimerId) : ¬ State.initial.Unfinished id := by
    rintro ⟨timer, found, -⟩
    cases found
  obtain ⟨v, tracks, ⟨held, owned⟩, timers⟩ := keeps.reached (by
    refine ⟨⟨fun task => iff_of_false (fun holds => holds) ?_, ?_⟩, ?_⟩
    · intro holder
      cases holder
    · refine ⟨fun _ _ _ owns => ?_, fun _ _ _ _ _ owns => ?_, fun _ _ => rfl⟩ <;> cases owns
    · exact ⟨Int.le_refl 0, fun id running => absurd running (unarmed id),
        fun id waiting => absurd waiting.unfinished (unarmed id),
        fun id running => absurd running (unarmed id), fun _ => trivial⟩) run
  rw [← tracks.state]
  refine ⟨timers.nonneg, fun first second one two => ?_, fun id waiting =>
    (timers.pending id waiting).1, fun task id c' taken => ?_, fun rely task s s' out ran => ?_⟩
  · exact Option.some.inj ((timers.stored first one).symm.trans (timers.stored second two))
  · have awake : v.traces task = .timer id .awake := tracks.may_of_step taken
    have knows := timers.knows task
    rw [awake] at knows
    exact timers.pending id knows
  · obtain ⟨locked, waited, empty⟩ := decrement_underflow ran
    exact ⟨locked, waited, fun zero => empty zero.le⟩

/-- After one connection has come and gone, a timer is pending. -/
theorem idle_shutdown_runs_armed :
    ∃ c : Config (world 30), Reachable State.initial c ∧ State.Pending c.state 0 ∧
      c.state.connectionCount = 0 := by
  obtain ⟨c, run, armed⟩ := Run.exists_of_play (W := world 30) Run.sound_anything State.initial 20
    [.request .increment, .request .decrement, .request (.timer 0)]
    (fun c => (c.state.timers 0).any fun timer => timer.unfinished && !timer.cancelled)
    (by decide +kernel)
  have pending : State.Pending c.state 0 := by
    obtain ⟨timer, found, both⟩ := (Option.any_eq_true _ _).mp armed
    rw [Bool.and_eq_true, Bool.not_eq_true'] at both
    exact ⟨timer, found, both⟩
  obtain ⟨-, -, zero, -⟩ := idle_shutdown_runs run
  exact ⟨c, run, pending, zero 0 pending⟩

end IdleShutdown

end Tela
