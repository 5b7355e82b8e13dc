import Tela.Library.Coroutine

/-!
# Cooperative scheduling

One task runs at a time and keeps control until its coroutine waits or ends. A
world says what acts do to the shared state, when a wait may end, and which
requests may start a task. Steps carry the event they perform, so that a
condition on runs can speak about the state before each event.
-/

namespace Coop

abbrev TaskId := Nat

/-- `table` with `value` for task `task`. -/
def assign {γ : Type} (table : TaskId → γ) (task : TaskId) (value : γ) : TaskId → γ :=
  fun other => if other = task then value else table other

@[simp] theorem assign_self {γ : Type} (table : TaskId → γ) (task : TaskId) (value : γ) :
    assign table task value task = value := by
  simp [assign]

theorem assign_of_ne {γ : Type} (table : TaskId → γ) {task other : TaskId}
    (different : other ≠ task) (value : γ) : assign table task value other = table other := by
  simp [assign, different]

/-- What holds of the new value and of the untouched ones holds of all. -/
theorem forall_assign {γ : Type} {table : TaskId → γ} {task : TaskId} {value : γ}
    {P : TaskId → γ → Prop} (here : P task value)
    (elsewhere : ∀ other, other ≠ task → P other (table other)) (other : TaskId) :
    P other (assign table task value other) := by
  by_cases same : other = task
  · subst same
    rwa [assign_self]
  · rw [assign_of_ne _ same]
    exact elsewhere other same

@[simp] theorem assign_eq_self {γ : Type} (table : TaskId → γ) (task : TaskId) :
    assign table task (table task) = table := by
  funext other
  by_cases same : other = task <;> simp [assign, same]

/-- The shared state and what acts, waits and requests do to it. -/
structure World (S : Sig) (ε : Type) where
  State : Type
  Req : Type
  /-- The effect of a synchronous act. -/
  exec : TaskId → (a : S.Act) → State → S.Val a × State
  /-- Arriving at a wait; a result means that the wait is over at once. -/
  enter : TaskId → (w : S.Wait) → State → Option (S.Res w) × State
  /-- A pending wait ends with this outcome, when it may. -/
  wake : TaskId → (w : S.Wait) → Except ε (S.Res w) → State → Option State
  /-- A pending timed wait lapses, when its limit has passed. -/
  lapse : TaskId → S.Wait → Nat → State → Option State
  /-- A request is accepted and will run as the given task. -/
  accept : TaskId → Req → State → Option State
  program : TaskId → Req → Coro S ε Unit

/-- A suspended task. -/
structure Parked (S : Sig) (ε : Type) where
  point : S.Wait
  next : Except ε (S.Res point) → Coro S ε Unit
  timer : Option (Nat × Coro S ε Unit)

variable {S : Sig} {ε : Type}

/-- The shared state, the suspended tasks and the running task. -/
structure Config (W : World S ε) where
  state : W.State
  parked : TaskId → Option (Parked S ε)
  running : Option (TaskId × Coro S ε Unit)
  fresh : TaskId

/-- What one step does. -/
inductive Event (W : World S ε)
  | admitted (task : TaskId) (request : W.Req)
  | executed (task : TaskId) (act : S.Act)
  | suspended (task : TaskId) (w : S.Wait)
  | passed (task : TaskId) (w : S.Wait)
  | woken (task : TaskId) (w : S.Wait) (outcome : Except ε (S.Res w))
  | lapsed (task : TaskId) (w : S.Wait)
  | finished (task : TaskId)

variable {W : World S ε}

namespace Config

def initial (W : World S ε) (state : W.State) : Config W :=
  ⟨state, fun _ => none, none, 0⟩

/-- No task is running or suspended. -/
def Quiescent (c : Config W) : Prop := c.running = none ∧ ∀ task, c.parked task = none

/-- What each suspended task waits for. -/
def waits (c : Config W) (task : TaskId) : Option S.Wait := (c.parked task).map Parked.point

/-- Suspend `task`. -/
def suspend (c : Config W) (task : TaskId) (state : W.State) (parked : Parked S ε) : Config W :=
  { c with state := state, parked := assign c.parked task (some parked), running := none }

/-- Continue `task` in `state`. -/
def proceed (c : Config W) (task : TaskId) (state : W.State) (rest : Coro S ε Unit) :
    Config W :=
  { c with state := state, running := some (task, rest) }

/-- Let the suspended `task` run again. -/
def resume (c : Config W) (task : TaskId) (state : W.State) (rest : Coro S ε Unit) : Config W :=
  { c with
    state := state, parked := assign c.parked task none, running := some (task, rest) }

end Config

/-- One step of a configuration. -/
inductive Step : Config W → Event W → Config W → Prop
  | admitted {c : Config W} {request : W.Req} {state : W.State}
      (idle : c.running = none) (accepted : W.accept c.fresh request c.state = some state) :
      Step c (.admitted c.fresh request)
        { c with
          state := state, running := some (c.fresh, W.program c.fresh request),
          fresh := c.fresh + 1 }
  | executed {c : Config W} {task : TaskId} {a : S.Act} {next : S.Val a → Coro S ε Unit}
      (running : c.running = some (task, .act a next)) :
      Step c (.executed task a)
        (c.proceed task (W.exec task a c.state).2 (next (W.exec task a c.state).1))
  | passed {c : Config W} {task : TaskId} {w : S.Wait} {result : S.Res w} {state : W.State}
      {next : Except ε (S.Res w) → Coro S ε Unit}
      (running : c.running = some (task, .wait w next))
      (entered : W.enter task w c.state = (some result, state)) :
      Step c (.passed task w) (c.proceed task state (next (.ok result)))
  | suspended {c : Config W} {task : TaskId} {w : S.Wait} {state : W.State}
      {next : Except ε (S.Res w) → Coro S ε Unit}
      (running : c.running = some (task, .wait w next))
      (entered : W.enter task w c.state = (none, state)) :
      Step c (.suspended task w) (c.suspend task state ⟨w, next, none⟩)
  | passedTimed {c : Config W} {task : TaskId} {w : S.Wait} {limit : Nat} {result : S.Res w}
      {state : W.State} {next : Except ε (S.Res w) → Coro S ε Unit} {lapse : Coro S ε Unit}
      (running : c.running = some (task, .timed w limit next lapse))
      (entered : W.enter task w c.state = (some result, state)) :
      Step c (.passed task w) (c.proceed task state (next (.ok result)))
  | suspendedTimed {c : Config W} {task : TaskId} {w : S.Wait} {limit : Nat} {state : W.State}
      {next : Except ε (S.Res w) → Coro S ε Unit} {lapse : Coro S ε Unit}
      (running : c.running = some (task, .timed w limit next lapse))
      (entered : W.enter task w c.state = (none, state)) :
      Step c (.suspended task w) (c.suspend task state ⟨w, next, some (limit, lapse)⟩)
  | woken {c : Config W} {task : TaskId} {p : Parked S ε} {outcome : Except ε (S.Res p.point)}
      {state : W.State} (idle : c.running = none) (waiting : c.parked task = some p)
      (ended : W.wake task p.point outcome c.state = some state) :
      Step c (.woken task p.point outcome) (c.resume task state (p.next outcome))
  | lapsed {c : Config W} {task : TaskId} {p : Parked S ε} {limit : Nat} {rest : Coro S ε Unit}
      {state : W.State} (idle : c.running = none) (waiting : c.parked task = some p)
      (timer : p.timer = some (limit, rest))
      (ended : W.lapse task p.point limit c.state = some state) :
      Step c (.lapsed task p.point) (c.resume task state rest)
  | returned {c : Config W} {task : TaskId} (running : c.running = some (task, .ret ())) :
      Step c (.finished task) { c with running := none }
  | raised {c : Config W} {task : TaskId} {exc : ε}
      (running : c.running = some (task, .raise exc)) :
      Step c (.finished task) { c with running := none }

/-- A condition on an event, given the state and the pending waits before it. -/
abbrev Guard (W : World S ε) := W.State → (TaskId → Option S.Wait) → Event W → Prop

/-- The configurations reached from `start` by steps that all meet `ok`. -/
inductive Run (start : W.State) (ok : Guard W) : Config W → Prop
  | start : Run start ok (.initial W start)
  | step {c c' : Config W} {event : Event W} :
      Run start ok c → ok c.state c.waits event → Step c event c' → Run start ok c'

/-- The configurations reached by any steps. -/
abbrev Reachable (start : W.State) : Config W → Prop := Run start fun _ _ _ => True

theorem Run.reachable {start : W.State} {ok : Guard W} {c : Config W} (run : Run start ok c) :
    Reachable start c := by
  induction run with
  | start => exact .start
  | step _ _ taken ih => exact .step ih trivial taken

/-! ## Executable runs -/

/-- A scheduling decision. -/
inductive Choice (W : World S ε)
  | request (request : W.Req)
  | answer (task : TaskId) (reply : (w : S.Wait) → Except ε (S.Res w))
  | expire (task : TaskId)

/-- A test on an event; a run stops at the first event that fails it. -/
abbrev Check (W : World S ε) := W.State → Event W → Bool

namespace Config

/-- Go on to `next` when the event passes the check. -/
def pass (check : Check W) (c : Config W) (event : Event W) (next : Config W) :
    Option (Config W) :=
  if check c.state event then some next else none

/-- Take one step of the running task. -/
def advance (check : Check W) (c : Config W) : Option (Config W) :=
  match c.running with
  | none => some c
  | some (task, .ret _) => c.pass check (.finished task) { c with running := none }
  | some (task, .raise _) => c.pass check (.finished task) { c with running := none }
  | some (task, .act a next) =>
      c.pass check (.executed task a)
        (c.proceed task (W.exec task a c.state).2 (next (W.exec task a c.state).1))
  | some (task, .wait w next) =>
      match W.enter task w c.state with
      | (some result, state) => c.pass check (.passed task w) (c.proceed task state (next (.ok result)))
      | (none, state) => c.pass check (.suspended task w) (c.suspend task state ⟨w, next, none⟩)
  | some (task, .timed w limit next lapse) =>
      match W.enter task w c.state with
      | (some result, state) => c.pass check (.passed task w) (c.proceed task state (next (.ok result)))
      | (none, state) =>
          c.pass check (.suspended task w) (c.suspend task state ⟨w, next, some (limit, lapse)⟩)

/-- Take at most `fuel` steps of the running task. -/
def settle (check : Check W) : Nat → Config W → Option (Config W)
  | 0, c => some c
  | fuel + 1, c =>
      match c.advance check with
      | none => none
      | some next => next.settle check fuel

/-- Start or resume a task as decided. -/
def choose (check : Check W) (c : Config W) (choice : Choice W) : Option (Config W) :=
  match c.running with
  | some _ => none
  | none =>
      match choice with
      | .request request =>
          (W.accept c.fresh request c.state).bind fun state =>
            c.pass check (.admitted c.fresh request)
              { c with
                state := state, running := some (c.fresh, W.program c.fresh request),
                fresh := c.fresh + 1 }
      | .answer task reply =>
          (c.parked task).bind fun p =>
            (W.wake task p.point (reply p.point) c.state).bind fun state =>
              c.pass check (.woken task p.point (reply p.point))
                (c.resume task state (p.next (reply p.point)))
      | .expire task =>
          (c.parked task).bind fun p =>
            p.timer.bind fun timer =>
              (W.lapse task p.point timer.1 c.state).bind fun state =>
                c.pass check (.lapsed task p.point) (c.resume task state timer.2)

/-- Follow a script; after each decision the chosen task runs until it waits. -/
def play (check : Check W) (fuel : Nat) : List (Choice W) → Config W → Option (Config W)
  | [], c => some c
  | choice :: rest, c =>
      match c.choose check choice with
      | none => none
      | some chosen =>
          match chosen.settle check fuel with
          | none => none
          | some next => play check fuel rest next

/-- Follow a script, then take one more decision and a few of the steps after it. -/
def playInto (check : Check W) (fuel : Nat) (script : List (Choice W)) (last : Choice W)
    (steps : Nat) (c : Config W) : Option (Config W) :=
  (c.play check fuel script).bind fun c =>
    (c.choose check last).bind fun c => c.settle check steps

end Config

namespace Run

variable {start : W.State} {ok : Guard W} {check : Check W} {c c' : Config W}

/-- The check that lets every event through. -/
def anything : Check W := fun _ _ => true

/-- The check only lets events through that meet the condition. -/
def Sound (check : Check W) (ok : Guard W) : Prop :=
  ∀ state waits event, check state event = true → ok state waits event

theorem sound_anything : Sound (W := W) anything fun _ _ _ => True := fun _ _ _ _ => trivial

theorem pass {event : Event W} {next : Config W} (run : Run start ok c)
    (sound : Sound check ok) (passed : c.pass check event next = some c')
    (taken : Step c event next) : Run start ok c' := by
  unfold Config.pass at passed
  split at passed
  · rename_i checked
    cases passed
    exact run.step (sound _ _ _ checked) taken
  · cases passed

theorem advance (run : Run start ok c) (sound : Sound check ok)
    (advanced : c.advance check = some c') : Run start ok c' := by
  unfold Config.advance at advanced
  split at advanced
  · cases advanced
    exact run
  · exact run.pass sound advanced (.returned ‹_›)
  · exact run.pass sound advanced (.raised ‹_›)
  · exact run.pass sound advanced (.executed ‹_›)
  · split at advanced
    · exact run.pass sound advanced (.passed ‹_› ‹_›)
    · exact run.pass sound advanced (.suspended ‹_› ‹_›)
  · split at advanced
    · exact run.pass sound advanced (.passedTimed ‹_› ‹_›)
    · exact run.pass sound advanced (.suspendedTimed ‹_› ‹_›)

theorem settle {fuel : Nat} (run : Run start ok c) (sound : Sound check ok)
    (settled : c.settle check fuel = some c') : Run start ok c' := by
  induction fuel generalizing c with
  | zero =>
      cases settled
      exact run
  | succ fuel ih =>
      unfold Config.settle at settled
      split at settled
      · cases settled
      · exact ih (run.advance sound ‹_›) settled

theorem choose {choice : Choice W} (run : Run start ok c) (sound : Sound check ok)
    (chosen : c.choose check choice = some c') : Run start ok c' := by
  unfold Config.choose at chosen
  split at chosen
  · cases chosen
  · rename_i idle
    cases choice with
    | request request =>
        obtain ⟨state, accepted, passed⟩ := Option.bind_eq_some_iff.mp chosen
        exact run.pass sound passed (.admitted idle accepted)
    | answer task reply =>
        obtain ⟨p, waiting, chosen⟩ := Option.bind_eq_some_iff.mp chosen
        obtain ⟨state, ended, passed⟩ := Option.bind_eq_some_iff.mp chosen
        exact run.pass sound passed (.woken idle waiting ended)
    | expire task =>
        obtain ⟨p, waiting, chosen⟩ := Option.bind_eq_some_iff.mp chosen
        obtain ⟨timer, timed, chosen⟩ := Option.bind_eq_some_iff.mp chosen
        obtain ⟨state, ended, passed⟩ := Option.bind_eq_some_iff.mp chosen
        exact run.pass sound passed (.lapsed idle waiting timed ended)

/-- A script that plays to the end is a run. -/
theorem play {fuel : Nat} {script : List (Choice W)} (run : Run start ok c)
    (sound : Sound check ok) (played : c.play check fuel script = some c') :
    Run start ok c' := by
  induction script generalizing c with
  | nil =>
      cases played
      exact run
  | cons choice rest ih =>
      unfold Config.play at played
      split at played
      · cases played
      · split at played
        · cases played
        · exact ih ((run.choose sound ‹_›).settle sound ‹_›) played

/-- What holds at the end of a script holds somewhere in the runs. -/
theorem exists_of_play (sound : Sound check ok) (start : W.State) (fuel : Nat)
    (script : List (Choice W)) (P : Config W → Bool)
    (played : ((Config.initial W start).play check fuel script).any P = true) :
    ∃ c, Run start ok c ∧ P c = true := by
  obtain ⟨c, final, holds⟩ := (Option.any_eq_true _ _).mp played
  exact ⟨c, play .start sound final, holds⟩

/-- What holds between two steps of a script holds somewhere in the runs. -/
theorem exists_of_playInto (sound : Sound check ok) (start : W.State) (fuel : Nat)
    (script : List (Choice W)) (last : Choice W) (steps : Nat) (P : Config W → Bool)
    (played : ((Config.initial W start).playInto check fuel script last steps).any P = true) :
    ∃ c, Run start ok c ∧ P c = true := by
  obtain ⟨c, final, holds⟩ := (Option.any_eq_true _ _).mp played
  obtain ⟨before, scripted, rest⟩ := Option.bind_eq_some_iff.mp final
  obtain ⟨chosen, decided, settled⟩ := Option.bind_eq_some_iff.mp rest
  exact ⟨c, ((play .start sound scripted).choose sound decided).settle sound settled, holds⟩

end Run

end Coop
