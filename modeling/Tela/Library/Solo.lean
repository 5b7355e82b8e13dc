import Tela.Library.Scheduler

/-!
# One coroutine by itself

What a single coroutine does from a state, when other tasks change the state only as
`rely` allows, and only while it is suspended. A coroutine may end in several ways,
because an await may; where it cannot, `Ends` names the one way.
-/

namespace Coop

variable {S : Sig} {ε α β : Type}

section Semantics

variable (W : World S ε) (rely : W.State → W.State → Prop) (task : TaskId)

/-- An await that starts in a state ends with an outcome in a state. -/
def Ended (w : S.Wait) (s : W.State) (outcome : Except ε (S.Res w)) (s' : W.State) : Prop :=
  (∃ result, outcome = .ok result ∧ W.enter task w s = (some result, s')) ∨
    ∃ s₁ s₂, W.enter task w s = (none, s₁) ∧ rely s₁ s₂ ∧ W.wake task w outcome s₂ = some s'

/-- The limit of an await lapses. -/
def Lapsed (w : S.Wait) (limit : Nat) (s s' : W.State) : Prop :=
  ∃ s₁ s₂, W.enter task w s = (none, s₁) ∧ rely s₁ s₂ ∧ W.lapse task w limit s₂ = some s'

/-- How an await has ended. -/
abbrev Answer (S : Sig) (ε : Type) := (w : S.Wait) × Except ε (S.Res w)

/-- One of the awaits has ended so. -/
def Heard (answers : List (Answer S ε)) (w : S.Wait) (outcome : Except ε (S.Res w)) : Prop :=
  ⟨w, outcome⟩ ∈ answers

/-- The coroutine, run as `task` from a state, ends with an outcome in a state. -/
def Solo : Coro S ε α → W.State → Except ε α → W.State → Prop
  | .ret value, s, out, s' => out = .ok value ∧ s' = s
  | .raise exc, s, out, s' => out = .error exc ∧ s' = s
  | .act a next, s, out, s' => Solo (next (W.exec task a s).1) (W.exec task a s).2 out s'
  | .wait w next, s, out, s' =>
      ∃ outcome s₁, Ended W rely task w s outcome s₁ ∧ Solo (next outcome) s₁ out s'
  | .timed w limit next lapse, s, out, s' =>
      (∃ outcome s₁, Ended W rely task w s outcome s₁ ∧ Solo (next outcome) s₁ out s') ∨
        ∃ s₁, Lapsed W rely task w limit s s₁ ∧ Solo lapse s₁ out s'

/-- A run together with how its awaits end, in order; a lapsed one does not end. -/
def Hears : Coro S ε α → W.State → List (Answer S ε) → Except ε α → W.State → Prop
  | .ret value, s, answers, out, s' => answers = [] ∧ out = .ok value ∧ s' = s
  | .raise exc, s, answers, out, s' => answers = [] ∧ out = .error exc ∧ s' = s
  | .act a next, s, answers, out, s' =>
      Hears (next (W.exec task a s).1) (W.exec task a s).2 answers out s'
  | .wait w next, s, answers, out, s' =>
      ∃ outcome s₁ later, answers = ⟨w, outcome⟩ :: later ∧ Ended W rely task w s outcome s₁ ∧
        Hears (next outcome) s₁ later out s'
  | .timed w limit next lapse, s, answers, out, s' =>
      (∃ outcome s₁ later, answers = ⟨w, outcome⟩ :: later ∧ Ended W rely task w s outcome s₁ ∧
        Hears (next outcome) s₁ later out s') ∨
          ∃ s₁, Lapsed W rely task w limit s s₁ ∧ Hears lapse s₁ answers out s'

end Semantics

variable {W : World S ε} {rely : W.State → W.State → Prop} {task : TaskId}

namespace Solo

variable {s s' : W.State}

/-- A sequence ends where its first part raises, or where its second part ends. -/
theorem bind_iff {x : Coro S ε α} {rest : α → Coro S ε β} {out : Except ε β} :
    Solo W rely task (x.bind rest) s out s' ↔
      ∃ first s₁, Solo W rely task x s first s₁ ∧
        match first with
        | .ok value => Solo W rely task (rest value) s₁ out s'
        | .error exc => out = .error exc ∧ s' = s₁ := by
  induction x generalizing s with
  | ret value =>
      constructor
      · exact fun solo => ⟨_, s, ⟨rfl, rfl⟩, solo⟩
      · rintro ⟨_, _, ⟨rfl, rfl⟩, solo⟩
        exact solo
  | raise exc =>
      constructor
      · exact fun solo => ⟨_, s, ⟨rfl, rfl⟩, solo⟩
      · rintro ⟨_, _, ⟨rfl, rfl⟩, solo⟩
        exact solo
  | act a next ih => exact ih _
  | wait w next ih =>
      constructor
      · rintro ⟨outcome, s₁, ended, solo⟩
        obtain ⟨first, s₂, before, after⟩ := (ih outcome).mp solo
        exact ⟨first, s₂, ⟨outcome, s₁, ended, before⟩, after⟩
      · rintro ⟨first, s₂, ⟨outcome, s₁, ended, before⟩, after⟩
        exact ⟨outcome, s₁, ended, (ih outcome).mpr ⟨first, s₂, before, after⟩⟩
  | timed w limit next lapse ih ihLapse =>
      constructor
      · rintro (⟨outcome, s₁, ended, solo⟩ | ⟨s₁, lapsed, solo⟩)
        · obtain ⟨first, s₂, before, after⟩ := (ih outcome).mp solo
          exact ⟨first, s₂, .inl ⟨outcome, s₁, ended, before⟩, after⟩
        · obtain ⟨first, s₂, before, after⟩ := ihLapse.mp solo
          exact ⟨first, s₂, .inr ⟨s₁, lapsed, before⟩, after⟩
      · rintro ⟨first, s₂, ⟨outcome, s₁, ended, before⟩ | ⟨s₁, lapsed, before⟩, after⟩
        · exact .inl ⟨outcome, s₁, ended, (ih outcome).mpr ⟨first, s₂, before, after⟩⟩
        · exact .inr ⟨s₁, lapsed, ihLapse.mpr ⟨first, s₂, before, after⟩⟩

/-- To run a coroutine and look at its outcome is to run it. -/
theorem attempt_iff {x : Coro S ε α} {out : Except ε (Except ε α)} :
    Solo W rely task x.attempt s out s' ↔ ∃ first, out = .ok first ∧ Solo W rely task x s first s' := by
  induction x generalizing s with
  | ret value =>
      constructor
      · rintro ⟨rfl, rfl⟩
        exact ⟨_, rfl, rfl, rfl⟩
      · rintro ⟨_, rfl, rfl, rfl⟩
        exact ⟨rfl, rfl⟩
  | raise exc =>
      constructor
      · rintro ⟨rfl, rfl⟩
        exact ⟨_, rfl, rfl, rfl⟩
      · rintro ⟨_, rfl, rfl, rfl⟩
        exact ⟨rfl, rfl⟩
  | act a next ih => exact ih _
  | wait w next ih =>
      constructor
      · rintro ⟨outcome, s₁, ended, solo⟩
        obtain ⟨first, same, run⟩ := (ih outcome).mp solo
        exact ⟨first, same, outcome, s₁, ended, run⟩
      · rintro ⟨first, same, outcome, s₁, ended, run⟩
        exact ⟨outcome, s₁, ended, (ih outcome).mpr ⟨first, same, run⟩⟩
  | timed w limit next lapse ih ihLapse =>
      constructor
      · rintro (⟨outcome, s₁, ended, solo⟩ | ⟨s₁, lapsed, solo⟩)
        · obtain ⟨first, same, run⟩ := (ih outcome).mp solo
          exact ⟨first, same, .inl ⟨outcome, s₁, ended, run⟩⟩
        · obtain ⟨first, same, run⟩ := ihLapse.mp solo
          exact ⟨first, same, .inr ⟨s₁, lapsed, run⟩⟩
      · rintro ⟨first, same, ⟨outcome, s₁, ended, run⟩ | ⟨s₁, lapsed, run⟩⟩
        · exact .inl ⟨outcome, s₁, ended, (ih outcome).mpr ⟨first, same, run⟩⟩
        · exact .inr ⟨s₁, lapsed, ihLapse.mpr ⟨first, same, run⟩⟩

theorem ofExcept_iff {outcome out : Except ε α} :
    Solo W rely task (Coro.ofExcept outcome) s out s' ↔ out = outcome ∧ s' = s := by
  cases outcome <;> exact Iff.rfl

theorem await_iff {w : S.Wait} {out : Except ε (S.Res w)} :
    Solo W rely task (Coro.await w) s out s' ↔ Ended W rely task w s out s' := by
  constructor
  · rintro ⟨outcome, s₁, ended, solo⟩
    obtain ⟨rfl, rfl⟩ := ofExcept_iff.mp solo
    exact ended
  · exact fun ended => ⟨out, s', ended, ofExcept_iff.mpr ⟨rfl, rfl⟩⟩

/-- The final part runs however the body ends; only its exceptions hide that end. -/
theorem ensure_iff {x : Coro S ε α} {final : Coro S ε Unit} {out : Except ε α} :
    Solo W rely task (x.ensure final) s out s' ↔
      ∃ first s₁ last, Solo W rely task x s first s₁ ∧ Solo W rely task final s₁ last s' ∧
        out = last.bind fun _ => first := by
  unfold Coro.ensure
  rw [bind_iff]
  constructor
  · rintro ⟨_, s₁, attempted, rest⟩
    obtain ⟨first, rfl, run⟩ := attempt_iff.mp attempted
    obtain ⟨last, s₂, finished, after⟩ := bind_iff.mp rest
    cases last with
    | ok value =>
        obtain ⟨rfl, rfl⟩ := ofExcept_iff.mp after
        exact ⟨_, s₁, .ok value, run, finished, rfl⟩
    | error exc =>
        obtain ⟨rfl, rfl⟩ := after
        exact ⟨first, s₁, .error exc, run, finished, rfl⟩
  · rintro ⟨first, s₁, last, run, finished, rfl⟩
    refine ⟨.ok first, s₁, attempt_iff.mpr ⟨first, rfl, run⟩, bind_iff.mpr ⟨last, s', finished, ?_⟩⟩
    cases last with
    | ok value => exact ofExcept_iff.mpr ⟨rfl, rfl⟩
    | error exc => exact ⟨rfl, rfl⟩

end Solo

/-- Every run hears something. -/
theorem solo_iff_hears {x : Coro S ε α} {s s' : W.State} {out : Except ε α} :
    Solo W rely task x s out s' ↔ ∃ answers, Hears W rely task x s answers out s' := by
  have waits {w : S.Wait} {next : Except ε (S.Res w) → Coro S ε α} {s : W.State}
      (ih : ∀ outcome s₁, Solo W rely task (next outcome) s₁ out s' ↔
        ∃ answers, Hears W rely task (next outcome) s₁ answers out s') :
      (∃ outcome s₁, Ended W rely task w s outcome s₁ ∧
        Solo W rely task (next outcome) s₁ out s') ↔
        ∃ answers outcome s₁ later, answers = ⟨w, outcome⟩ :: later ∧
          Ended W rely task w s outcome s₁ ∧ Hears W rely task (next outcome) s₁ later out s' := by
    constructor
    · rintro ⟨outcome, s₁, ended, solo⟩
      obtain ⟨later, hears⟩ := (ih outcome s₁).mp solo
      exact ⟨_, outcome, s₁, later, rfl, ended, hears⟩
    · rintro ⟨_, outcome, s₁, later, rfl, ended, hears⟩
      exact ⟨outcome, s₁, ended, (ih outcome s₁).mpr ⟨later, hears⟩⟩
  induction x generalizing s with
  | ret value => exact ⟨fun solo => ⟨[], rfl, solo⟩, fun ⟨_, _, solo⟩ => solo⟩
  | raise exc => exact ⟨fun solo => ⟨[], rfl, solo⟩, fun ⟨_, _, solo⟩ => solo⟩
  | act a next ih => exact ih _
  | wait w next ih => exact waits fun outcome _ => ih outcome
  | timed w limit next lapse ih ihLapse =>
      refine (or_congr (waits fun outcome _ => ih outcome) ?_).trans exists_or.symm
      constructor
      · rintro ⟨s₁, lapsed, solo⟩
        obtain ⟨answers, hears⟩ := ihLapse.mp solo
        exact ⟨answers, s₁, lapsed, hears⟩
      · rintro ⟨answers, s₁, lapsed, hears⟩
        exact ⟨s₁, lapsed, ihLapse.mpr ⟨answers, hears⟩⟩

/-! ## The only way to end -/

/-- The coroutine ends in this way, and in no other. -/
def Ends (W : World S ε) (rely : W.State → W.State → Prop) (task : TaskId) (x : Coro S ε α)
    (s : W.State) (out : Except ε α) (s' : W.State) : Prop :=
  ∀ out' s'', Solo W rely task x s out' s'' ↔ out' = out ∧ s'' = s'

namespace Ends

variable {s s₁ s' : W.State}

theorem ret (value : α) (s : W.State) :
    Ends W rely task (.ret value) s (.ok value) s := fun _ _ => Iff.rfl

theorem raise (exc : ε) (s : W.State) :
    Ends W rely task (.raise exc : Coro S ε α) s (.error exc) s := fun _ _ => Iff.rfl

theorem act {a : S.Act} {next : S.Val a → Coro S ε α} {out : Except ε α}
    (rest : Ends W rely task (next (W.exec task a s).1) (W.exec task a s).2 out s') :
    Ends W rely task (.act a next) s out s' := rest

/-- The await can end in one way only. -/
theorem wait {w : S.Wait} {next : Except ε (S.Res w) → Coro S ε α} {out : Except ε α}
    (outcome : Except ε (S.Res w))
    (only : ∀ outcome' s'', Ended W rely task w s outcome' s'' ↔ outcome' = outcome ∧ s'' = s₁)
    (rest : Ends W rely task (next outcome) s₁ out s') :
    Ends W rely task (.wait w next) s out s' := by
  intro out' s''
  rw [← rest]
  constructor
  · rintro ⟨outcome', s₂, ended, solo⟩
    obtain ⟨rfl, rfl⟩ := (only _ _).mp ended
    exact solo
  · intro solo
    exact ⟨outcome, s₁, (only _ _).mpr ⟨rfl, rfl⟩, solo⟩

theorem bind {x : Coro S ε α} {rest : α → Coro S ε β} {value : α} {out : Except ε β}
    (first : Ends W rely task x s (.ok value) s₁)
    (second : Ends W rely task (rest value) s₁ out s') :
    Ends W rely task (x.bind rest) s out s' := by
  intro out' s''
  rw [Solo.bind_iff, ← second]
  constructor
  · rintro ⟨_, _, before, after⟩
    obtain ⟨rfl, rfl⟩ := (first _ _).mp before
    exact after
  · exact fun after => ⟨_, s₁, (first _ _).mpr ⟨rfl, rfl⟩, after⟩

theorem solo {x : Coro S ε α} {out : Except ε α} (ends : Ends W rely task x s out s') :
    Solo W rely task x s out s' := (ends _ _).mpr ⟨rfl, rfl⟩

end Ends

/-! ## Running one by hand -/

/-- Run a coroutine when each suspended await is answered in this way. -/
def Coro.drive (W : World S ε) (task : TaskId)
    (answer : (w : S.Wait) → W.State → Option (Except ε (S.Res w) × W.State)) :
    Coro S ε α → W.State → Option (Except ε α × W.State)
  | .ret value, s => some (.ok value, s)
  | .raise exc, s => some (.error exc, s)
  | .act a next, s => (next (W.exec task a s).1).drive W task answer (W.exec task a s).2
  | .wait w next, s =>
      match (W.enter task w s).1 with
      | some result => (next (.ok result)).drive W task answer (W.enter task w s).2
      | none => (answer w (W.enter task w s).2).bind fun ended =>
          (next ended.1).drive W task answer ended.2
  | .timed w _ next _, s =>
      match (W.enter task w s).1 with
      | some result => (next (.ok result)).drive W task answer (W.enter task w s).2
      | none => (answer w (W.enter task w s).2).bind fun ended =>
          (next ended.1).drive W task answer ended.2

/-- A run by hand is a run when the others may answer so. -/
theorem Solo.of_drive
    {answer : (w : S.Wait) → W.State → Option (Except ε (S.Res w) × W.State)}
    (answered : ∀ w s outcome s', answer w s = some (outcome, s') →
      ∃ s₁, rely s s₁ ∧ W.wake task w outcome s₁ = some s')
    {x : Coro S ε α} {s s' : W.State} {out : Except ε α}
    (driven : x.drive W task answer s = some (out, s')) : Solo W rely task x s out s' := by
  have waits {w : S.Wait} {next : Except ε (S.Res w) → Coro S ε α} {s : W.State}
      (ih : ∀ outcome s₁, (next outcome).drive W task answer s₁ = some (out, s') →
        Solo W rely task (next outcome) s₁ out s')
      (driven : (Coro.wait w next).drive W task answer s = some (out, s')) :
      ∃ outcome s₁, Ended W rely task w s outcome s₁ ∧
        Solo W rely task (next outcome) s₁ out s' := by
    rw [Coro.drive] at driven
    cases entered : W.enter task w s with
    | mk passed s₁ =>
        rw [entered] at driven
        cases passed with
        | some result => exact ⟨.ok result, s₁, .inl ⟨result, rfl, entered⟩, ih _ _ driven⟩
        | none =>
            obtain ⟨⟨outcome, s₂⟩, replied, rest⟩ := Option.bind_eq_some_iff.mp driven
            obtain ⟨mid, kept, woken⟩ := answered w s₁ outcome s₂ replied
            exact ⟨outcome, s₂, .inr ⟨s₁, mid, entered, kept, woken⟩, ih _ _ rest⟩
  induction x generalizing s with
  | ret value =>
      cases driven
      exact ⟨rfl, rfl⟩
  | raise exc =>
      cases driven
      exact ⟨rfl, rfl⟩
  | act a next ih => exact ih _ driven
  | wait w next ih => exact waits (fun outcome _ rest => ih outcome rest) driven
  | timed w limit next lapse ih ihLapse =>
      rw [Coro.drive] at driven
      refine .inl (waits (fun outcome _ rest => ih outcome rest) ?_)
      rwa [Coro.drive]

end Coop
