import Mathlib.Tactic

/-!
# Loops

A loop repeats one step until the step ends it with a result. A run is given a number
of rounds; the loop ends if some number of rounds is enough.
-/

namespace Loop

variable {σ β : Type} {step : σ → σ ⊕ β} {state next : σ} {result other : β}

/-- Run a loop for at most so many rounds. -/
def run (step : σ → σ ⊕ β) : Nat → σ → Option β
  | 0, _ => none
  | rounds + 1, state =>
      match step state with
      | .inl next => run step rounds next
      | .inr result => some result

/-- The loop ends with the result after some number of rounds. -/
def EndsWith (step : σ → σ ⊕ β) (state : σ) (result : β) : Prop :=
  ∃ rounds, run step rounds state = some result

/-- More rounds do not change a result. -/
theorem run_add {rounds : Nat} (ended : run step rounds state = some result) (more : Nat) :
    run step (rounds + more) state = some result := by
  induction rounds generalizing state with
  | zero => cases ended
  | succ rounds ih =>
      rw [Nat.succ_add]
      unfold run at ended ⊢
      cases stepped : step state with
      | inl next =>
          rw [stepped] at ended
          exact ih ended
      | inr result =>
          rw [stepped] at ended
          exact ended

theorem EndsWith.unique (first : EndsWith step state result) (second : EndsWith step state other) :
    result = other := by
  obtain ⟨rounds, ended⟩ := first
  obtain ⟨more, ended'⟩ := second
  have long := run_add ended more
  have long' := run_add ended' rounds
  rw [Nat.add_comm] at long'
  rw [long] at long'
  exact Option.some.inj long'

theorem endsWith_of_result (stepped : step state = .inr result) : EndsWith step state result := by
  refine ⟨1, ?_⟩
  unfold run
  rw [stepped]

/-- A step that goes on changes neither whether the loop ends nor how. -/
theorem endsWith_of_next (stepped : step state = .inl next) :
    EndsWith step state result ↔ EndsWith step next result := by
  constructor
  · rintro ⟨rounds, ended⟩
    cases rounds with
    | zero => cases ended
    | succ rounds =>
        unfold run at ended
        rw [stepped] at ended
        exact ⟨rounds, ended⟩
  · rintro ⟨rounds, ended⟩
    refine ⟨rounds + 1, ?_⟩
    unfold run
    rw [stepped]
    exact ended

/-- A loop that always finds a next state among the same states does not end. -/
theorem not_endsWith_of_forever (Among : σ → Prop)
    (goes : ∀ state, Among state → ∃ next, step state = .inl next ∧ Among next)
    (among : Among state) : ¬ EndsWith step state result := by
  rintro ⟨rounds, ended⟩
  induction rounds generalizing state with
  | zero => cases ended
  | succ rounds ih =>
      obtain ⟨next, stepped, among'⟩ := goes state among
      unfold run at ended
      rw [stepped] at ended
      exact ih among' ended

end Loop
