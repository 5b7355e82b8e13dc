import Mathlib.Tactic

/-!
# Budgets

A budget of attempts that is spent one at a time and refilled. However the two are
interleaved, no stretch without a refill spends more than the limit.
-/

namespace Budget

inductive Mark
  | spend
  | refill
  deriving DecidableEq, Repr

/-- The marks take the number of spent attempts from `used` to `used'` within the limit. -/
def Spends (limit : Nat) : List Mark → (used used' : Nat) → Prop
  | [], used, used' => used = used'
  | .spend :: rest, used, used' => used < limit ∧ Spends limit rest (used + 1) used'
  | .refill :: rest, _, used' => Spends limit rest 0 used'

variable {limit used used' : Nat} {first second segment : List Mark}

theorem spends_append :
    Spends limit (first ++ second) used used' ↔
      ∃ middle, Spends limit first used middle ∧ Spends limit second middle used' := by
  induction first generalizing used with
  | nil => exact ⟨fun spends => ⟨used, rfl, spends⟩, fun ⟨_, same, spends⟩ => same ▸ spends⟩
  | cons mark rest ih =>
      cases mark with
      | spend =>
          constructor
          · rintro ⟨within, spends⟩
            obtain ⟨middle, before, after⟩ := ih.mp spends
            exact ⟨middle, ⟨within, before⟩, after⟩
          · rintro ⟨middle, ⟨within, before⟩, after⟩
            exact ⟨within, ih.mpr ⟨middle, before, after⟩⟩
      | refill => exact ih

theorem Spends.append {middle : Nat} (before : Spends limit first used middle)
    (after : Spends limit second middle used') : Spends limit (first ++ second) used used' :=
  spends_append.mpr ⟨middle, before, after⟩

theorem Spends.le (spends : Spends limit first used used') (within : used ≤ limit) :
    used' ≤ limit := by
  induction first generalizing used with
  | nil =>
      obtain rfl : used = used' := spends
      exact within
  | cons mark rest ih =>
      cases mark with
      | spend =>
          apply ih spends.2
          have below := spends.1
          omega
      | refill => exact ih spends (Nat.zero_le limit)

end Budget
