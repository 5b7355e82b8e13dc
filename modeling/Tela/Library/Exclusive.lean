import Mathlib.Tactic

/-!
# Exclusive contents

Places that hold items, no item twice: neither in one place nor in two. An item may
move from one place to another, vanish, or appear where it has never been.
-/

variable {P α : Type} [DecidableEq α]

/-- No item is in two places, nor twice in one that has another beside it. -/
def Exclusive (content : P → List α) : Prop :=
  ∀ item p q, p ≠ q → (content p).count item + (content q).count item ≤ 1

namespace Exclusive

variable {content content' : P → List α} {p q : P} {item : α}

theorem not_mem (exclusive : Exclusive content) (different : p ≠ q) (here : item ∈ content p) :
    item ∉ content q := by
  intro there
  have few := exclusive item p q different
  have first := List.count_pos_iff.mpr here
  have second := List.count_pos_iff.mpr there
  omega

theorem nodup (exclusive : Exclusive content) (different : p ≠ q) : (content p).Nodup := by
  refine List.nodup_iff_count_le_one.mpr fun item => ?_
  have few := exclusive item p q different
  omega

/-- Items vanish. -/
theorem shrink (exclusive : Exclusive content)
    (less : ∀ r item, (content' r).count item ≤ (content r).count item) :
    Exclusive content' := by
  intro item r t different
  exact (Nat.add_le_add (less r item) (less t item)).trans (exclusive item r t different)

/-- Items move between two places, or vanish there. -/
theorem move (exclusive : Exclusive content) (different : p ≠ q)
    (others : ∀ r, r ≠ p → r ≠ q → content' r = content r)
    (total : ∀ item, (content' p).count item + (content' q).count item ≤
      (content p).count item + (content q).count item) : Exclusive content' := by
  have pair (item : α) (r : P) (fromP : r ≠ p) (fromQ : r ≠ q) :
      (content' p).count item + (content' r).count item ≤ 1 ∧
        (content' q).count item + (content' r).count item ≤ 1 := by
    have here := exclusive item p q different
    have first := exclusive item p r fromP.symm
    have second := exclusive item q r fromQ.symm
    have moved := total item
    rw [others r fromP fromQ]
    omega
  intro item r t apart
  by_cases atP : r = p
  · subst atP
    by_cases atQ : t = q
    · subst atQ
      exact (total item).trans (exclusive item r t different)
    · exact (pair item t apart.symm atQ).1
  by_cases atQ : r = q
  · subst atQ
    by_cases beside : t = p
    · subst beside
      rw [Nat.add_comm]
      exact (total item).trans (exclusive item t r different)
    · exact (pair item t beside apart.symm).2
  by_cases second : t = p
  · subst second
    rw [Nat.add_comm]
    exact (pair item r atP atQ).1
  by_cases third : t = q
  · subst third
    rw [Nat.add_comm]
    exact (pair item r atP atQ).2
  rw [others r atP atQ, others t second third]
  exact exclusive item r t apart

/-- An item appears that was nowhere. -/
theorem add (exclusive : Exclusive content) (new : ∀ r, item ∉ content r)
    (others : ∀ r, r ≠ p → content' r = content r) (here : content' p = item :: content p) :
    Exclusive content' := by
  have beside (other : α) (r : P) (different : r ≠ p) :
      (content' p).count other + (content' r).count other ≤ 1 := by
    have before := exclusive other p r different.symm
    rw [others r different, here, List.count_cons]
    split
    · rename_i same
      obtain rfl : item = other := by simpa using same
      have nowhere := List.count_eq_zero.mpr (new p)
      have neither := List.count_eq_zero.mpr (new r)
      omega
    · exact before
  intro other r t apart
  by_cases atP : r = p
  · subst atP
    exact beside other t apart.symm
  by_cases second : t = p
  · subst second
    rw [Nat.add_comm]
    exact beside other r atP
  rw [others r atP, others t second]
  exact exclusive other r t apart

/-- What is in a place afterwards was in some place before. -/
abbrev Kept (content content' : P → List α) : Prop :=
  ∀ r, ∀ item ∈ content' r, ∃ before, item ∈ content before

theorem kept_of_less (less : ∀ r item, (content' r).count item ≤ (content r).count item) :
    Kept content content' := by
  intro r item among
  exact ⟨r, List.count_pos_iff.mp ((List.count_pos_iff.mpr among).trans_le (less r item))⟩

theorem kept_of_move (others : ∀ r, r ≠ p → r ≠ q → content' r = content r)
    (total : ∀ item, (content' p).count item + (content' q).count item ≤
      (content p).count item + (content q).count item) : Kept content content' := by
  have either (item : α) (now : 0 < (content' p).count item + (content' q).count item) :
      ∃ before, item ∈ content before := by
    have moved := total item
    by_cases first : item ∈ content p
    · exact ⟨p, first⟩
    · have none := List.count_eq_zero.mpr first
      exact ⟨q, List.count_pos_iff.mp (by omega)⟩
  intro r item among
  have positive := List.count_pos_iff.mpr among
  by_cases atP : r = p
  · subst atP
    exact either item (by omega)
  by_cases atQ : r = q
  · subst atQ
    exact either item (by omega)
  · exact ⟨r, others r atP atQ ▸ among⟩

end Exclusive
