import Mathlib.Data.List.TakeWhile
import Mathlib.Tactic

/-!
# Trimming

The ends of a list without the elements that a predicate drops.
-/

namespace Trim

variable {α : Type} (drop : α → Bool)

/-- The list without what is dropped at its right end. -/
def right (list : List α) : List α := (list.reverse.dropWhile drop).reverse

def trim (list : List α) : List α := right drop (list.dropWhile drop)

/-- Every element is dropped. -/
def Blank (list : List α) : Prop := ∀ x ∈ list, drop x = true

instance (list : List α) : Decidable (Blank drop list) :=
  inferInstanceAs (Decidable (∀ x ∈ list, drop x = true))

/-- Neither end is dropped. -/
structure Trimmed (list : List α) : Prop where
  start : ∀ x, list.head? = some x → drop x = false
  finish : ∀ x, list.getLast? = some x → drop x = false

variable {drop}

theorem Blank.append {front back : List α} (before : Blank drop front) (after : Blank drop back) :
    Blank drop (front ++ back) := fun x among =>
  (List.mem_append.mp among).elim (before x) (after x)

theorem dropWhile_kept {list : List α} (kept : ∀ x, list.head? = some x → drop x = false) :
    list.dropWhile drop = list := by
  cases list with
  | nil => rfl
  | cons x rest => exact List.dropWhile_cons_of_neg (by rw [kept x rfl]; nofun)

theorem head?_dropWhile {list : List α} {x : α}
    (first : (list.dropWhile drop).head? = some x) : drop x = false := by
  have kept := List.head?_dropWhile_not drop list
  rw [first] at kept
  simpa using kept

theorem right_append {list trail : List α} (dropped : Blank drop trail) :
    right drop (list ++ trail) = right drop list := by
  unfold right
  rw [List.reverse_append, List.dropWhile_append_of_pos]
  exact fun x among => dropped x (List.mem_reverse.mp among)

theorem right_kept {list : List α} (kept : ∀ x, list.getLast? = some x → drop x = false) :
    right drop list = list := by
  unfold right
  rw [dropWhile_kept, List.reverse_reverse]
  intro x last
  rw [List.head?_reverse] at last
  exact kept x last

/-- What is missing at the right end was dropped. -/
theorem exists_right (drop : α → Bool) (list : List α) :
    ∃ trail, list = right drop list ++ trail ∧ Blank drop trail := by
  refine ⟨(list.reverse.takeWhile drop).reverse, ?_, ?_⟩
  · unfold right
    rw [← List.reverse_append, List.takeWhile_append_dropWhile, List.reverse_reverse]
  · intro x among
    exact List.mem_takeWhile_imp (List.mem_reverse.mp among)

theorem trim_padded {lead core trail : List α} (before : Blank drop lead)
    (trimmed : Trimmed drop core) (behind : Blank drop trail) :
    trim drop (lead ++ core ++ trail) = core := by
  unfold trim
  rw [List.append_assoc, List.dropWhile_append_of_pos before]
  cases core with
  | nil =>
      rw [List.nil_append, List.dropWhile_eq_nil_iff.mpr behind]
      rfl
  | cons x core =>
      rw [dropWhile_kept, right_append behind, right_kept trimmed.finish]
      rintro _ ⟨⟩
      exact trimmed.start x rfl

theorem blank_nil : Blank drop [] := fun _ among => absurd among List.not_mem_nil

theorem trim_trailing {core trail : List α} (trimmed : Trimmed drop core)
    (behind : Blank drop trail) : trim drop (core ++ trail) = core :=
  trim_padded blank_nil trimmed behind

theorem trimmed_trim (drop : α → Bool) (list : List α) : Trimmed drop (trim drop list) := by
  obtain ⟨trail, split, -⟩ := exists_right drop (list.dropWhile drop)
  constructor
  · intro x first
    have start : (list.dropWhile drop).head? = some x := by
      rw [split, List.head?_append, ← trim, first]
      rfl
    exact head?_dropWhile start
  · intro x last
    unfold trim right at last
    rw [List.getLast?_reverse] at last
    exact head?_dropWhile last

/-- What trimming removes are the two ends. -/
theorem exists_padding (drop : α → Bool) (list : List α) :
    ∃ lead trail, list = lead ++ trim drop list ++ trail ∧ Blank drop lead ∧ Blank drop trail := by
  obtain ⟨trail, split, behind⟩ := exists_right drop (list.dropWhile drop)
  refine ⟨list.takeWhile drop, trail, ?_, fun x => List.mem_takeWhile_imp, behind⟩
  rw [List.append_assoc, trim, ← split, List.takeWhile_append_dropWhile]

/-- Around the same core the trimmed lists are the same. -/
theorem trim_eq_of_padded {lead list trail : List α} (before : Blank drop lead)
    (behind : Blank drop trail) : trim drop (lead ++ list ++ trail) = trim drop list := by
  obtain ⟨front, back, split, before', behind'⟩ := exists_padding drop list
  have whole : lead ++ list ++ trail = (lead ++ front) ++ trim drop list ++ (back ++ trail) := by
    conv_lhs => rw [split]
    simp only [List.append_assoc]
  rw [whole]
  exact trim_padded (before.append before') (trimmed_trim drop list) (behind'.append behind)

theorem trim_eq_nil_iff {list : List α} : trim drop list = [] ↔ Blank drop list := by
  constructor
  · intro none
    obtain ⟨lead, trail, split, before, behind⟩ := exists_padding drop list
    rw [split, none, List.append_nil]
    exact before.append behind
  · intro blank
    have trimmed : Trimmed drop ([] : List α) := ⟨nofun, nofun⟩
    exact trim_trailing trimmed blank

end Trim
