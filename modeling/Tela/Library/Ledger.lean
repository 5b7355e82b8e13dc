import Mathlib.Tactic

/-!
# First-come ledgers

A counter follows a collection with a delay: whoever has added or removed an
element enters the ledger and settles later, in the order of entry. The counter and
the open entries together always give the size of the collection, and the counter
covers every removal when its turn comes.
-/

/-- Open entries, the oldest first; `true` is an addition. -/
abbrev Ledger (ι : Type) := List (ι × Bool)

namespace Ledger

variable {ι : Type}

def enter (ledger : Ledger ι) (who : ι) (added : Bool) : Ledger ι := ledger ++ [(who, added)]

/-- Take out the oldest entry of `who`. -/
def settle [DecidableEq ι] (ledger : Ledger ι) (who : ι) : Ledger ι :=
  ledger.eraseP fun entry => entry.1 = who

/-- Who has an open entry, in order. -/
def holders (ledger : Ledger ι) : List ι := ledger.map Prod.fst

/-- By how much the open entries change the counter. -/
def worth (ledger : Ledger ι) : Int :=
  (ledger.map fun entry => if entry.2 then (1 : Int) else -1).sum

@[simp] theorem settle_cons [DecidableEq ι] (who : ι) (added : Bool) (rest : Ledger ι) :
    settle ((who, added) :: rest) who = rest := by
  simp [settle]

@[simp] theorem holders_enter (ledger : Ledger ι) (who : ι) (added : Bool) :
    (ledger.enter who added).holders = ledger.holders ++ [who] := by
  simp [enter, holders]

@[simp] theorem worth_nil : worth ([] : Ledger ι) = 0 := rfl

@[simp] theorem worth_cons (entry : ι × Bool) (rest : Ledger ι) :
    worth (entry :: rest) = (if entry.2 then 1 else -1) + worth rest := by
  simp [worth]

@[simp] theorem worth_append (first second : Ledger ι) :
    worth (first ++ second) = worth first + worth second := by
  simp [worth]

/-- The counter follows the size of the collection. -/
structure Balanced (count size : Nat) (ledger : Ledger ι) : Prop where
  size : (size : Int) = count + ledger.worth
  /-- Whenever a removal has its turn, the counter is positive. -/
  covered : ∀ before who after, ledger = before ++ (who, false) :: after →
    1 ≤ count + worth before

namespace Balanced

variable {count size : Nat} {ledger : Ledger ι} {who : ι}

theorem nil (count : Nat) : Balanced count count ([] : Ledger ι) where
  size := by simp
  covered before who after split := by
    have short := congrArg List.length split
    simp at short

theorem covered_of_enter (covered : ∀ before other after, ledger = before ++ (other, false) :: after →
      1 ≤ count + worth before) {added : Bool}
    (last : added = false → 1 ≤ count + ledger.worth) (before : Ledger ι) (other : ι)
    (after : Ledger ι) (split : ledger.enter who added = before ++ (other, false) :: after) :
    1 ≤ count + worth before := by
  rcases List.eq_nil_or_concat after with rfl | ⟨rest, entry, rfl⟩
  · obtain ⟨rfl, same⟩ := List.append_inj' split rfl
    exact last (Prod.mk.inj (List.cons.inj same).1).2
  · rw [List.concat_eq_append, ← List.cons_append, ← List.append_assoc] at split
    exact covered before other rest (List.append_inj' split rfl).1

theorem add (balanced : Balanced count size ledger) :
    Balanced count (size + 1) (ledger.enter who true) where
  size := by
    have total := balanced.size
    simp only [enter, worth_append, worth_cons, worth_nil, if_true]
    omega
  covered := covered_of_enter balanced.covered nofun

theorem remove (balanced : Balanced count (size + 1) ledger) :
    Balanced count size (ledger.enter who false) where
  size := by
    have total := balanced.size
    simp only [enter, worth_append, worth_cons, worth_nil, Bool.false_eq_true, if_false]
    omega
  covered := covered_of_enter balanced.covered fun _ => by
    have total := balanced.size
    omega

theorem settle_added (balanced : Balanced count size ((who, true) :: ledger)) :
    Balanced (count + 1) size ledger where
  size := by
    have total := balanced.size
    simp only [worth_cons, if_true] at total
    omega
  covered before other after split := by
    have open_ := balanced.covered ((who, true) :: before) other after (by rw [split]; rfl)
    simp only [worth_cons, if_true] at open_
    omega

theorem settle_removed (balanced : Balanced count size ((who, false) :: ledger)) :
    ∃ rest, count = rest + 1 ∧ Balanced rest size ledger := by
  have positive := balanced.covered [] who ledger rfl
  obtain ⟨rest, rfl⟩ : ∃ rest, count = rest + 1 := ⟨count - 1, by simp at positive; omega⟩
  refine ⟨rest, rfl, ?_, fun before other after split => ?_⟩
  · have total := balanced.size
    simp only [worth_cons, Bool.false_eq_true, if_false] at total
    omega
  · have open_ := balanced.covered ((who, false) :: before) other after (by rw [split]; rfl)
    simp only [worth_cons, Bool.false_eq_true, if_false] at open_
    omega

/-- With no entry open, the counter is the size. -/
theorem count_eq (balanced : Balanced count size ([] : Ledger ι)) : count = size := by
  have total := balanced.size
  simp at total
  omega

end Balanced

end Ledger
