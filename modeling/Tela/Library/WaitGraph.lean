import Mathlib.Logic.Relation

/-!
# Wait-for graphs

A deadlock is a cycle among the parties that wait for each other. Ranks that fall
along every edge rule cycles out.
-/

namespace Coop

variable {N : Type} {edge : N → N → Prop}

/-- No node waits for itself, directly or through others. -/
def Acyclic (edge : N → N → Prop) : Prop := ∀ node, ¬ Relation.TransGen edge node node

theorem rank_lt_of_transGen {rank : N → Nat}
    (descends : ∀ waiter awaited, edge waiter awaited → rank awaited < rank waiter) {waiter awaited : N}
    (path : Relation.TransGen edge waiter awaited) : rank awaited < rank waiter := by
  induction path with
  | single one => exact descends _ _ one
  | tail _ last ih => exact Nat.lt_trans (descends _ _ last) ih

theorem acyclic_of_rank (rank : N → Nat)
    (descends : ∀ waiter awaited, edge waiter awaited → rank awaited < rank waiter) : Acyclic edge := by
  intro node cycle
  have below := rank_lt_of_transGen descends cycle
  exact Nat.lt_irrefl _ below

end Coop
