import Mathlib.Data.List.Sort
import Tela.Library.Json

/-!
# Key order and nesting

A JSON value with the fields of its objects in one order, and how deep it nests.
-/

namespace Json

mutual

/-- The fields of every object by key. -/
def sortKeys : Json → Json
  | arr items => arr (sortItems items)
  | obj fields => obj ((sortFields fields).insertionSort fun first second => first.1 ≤ second.1)
  | null => null
  | bool flag => bool flag
  | num mantissa exponent => num mantissa exponent
  | str text => str text

def sortItems : List Json → List Json
  | [] => []
  | item :: rest => item.sortKeys :: sortItems rest

def sortFields : List (String × Json) → List (String × Json)
  | [] => []
  | (key, value) :: rest => (key, value.sortKeys) :: sortFields rest

end

/-- Equal up to the order of keys. -/
def SameUpToOrder (first second : Json) : Prop := first.sortKeys = second.sortKeys

mutual

/-- How many arrays and objects stand inside each other. -/
def nesting : Json → Nat
  | arr items => itemNesting items + 1
  | obj fields => fieldNesting fields + 1
  | null => 0
  | bool _ => 0
  | num _ _ => 0
  | str _ => 0

def itemNesting : List Json → Nat
  | [] => 0
  | item :: rest => max item.nesting (itemNesting rest)

def fieldNesting : List (String × Json) → Nat
  | [] => 0
  | (_, value) :: rest => max value.nesting (fieldNesting rest)

end

end Json
