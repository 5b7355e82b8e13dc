import Tela.Library.Dict

/-!
# JSON values

A number is a decimal `mantissa * 10 ^ exponent`. An object keeps its fields in
the order they were written.
-/

inductive Json
  | null
  | bool (flag : Bool)
  | num (mantissa exponent : Int)
  | str (text : String)
  | arr (items : List Json)
  | obj (fields : List (String × Json))

namespace Json

def str? : Json → Option String
  | str text => some text
  | _ => none

def isTrue : Json → Bool
  | bool flag => flag
  | _ => false

def isNull : Json → Bool
  | null => true
  | _ => false

end Json

/-- A JSON object at the top level of a message; no key occurs twice. -/
abbrev JsonObject := Dict String Json
