import Tela.Library.JsonText
import Tela.Library.Octets
import Tela.Library.Text

/-!
# The grammar of JSON texts

A JSON text is a sequence of lexemes with blanks around them; the lexemes spell its value.
-/

namespace Json

open Octets (ascii decimal isSpace lineFeed strip)
open Trim (Blank Trimmed)

/-! ## Lexemes -/

/-- The blanks between lexemes. -/
def IsBlank (b : UInt8) : Prop := b ∈ ([32, 9, 10, 13] : List UInt8)

instance (b : UInt8) : Decidable (IsBlank b) :=
  inferInstanceAs (Decidable (b ∈ ([32, 9, 10, 13] : List UInt8)))

/-- The bytes of punctuation, literals and numbers. -/
def bareBytes : List UInt8 := ascii "\x7b\x7d[],:+-.0123456789eEtruefalsn"

/-- A stretch of a text that no blank divides; a string may hold anything but control bytes. -/
inductive Lexeme : List UInt8 → Prop
  | bare {bytes : List UInt8} (some : bytes ≠ []) (plain : ∀ b ∈ bytes, b ∈ bareBytes) :
      Lexeme bytes
  | quoted {content : List UInt8} (plain : ∀ b ∈ content, 32 ≤ b) :
      Lexeme (34 :: (content ++ [34]))

inductive Lexes : List UInt8 → List (List UInt8) → Prop
  | nil : Lexes [] []
  | blank {b : UInt8} {bytes : List UInt8} {lexemes : List (List UInt8)} (blank : IsBlank b)
      (later : Lexes bytes lexemes) : Lexes (b :: bytes) lexemes
  | lexeme {lexeme bytes : List UInt8} {lexemes : List (List UInt8)} (valid : Lexeme lexeme)
      (later : Lexes bytes lexemes) : Lexes (lexeme ++ bytes) (lexeme :: lexemes)

/-! ## Numbers and strings -/

def digitBytes (digits : List (Fin 10)) : List UInt8 := digits.map fun digit => 48 + .ofNat digit

def digitsValue (digits : List (Fin 10)) : Nat := digits.foldl (fun value digit => value * 10 + digit) 0

structure NumberText where
  negative : Bool := false
  whole : Nat
  /-- The digits after the point; without any there is no point. -/
  fraction : List (Fin 10) := []
  /-- The mark, the sign and the digits of the exponent. -/
  exponent : List UInt8 × Bool × List (Fin 10) := ([], false, [])

/-- The mark of an exponent with its sign; `true` stands for a minus. -/
def exponentMarks : List (List UInt8 × Bool) :=
  [ (ascii "e", false), (ascii "E", false), (ascii "e+", false), (ascii "E+", false)
  , (ascii "e-", true), (ascii "E-", true) ]

/-- An exponent has a mark and digits, or neither. -/
def NumberText.Valid (number : NumberText) : Prop :=
  number.exponent = ([], false, []) ∨
    (number.exponent.1, number.exponent.2.1) ∈ exponentMarks ∧ number.exponent.2.2 ≠ []

def NumberText.bytes (number : NumberText) : List UInt8 :=
  (if number.negative then [45] else []) ++ decimal number.whole ++
    (if number.fraction = [] then [] else 46 :: digitBytes number.fraction) ++
    number.exponent.1 ++ digitBytes number.exponent.2.2

/-- The value of a number; `1e0` has that of `1`. -/
def NumberText.value (number : NumberText) : Json :=
  let mantissa : Int :=
    number.whole * 10 ^ number.fraction.length + digitsValue number.fraction
  let exponent : Int := digitsValue number.exponent.2.2
  .num (if number.negative then -mantissa else mantissa)
    ((if number.exponent.2.1 then -exponent else exponent) - number.fraction.length)

/-- The letter after a backslash and the unit it stands for. -/
def escapeLetters : List (UInt8 × UInt16) :=
  [ (34, 34), (92, 92), (47, 47), (98, 8), (102, 12), (110, 10), (114, 13), (116, 9) ]

def hexUnit? (digits : List UInt8) : Option UInt16 :=
  if digits.length = 4 ∧ digits.all fun b => Octets.toChar (Octets.lower b) ∈ hexDigits then
    some (.ofNat (digits.foldl
      (fun value b => value * 16 + hexDigits.idxOf (Octets.toChar (Octets.lower b))) 0))
  else none

/-- The content of a string and the UTF-16 units of its text. -/
inductive Spells : List UInt8 → List UInt16 → Prop
  | nil : Spells [] []
  | plain {bytes : List UInt8} {units : List UInt16} (c : Char)
      (printable : 32 ≤ c.toNat ∧ c ≠ '"' ∧ c ≠ '\\') (later : Spells bytes units) :
      Spells (Text.utf8 (String.singleton c) ++ bytes) (utf16 c ++ units)
  | short {letter : UInt8} {unit : UInt16} {bytes : List UInt8} {units : List UInt16}
      (listed : (letter, unit) ∈ escapeLetters) (later : Spells bytes units) :
      Spells (92 :: letter :: bytes) (unit :: units)
  | unicode {digits bytes : List UInt8} {unit : UInt16} {units : List UInt16}
      (hex : hexUnit? digits = some unit) (later : Spells bytes units) :
      Spells (92 :: 117 :: (digits ++ bytes)) (unit :: units)

/-- A string lexeme with its text. -/
def StringLexeme (lexeme : List UInt8) (text : String) : Prop :=
  ∃ content, lexeme = 34 :: (content ++ [34]) ∧ Spells content (text.toList.flatMap utf16)

/-! ## Values -/

mutual

inductive Value : List (List UInt8) → Json → Prop
  | null : Value [ascii "null"] .null
  | isTrue : Value [ascii "true"] (.bool true)
  | isFalse : Value [ascii "false"] (.bool false)
  | number {number : NumberText} (valid : number.Valid) : Value [number.bytes] number.value
  | string {lexeme : List UInt8} {text : String} (spelled : StringLexeme lexeme text) :
      Value [lexeme] (.str text)
  | emptyArray : Value [ascii "[", ascii "]"] (.arr [])
  | array {lexemes : List (List UInt8)} {items : List Json} (listed : Items lexemes items) :
      Value (ascii "[" :: lexemes) (.arr items)
  | emptyObject : Value [ascii "\x7b", ascii "\x7d"] (.obj [])
  | object {lexemes : List (List UInt8)} {fields : List (String × Json)}
      (listed : Fields lexemes fields) : Value (ascii "\x7b" :: lexemes) (.obj fields)

/-- The items of an array up to its bracket. -/
inductive Items : List (List UInt8) → List Json → Prop
  | last {lexemes : List (List UInt8)} {item : Json} (spelled : Value lexemes item) :
      Items (lexemes ++ [ascii "]"]) [item]
  | more {lexemes others : List (List UInt8)} {item : Json} {items : List Json}
      (spelled : Value lexemes item) (later : Items others items) :
      Items (lexemes ++ ascii "," :: others) (item :: items)

/-- The fields of an object up to its brace. -/
inductive Fields : List (List UInt8) → List (String × Json) → Prop
  | last {lexeme : List UInt8} {key : String} {lexemes : List (List UInt8)} {value : Json}
      (named : StringLexeme lexeme key) (spelled : Value lexemes value) :
      Fields (lexeme :: ascii ":" :: (lexemes ++ [ascii "\x7d"])) [(key, value)]
  | more {lexeme : List UInt8} {key : String} {lexemes others : List (List UInt8)} {value : Json}
      {fields : List (String × Json)} (named : StringLexeme lexeme key)
      (spelled : Value lexemes value) (later : Fields others fields) :
      Fields (lexeme :: ascii ":" :: (lexemes ++ ascii "," :: others)) ((key, value) :: fields)

end

/-- The bytes are a JSON text with this value. -/
def IsText (bytes : List UInt8) (json : Json) : Prop :=
  ∃ lexemes, Lexes bytes lexemes ∧ Value lexemes json

/-! ## Blanks around a text -/

theorem isSpace_of_isBlank {b : UInt8} (blank : IsBlank b) : isSpace b = true := by
  have every : ∀ b ∈ ([32, 9, 10, 13] : List UInt8), isSpace b = true := by decide +kernel
  exact every b blank

theorem bareBytes_ink {b : UInt8} (among : b ∈ bareBytes) :
    isSpace b = false ∧ b ≠ 99 ∧ b ≠ 67 ∧ b ≠ lineFeed := by
  have every : ∀ b ∈ bareBytes, isSpace b = false ∧ b ≠ 99 ∧ b ≠ 67 ∧ b ≠ lineFeed := by
    decide +kernel
  exact every b among

namespace Lexeme

variable {lexeme : List UInt8}

theorem ne_nil (valid : Lexeme lexeme) : lexeme ≠ [] := by
  cases valid with
  | bare some plain => exact some
  | quoted plain => exact List.cons_ne_nil _ _

theorem trimmed (valid : Lexeme lexeme) : Trimmed isSpace lexeme := by
  cases valid with
  | bare some plain =>
      constructor
      · exact fun b first => (bareBytes_ink (plain b (List.mem_of_head? first))).1
      · exact fun b last => (bareBytes_ink (plain b (List.mem_of_getLast? last))).1
  | @quoted content plain =>
      constructor
      · rintro _ ⟨⟩
        rfl
      · intro b last
        rw [← List.cons_append, List.getLast?_concat] at last
        cases last
        rfl

theorem unbroken (valid : Lexeme lexeme) : lineFeed ∉ lexeme := by
  intro among
  cases valid with
  | bare some plain => exact (bareBytes_ink (plain _ among)).2.2.2 rfl
  | quoted plain =>
      simp only [List.mem_cons, List.mem_append, List.not_mem_nil, or_false] at among
      rcases among with same | among | same
      · cases same
      · exact absurd (plain _ among) (by decide)
      · cases same

/-- No lexeme begins like a header. -/
theorem head_ne (valid : Lexeme lexeme) {b : UInt8} (first : lexeme.head? = some b) :
    b ≠ 99 ∧ b ≠ 67 := by
  cases valid with
  | bare some plain =>
      obtain ⟨-, small, capital, -⟩ := bareBytes_ink (plain b (List.mem_of_head? first))
      exact ⟨small, capital⟩
  | quoted plain =>
      cases first
      exact ⟨by decide, by decide⟩

end Lexeme

theorem Value.ne_nil {lexemes : List (List UInt8)} {json : Json} (value : Value lexemes json) :
    lexemes ≠ [] := by
  cases value <;> exact List.cons_ne_nil _ _

namespace Lexes

variable {bytes : List UInt8} {lexemes : List (List UInt8)}

theorem lead {blanks : List UInt8} (blank : ∀ b ∈ blanks, IsBlank b) (lexes : Lexes bytes lexemes) :
    Lexes (blanks ++ bytes) lexemes := by
  induction blanks with
  | nil => exact lexes
  | cons b blanks ih =>
      exact .blank (blank b (List.mem_cons_self ..))
        (ih fun c among => blank c (List.mem_cons_of_mem _ among))

theorem trail {blanks : List UInt8} (blank : ∀ b ∈ blanks, IsBlank b)
    (lexes : Lexes bytes lexemes) : Lexes (bytes ++ blanks) lexemes := by
  induction lexes with
  | nil =>
      have only := lead blank .nil
      rwa [List.append_nil] at only
  | blank space later ih => exact .blank space ih
  | lexeme valid later ih =>
      rw [List.append_assoc]
      exact .lexeme valid ih

theorem blank_of_nil (lexes : Lexes bytes []) : ∀ b ∈ bytes, IsBlank b := by
  generalize none : ([] : List (List UInt8)) = lexemes at lexes
  induction lexes with
  | nil => exact fun b among => absurd among List.not_mem_nil
  | blank space later ih =>
      intro b among
      rcases List.mem_cons.mp among with rfl | among
      · exact space
      · exact ih none b among
  | lexeme valid later ih => cases none

/-- The lexemes without the blanks around them. -/
theorem core (lexes : Lexes bytes lexemes) (some : lexemes ≠ []) :
    ∃ front middle back, bytes = front ++ middle ++ back ∧ Lexes middle lexemes ∧ middle ≠ [] ∧
      Trimmed isSpace middle ∧ (∀ b ∈ front, IsBlank b) ∧ ∀ b ∈ back, IsBlank b := by
  induction lexes with
  | nil => exact absurd rfl some
  | @blank b bytes lexemes space later ih =>
      obtain ⟨front, middle, back, rfl, rest⟩ := ih some
      obtain ⟨inside, nonempty, trimmed, before, behind⟩ := rest
      refine ⟨b :: front, middle, back, rfl, inside, nonempty, trimmed, ?_, behind⟩
      intro c among
      rcases List.mem_cons.mp among with rfl | among
      · exact space
      · exact before c among
  | @lexeme lexeme bytes lexemes valid later ih =>
      cases lexemes with
      | nil =>
          have whole : Lexes lexeme [lexeme] := by
            have only := Lexes.lexeme valid .nil
            rwa [List.append_nil] at only
          exact ⟨[], lexeme, bytes, rfl, whole, valid.ne_nil, valid.trimmed,
            fun b among => absurd among List.not_mem_nil, later.blank_of_nil⟩
      | cons next lexemes =>
          obtain ⟨front, middle, back, rfl, inside, nonempty, trimmed, before, behind⟩ :=
            ih (List.cons_ne_nil _ _)
          refine ⟨[], lexeme ++ (front ++ middle), back, ?_, .lexeme valid (lead before inside), ?_,
            ?_, fun b among => absurd among List.not_mem_nil, behind⟩
          · simp only [List.nil_append, List.append_assoc]
          · exact List.append_ne_nil_of_left_ne_nil valid.ne_nil _
          · constructor
            · intro b first
              rw [List.head?_append_of_ne_nil _ valid.ne_nil] at first
              exact valid.trimmed.start b first
            · intro b last
              rw [← List.append_assoc, List.getLast?_append_of_ne_nil _ nonempty] at last
              exact trimmed.finish b last

/-- No line of the text begins like a header. -/
theorem calm (lexes : Lexes bytes lexemes) (a : UInt8) :
    List.IsChain (fun a b => a = lineFeed → b ≠ 99 ∧ b ≠ 67) (a :: bytes) := by
  induction lexes generalizing a with
  | nil => exact .singleton a
  | @blank b bytes lexemes space later ih =>
      refine .cons_cons (fun _ => ?_) (ih b)
      have every : ∀ b ∈ ([32, 9, 10, 13] : List UInt8), b ≠ 99 ∧ b ≠ 67 := by decide +kernel
      exact every b space
  | @lexeme lexeme bytes lexemes valid later ih =>
      have within (part : List UInt8) (unbroken : lineFeed ∉ part) (b : UInt8)
          (unfed : b ≠ lineFeed) :
          List.IsChain (fun a b => a = lineFeed → b ≠ 99 ∧ b ≠ 67) (b :: (part ++ bytes)) := by
        induction part generalizing b with
        | nil => exact ih b
        | cons c part further =>
            rw [List.mem_cons, not_or] at unbroken
            exact .cons_cons (fun feed => absurd feed unfed)
              (further unbroken.2 c fun same => unbroken.1 same.symm)
      cases shape : lexeme with
      | nil => exact absurd shape valid.ne_nil
      | cons b part =>
          have unbroken := valid.unbroken
          rw [shape, List.mem_cons, not_or] at unbroken
          have first : lexeme.head? = some b := by rw [shape]; rfl
          exact .cons_cons (fun _ => valid.head_ne first)
            (within part unbroken.2 b fun same => unbroken.1 same.symm)

end Lexes

/-- A JSON text and the text without what stands around it have the same values. -/
theorem isText_strip {bytes : List UInt8} (text : ∃ json, IsText bytes json) (json : Json) :
    IsText bytes json ↔ IsText (strip bytes) json := by
  have stripped {lexemes : List (List UInt8)} (lexes : Lexes bytes lexemes)
      (some : lexemes ≠ []) : Lexes (strip bytes) lexemes ∧ ∃ front back,
        bytes = front ++ strip bytes ++ back ∧ (∀ b ∈ front, IsBlank b) ∧ ∀ b ∈ back, IsBlank b := by
    obtain ⟨front, middle, back, rfl, inside, -, trimmed, before, behind⟩ := lexes.core some
    have same : strip (front ++ middle ++ back) = middle :=
      Trim.trim_padded (fun b among => isSpace_of_isBlank (before b among)) trimmed
        fun b among => isSpace_of_isBlank (behind b among)
    rw [same]
    exact ⟨inside, front, back, rfl, before, behind⟩
  constructor
  · rintro ⟨lexemes, lexes, value⟩
    exact ⟨lexemes, (stripped lexes value.ne_nil).1, value⟩
  · rintro ⟨lexemes, lexes, value⟩
    obtain ⟨_, _, lexes', value'⟩ := text
    obtain ⟨-, front, back, split, before, behind⟩ := stripped lexes' value'.ne_nil
    rw [split]
    exact ⟨lexemes, .trail behind (.lead before lexes), value⟩

theorem strip_ne_nil {bytes : List UInt8} {json : Json} (text : IsText bytes json) :
    strip bytes ≠ [] := by
  obtain ⟨lexemes, lexes, value⟩ := text
  obtain ⟨front, middle, back, rfl, -, nonempty, trimmed, before, behind⟩ :=
    lexes.core value.ne_nil
  have same : strip (front ++ middle ++ back) = middle :=
    Trim.trim_padded (fun b among => isSpace_of_isBlank (before b among)) trimmed
      fun b among => isSpace_of_isBlank (behind b among)
  rw [same]
  exact nonempty

end Json
