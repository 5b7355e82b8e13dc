import Tela.Library.Json

/-!
# JSON text

The compact ASCII text of a JSON value, and codes that can be split off the front
of a longer text. A text determines the flat object it was written from.
-/

namespace Json

/-! ## Prefix-free codes -/

/-- A code word can be split off the front of any longer word. -/
def PrefixFree {α β : Type} (encode : α → List β) : Prop :=
  ∀ first second rest others, encode first ++ rest = encode second ++ others →
    first = second ∧ rest = others

/-- Code words of code words. -/
theorem PrefixFree.flatMap {α β γ : Type} {outer : α → List β} {inner : β → List γ}
    (codes : PrefixFree outer) (letters : PrefixFree inner) :
    PrefixFree fun item => (outer item).flatMap inner := by
  have peel (first second : List β) (rest others : List γ)
      (same : first.flatMap inner ++ rest = second.flatMap inner ++ others) :
      (∃ more, first = second ++ more ∧ others = more.flatMap inner ++ rest) ∨
        (∃ more, second = first ++ more ∧ rest = more.flatMap inner ++ others) := by
    induction first generalizing second with
    | nil => exact .inr ⟨second, rfl, by simpa using same⟩
    | cons head tail ih =>
        cases second with
        | nil => exact .inl ⟨head :: tail, rfl, by simpa using same.symm⟩
        | cons other remaining =>
            simp only [List.flatMap_cons, List.append_assoc] at same
            obtain ⟨rfl, further⟩ := letters _ _ _ _ same
            rcases ih remaining further with ⟨more, rfl, rest⟩ | ⟨more, rfl, rest⟩
            · exact .inl ⟨more, rfl, rest⟩
            · exact .inr ⟨more, rfl, rest⟩
  intro first second rest others same
  rcases peel _ _ _ _ same with ⟨more, longer, remaining⟩ | ⟨more, longer, remaining⟩
  · have whole : outer first ++ [] = outer second ++ more := by rw [List.append_nil, longer]
    obtain ⟨rfl, rfl⟩ := codes _ _ _ _ whole
    exact ⟨rfl, by simpa using remaining.symm⟩
  · have whole : outer first ++ more = outer second ++ [] := by rw [List.append_nil, longer]
    obtain ⟨rfl, rfl⟩ := codes _ _ _ _ whole
    exact ⟨rfl, by simpa using remaining⟩

/-- A list of letters up to a mark that begins no letter. -/
theorem PrefixFree.closed {α β : Type} {letter : α → List β} (letters : PrefixFree letter)
    {mark : β} (apart : ∀ item rest others, letter item ++ rest ≠ mark :: others) :
    PrefixFree fun items : List α => items.flatMap letter ++ [mark] := by
  intro first second rest others same
  simp only [List.append_assoc, List.singleton_append] at same
  induction first generalizing second with
  | nil =>
      cases second with
      | nil => exact ⟨rfl, (List.cons.inj same).2⟩
      | cons other remaining =>
          simp only [List.flatMap_cons, List.append_assoc, List.flatMap_nil,
            List.nil_append] at same
          exact absurd same.symm (apart _ _ _)
  | cons head tail ih =>
      cases second with
      | nil =>
          simp only [List.flatMap_cons, List.append_assoc, List.flatMap_nil,
            List.nil_append] at same
          exact absurd same (apart _ _ _)
      | cons other remaining =>
          simp only [List.flatMap_cons, List.append_assoc] at same
          obtain ⟨rfl, further⟩ := letters _ _ _ _ same
          obtain ⟨rfl, rfl⟩ := ih remaining further
          exact ⟨rfl, rfl⟩

/-! ## Strings -/

/-- The UTF-16 code units of a character. -/
def utf16 (c : Char) : List UInt16 :=
  if c.toNat < 0x10000 then [UInt16.ofNat c.toNat]
  else
    [ UInt16.ofNat (0xD800 + (c.toNat - 0x10000) / 0x400)
    , UInt16.ofNat (0xDC00 + (c.toNat - 0x10000) % 0x400) ]

def shortEscapes : List (Nat × Char) :=
  [(34, '"'), (92, '\\'), (10, 'n'), (13, 'r'), (9, 't'), (12, 'f'), (8, 'b')]

def hexDigits : List Char := "0123456789abcdef".toList

def hexDigit (value : Nat) : Char := hexDigits.getD (value % 16) '0'

/-- One code unit inside a string: as it is, or escaped. -/
def escapeUnit (unit : UInt16) : List Char :=
  match shortEscapes.find? fun entry => entry.1 = unit.toNat with
  | some entry => ['\\', entry.2]
  | none =>
      if 32 ≤ unit.toNat ∧ unit.toNat ≤ 126 then [Char.ofNat unit.toNat]
      else
        [ '\\', 'u', hexDigit (unit.toNat / 4096), hexDigit (unit.toNat / 256)
        , hexDigit (unit.toNat / 16), hexDigit unit.toNat ]

def escapeChar (c : Char) : List Char := (utf16 c).flatMap escapeUnit

def quote (text : String) : List Char := '"' :: (text.toList.flatMap escapeChar ++ ['"'])

/-- The three ways to write a code unit. -/
theorem escapeUnit_cases (unit : UInt16) :
    (∃ entry ∈ shortEscapes, entry.1 = unit.toNat ∧ escapeUnit unit = ['\\', entry.2]) ∨
      ((∀ entry ∈ shortEscapes, entry.1 ≠ unit.toNat) ∧ 32 ≤ unit.toNat ∧ unit.toNat ≤ 126 ∧
        escapeUnit unit = [Char.ofNat unit.toNat]) ∨
      escapeUnit unit = ['\\', 'u', hexDigit (unit.toNat / 4096), hexDigit (unit.toNat / 256),
        hexDigit (unit.toNat / 16), hexDigit unit.toNat] := by
  unfold escapeUnit
  cases found : shortEscapes.find? fun entry => entry.1 = unit.toNat with
  | some entry =>
      have fits := List.find?_some found
      exact .inl ⟨entry, List.mem_of_find?_eq_some found, by simpa using fits, rfl⟩
  | none =>
      by_cases plain : 32 ≤ unit.toNat ∧ unit.toNat ≤ 126
      · refine .inr (.inl ⟨fun entry among => ?_, plain.1, plain.2, if_pos plain⟩)
        simpa using List.find?_eq_none.mp found entry among
      · exact .inr (.inr (if_neg plain))

theorem toNat_ofNat_ascii {code : Nat} (ascii : code ≤ 126) : (Char.ofNat code).toNat = code := by
  have values : ∀ code < 127, (Char.ofNat code).toNat = code := by decide
  exact values code (Nat.lt_succ_of_le ascii)

section Values

-- How a number that is not an integer is written.
variable (floatText : Int → Int → List Char)

mutual

/-- The text without blanks, as `json.dumps` with the separators `,` and `:` writes it. -/
def compactText : Json → List Char
  | null => "null".toList
  | bool flag => if flag then "true".toList else "false".toList
  | num mantissa exponent =>
      if exponent = 0 then (toString mantissa).toList else floatText mantissa exponent
  | str text => quote text
  | arr items => '[' :: (List.intercalate [','] (itemTexts items) ++ [']'])
  | obj fields => '\x7b' :: (List.intercalate [','] (fieldTexts fields) ++ ['\x7d'])

def itemTexts : List Json → List (List Char)
  | [] => []
  | item :: rest => compactText item :: itemTexts rest

def fieldTexts : List (String × Json) → List (List Char)
  | [] => []
  | field :: rest => fieldText field :: fieldTexts rest

def fieldText : String × Json → List Char
  | (key, value) => quote key ++ ':' :: compactText value

end

/-! ## Flat objects -/

theorem toList_toString (number : Nat) :
    (toString (number : Int)).toList = Nat.toDigits 10 number := by
  change (Int.repr (Int.ofNat number)).toList = _
  rw [Int.repr, Nat.repr, String.toList_ofList]

end Values

/-! ## Printable text -/

/-- A printable ASCII character. -/
def Printable (c : Char) : Prop := 32 ≤ c.toNat ∧ c.toNat ≤ 126

instance (c : Char) : Decidable (Printable c) :=
  inferInstanceAs (Decidable (32 ≤ c.toNat ∧ c.toNat ≤ 126))

/-- Each character of a given text is checked by itself. -/
theorem forall_mem_of_all {P : Char → Prop} [DecidablePred P] {text : List Char}
    (all : (text.all fun c => decide (P c)) = true) : ∀ c ∈ text, P c := by
  intro c among
  exact of_decide_eq_true (List.all_eq_true.mp all c among)

theorem printable_hexDigit (value : Nat) : Printable (hexDigit value) := by
  have every : ∀ i < 16, Printable (hexDigits.getD i '0') := by decide
  exact every _ (Nat.mod_lt _ (by decide))

theorem printable_escapeUnit {unit : UInt16} : ∀ c ∈ escapeUnit unit, Printable c := by
  have backslash : Printable '\\' := by decide
  rcases escapeUnit_cases unit with ⟨entry, among, -, short⟩ | ⟨-, low, high, plain⟩ | hex
  · have every : ∀ entry ∈ shortEscapes, Printable entry.2 := by decide
    rw [short]
    simp only [List.forall_mem_cons]
    exact ⟨backslash, every entry among, nofun⟩
  · rw [plain]
    intro c among
    rw [List.mem_singleton.mp among]
    have code := toNat_ofNat_ascii high
    exact ⟨by rw [code]; exact low, by rw [code]; exact high⟩
  · rw [hex]
    simp only [List.forall_mem_cons]
    exact ⟨backslash, by decide, printable_hexDigit _, printable_hexDigit _, printable_hexDigit _,
      printable_hexDigit _, nofun⟩

theorem printable_quote (text : String) : ∀ c ∈ quote text, Printable c := by
  unfold quote escapeChar
  simp only [List.mem_cons, List.mem_append, List.mem_flatMap, List.not_mem_nil, or_false]
  rintro c (rfl | ⟨d, -, unit, -, among⟩ | rfl)
  · decide
  · exact printable_escapeUnit c among
  · decide

theorem printable_toDigits (number : Nat) : ∀ c ∈ Nat.toDigits 10 number, Printable c := by
  intro c among
  have digit : c.isDigit = true :=
    Nat.isDigit_of_mem_toDigits (b := 10) (by decide) (by decide) among
  have range : 48 ≤ c.toNat ∧ c.toNat ≤ 57 := by
    simpa [Char.isDigit, UInt32.le_iff_toNat_le] using digit
  unfold Printable
  omega

theorem printable_int (number : Int) : ∀ c ∈ (toString number).toList, Printable c := by
  cases number with
  | ofNat number =>
      intro c among
      rw [Int.ofNat_eq_natCast, toList_toString] at among
      exact printable_toDigits number c among
  | negSucc number =>
      change ∀ c ∈ (Int.repr (Int.negSucc number)).toList, Printable c
      rw [Int.repr, Nat.repr, String.toList_append]
      refine List.forall_mem_append.mpr ⟨forall_mem_of_all (by decide), ?_⟩
      rw [String.toList_ofList]
      exact printable_toDigits _

theorem printable_intercalate {texts : List (List Char)}
    (printable : ∀ text ∈ texts, ∀ c ∈ text, Printable c) :
    ∀ c ∈ List.intercalate [','] texts, Printable c := by
  induction texts with
  | nil => exact nofun
  | cons text texts ih =>
      obtain ⟨here, later⟩ := List.forall_mem_cons.mp printable
      cases texts with
      | nil => simpa using here
      | cons next texts =>
          rw [List.intercalate_cons_cons]
          refine List.forall_mem_append.mpr ⟨List.forall_mem_append.mpr ⟨here, ?_⟩, ih later⟩
          exact List.forall_mem_singleton.mpr (by decide)

theorem printable_wrapped {first last : Char} (opens : Printable first) (closes : Printable last)
    {texts : List (List Char)} (printable : ∀ text ∈ texts, ∀ c ∈ text, Printable c) :
    ∀ c ∈ first :: (List.intercalate [','] texts ++ [last]), Printable c :=
  List.forall_mem_cons.mpr ⟨opens, List.forall_mem_append.mpr
    ⟨printable_intercalate printable, List.forall_mem_singleton.mpr closes⟩⟩

section Printing

variable {floatText : Int → Int → List Char}

mutual

theorem printable_compactText
    (floats : ∀ mantissa exponent, ∀ c ∈ floatText mantissa exponent, Printable c) :
    ∀ (json : Json), ∀ c ∈ compactText floatText json, Printable c
  | null => by
      unfold compactText
      exact forall_mem_of_all (by decide)
  | bool flag => by
      unfold compactText
      cases flag <;> exact forall_mem_of_all (by decide)
  | num mantissa exponent => by
      unfold compactText
      split
      · exact printable_int mantissa
      · exact floats mantissa exponent
  | str text => printable_quote text
  | arr items => printable_wrapped (by decide) (by decide) (printable_itemTexts floats items)
  | obj fields => printable_wrapped (by decide) (by decide) (printable_fieldTexts floats fields)

theorem printable_itemTexts
    (floats : ∀ mantissa exponent, ∀ c ∈ floatText mantissa exponent, Printable c) :
    ∀ (items : List Json), ∀ text ∈ itemTexts floatText items, ∀ c ∈ text, Printable c
  | [] => nofun
  | item :: rest => List.forall_mem_cons.mpr
      ⟨printable_compactText floats item, printable_itemTexts floats rest⟩

theorem printable_fieldTexts
    (floats : ∀ mantissa exponent, ∀ c ∈ floatText mantissa exponent, Printable c) :
    ∀ (fields : List (String × Json)), ∀ text ∈ fieldTexts floatText fields,
      ∀ c ∈ text, Printable c
  | [] => nofun
  | (key, value) :: rest => List.forall_mem_cons.mpr
      ⟨List.forall_mem_append.mpr ⟨printable_quote key, List.forall_mem_cons.mpr
        ⟨by decide, printable_compactText floats value⟩⟩, printable_fieldTexts floats rest⟩

end

end Printing

example : compactText (fun _ _ => []) (.obj [("a", .str "x\n\u00e9😀"), ("b", .num 5 0)]) =
    "\x7b\"a\":\"x\\n\\u00e9\\ud83d\\ude00\",\"b\":5\x7d".toList := by
  decide +kernel

end Json
