import Tela.Library.Text
import Tela.Library.Trim

/-!
# Octet strings

Lines and blanks in strings of bytes, and decimal numbers.
-/

namespace Octets

open Trim (trim Blank Trimmed)

abbrev lineFeed : UInt8 := 10

/-- ASCII white space. -/
def isSpace (b : UInt8) : Bool := b == 32 || (9 ≤ b && b ≤ 13)

/-- An ASCII capital becomes small. -/
def lower (b : UInt8) : UInt8 := if 65 ≤ b ∧ b ≤ 90 then b + 32 else b

def strip (bytes : List UInt8) : List UInt8 := trim isSpace bytes

def ofChar (c : Char) : UInt8 := UInt8.ofNat c.toNat

def toChar (b : UInt8) : Char := Char.ofNat b.toNat

def ascii (text : String) : List UInt8 := text.toList.map ofChar

/-! ## Lines -/

/-- The first line with its line feed, and what follows it. -/
def readLine : List UInt8 → List UInt8 × List UInt8
  | [] => ([], [])
  | b :: rest =>
      if b = lineFeed then ([b], rest)
      else (b :: (readLine rest).1, (readLine rest).2)

theorem readLine_append {line : List UInt8} (unbroken : lineFeed ∉ line) (rest : List UInt8) :
    readLine (line ++ lineFeed :: rest) = (line ++ [lineFeed], rest) := by
  induction line with
  | nil => rfl
  | cons b line ih =>
      rw [List.mem_cons, not_or] at unbroken
      rw [List.cons_append, readLine, if_neg fun same => unbroken.1 same.symm, ih unbroken.2]
      rfl

theorem readLine_length (bytes : List UInt8) :
    (readLine bytes).2.length ≤ bytes.length := by
  induction bytes with
  | nil => exact Nat.le_refl _
  | cons b rest ih =>
      unfold readLine
      split
      · exact Nat.le_succ _
      · exact Nat.le_succ_of_le ih

theorem readLine_shorter {bytes : List UInt8} (some : (readLine bytes).1 ≠ []) :
    (readLine bytes).2.length < bytes.length := by
  cases bytes with
  | nil => exact absurd rfl some
  | cons b rest =>
      unfold readLine
      split
      · exact Nat.lt_succ_self _
      · exact Nat.lt_succ_of_le (readLine_length rest)

/-- The lines of a text that ends with a line feed after `bytes`. -/
def lines (bytes : List UInt8) : List (List UInt8) := bytes.splitOn lineFeed

theorem lines_append (first second : List UInt8) :
    lines (first ++ lineFeed :: second) = lines first ++ lines second :=
  List.splitOn_append_cons_self ..

theorem lines_unbroken {bytes : List UInt8} (unbroken : lineFeed ∉ bytes) :
    lines bytes = [bytes] := List.splitOn_eq_singleton unbroken

theorem lines_cons (b : UInt8) (bytes : List UInt8) :
    ∃ line others, lines bytes = line :: others ∧
      lines (b :: bytes) = if b = lineFeed then [] :: line :: others
        else (b :: line) :: others := by
  cases split : lines bytes with
  | nil => exact absurd split (List.splitOn_ne_nil _ _)
  | cons line others =>
      refine ⟨line, others, rfl, ?_⟩
      unfold lines at split ⊢
      rw [List.splitOn_cons_eq_if_modifyHead, split]
      simp only [beq_iff_eq, List.modifyHead_cons]

theorem unbroken_of_mem_lines {bytes line : List UInt8} (among : line ∈ lines bytes) :
    lineFeed ∉ line := by
  induction bytes generalizing line with
  | nil =>
      rw [List.mem_singleton.mp among]
      exact List.not_mem_nil
  | cons b bytes ih =>
      obtain ⟨first, others, split, split'⟩ := lines_cons b bytes
      rw [split'] at among
      rw [split] at ih
      split_ifs at among with feed
      · rcases List.mem_cons.mp among with rfl | among
        · exact List.not_mem_nil
        · exact ih among
      · rcases List.mem_cons.mp among with rfl | among
        · rw [List.mem_cons, not_or]
          exact ⟨fun same => feed same.symm, ih (List.mem_cons_self ..)⟩
        · exact ih (List.mem_cons_of_mem _ among)

/-- The lines, each with its line feed, make up the text. -/
theorem flatMap_lines (bytes : List UInt8) :
    (lines bytes).flatMap (· ++ [lineFeed]) = bytes ++ [lineFeed] := by
  induction bytes with
  | nil => rfl
  | cons b bytes ih =>
      obtain ⟨line, others, split, split'⟩ := lines_cons b bytes
      rw [split] at ih
      rw [split']
      split_ifs with feed
      · rw [List.flatMap_cons, ih, feed]
        rfl
      · exact congrArg (List.cons b) ih

/-- Later lines begin with what may follow a line feed; so does the first after one. -/
theorem lines_chain {good : UInt8 → Prop} {a : UInt8} {bytes : List UInt8}
    (chain : List.IsChain (fun a b => a = lineFeed → good b) (a :: bytes)) :
    ∃ line others, lines bytes = line :: others ∧
      (a = lineFeed → ∀ b, line.head? = some b → good b) ∧
        ∀ other ∈ others, ∀ b, other.head? = some b → good b := by
  induction bytes generalizing a with
  | nil => exact ⟨[], [], rfl, fun _ => nofun, nofun⟩
  | cons c bytes ih =>
      obtain ⟨start, chain⟩ := List.isChain_cons_cons.mp chain
      obtain ⟨first, rest, split, begins, later⟩ := ih chain
      obtain ⟨line, others, split', whole⟩ := lines_cons c bytes
      obtain ⟨rfl, rfl⟩ := List.cons.inj (split.symm.trans split')
      rw [whole]
      split_ifs with feed
      · refine ⟨[], first :: rest, rfl, fun _ => nofun, fun other among => ?_⟩
        rcases List.mem_cons.mp among with rfl | among
        · exact begins feed
        · exact later other among
      · refine ⟨c :: first, rest, rfl, fun feed' b head => ?_, later⟩
        cases head
        exact start feed'

/-- Lines begin with what may follow a line feed. -/
theorem lines_starts {good : UInt8 → Prop} {bytes line : List UInt8}
    (chain : List.IsChain (fun a b => a = lineFeed → good b) (lineFeed :: bytes))
    (among : line ∈ lines bytes) {b : UInt8} (first : line.head? = some b) : good b := by
  obtain ⟨start, others, split, begins, later⟩ := lines_chain chain
  rw [split] at among
  rcases List.mem_cons.mp among with rfl | among
  · exact begins rfl b first
  · exact later line among b first

/-! ## The lines that are not blank -/

/-- The stripped lines that are not empty. -/
def pieces (bytes : List UInt8) : List (List UInt8) :=
  ((lines bytes).map strip).filter (· ≠ [])

theorem pieces_append (first second : List UInt8) :
    pieces (first ++ lineFeed :: second) = pieces first ++ pieces second := by
  rw [pieces, lines_append, List.map_append, List.filter_append]
  rfl

theorem pieces_unbroken {bytes : List UInt8} (unbroken : lineFeed ∉ bytes)
    (some : strip bytes ≠ []) : pieces bytes = [strip bytes] := by
  rw [pieces, lines_unbroken unbroken]
  exact List.filter_cons_of_pos (decide_eq_true some)

theorem pieces_cons_space {b : UInt8} (space : isSpace b = true) (bytes : List UInt8) :
    pieces (b :: bytes) = pieces bytes := by
  have lead (line : List UInt8) : strip (b :: line) = strip line := by
    have blank : Blank isSpace [b] := fun c among => List.mem_singleton.mp among ▸ space
    have same : strip ([b] ++ line ++ []) = strip line :=
      Trim.trim_eq_of_padded blank Trim.blank_nil
    rwa [List.append_nil] at same
  obtain ⟨line, others, split, split'⟩ := lines_cons b bytes
  unfold pieces
  rw [split, split']
  split_ifs with feed
  · rfl
  · rw [List.map_cons, List.map_cons, lead]

theorem pieces_lead {lead : List UInt8} (blank : Blank isSpace lead) (bytes : List UInt8) :
    pieces (lead ++ bytes) = pieces bytes := by
  induction lead with
  | nil => rfl
  | cons b lead ih =>
      rw [List.cons_append, pieces_cons_space (blank b (List.mem_cons_self ..))]
      exact ih fun c among => blank c (List.mem_cons_of_mem _ among)

theorem pieces_blank {bytes : List UInt8} (blank : Blank isSpace bytes) : pieces bytes = [] := by
  rw [← List.append_nil bytes, pieces_lead blank]
  rfl

/-- Some line is not blank. -/
theorem pieces_ne_nil {bytes : List UInt8} {b : UInt8} (among : b ∈ bytes)
    (ink : isSpace b = false) : pieces bytes ≠ [] := by
  induction bytes with
  | nil => cases among
  | cons first bytes ih =>
      cases space : isSpace first with
      | true =>
          rw [pieces_cons_space space]
          rcases List.mem_cons.mp among with rfl | among
          · rw [space] at ink
            cases ink
          · exact ih among
      | false =>
          obtain ⟨line, others, -, split⟩ := lines_cons first bytes
          have unfed : first ≠ lineFeed := by
            rintro rfl
            cases space
          have some : decide (strip (first :: line) ≠ []) = true := by
            apply decide_eq_true
            intro none
            have blank := Trim.trim_eq_nil_iff.mp none first (List.mem_cons_self ..)
            rw [space] at blank
            cases blank
          rw [pieces, split, if_neg unfed, List.map_cons, List.filter_cons, if_pos some]
          exact List.cons_ne_nil _ _

/-- With no line feed between its ends, a text has one line that is not blank. -/
theorem pieces_single {bytes : List UInt8} (some : strip bytes ≠ [])
    (unbroken : lineFeed ∉ strip bytes) : pieces bytes = [strip bytes] := by
  obtain ⟨lead, trail, split, before, behind⟩ := Trim.exists_padding isSpace bytes
  have trimmed := Trim.trimmed_trim isSpace bytes
  rw [← strip] at split trimmed
  generalize strip bytes = core at *
  rw [split, List.append_assoc, pieces_lead before]
  by_cases feeds : lineFeed ∈ trail
  · obtain ⟨front, back, rfl, clean⟩ := List.eq_append_cons_of_mem feeds
    have line : strip (core ++ front) = core :=
      Trim.trim_trailing trimmed fun b among => behind b (List.mem_append_left _ among)
    have blank : Blank isSpace back := fun b among =>
      behind b (List.mem_append_right _ (List.mem_cons_of_mem _ among))
    rw [← List.append_assoc, pieces_append, pieces_blank blank, pieces_unbroken, line,
      List.append_nil]
    · rw [List.mem_append, not_or]
      exact ⟨unbroken, clean⟩
    · rw [line]
      exact some
  · have line : strip (core ++ trail) = core := Trim.trim_trailing trimmed behind
    rw [pieces_unbroken, line]
    · rw [List.mem_append, not_or]
      exact ⟨unbroken, feeds⟩
    · rw [line]
      exact some

/-- A line feed between the ends makes several lines that are not blank. -/
theorem pieces_several {bytes : List UInt8} (broken : lineFeed ∈ strip bytes) :
    2 ≤ (pieces bytes).length := by
  obtain ⟨lead, trail, split, before, -⟩ := Trim.exists_padding isSpace bytes
  have trimmed := Trim.trimmed_trim isSpace bytes
  rw [← strip] at split trimmed
  generalize strip bytes = core at *
  obtain ⟨front, back, rfl⟩ := List.append_of_mem broken
  have first : pieces front ≠ [] := by
    cases front with
    | nil => cases trimmed.start lineFeed rfl
    | cons b front => exact pieces_ne_nil (List.mem_cons_self ..) (trimmed.start b rfl)
  have second : pieces (back ++ trail) ≠ [] := by
    cases last : back.getLast? with
    | none =>
        rw [List.getLast?_eq_none_iff] at last
        subst last
        cases trimmed.finish lineFeed (by simp)
    | some b =>
        have nonempty : back ≠ [] := by
          rintro rfl
          cases last
        have ink := trimmed.finish b (by
          rw [List.append_cons, List.getLast?_append_of_ne_nil _ nonempty, last])
        exact pieces_ne_nil (List.mem_append_left _ (List.mem_of_getLast? last)) ink
  have whole : bytes = lead ++ (front ++ lineFeed :: (back ++ trail)) := by
    rw [split]
    simp only [List.append_assoc, List.cons_append]
  rw [whole, pieces_lead before, pieces_append, List.length_append]
  have := List.length_pos_of_ne_nil first
  have := List.length_pos_of_ne_nil second
  omega

/-! ## Decimal numbers -/

def decimal (number : Nat) : List UInt8 := (Nat.toDigits 10 number).map ofChar

/-- How many digits a number in a text may have. -/
def maxDigits : Nat := 4300

/-- How large an object may be. -/
def maxSize : Nat := 2 ^ 63 - 1

/-- Digits, not too many, with single underscores between them. -/
def digits? (text : List UInt8) : Option Nat :=
  let groups := text.splitOn 95
  if (groups.all fun group => group ≠ [] && group.all fun b => (toChar b).isDigit) ∧
      groups.flatten.length ≤ maxDigits then
    some (Nat.ofDigitChars 10 (groups.flatten.map toChar) 0)
  else none

/-- An integer with blanks around it and an optional sign. -/
def int? (text : List UInt8) : Option Int :=
  match strip text with
  | 43 :: number => (digits? number).map Int.ofNat
  | 45 :: number => (digits? number).map fun value => -Int.ofNat value
  | number => (digits? number).map Int.ofNat

theorem digit_range {c : Char} (digit : c.isDigit = true) : 48 ≤ c.toNat ∧ c.toNat ≤ 57 := by
  simpa [Char.isDigit, UInt32.le_iff_toNat_le] using digit

theorem toChar_ofChar {c : Char} (digit : c.isDigit = true) : toChar (ofChar c) = c := by
  obtain ⟨low, high⟩ := digit_range digit
  have narrow : c.toNat < UInt8.size := Nat.lt_of_le_of_lt high (by decide)
  unfold toChar ofChar
  rw [UInt8.toNat_ofNat_of_lt' narrow, Char.ofNat_toNat]

theorem mem_decimal {number : Nat} {b : UInt8} (among : b ∈ decimal number) :
    (toChar b).isDigit = true ∧ 48 ≤ b ∧ b ≤ 57 := by
  obtain ⟨c, found, rfl⟩ := List.mem_map.mp among
  have digit : c.isDigit = true :=
    Nat.isDigit_of_mem_toDigits (b := 10) (by decide) (by decide) found
  obtain ⟨low, high⟩ := digit_range digit
  have narrow : c.toNat < UInt8.size := Nat.lt_of_le_of_lt high (by decide)
  rw [toChar_ofChar digit]
  refine ⟨digit, ?_, ?_⟩
  · rw [UInt8.le_iff_toNat_le, ofChar, UInt8.toNat_ofNat_of_lt' narrow]
    exact low
  · rw [UInt8.le_iff_toNat_le, ofChar, UInt8.toNat_ofNat_of_lt' narrow]
    exact high

theorem decimal_ne_nil (number : Nat) : decimal number ≠ [] := fun none =>
  Nat.toDigits_ne_nil (List.map_eq_nil_iff.mp none)

theorem lt_of_le_maxSize {number : Nat} (fits : number ≤ maxSize) : number < 10 ^ maxDigits :=
  calc
    number ≤ maxSize := fits
    _ < 10 ^ 19 := by decide
    _ ≤ 10 ^ maxDigits := Nat.pow_le_pow_right (by decide) (by decide)

theorem digits?_decimal (number : Nat) :
    digits? (decimal number) = if number < 10 ^ maxDigits then some number else none := by
  have joined : (95 : UInt8) ∉ decimal number := fun among =>
    absurd (mem_decimal among).2.2 (by decide)
  have groups : (decimal number).splitOn 95 = [decimal number] := List.splitOn_eq_singleton joined
  have digits : ((decimal number).map toChar) = Nat.toDigits 10 number := by
    rw [decimal, List.map_map]
    refine (List.map_congr_left fun c found => ?_).trans (List.map_id _)
    exact toChar_ofChar (Nat.isDigit_of_mem_toDigits (b := 10) (by decide) (by decide) found)
  have all : (decimal number).all (fun b => (toChar b).isDigit) = true :=
    List.all_eq_true.mpr fun b among => (mem_decimal among).1
  have few : (decimal number).length ≤ maxDigits ↔ number < 10 ^ maxDigits := by
    rw [decimal, List.length_map]
    exact Nat.length_toDigits_le_iff (by decide) (by decide)
  unfold digits?
  rw [groups]
  simp only [List.all_cons, List.all_nil, decide_eq_true (decimal_ne_nil number), all,
    Bool.and_true, true_and, List.flatten_cons, List.flatten_nil, List.append_nil, digits,
    Nat.ofDigitChars_ten_toDigits, few]

theorem strip_decimal (number : Nat) : strip (decimal number) = decimal number := by
  have ink {b : UInt8} (among : b ∈ decimal number) : isSpace b = false := by
    obtain ⟨-, low, high⟩ := mem_decimal among
    unfold isSpace
    grind
  have trimmed : Trimmed isSpace (decimal number) :=
    ⟨fun b first => ink (List.mem_of_head? first), fun b last => ink (List.mem_of_getLast? last)⟩
  have whole := Trim.trim_trailing trimmed Trim.blank_nil
  rwa [List.append_nil] at whole

theorem int?_decimal (number : Nat) :
    int? (decimal number) = if number < 10 ^ maxDigits then some (Int.ofNat number) else none := by
  unfold int?
  rw [strip_decimal]
  have unsigned {b : UInt8} {rest : List UInt8} (begins : decimal number = b :: rest) : 48 ≤ b :=
    (mem_decimal (begins ▸ List.mem_cons_self ..)).2.1
  split
  next begins => exact absurd (unsigned begins) (by decide)
  next begins => exact absurd (unsigned begins) (by decide)
  next =>
    rw [digits?_decimal]
    split <;> rfl

/-! ## Numbers in text -/

/-- The octet that stands for a character in a number; `digit` knows the other decimal digits. -/
def ofNumeral (digit : Char → Option (Fin 10)) (c : Char) : UInt8 :=
  if c.toNat < 128 then ofChar c
  else if Text.isSpace c then 32
  else
    match digit c with
    | some value => 48 + UInt8.ofNat value
    | none => 63

/-- `int` of a text. -/
def intOfText? (digit : Char → Option (Fin 10)) (text : List Char) : Option Int :=
  int? (text.map (ofNumeral digit))

theorem intOfText?_toDigits (digit : Char → Option (Fin 10)) {number : Nat}
    (short : number < 10 ^ maxDigits) :
    intOfText? digit (Nat.toDigits 10 number) = some (Int.ofNat number) := by
  have octets : (Nat.toDigits 10 number).map (ofNumeral digit) = decimal number := by
    apply List.map_congr_left
    intro c among
    have narrow := (digit_range (Nat.isDigit_of_mem_toDigits (b := 10) (by decide) (by decide)
      among)).2
    exact if_pos (by omega)
  rw [intOfText?, octets, int?_decimal, if_pos short]

end Octets

