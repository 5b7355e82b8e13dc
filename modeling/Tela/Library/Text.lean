import Mathlib.Data.List.Infix
import Mathlib.Data.List.Sort
import Mathlib.Data.List.TakeWhile
import Mathlib.Tactic

/-!
# Text

String tests and edits on character lists, in the form the kernel can evaluate.
-/

namespace Text

/-- `text` begins with `head`. -/
def startsWith (text head : String) : Bool := head.toList.isPrefixOf text.toList

/-- `needle` is a contiguous part of the list. -/
def occursIn (needle : List Char) : List Char → Bool
  | [] => needle.isEmpty
  | c :: rest => needle.isPrefixOf (c :: rest) || occursIn needle rest

/-- `needle` is a contiguous part of `text`. -/
def contains (text needle : String) : Bool := occursIn needle.toList text.toList

/-- One left-to-right pass that replaces `needle`; the fuel bounds the steps. -/
def replaceFrom (needle replacement : List Char) : Nat → List Char → List Char
  | 0, text => text
  | _, [] => []
  | fuel + 1, c :: rest =>
      if needle.isPrefixOf (c :: rest) then
        replacement ++ replaceFrom needle replacement fuel ((c :: rest).drop needle.length)
      else c :: replaceFrom needle replacement fuel rest

/-- Replace every occurrence of a non-empty `needle`. -/
def replace (text needle replacement : String) : String :=
  if needle = "" then text
  else String.ofList
    (replaceFrom needle.toList replacement.toList text.toList.length text.toList)

/-- The pieces in order, with `separator` between each two. -/
def join (separator : String) : List String → String
  | [] => ""
  | [piece] => piece
  | piece :: rest => piece ++ separator ++ join separator rest

/-- Code point order, as a sort. -/
def sorted (items : List String) : List String := items.insertionSort (· ≤ ·)

/-- Lower case, as far as a search for ASCII text can tell; the Kelvin sign is a `k`. -/
def lower (text : String) : String :=
  String.ofList (text.toList.map fun c => if c.toNat = 0x212A then 'k' else c.toLower)

def isSpace (c : Char) : Bool :=
  let code := c.toNat
  (9 ≤ code && code ≤ 13) || (28 ≤ code && code ≤ 32) || (0x2000 ≤ code && code ≤ 0x200A) ||
    [0x85, 0xA0, 0x1680, 0x2028, 0x2029, 0x202F, 0x205F, 0x3000].contains code

def isLineBreak (c : Char) : Bool :=
  let code := c.toNat
  (10 ≤ code && code ≤ 13) || (28 ≤ code && code ≤ 30) || [0x85, 0x2028, 0x2029].contains code

/-- The lines of the text; `current` is the line that has been begun, reversed. -/
def linesFrom : List Char → (current : List Char) → List String
  | [], current => if current.isEmpty then [] else [String.ofList current.reverse]
  | '\r' :: '\n' :: rest, current => String.ofList current.reverse :: linesFrom rest []
  | c :: rest, current =>
      if isLineBreak c then String.ofList current.reverse :: linesFrom rest []
      else linesFrom rest (c :: current)

def splitLines (text : String) : List String := linesFrom text.toList []

def stripLeft (text : String) : String := String.ofList (text.toList.dropWhile isSpace)

def strip (text : String) : String :=
  String.ofList ((text.toList.dropWhile isSpace).reverse.dropWhile isSpace).reverse

/-- The text up to the first `mark`. -/
def before (mark : Char) (text : String) : String :=
  String.ofList (text.toList.takeWhile (· ≠ mark))

/-- The text after its first `count` characters. -/
def dropFirst (count : Nat) (text : String) : String := String.ofList (text.toList.drop count)

theorem startsWith_iff {text head : String} :
    startsWith text head = true ↔ head.toList <+: text.toList := by
  simp [startsWith]

theorem occursIn_iff {needle text : List Char} :
    occursIn needle text = true ↔ needle <:+: text := by
  induction text with
  | nil => simp [occursIn]
  | cons c rest ih => simp [occursIn, List.infix_cons_iff, ih]

theorem contains_iff {text needle : String} :
    contains text needle = true ↔ needle.toList <:+: text.toList :=
  occursIn_iff

theorem mem_sorted {items : List String} {item : String} :
    item ∈ sorted items ↔ item ∈ items :=
  (List.perm_insertionSort _ items).mem_iff

/-! ## Lines -/

/-- The characters hold no line break. -/
def Unbroken (text : List Char) : Prop := ∀ c ∈ text, isLineBreak c = false

instance (text : List Char) : Decidable (Unbroken text) :=
  List.decidableBAll (fun c => isLineBreak c = false) text

theorem linesFrom_unbroken {line : List Char} (unbroken : Unbroken line) (rest current : List Char) :
    linesFrom (line ++ '\n' :: rest) current =
      String.ofList (current.reverse ++ line) :: linesFrom rest [] := by
  induction line generalizing current with
  | nil =>
      rw [List.append_nil]
      rfl
  | cons c line ih =>
      obtain ⟨here, later⟩ := List.forall_mem_cons.mp unbroken
      have step : linesFrom ((c :: line) ++ '\n' :: rest) current =
          linesFrom (line ++ '\n' :: rest) (c :: current) := by
        rw [List.cons_append, linesFrom]
        · rw [here]
          rfl
        · rintro _ rfl
          cases here
      rw [step, ih later, List.reverse_cons, List.append_assoc]
      rfl

theorem linesFrom_unbroken_crlf {line : List Char} (unbroken : Unbroken line)
    (rest current : List Char) :
    linesFrom (line ++ '\r' :: '\n' :: rest) current =
      String.ofList (current.reverse ++ line) :: linesFrom rest [] := by
  induction line generalizing current with
  | nil =>
      rw [List.append_nil]
      rfl
  | cons c line ih =>
      obtain ⟨here, later⟩ := List.forall_mem_cons.mp unbroken
      have step : linesFrom ((c :: line) ++ '\r' :: '\n' :: rest) current =
          linesFrom (line ++ '\r' :: '\n' :: rest) (c :: current) := by
        rw [List.cons_append, linesFrom]
        · rw [here]
          rfl
        · rintro _ rfl
          cases here
      rw [step, ih later, List.reverse_cons, List.append_assoc]
      rfl

/-- No line holds a line break. -/
theorem unbroken_of_mem_linesFrom {text current : List Char} (begun : Unbroken current)
    {line : String} (listed : line ∈ linesFrom text current) : Unbroken line.toList := by
  have finished (current : List Char) (begun : Unbroken current) :
      Unbroken (String.ofList current.reverse).toList := by
    intro c among
    rw [String.toList_ofList] at among
    exact begun c (List.mem_reverse.mp among)
  induction text, current using linesFrom.induct with
  | case1 current empty =>
      rw [linesFrom, if_pos empty] at listed
      cases listed
  | case2 current nonempty =>
      rw [linesFrom, if_neg nonempty] at listed
      rw [List.mem_singleton.mp listed]
      exact finished current begun
  | case3 rest current ih =>
      rw [linesFrom] at listed
      rcases List.mem_cons.mp listed with rfl | later
      · exact finished current begun
      · exact ih nofun later
  | case4 c rest current other breaks ih =>
      rw [linesFrom, if_pos breaks] at listed
      · rcases List.mem_cons.mp listed with rfl | later
        · exact finished current begun
        · exact ih nofun later
      · exact other
  | case5 c rest current other breaks ih =>
      rw [linesFrom, if_neg breaks] at listed
      · refine ih (List.forall_mem_cons.mpr ⟨?_, begun⟩) listed
        simpa using breaks
      · exact other

/-! ## Stripping -/

/-- Neither the first nor the last character is white space. -/
structure Trimmed (text : List Char) : Prop where
  left : ∀ c, text.head? = some c → isSpace c = false
  right : ∀ c, text.getLast? = some c → isSpace c = false

theorem head?_dropWhile (text : List Char) (c : Char)
    (first : (text.dropWhile isSpace).head? = some c) : isSpace c = false := by
  have nonspace := List.head?_dropWhile_not isSpace text
  rw [first] at nonspace
  simpa using nonspace

theorem dropWhile_of_head? {text : List Char}
    (left : ∀ c, text.head? = some c → isSpace c = false) : text.dropWhile isSpace = text := by
  cases text with
  | nil => rfl
  | cons c rest =>
      rw [List.dropWhile_cons_of_neg]
      simp [left c rfl]

theorem getLast?_of_suffix {part whole : List Char} (suffix : part <:+ whole) {c : Char}
    (last : part.getLast? = some c) : whole.getLast? = some c := by
  obtain ⟨front, rfl⟩ := suffix
  have nonempty : part ≠ [] := by
    rintro rfl
    cases last
  rw [List.getLast?_append_of_ne_nil front nonempty]
  exact last

/-- A suffix of a trimmed text whose left end is stripped is trimmed. -/
theorem Trimmed.dropWhile {part whole : List Char} (trimmed : Trimmed whole)
    (suffix : part <:+ whole) : Trimmed (part.dropWhile isSpace) where
  left := head?_dropWhile part
  right c last :=
    trimmed.right c (getLast?_of_suffix ((List.dropWhile_suffix isSpace).trans suffix) last)

theorem trimmed_strip (text : String) : Trimmed (strip text).toList := by
  unfold strip
  rw [String.toList_ofList]
  constructor
  · intro c first
    have front : ((text.toList.dropWhile isSpace).reverse.dropWhile isSpace).reverse <+:
        text.toList.dropWhile isSpace := by
      rw [← List.reverse_suffix, List.reverse_reverse]
      exact List.dropWhile_suffix isSpace
    obtain ⟨rest, whole⟩ := front
    refine head?_dropWhile text.toList c ?_
    rw [← whole, List.head?_append, first]
    rfl
  · intro c last
    rw [List.getLast?_reverse] at last
    exact head?_dropWhile _ c last

theorem mem_of_mem_strip {text : String} {c : Char} (among : c ∈ (strip text).toList) :
    c ∈ text.toList := by
  unfold strip at among
  rw [String.toList_ofList, List.mem_reverse] at among
  have front := (List.dropWhile_suffix isSpace).subset among
  exact (List.dropWhile_suffix isSpace).subset (List.mem_reverse.mp front)

theorem strip_of_trimmed {text : String} (trimmed : Trimmed text.toList) : strip text = text := by
  unfold strip
  rw [dropWhile_of_head? trimmed.left, dropWhile_of_head?, List.reverse_reverse,
    String.ofList_toList]
  intro c first
  rw [List.head?_reverse] at first
  exact trimmed.right c first

/-- Stripping leaves exactly the trimmed texts as they are. -/
theorem strip_eq_iff {text : String} : strip text = text ↔ Trimmed text.toList := by
  constructor
  · intro same
    rw [← same]
    exact trimmed_strip text
  · exact strip_of_trimmed

/-- Only white space. -/
def Blank (text : List Char) : Prop := ∀ c ∈ text, isSpace c = true

theorem dropWhile_of_blank {text : List Char} (blank : Blank text) :
    text.dropWhile isSpace = [] :=
  List.dropWhile_eq_nil_iff.mpr blank

/-- Stripping removes white space around a trimmed text. -/
theorem strip_padded {lead text trail : List Char} (before : Blank lead) (trimmed : Trimmed text)
    (after : Blank trail) : strip (String.ofList (lead ++ text ++ trail)) = String.ofList text := by
  unfold strip
  rw [String.toList_ofList, List.append_assoc, List.dropWhile_append_of_pos before]
  cases text with
  | nil => rw [List.nil_append, dropWhile_of_blank after, List.reverse_nil, List.dropWhile_nil,
      List.reverse_nil]
  | cons c rest =>
      have begun : (c :: rest ++ trail).dropWhile isSpace = c :: rest ++ trail := by
        apply dropWhile_of_head?
        intro d first
        exact trimmed.left d first
      have ended : ((c :: rest).reverse).dropWhile isSpace = (c :: rest).reverse := by
        apply dropWhile_of_head?
        intro d first
        rw [List.head?_reverse] at first
        exact trimmed.right d first
      have blank : ∀ d ∈ trail.reverse, isSpace d = true := by
        intro d among
        exact after d (List.mem_reverse.mp among)
      rw [begun, List.reverse_append, List.dropWhile_append_of_pos blank, ended,
        List.reverse_reverse]

theorem blank_takeWhile (text : List Char) : Blank (text.takeWhile isSpace) := by
  intro c among
  exact List.mem_takeWhile_imp among

/-- What stripping removes is white space at the two ends. -/
theorem exists_padding (text : String) :
    ∃ lead trail, Blank lead ∧ Blank trail ∧ text.toList = lead ++ (strip text).toList ++ trail := by
  have reversed := List.takeWhile_append_dropWhile (p := isSpace)
    (l := (text.toList.dropWhile isSpace).reverse)
  refine ⟨text.toList.takeWhile isSpace,
    ((text.toList.dropWhile isSpace).reverse.takeWhile isSpace).reverse, blank_takeWhile _, ?_, ?_⟩
  · intro c among
    exact blank_takeWhile _ c (List.mem_reverse.mp among)
  · unfold strip
    rw [String.toList_ofList, List.append_assoc, ← List.reverse_append, reversed,
      List.reverse_reverse, List.takeWhile_append_dropWhile]

/-! ## Bytes -/

theorem toList_loop (bytes : ByteArray) (i : Nat) (read : List UInt8) :
    ByteArray.toList.loop bytes i read = read.reverse ++ bytes.data.toList.drop i := by
  induction i, read using ByteArray.toList.loop.induct bytes with
  | case1 i read more ih =>
      rw [ByteArray.toList.loop, if_pos more, ih, List.reverse_cons, List.append_assoc]
      have size : i < bytes.data.toList.length := by simpa using more
      have here : bytes.get! i = bytes.data.toList[i] := by
        cases bytes
        simp [ByteArray.get!] at *
        rw [getElem!_pos]
      rw [List.drop_eq_getElem_cons size, here]
      rfl
  | case2 i read done =>
      rw [ByteArray.toList.loop, if_neg done, List.drop_of_length_le, List.append_nil]
      simpa using done

/-- The bytes of a text on the wire. -/
def utf8 (text : String) : List UInt8 := text.toUTF8.toList

/-- Strict decoding. -/
def decodeUtf8 (bytes : List UInt8) : Option String := String.fromUTF8? ⟨bytes.toArray⟩

theorem decodeUtf8_utf8 (text : String) : decodeUtf8 (utf8 text) = some text := by
  have same : (⟨text.toUTF8.toList.toArray⟩ : ByteArray) = text.toByteArray := by
    rw [ByteArray.toList, toList_loop]
    rfl
  unfold decodeUtf8 utf8
  rw [same, String.fromUTF8?, dif_pos text.isValidUTF8]
  rfl

theorem utf8_empty : utf8 "" = [] := by
  rw [utf8, ByteArray.toList, toList_loop]
  rfl

theorem utf8_injective {first second : String} (same : utf8 first = utf8 second) :
    first = second := by
  have decoded := decodeUtf8_utf8 first
  rw [same, decodeUtf8_utf8 second] at decoded
  exact (Option.some.inj decoded).symm

theorem utf8_eq (text : String) : utf8 text = text.toList.flatMap String.utf8EncodeChar := by
  have bytes : text.toByteArray = text.toList.utf8Encode := String.utf8Encode_toList.symm
  rw [utf8, ByteArray.toList, toList_loop]
  change [].reverse ++ text.toByteArray.data.toList.drop 0 = _
  rw [bytes]
  simp [List.utf8Encode]

theorem decodeUtf8_eq_some_iff {bytes : List UInt8} {text : String} :
    decodeUtf8 bytes = some text ↔ bytes = utf8 text := by
  constructor
  · intro decoded
    unfold decodeUtf8 String.fromUTF8? at decoded
    split at decoded
    next valid =>
      cases decoded
      rw [utf8, ByteArray.toList, toList_loop]
      rfl
    next => cases decoded
  · rintro rfl
    exact decodeUtf8_utf8 text

theorem utf8_append (first second : List Char) :
    utf8 (String.ofList (first ++ second)) =
      utf8 (String.ofList first) ++ utf8 (String.ofList second) := by
  simp only [utf8_eq, String.toList_ofList, List.flatMap_append]

theorem utf8EncodeChar_ascii {c : Char} (ascii : c.toNat < 128) :
    String.utf8EncodeChar c = [UInt8.ofNat c.toNat] :=
  if_pos (Nat.le_of_lt_succ ascii)

theorem utf8_ascii {chars : List Char} (ascii : ∀ c ∈ chars, c.toNat < 128) :
    utf8 (String.ofList chars) = chars.map fun c => UInt8.ofNat c.toNat := by
  rw [utf8_eq, String.toList_ofList]
  induction chars with
  | nil => rfl
  | cons c chars ih =>
      obtain ⟨here, later⟩ := List.forall_mem_cons.mp ascii
      rw [List.flatMap_cons, utf8EncodeChar_ascii here, ih later]
      rfl

/-- In ASCII text the first bytes are the first characters. -/
theorem utf8_take {chars : List Char} (ascii : ∀ c ∈ chars, c.toNat < 128) (count : Nat) :
    (utf8 (String.ofList chars)).take count = utf8 (String.ofList (chars.take count)) := by
  rw [utf8_ascii ascii, utf8_ascii fun c among => ascii c (List.mem_of_mem_take among),
    List.map_take]

/-- The last byte of a longer code is no ASCII. -/
theorem utf8EncodeChar_last {c : Char} (wide : 128 ≤ c.toNat) :
    ∃ front last, String.utf8EncodeChar c = front ++ [last] ∧ 128 ≤ last.toNat := by
  have last : 128 ≤ (UInt8.ofNat (c.toNat % 64 + 128)).toNat := by
    rw [UInt8.toNat_ofNat_of_lt' (by have := Nat.mod_lt c.toNat (by decide : 64 > 0); change _ < 256; omega)]
    omega
  have narrow : ¬ c.val.toNat ≤ 0x7f := by
    change ¬ c.toNat ≤ 127
    omega
  unfold String.utf8EncodeChar
  dsimp only
  rw [if_neg narrow]
  split_ifs
  · exact ⟨[_], _, rfl, last⟩
  · exact ⟨[_, _], _, rfl, last⟩
  · exact ⟨[_, _, _], _, rfl, last⟩

/-- An ASCII byte at the end of a text is its last character. -/
theorem concat_of_last {bytes : List UInt8} {c : Char} (ascii : c.toNat < 128) {chars : List Char}
    (coded : bytes ++ [UInt8.ofNat c.toNat] = chars.flatMap String.utf8EncodeChar) :
    ∃ front, chars = front ++ [c] ∧ bytes = front.flatMap String.utf8EncodeChar := by
  rcases List.eq_nil_or_concat' chars with rfl | ⟨front, d, rfl⟩
  · exact absurd coded (List.append_ne_nil_of_right_ne_nil _ (List.cons_ne_nil _ _))
  have code : (UInt8.ofNat c.toNat).toNat = c.toNat :=
    UInt8.toNat_ofNat_of_lt' (Nat.lt_trans ascii (by decide))
  rw [List.flatMap_append, List.flatMap_singleton] at coded
  by_cases narrow : d.toNat < 128
  · rw [utf8EncodeChar_ascii narrow] at coded
    obtain ⟨same, last⟩ := List.append_inj' coded rfl
    have code' : (UInt8.ofNat d.toNat).toNat = d.toNat :=
      UInt8.toNat_ofNat_of_lt' (Nat.lt_trans narrow (by decide))
    rw [(List.cons.inj last).1, code'] at code
    obtain rfl : d = c := Char.ext (UInt32.toNat_inj.mp code)
    exact ⟨front, rfl, same⟩
  · obtain ⟨lead, last, shape, high⟩ := utf8EncodeChar_last (Nat.le_of_not_lt narrow)
    rw [shape, ← List.append_assoc] at coded
    obtain ⟨-, same⟩ := List.append_inj' coded rfl
    rw [← (List.cons.inj same).1, code] at high
    omega

theorem exists_coded_front {bytes : List UInt8} {more chars : List Char}
    (ascii : ∀ c ∈ more, c.toNat < 128)
    (coded : bytes ++ more.flatMap String.utf8EncodeChar =
      chars.flatMap String.utf8EncodeChar) :
    ∃ front : List Char, bytes = front.flatMap String.utf8EncodeChar := by
  induction more using List.reverseRecOn generalizing chars with
  | nil => exact ⟨chars, by simpa using coded⟩
  | append_singleton more c ih =>
      have last := ascii c (List.mem_append_right _ (List.mem_singleton_self c))
      rw [List.flatMap_append, List.flatMap_singleton, utf8EncodeChar_ascii last,
        ← List.append_assoc] at coded
      obtain ⟨front, -, rest⟩ := concat_of_last last coded
      exact ih (fun d among => ascii d (List.mem_append_left _ among)) rest

/-- ASCII text written behind bytes neither makes nor mends an error in them. -/
theorem decodeUtf8_append (bytes : List UInt8) {more : List Char}
    (ascii : ∀ c ∈ more, c.toNat < 128) :
    decodeUtf8 (bytes ++ utf8 (String.ofList more)) =
      (decodeUtf8 bytes).map fun text => String.ofList (text.toList ++ more) := by
  cases decoded : decodeUtf8 bytes with
  | some text =>
      rw [decodeUtf8_eq_some_iff] at decoded
      subst decoded
      have whole := utf8_append text.toList more
      rw [String.ofList_toList] at whole
      rw [← whole, decodeUtf8_utf8]
      rfl
  | none =>
      cases whole : decodeUtf8 (bytes ++ utf8 (String.ofList more)) with
      | none => rfl
      | some text =>
          rw [decodeUtf8_eq_some_iff, utf8_eq, utf8_eq, String.toList_ofList] at whole
          obtain ⟨front, rfl⟩ := exists_coded_front ascii whole
          have text := decodeUtf8_utf8 (String.ofList front)
          rw [utf8_eq, String.toList_ofList, decoded] at text
          cases text

/-- Universal newlines: a carriage return, with or without a line feed, becomes one line feed. -/
def universalNewlines : List Char → List Char
  | [] => []
  | '\r' :: '\n' :: rest => '\n' :: universalNewlines rest
  | '\r' :: rest => '\n' :: universalNewlines rest
  | c :: rest => c :: universalNewlines rest

/-- The text of a file that is read as UTF-8; nothing if its bytes are no UTF-8. -/
def readText (bytes : List UInt8) : Option String :=
  (decodeUtf8 bytes).map fun text => String.ofList (universalNewlines text.toList)

theorem universalNewlines_plain {text : List Char} (plain : '\r' ∉ text) :
    universalNewlines text = text := by
  induction text with
  | nil => rfl
  | cons c rest ih =>
      rw [List.mem_cons, not_or] at plain
      rw [universalNewlines, ih plain.2]
      · rintro _ rfl
        exact absurd rfl plain.1
      · rintro rfl
        exact absurd rfl plain.1

/-- The line break before a text that does not begin with one stays the same. -/
theorem universalNewlines_append (text : List Char) {more : List Char} (plain : '\r' ∉ more)
    (begins : more.head? ≠ some '\n') :
    universalNewlines (text ++ more) = universalNewlines text ++ more := by
  induction text using universalNewlines.induct with
  | case1 => exact universalNewlines_plain plain
  | case2 rest ih =>
      rw [List.cons_append, List.cons_append, universalNewlines, universalNewlines, ih]
      rfl
  | case3 rest other ih =>
      rw [List.cons_append, universalNewlines, universalNewlines, ih]
      · rfl
      · exact other
      · rintro further same
        cases rest with
        | nil =>
            rw [List.nil_append] at same
            rw [same] at begins
            exact begins rfl
        | cons c rest =>
            cases same
            exact other rest rfl
  | case4 c rest pair other ih =>
      rw [List.cons_append, universalNewlines, universalNewlines, ih]
      · rfl
      · exact pair
      · exact other
      · rintro further rfl
        exact absurd rfl other
      · exact other

/-- A text without carriage returns is read back as it was written. -/
theorem readText_utf8 {text : String} (plain : '\r' ∉ text.toList) :
    readText (utf8 text) = some text := by
  unfold readText
  rw [decodeUtf8_utf8, Option.map_some, universalNewlines_plain plain, String.ofList_toList]

/-- ASCII text without carriage returns is read as it was written, behind whatever it stands. -/
theorem readText_append (bytes : List UInt8) {more : List Char}
    (ascii : ∀ c ∈ more, c.toNat < 128) (plain : '\r' ∉ more) (begins : more.head? ≠ some '\n') :
    readText (bytes ++ utf8 (String.ofList more)) =
      (readText bytes).map fun text => String.ofList (text.toList ++ more) := by
  unfold readText
  rw [decodeUtf8_append bytes ascii, Option.map_map, Option.map_map]
  congr 1
  funext text
  simp only [Function.comp_apply, String.toList_ofList]
  rw [universalNewlines_append _ plain begins]

end Text
