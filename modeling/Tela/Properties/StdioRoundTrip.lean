import Tela.Commands.StdioFraming
import Tela.Library.JsonGrammar
import Tela.Properties.SseFraming

/-!
# Stdio framing round trip

When the messages written to stdout are read back one by one with their values.
-/

namespace Tela.Bridge

open Octets (lineFeed readLine strip lines pieces isSpace)
open Trim (Blank Trimmed)

/-! ## Messages with a header -/

theorem int?_padded {lead trail : Bytes} (before : Blank isSpace lead)
    (behind : Blank isSpace trail) (token : Bytes) :
    Octets.int? (lead ++ token ++ trail) = Octets.int? token := by
  have same : strip (lead ++ token ++ trail) = strip token := Trim.trim_eq_of_padded before behind
  unfold Octets.int?
  rw [same]

/-- The first line of the header, without its line feed. -/
def headerLine (length : Nat) : Bytes :=
  Octets.ascii "Content-Length: " ++ Octets.decimal length ++ [13]

theorem headerLine_unbroken (length : Nat) : lineFeed ∉ headerLine length := by
  unfold headerLine
  simp only [List.mem_append, List.mem_singleton, not_or]
  refine ⟨⟨by decide, fun among => ?_⟩, by decide⟩
  exact absurd (Octets.mem_decimal among).2.1 (by decide)

theorem headerLine_ink (length : Nat) : strip (headerLine length ++ [lineFeed]) ≠ [] := by
  intro none
  have blank := Trim.trim_eq_nil_iff.mp none 67 (List.mem_cons_self ..)
  cases blank

theorem headerLine_header (length : Nat) :
    isContentLength (headerLine length ++ [lineFeed]) = true := by
  have start : (Octets.ascii "Content-Length: ").map Octets.lower =
      Octets.ascii "content-length:" ++ [32] := by
    decide
  unfold isContentLength headerLine
  rw [List.map_append, List.map_append, List.map_append, start]
  apply List.isPrefixOf_iff_prefix.mpr
  simp only [List.append_assoc]
  exact List.prefix_append ..

theorem headerLine_length (length : Nat) :
    Octets.int? (((headerLine length ++ [lineFeed]).dropWhile (· ≠ 58)).drop 1) =
      if length < 10 ^ Octets.maxDigits then some (Int.ofNat length) else none := by
  have token : ((headerLine length ++ [lineFeed]).dropWhile (· ≠ 58)).drop 1 =
      [32] ++ Octets.decimal length ++ [13, lineFeed] := by
    unfold headerLine
    rw [List.append_assoc, List.append_assoc]
    rfl
  have before : Blank isSpace [32] := by decide
  have behind : Blank isSpace [13, lineFeed] := by decide
  rw [token, int?_padded before behind, Octets.int?_decimal]

theorem readBytes_append {payload rest : Bytes} :
    readBytes (Int.ofNat payload.length) (payload ++ rest) =
      if payload.length ≤ Octets.maxSize then .ok (payload, rest)
      else .error ⟨.other, "OverflowError", "cannot fit 'int' into an index-sized integer"⟩ := by
  have count : 0 ≤ Int.ofNat payload.length := Int.natCast_nonneg _
  unfold readBytes
  by_cases fits : payload.length ≤ Octets.maxSize
  · have within : Int.ofNat payload.length ≤ Octets.maxSize := Int.ofNat_le.mpr fits
    rw [if_neg (by omega), if_neg (by omega), if_neg (by omega), if_pos fits]
    exact congrArg Except.ok (Prod.ext List.take_left List.drop_left)
  · have beyond : Int.ofNat payload.length > Octets.maxSize :=
      Int.ofNat_lt.mpr (Nat.lt_of_not_le fits)
    rw [if_pos (.inl beyond), if_neg fits]

/-- A message with a header is read back as it was written, unless it is too long to be read. -/
theorem readFramedMessage_framed (payload rest : Bytes) :
    readFramedMessage (writeFramedMessage payload true ++ rest) =
        (.ok (.ok (some ⟨payload, true⟩)), rest) ∧ payload.length ≤ Octets.maxSize ∨
      (∀ message, (readFramedMessage (writeFramedMessage payload true ++ rest)).1 ≠
        .ok (.ok message)) ∧ ¬ payload.length ≤ Octets.maxSize := by
  have stream : writeFramedMessage payload true ++ rest =
      headerLine payload.length ++ lineFeed :: ([13] ++ lineFeed :: (payload ++ rest)) := by
    have ends : Octets.ascii "\r\n\r\n" = [13] ++ lineFeed :: ([13] ++ [lineFeed]) := by decide
    unfold writeFramedMessage contentLengthHeader headerLine
    rw [if_pos rfl, ends]
    simp only [List.append_assoc, List.cons_append, List.nil_append]
  have headers : skipHeaders ([13] ++ lineFeed :: (payload ++ rest)) = some (payload ++ rest) := by
    rw [skipHeaders, Octets.readLine_append (by decide)]
    rfl
  rw [stream, readFramedMessage, Octets.readLine_append (headerLine_unbroken _)]
  rw [if_neg (by simp), if_neg (headerLine_ink _), if_pos (headerLine_header _)]
  unfold readFramedBody
  rw [headerLine_length]
  by_cases fits : payload.length ≤ Octets.maxSize
  · rw [if_pos (Octets.lt_of_le_maxSize fits)]
    dsimp only
    rw [headers]
    dsimp only
    rw [readBytes_append, if_pos fits]
    exact .inl ⟨if_neg (not_not_intro rfl), fits⟩
  · refine .inr ⟨fun message read => ?_, fits⟩
    by_cases short : payload.length < 10 ^ Octets.maxDigits
    · rw [if_pos short] at read
      dsimp only at read
      rw [headers] at read
      dsimp only at read
      rw [readBytes_append, if_neg fits] at read
      cases read
    · rw [if_neg short] at read
      cases read

/-! ## Messages on lines -/

/-- What is read from lines without a header are the ones that are not blank. -/
theorem readsBack_lines {written : List Bytes} {rest : Bytes} {messages : List BridgeMessage}
    (unbroken : ∀ line ∈ written, lineFeed ∉ line)
    (headless : ∀ line ∈ written, isContentLength (line ++ [lineFeed]) = false)
    (later : ReadsBack rest messages) :
    ReadsBack (written.flatMap (· ++ [lineFeed]) ++ rest)
      (((written.map strip).filter (· ≠ [])).map (fun payload => ⟨payload, false⟩) ++ messages) := by
  induction written with
  | nil => exact later
  | cons line written ih =>
      have later' := ih (fun other among => unbroken other (List.mem_cons_of_mem _ among))
        fun other among => headless other (List.mem_cons_of_mem _ among)
      have clean := unbroken line (List.mem_cons_self ..)
      have stripped : strip (line ++ [lineFeed]) = strip line :=
        Trim.trim_eq_of_padded Trim.blank_nil (by decide)
      rw [List.flatMap_cons, List.append_assoc, List.append_assoc, List.singleton_append]
      by_cases ink : strip line = []
      · rw [List.map_cons, ink, List.filter_cons_of_neg (by simp)]
        exact .skip (readFramedMessage_blank clean (stripped.trans ink) _) later'
      · rw [List.map_cons, List.filter_cons_of_pos (by simp [ink]), List.map_cons, List.cons_append]
        have read := readFramedMessage_line clean (stripped ▸ ink)
          (headless line (List.mem_cons_self ..)) (written.flatMap (· ++ [lineFeed]) ++ rest)
        rw [stripped] at read
        exact .message read later'

theorem headless_of_head {line : Bytes}
    (head : ∀ b, line.head? = some b → b ≠ 99 ∧ b ≠ 67) :
    isContentLength (line ++ [lineFeed]) = false := by
  apply Bool.eq_false_iff.mpr
  intro header
  obtain ⟨rest, whole⟩ := List.isPrefixOf_iff_prefix.mp header
  cases line with
  | nil => cases whole
  | cons b line =>
      have lowered : Octets.lower b = 99 := (List.cons.inj whole).1.symm
      obtain ⟨small, capital⟩ := head b rfl
      unfold Octets.lower at lowered
      grind

/-- What the writer leaves of a message. -/
abbrev trimmedEnd (message : Bytes) : Bytes := Trim.right isLineEnd message

theorem strip_trimmedEnd (message : Bytes) : strip (trimmedEnd message) = strip message := by
  obtain ⟨trail, split, behind⟩ := Trim.exists_right isLineEnd message
  have blank : Blank isSpace trail := by
    intro b among
    have ends := behind b among
    rw [isLineEnd, Bool.or_eq_true, beq_iff_eq, beq_iff_eq] at ends
    rcases ends with rfl | rfl <;> rfl
  have same : strip ([] ++ trimmedEnd message ++ trail) = strip (trimmedEnd message) :=
    Trim.trim_eq_of_padded Trim.blank_nil blank
  rw [List.nil_append, ← split] at same
  exact same.symm

theorem headless_of_isText {message : Bytes} {json : Json} (text : Json.IsText message json)
    {line : Bytes} (among : line ∈ lines (trimmedEnd message)) :
    isContentLength (line ++ [lineFeed]) = false := by
  obtain ⟨lexemes, lexes, -⟩ := text
  obtain ⟨trail, split, -⟩ := Trim.exists_right isLineEnd message
  have chain := lexes.calm lineFeed
  rw [split, ← List.cons_append] at chain
  exact headless_of_head fun b first =>
    Octets.lines_starts (List.isChain_append.mp chain).1 among first

def unframed (payload : Bytes) : BridgeMessage := ⟨payload, false⟩

/-- Every message written on lines is read as the lines of it that are not blank. -/
theorem readsBack_unframed {messages : List Bytes}
    (texts : ∀ message ∈ messages, ∃ json, Json.IsText message json) :
    ReadsBack (responseStream messages false)
      (messages.flatMap fun message => (pieces (trimmedEnd message)).map unframed) := by
  induction messages with
  | nil => exact .empty
  | cons message messages ih =>
      have later := ih fun other among => texts other (List.mem_cons_of_mem _ among)
      obtain ⟨json, text⟩ := texts message (List.mem_cons_self ..)
      have read := readsBack_lines (fun line => Octets.unbroken_of_mem_lines)
        (fun line => headless_of_isText text) later
      rw [Octets.flatMap_lines] at read
      exact read

theorem readsBack_framed {messages : List Bytes}
    (fit : ∀ message ∈ messages, message.length ≤ Octets.maxSize) :
    ReadsBack (responseStream messages true) (messages.map fun message => ⟨message, true⟩) := by
  induction messages with
  | nil => exact .empty
  | cons message messages ih =>
      obtain ⟨first, fit⟩ := List.forall_mem_cons.mp fit
      obtain ⟨read, -⟩ | ⟨-, long⟩ := readFramedMessage_framed message (responseStream messages true)
      · exact .message read (ih fit)
      · exact absurd first long

/-- No message that is too long is read back. -/
theorem fits_of_readsBack {messages : List Bytes} {back : List BridgeMessage}
    (reads : ReadsBack (responseStream messages true) back) :
    ∀ message ∈ messages, message.length ≤ Octets.maxSize := by
  induction messages generalizing back with
  | nil => exact fun _ among => nomatch among
  | cons message messages ih =>
      have written : responseStream (message :: messages) true =
          writeFramedMessage message true ++ responseStream messages true := rfl
      rw [written] at reads
      obtain ⟨read, fits⟩ | ⟨unread, -⟩ :=
        readFramedMessage_framed message (responseStream messages true)
      · cases reads with
        | ended read' =>
            rw [read] at read'
            cases read'
        | message read' later =>
            rw [read] at read'
            cases read'
            exact List.forall_mem_cons.mpr ⟨fits, ih later⟩
      · cases reads with
        | ended read' => exact absurd (congrArg Prod.fst read') (unread _)
        | message read' later => exact absurd (congrArg Prod.fst read') (unread _)

/-! ## The round trip -/

/-- The messages are read back one for one, in order, with the values they had. -/
def RoundTrips (framed : Bool) (messages : List Bytes) : Prop :=
  ∃ read, ReadsBack (responseStream messages framed) read ∧
    List.Forall₂ (fun message back => ∀ json,
      Json.IsText message json ↔ Json.IsText back.payload json) messages read

theorem length_lt_flatMap {α β : Type} {list : List α} (parts : α → List β)
    (some : ∀ x ∈ list, parts x ≠ []) {x : α} (among : x ∈ list)
    (several : 2 ≤ (parts x).length) : list.length < (list.flatMap parts).length := by
  have atLeast (others : List α) (some : ∀ x ∈ others, parts x ≠ []) :
      others.length ≤ (others.flatMap parts).length := by
    induction others with
    | nil => exact Nat.le_refl _
    | cons y others ih =>
        have first := List.length_pos_of_ne_nil (some y (List.mem_cons_self ..))
        have rest := ih fun z found => some z (List.mem_cons_of_mem _ found)
        rw [List.flatMap_cons, List.length_append, List.length_cons]
        omega
  obtain ⟨front, back, rfl⟩ := List.append_of_mem among
  have before := atLeast front fun y found => some y (List.mem_append_left _ found)
  have behind := atLeast back fun y found =>
    some y (List.mem_append_right _ (List.mem_cons_of_mem _ found))
  rw [List.flatMap_append, List.flatMap_cons, List.length_append, List.length_append,
    List.length_append, List.length_cons]
  omega

/-- With headers, only messages beyond the size of an object do not come back. -/
theorem roundTrips_framed_iff {messages : List Bytes} :
    RoundTrips true messages ↔ ∀ message ∈ messages, message.length ≤ Octets.maxSize := by
  constructor
  · rintro ⟨read, back, -⟩
    exact fits_of_readsBack back
  · intro fit
    refine ⟨_, readsBack_framed fit, ?_⟩
    exact List.forall₂_map_right_iff.mpr (List.forall₂_same.mpr fun message _ json => Iff.rfl)

/-- On lines, every message must have one line that is not blank. -/
theorem roundTrips_unframed_iff {messages : List Bytes}
    (texts : ∀ message ∈ messages, ∃ json, Json.IsText message json) :
    RoundTrips false messages ↔ ∀ message ∈ messages, lineFeed ∉ strip message := by
  have ink (message : Bytes) (among : message ∈ messages) : strip (trimmedEnd message) ≠ [] := by
    obtain ⟨json, text⟩ := texts message among
    rw [strip_trimmedEnd]
    exact Json.strip_ne_nil text
  have some (message : Bytes) (among : message ∈ messages) :
      (pieces (trimmedEnd message)).map unframed ≠ [] := by
    intro none
    have none := List.map_eq_nil_iff.mp none
    by_cases broken : lineFeed ∈ strip (trimmedEnd message)
    · have several := Octets.pieces_several broken
      rw [none] at several
      cases several
    · rw [Octets.pieces_single (ink message among) broken] at none
      cases none
  constructor
  · rintro ⟨read, back, each⟩ message among broken
    rw [back.unique (readsBack_unframed texts)] at each
    have several : 2 ≤ ((pieces (trimmedEnd message)).map unframed).length := by
      rw [List.length_map]
      exact Octets.pieces_several (by rw [strip_trimmedEnd]; exact broken)
    have fewer := length_lt_flatMap (fun message =>
      (pieces (trimmedEnd message)).map unframed) some among several
    exact absurd each.length_eq (Nat.ne_of_lt fewer)
  · intro unbroken
    have single : messages.flatMap (fun message =>
        (pieces (trimmedEnd message)).map unframed) =
          messages.map fun message => unframed (strip message) := by
      rw [List.map_eq_flatMap]
      refine List.flatMap_congr fun message among => ?_
      have clean := unbroken message among
      rw [← strip_trimmedEnd] at clean
      rw [Octets.pieces_single (ink message among) clean, strip_trimmedEnd]
      rfl
    refine ⟨_, readsBack_unframed texts, ?_⟩
    rw [single]
    apply List.forall₂_map_right_iff.mpr
    exact List.forall₂_same.mpr fun message among json =>
      Json.isText_strip (texts message among) json

/--
JSON messages come back one for one exactly when they are written with headers, none larger
than an object can be, or none of them has a line feed between its first and its last byte that
is not a blank.
-/
theorem stdio_round_trip (framed : Bool) {messages : List Bytes}
    (texts : ∀ message ∈ messages, ∃ json, Json.IsText message json) :
    RoundTrips framed messages ↔
      (framed = true ∧ ∀ message ∈ messages, message.length ≤ Octets.maxSize) ∨
        (framed = false ∧ ∀ message ∈ messages, lineFeed ∉ strip message) := by
  cases framed with
  | true => simp [roundTrips_framed_iff]
  | false => simp [roundTrips_unframed_iff texts]

/-! ### Bodies of a gateway -/

/-- An object with one field, written with these blanks in it. -/
def idText (first second third : List UInt8) : Bytes :=
  Octets.ascii "\x7b" ++ (first ++ (Octets.ascii "\"id\"" ++ (Octets.ascii ":" ++ (second ++
    (Octets.ascii "1" ++ (third ++ (Octets.ascii "\x7d" ++ [])))))))

/-- A number by itself. -/
def numberBody : Bytes := Octets.ascii "1"

theorem value_one : Json.Value [Octets.ascii "1"] (.num 1 0) := by
  have number := @Json.Value.number ⟨false, 1, [], ([], false, [])⟩ (.inl rfl)
  have digit : (⟨false, 1, [], ([], false, [])⟩ : Json.NumberText).bytes = Octets.ascii "1" := by
    decide
  rwa [digit] at number

theorem lexeme_one : Json.Lexeme (Octets.ascii "1") := .bare (by decide) (by decide +kernel)

theorem isText_numberBody : ∃ json, Json.IsText numberBody json :=
  ⟨_, [Octets.ascii "1"], .lexeme lexeme_one .nil, value_one⟩

theorem isText_idText {first second third : List UInt8}
    (before : ∀ b ∈ first, Json.IsBlank b) (between : ∀ b ∈ second, Json.IsBlank b)
    (behind : ∀ b ∈ third, Json.IsBlank b) :
    ∃ json, Json.IsText (idText first second third) json := by
  have bare (text : String) (some : Octets.ascii text ≠ [])
      (plain : ∀ b ∈ Octets.ascii text, b ∈ Json.bareBytes) : Json.Lexeme (Octets.ascii text) :=
    .bare some plain
  have key : Octets.ascii "\"id\"" = 34 :: (Octets.ascii "id" ++ [34]) := by decide
  have quoted : Json.Lexeme (Octets.ascii "\"id\"") := by
    rw [key]
    exact .quoted (by decide +kernel)
  have named : Json.StringLexeme (Octets.ascii "\"id\"") "id" := by
    have letters : Octets.ascii "id" = Text.utf8 (String.singleton 'i') ++
        (Text.utf8 (String.singleton 'd') ++ []) := by decide +kernel
    refine ⟨Octets.ascii "id", key, ?_⟩
    rw [letters]
    exact .plain 'i' (by decide) (.plain 'd' (by decide) .nil)
  refine ⟨_, [Octets.ascii "\x7b", Octets.ascii "\"id\"", Octets.ascii ":", Octets.ascii "1",
    Octets.ascii "\x7d"], ?_, .object (.last named value_one)⟩
  apply Json.Lexes.lexeme (bare _ (by decide) (by decide +kernel))
  apply Json.Lexes.lead before
  apply Json.Lexes.lexeme quoted
  apply Json.Lexes.lexeme (bare _ (by decide) (by decide +kernel))
  apply Json.Lexes.lead between
  apply Json.Lexes.lexeme lexeme_one
  apply Json.Lexes.lead behind
  exact .lexeme (bare _ (by decide) (by decide +kernel)) .nil

def compactBody : Bytes := idText [] [] []

def prettyBody : Bytes := idText (Octets.ascii "\n  ") (Octets.ascii " ") (Octets.ascii "\n")

theorem isText_compactBody : ∃ json, Json.IsText compactBody json := by
  apply isText_idText <;> decide +kernel

theorem isText_prettyBody : ∃ json, Json.IsText prettyBody json := by
  apply isText_idText <;> decide +kernel

/-- Two messages come back on lines when both are compact, and with headers anyway. -/
theorem stdio_round_trip_compact :
    RoundTrips false [compactBody, numberBody] ∧ RoundTrips true [prettyBody, compactBody] := by
  have compact : ∀ message ∈ [compactBody, numberBody], ∃ json, Json.IsText message json :=
    List.forall_mem_cons.mpr ⟨isText_compactBody, List.forall_mem_singleton.mpr isText_numberBody⟩
  have pretty : ∀ message ∈ [prettyBody, compactBody], ∃ json, Json.IsText message json :=
    List.forall_mem_cons.mpr ⟨isText_prettyBody, List.forall_mem_singleton.mpr isText_compactBody⟩
  exact ⟨(stdio_round_trip false compact).mpr (.inr ⟨rfl, by decide⟩),
    (stdio_round_trip true pretty).mpr (.inl ⟨rfl, by decide⟩)⟩

/-- A body on several lines, and one made of several data lines, are messages of a gateway; on
lines the first does not come back. -/
theorem stdio_round_trip_violated :
    extractResponseMessages utf8Platform "application/json" prettyBody = [prettyBody] ∧
      extractResponseMessages utf8Platform "text/event-stream"
        (Text.utf8 "data: \x7b\ndata: \"id\": 1\ndata: \x7d\n\n") =
          [Text.utf8 "\x7b\n\"id\": 1\n\x7d"] ∧
      (∃ json, Json.IsText prettyBody json) ∧ ¬ RoundTrips false [prettyBody] ∧
      ReadsBack (responseStream [prettyBody] false)
        [⟨Octets.ascii "\x7b", false⟩, ⟨Octets.ascii "\"id\": 1", false⟩,
          ⟨Octets.ascii "\x7d", false⟩] := by
  have texts : ∀ message ∈ [prettyBody], ∃ json, Json.IsText message json :=
    List.forall_mem_singleton.mpr isText_prettyBody
  refine ⟨by decide +kernel, by decide +kernel, isText_prettyBody, fun trips => ?_, ?_⟩
  · have unbroken := (roundTrips_unframed_iff texts).mp trips prettyBody (List.mem_singleton_self _)
    exact absurd unbroken (by decide)
  · exact readsBack_unframed texts

end Tela.Bridge
