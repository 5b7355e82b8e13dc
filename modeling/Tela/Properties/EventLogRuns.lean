import Tela.Shell.RuntimeEvents

/-!
# What the event log keeps

Runs of appends on a file that already holds something. An event is kept unless its line
joins a line that was left unfinished; bytes that are no UTF-8 keep everything from being
read.
-/

namespace Tela.EventLog

open Text (isSpace)
open Trim (Blank Trimmed trim)

/-! ## The events of a text -/

section Events

variable (modelValidateJson : String → Option RuntimeEvent)

/-- The event of one line, if it has one. -/
def lineEvents (line : List Char) : List RuntimeEvent :=
  if (stripped line).isEmpty then []
  else (modelValidateJson (String.ofList (stripped line))).toList

def textEvents (text : List Char) : List RuntimeEvent :=
  (text.splitOn '\n').flatMap (lineEvents modelValidateJson)

/-- The lines of a text that are not blank. -/
def inkedLines (text : List Char) : List (List Char) :=
  (text.splitOn '\n').filter fun line => !(stripped line).isEmpty

/-- The text behind the last line feed. -/
def unfinished (text : List Char) : List Char := (text.reverse.takeWhile (· ≠ '\n')).reverse

variable {modelValidateJson}

theorem readRuntimeLine_events (reading : RuntimeEventsRead) (line : List Char) :
    (readRuntimeLine modelValidateJson reading line).events =
      reading.events ++ lineEvents modelValidateJson line := by
  unfold readRuntimeLine lineEvents
  split
  · exact (List.append_nil _).symm
  · cases modelValidateJson (String.ofList (stripped line)) with
    | none => exact (List.append_nil _).symm
    | some event => rfl

theorem readRuntimeLine_count (reading : RuntimeEventsRead) (line : List Char) :
    (readRuntimeLine modelValidateJson reading line).events.length +
        (readRuntimeLine modelValidateJson reading line).malformedLineCount =
      reading.events.length + reading.malformedLineCount +
        if (stripped line).isEmpty then 0 else 1 := by
  unfold readRuntimeLine
  split
  · rfl
  · cases modelValidateJson (String.ofList (stripped line)) with
    | none => rfl
    | some event =>
        dsimp only
        rw [List.length_append, List.length_singleton]
        omega

/-- The loop collects the events of its lines, and each line that is not blank counts once. -/
theorem foldl_readRuntimeLine (modelValidateJson : String → Option RuntimeEvent)
    (lines : List (List Char)) (reading : RuntimeEventsRead) :
    (lines.foldl (readRuntimeLine modelValidateJson) reading).events =
        reading.events ++ lines.flatMap (lineEvents modelValidateJson) ∧
      (lines.foldl (readRuntimeLine modelValidateJson) reading).events.length +
          (lines.foldl (readRuntimeLine modelValidateJson) reading).malformedLineCount =
        reading.events.length + reading.malformedLineCount +
          (lines.filter fun line => !(stripped line).isEmpty).length := by
  induction lines generalizing reading with
  | nil => exact ⟨(List.append_nil _).symm, rfl⟩
  | cons line lines ih =>
      obtain ⟨events, count⟩ := ih (readRuntimeLine modelValidateJson reading line)
      rw [List.foldl_cons]
      constructor
      · rw [events, readRuntimeLine_events, List.flatMap_cons, List.append_assoc]
      · rw [count, readRuntimeLine_count, List.filter_cons]
        cases (stripped line).isEmpty with
        | true => rfl
        | false =>
            simp only [Bool.not_false, if_true, List.length_cons, Bool.false_eq_true, if_false]
            omega

theorem lineEvents_blank {line : List Char} (blank : Blank isSpace line) :
    lineEvents modelValidateJson line = [] := by
  apply if_pos
  rw [stripped, Trim.trim_eq_nil_iff.mpr blank]
  rfl

theorem textEvents_unbroken {line : List Char} (unbroken : '\n' ∉ line) :
    textEvents modelValidateJson line = lineEvents modelValidateJson line := by
  rw [textEvents, List.splitOn_eq_singleton unbroken, List.flatMap_singleton]

theorem textEvents_append (first second : List Char) :
    textEvents modelValidateJson (first ++ '\n' :: second) =
      textEvents modelValidateJson first ++ textEvents modelValidateJson second := by
  rw [textEvents, List.splitOn_append_cons_self, List.flatMap_append]
  rfl

theorem textEvents_nil : textEvents modelValidateJson [] = [] := by
  rw [textEvents_unbroken List.not_mem_nil, lineEvents_blank Trim.blank_nil]

theorem textEvents_line {line : List Char} (unbroken : '\n' ∉ line) :
    textEvents modelValidateJson (line ++ ['\n']) = lineEvents modelValidateJson line := by
  rw [textEvents_append, textEvents_unbroken unbroken, textEvents_nil, List.append_nil]

theorem unbroken_unfinished (text : List Char) : '\n' ∉ unfinished text := by
  intro among
  have other := List.mem_takeWhile_imp (List.mem_reverse.mp among)
  simp at other

/-- What follows a text changes only its unfinished line. -/
theorem exists_finished (modelValidateJson : String → Option RuntimeEvent) (text : List Char) :
    ∃ front, ∀ more, textEvents modelValidateJson (text ++ more) =
      front ++ textEvents modelValidateJson (unfinished text ++ more) := by
  have split : text = (text.reverse.dropWhile (· ≠ '\n')).reverse ++ unfinished text := by
    unfold unfinished
    rw [← List.reverse_append, List.takeWhile_append_dropWhile, List.reverse_reverse]
  cases shape : text.reverse.dropWhile (· ≠ '\n') with
  | nil =>
      rw [shape] at split
      refine ⟨[], fun more => ?_⟩
      conv_lhs => rw [split]
      rfl
  | cons feed rest =>
      have kept := List.head?_dropWhile_not (· ≠ '\n') text.reverse
      rw [shape] at kept split
      obtain rfl : feed = '\n' := by simpa using kept
      refine ⟨textEvents modelValidateJson rest.reverse, fun more => ?_⟩
      conv_lhs => rw [split]
      rw [List.reverse_cons, List.append_assoc, List.append_assoc, List.singleton_append,
        textEvents_append]

end Events

/-! ## Appends -/

/-- One call of `append_runtime_event`. -/
structure Append where
  event : RuntimeEvent
  fault : Option WriteFault := none

section Appends

variable (floatText : Int → Int → List Char)

/-- The file behind a call. -/
def Append.after (call : Append) (file : Option (List UInt8)) : Option (List UInt8) :=
  (appendRuntimeEvent floatText call.event call.fault file).2

/-- The call ends without an error. -/
def Append.Succeeds (call : Append) : Prop :=
  ∀ file, (appendRuntimeEvent floatText call.event call.fault file).1 = .ok ()

/-- What the call adds to the text of the file. -/
def Append.written (call : Append) : List Char :=
  match runtimeEventPayload floatText call.event with
  | .error _ => []
  | .ok _ =>
      match call.fault with
      | none => record floatText call.event ++ ['\n']
      | some (.opening _) => []
      | some (.writing count _) => (record floatText call.event ++ ['\n']).take count

/-- The file behind a run of calls. -/
def run (file : Option (List UInt8)) (calls : List Append) : Option (List UInt8) :=
  calls.foldl (fun file call => call.after floatText file) file

/-- The text of the file; a file that is missing has none. -/
def fileText (file : Option (List UInt8)) : Option (List Char) :=
  match file with
  | none => some []
  | some bytes => (Text.readText bytes).map String.toList

/-- Numbers are written with printable ASCII characters. -/
abbrev PlainFloats : Prop :=
  ∀ mantissa exponent, ∀ c ∈ floatText mantissa exponent, Json.Printable c

variable {floatText}

/-- A record is an object of printable characters. -/
theorem record_shape (plain : PlainFloats floatText) (event : RuntimeEvent) :
    (∀ c ∈ record floatText event, Json.Printable c) ∧
      ∃ inner, record floatText event = '\x7b' :: (inner ++ ['\x7d']) := by
  refine ⟨Json.printable_compactText plain _, ?_⟩
  unfold record RuntimeEvent.modelDump Json.sortKeys
  exact ⟨_, rfl⟩

theorem record_unbroken (plain : PlainFloats floatText) (event : RuntimeEvent) :
    '\n' ∉ record floatText event := fun among =>
  absurd ((record_shape plain event).1 _ among) (by decide)

/-- A record written on a line of its own is read as it is. -/
theorem stripped_record (plain : PlainFloats floatText) (event : RuntimeEvent)
    {lead : List Char} (blank : Blank isSpace lead) :
    stripped (lead ++ record floatText event) = record floatText event := by
  obtain ⟨inner, shape⟩ := (record_shape plain event).2
  have trimmed : Trimmed isSpace (record floatText event) := by
    rw [shape]
    constructor
    · rintro _ ⟨⟩
      decide
    · intro c last
      rw [← List.cons_append, List.getLast?_concat] at last
      cases last
      decide
  have whole := Trim.trim_padded blank trimmed Trim.blank_nil
  rwa [List.append_nil] at whole

/-- Part of a line, written behind a file, is part of its text. -/
theorem fileText_append (plain : PlainFloats floatText) (event : RuntimeEvent) (count : Nat)
    (file : Option (List UInt8)) :
    fileText (some (file.getD [] ++
        (Text.utf8 (runtimeEventJsonl floatText event)).take count)) =
      (fileText file).map (· ++ (record floatText event ++ ['\n']).take count) := by
  obtain ⟨printable, inner, shape⟩ := record_shape plain event
  have ascii : ∀ c ∈ record floatText event ++ ['\n'], c.toNat < 128 := by
    refine List.forall_mem_append.mpr ⟨fun c among => ?_, List.forall_mem_singleton.mpr (by decide)⟩
    exact Nat.lt_of_le_of_lt (printable c among).2 (by decide)
  have uncarried : '\r' ∉ record floatText event ++ ['\n'] := by
    intro among
    rcases List.mem_append.mp among with among | among
    · exact absurd (printable _ among) (by decide)
    · exact absurd among (by decide)
  have begins : ((record floatText event ++ ['\n']).take count).head? ≠ some '\n' := by
    rw [shape]
    cases count with
    | zero => nofun
    | succ count =>
        rintro ⟨⟩
  have text := Text.readText_append (file.getD [])
    (fun c among => ascii c (List.mem_of_mem_take among))
    (fun among => uncarried (List.mem_of_mem_take among)) begins
  unfold runtimeEventJsonl
  rw [Text.utf8_take ascii, fileText, text, Option.map_map]
  cases file with
  | none =>
      have empty : Text.readText [] = some "" := by
        rw [← Text.utf8_empty]
        exact Text.readText_utf8 (by decide)
      rw [Option.getD_none, empty]
      simp [fileText]
  | some bytes =>
      rw [fileText, Option.map_map]
      congr 1
      funext text
      exact String.toList_ofList

/-- A call writes the beginning of its line, and all of it when it succeeds. -/
theorem exists_written (floatText : Int → Int → List Char) (call : Append) :
    ∃ count, call.written floatText = (record floatText call.event ++ ['\n']).take count ∧
      (call.Succeeds floatText → (record floatText call.event).length < count) := by
  unfold Append.Succeeds Append.written appendRuntimeEvent
  cases runtimeEventPayload floatText call.event with
  | error text => exact ⟨0, rfl, fun succeeds => nomatch succeeds none⟩
  | ok payload =>
      match call.fault with
      | none =>
          refine ⟨(record floatText call.event).length + 1, ?_, fun _ => Nat.lt_succ_self _⟩
          rw [List.take_of_length_le]
          exact Nat.le_of_eq (List.length_append ..)
      | some (.opening text) => exact ⟨0, rfl, fun succeeds => nomatch succeeds none⟩
      | some (.writing count text) => exact ⟨count, rfl, fun succeeds => nomatch succeeds none⟩

theorem fileText_after (plain : PlainFloats floatText) (call : Append)
    (file : Option (List UInt8)) :
    fileText (call.after floatText file) = (fileText file).map (· ++ call.written floatText) := by
  have unchanged : fileText file = (fileText file).map (· ++ ([] : List Char)) := by
    simp
  unfold Append.after Append.written appendRuntimeEvent runtimeEventPayload
  by_cases long : maxRuntimeEventBytes < (Text.utf8 (runtimeEventJsonl floatText call.event)).length
  · simp only [if_pos long]
    exact unchanged
  · simp only [if_neg long]
    cases call.fault with
    | none =>
        have whole := fileText_append plain call.event
          ((Text.utf8 (runtimeEventJsonl floatText call.event)).length +
            (record floatText call.event ++ ['\n']).length) file
        rwa [List.take_of_length_le (Nat.le_add_right ..),
          List.take_of_length_le (Nat.le_add_left ..)] at whole
    | some fault =>
        cases fault with
        | opening text => exact unchanged
        | writing count text => exact fileText_append plain call.event count file

theorem fileText_run (plain : PlainFloats floatText) (calls : List Append)
    (file : Option (List UInt8)) :
    fileText (run floatText file calls) =
      (fileText file).map (· ++ calls.flatMap (Append.written floatText)) := by
  induction calls generalizing file with
  | nil => simp [run]
  | cons call calls ih =>
      have step := ih (call.after floatText file)
      rw [fileText_after plain, Option.map_map] at step
      rw [run, List.foldl_cons, ← run, step]
      congr 1
      funext text
      exact List.append_assoc ..

end Appends

/-! ## One append -/

section Step

variable (floatText : Int → Int → List Char)
  (modelValidateJson : String → Option RuntimeEvent) (limit : Nat)

/-- A record is read back unless it nests deeper than the parser goes, and a text holds one
whole value: neither a part of a record nor one behind other text is an event. -/
structure Parses (event : RuntimeEvent) : Prop where
  readsBack : event.modelDump.nesting ≤ limit →
    ∃ back, modelValidateJson (String.ofList (record floatText event)) = some back ∧
      back.Same event
  tooDeep : limit < event.modelDump.nesting →
    modelValidateJson (String.ofList (record floatText event)) = none
  oneValue : ∀ front count, 0 < count →
    ¬ Blank isSpace front ∨ count < (record floatText event).length →
    modelValidateJson (String.ofList (stripped (front ++ (record floatText event).take count))) =
      none

/-- What a call adds to the events: its own, or nothing if it failed. -/
def Records (call : Append) (added : List RuntimeEvent) : Prop :=
  (added = [] ∧ ¬ call.Succeeds floatText) ∨ ∃ back, added = [back] ∧ back.Same call.event

/-- The text is ready for the call. -/
structure Safe (call : Append) (text : List Char) : Prop where
  /-- A line that is written whole does not join one that was left unfinished. -/
  fresh : call.Succeeds floatText → Blank isSpace (unfinished text)
  shallow : call.Succeeds floatText → call.event.modelDump.nesting ≤ limit
  /-- A line that is cut off does not join an event without a line end. -/
  harmless : ¬ call.Succeeds floatText →
    call.written floatText = [] ∨ lineEvents modelValidateJson (unfinished text) = []

variable {floatText modelValidateJson limit}

/-- The part of a record that a call writes joins the unfinished line. -/
theorem exists_joined (modelValidateJson : String → Option RuntimeEvent)
    (plain : PlainFloats floatText) (event : RuntimeEvent) (text : List Char) :
    ∃ front,
      textEvents modelValidateJson text =
          front ++ lineEvents modelValidateJson (unfinished text) ∧
        ∀ count, textEvents modelValidateJson
            (text ++ (record floatText event ++ ['\n']).take count) =
          front ++ lineEvents modelValidateJson
            (unfinished text ++ (record floatText event).take count) := by
  obtain ⟨front, finished⟩ := exists_finished modelValidateJson text
  have unbroken (count : Nat) :
      '\n' ∉ unfinished text ++ (record floatText event).take count := by
    rw [List.mem_append, not_or]
    exact ⟨unbroken_unfinished text, fun among =>
      record_unbroken plain event (List.mem_of_mem_take among)⟩
  refine ⟨front, ?_, fun count => ?_⟩
  · have whole := finished []
    rwa [List.append_nil, List.append_nil, textEvents_unbroken (unbroken_unfinished text)] at whole
  · rw [finished]
    by_cases short : count ≤ (record floatText event).length
    · rw [List.take_append_of_le_length short, textEvents_unbroken (unbroken count)]
    · have long : (record floatText event ++ ['\n']).length ≤ count := by
        rw [List.length_append, List.length_singleton]
        omega
      have all : (record floatText event).take count = record floatText event :=
        List.take_of_length_le (by omega)
      have line := unbroken count
      rw [all] at line
      rw [all, List.take_of_length_le long, ← List.append_assoc, textEvents_line line]

/-- A joined or partial record is no event. -/
theorem Parses.joined {event : RuntimeEvent}
    (parses : Parses floatText modelValidateJson limit event) {front : List Char} {count : Nat}
    (some : 0 < count)
    (broken : ¬ Blank isSpace front ∨ count < (record floatText event).length) :
    lineEvents modelValidateJson (front ++ (record floatText event).take count) = [] := by
  unfold lineEvents
  split
  · rfl
  · rw [parses.oneValue front count some broken]
    rfl

/-- A record on a line of its own is an event, if the parser goes as deep. -/
theorem Parses.alone (plain : PlainFloats floatText) {event : RuntimeEvent}
    (parses : Parses floatText modelValidateJson limit event) {lead : List Char}
    (blank : Blank isSpace lead) {count : Nat}
    (whole : (record floatText event).length ≤ count) :
    (event.modelDump.nesting ≤ limit ∧ ∃ back, back.Same event ∧
      lineEvents modelValidateJson (lead ++ (record floatText event).take count) = [back]) ∨
      limit < event.modelDump.nesting ∧
        lineEvents modelValidateJson (lead ++ (record floatText event).take count) = [] := by
  obtain ⟨inner, shape⟩ := (record_shape plain event).2
  have inked : ¬ (record floatText event).isEmpty = true := by
    rw [shape]
    nofun
  rw [List.take_of_length_le whole, lineEvents, stripped_record plain event blank, if_neg inked]
  rcases Nat.lt_or_ge limit event.modelDump.nesting with deep | shallow
  · exact .inr ⟨deep, by rw [parses.tooDeep deep]; rfl⟩
  · obtain ⟨back, read, same⟩ := parses.readsBack shallow
    exact .inl ⟨shallow, back, same, by rw [read]; rfl⟩

/-- A call records its event and hides none exactly when the text is ready for it. -/
theorem records_iff (plain : PlainFloats floatText) {call : Append}
    (parses : Parses floatText modelValidateJson limit call.event) (text : List Char) :
    (∃ added, textEvents modelValidateJson (text ++ call.written floatText) =
        textEvents modelValidateJson text ++ added ∧ Records floatText call added) ↔
      Safe floatText modelValidateJson limit call text := by
  obtain ⟨front, before, behind⟩ :=
    exists_joined modelValidateJson plain call.event text
  obtain ⟨count, part, whole⟩ := exists_written floatText call
  rw [before, part, behind count]
  constructor
  · rintro ⟨added, same, records⟩
    rw [List.append_assoc] at same
    have line := List.append_cancel_left same
    have one (succeeds : call.Succeeds floatText) : lineEvents modelValidateJson
        (unfinished text ++ (record floatText call.event).take count) ≠ [] := by
      rw [line]
      rcases records with ⟨-, fails⟩ | ⟨back, rfl, -⟩
      · exact absurd succeeds fails
      · exact List.append_ne_nil_of_right_ne_nil _ (List.cons_ne_nil _ _)
    have fresh (succeeds : call.Succeeds floatText) : Blank isSpace (unfinished text) := by
      by_contra inked
      have long := whole succeeds
      exact one succeeds (parses.joined (by omega) (.inl inked))
    refine ⟨fresh, fun succeeds => ?_, fun fails => ?_⟩
    · rcases parses.alone plain (fresh succeeds) (Nat.le_of_lt (whole succeeds)) with
        ⟨shallow, -⟩ | ⟨-, none⟩
      · exact shallow
      · exact absurd none (one succeeds)
    · by_cases empty : count = 0
      · rw [part, empty]
        exact .inl rfl
      · right
        by_contra read
        have inked : ¬ Blank isSpace (unfinished text) := fun blank =>
          read (lineEvents_blank blank)
        rw [parses.joined (Nat.pos_of_ne_zero empty) (.inl inked)] at line
        exact read (List.append_eq_nil_iff.mp line.symm).1
  · intro safe
    by_cases succeeds : call.Succeeds floatText
    · have blank := safe.fresh succeeds
      rcases parses.alone plain blank (Nat.le_of_lt (whole succeeds)) with
        ⟨-, back, same, line⟩ | ⟨deep, -⟩
      · refine ⟨[back], ?_, .inr ⟨back, rfl, same⟩⟩
        rw [line, lineEvents_blank blank, List.append_nil]
      · exact absurd (safe.shallow succeeds) (Nat.not_le_of_lt deep)
    · by_cases empty : count = 0
      · refine ⟨[], ?_, .inl ⟨rfl, succeeds⟩⟩
        rw [empty, List.take_zero, List.append_nil, List.append_nil]
      · have unread : lineEvents modelValidateJson (unfinished text) = [] := by
          rcases safe.harmless succeeds with nothing | unread
          · rw [part, List.take_eq_nil_iff] at nothing
            rcases nothing with zero | nil
            · exact absurd zero empty
            · cases (List.append_eq_nil_iff.mp nil).2
          · exact unread
        rw [unread, List.append_nil]
        by_cases alone : Blank isSpace (unfinished text) ∧
            (record floatText call.event).length ≤ count
        · rcases parses.alone plain alone.1 alone.2 with ⟨-, back, same, line⟩ | ⟨-, line⟩
          · exact ⟨[back], by rw [line], .inr ⟨back, rfl, same⟩⟩
          · exact ⟨[], by rw [line], .inl ⟨rfl, succeeds⟩⟩
        · have broken : ¬ Blank isSpace (unfinished text) ∨
              count < (record floatText call.event).length := by
            rw [not_and_or, Nat.not_le] at alone
            exact alone
          refine ⟨[], ?_, .inl ⟨rfl, succeeds⟩⟩
          rw [parses.joined (Nat.pos_of_ne_zero empty) broken]

end Step

/-! ## Runs -/

section Runs

variable (floatText : Int → Int → List Char)
  (modelValidateJson : String → Option RuntimeEvent) (limit : Nat)

/-- The file is read without an exception, and each line that is not blank is either an
event of the reading or counted as malformed. -/
def Reads (file : Option (List UInt8)) (reading : RuntimeEventsRead) : Prop :=
  readRuntimeEvents modelValidateJson none file = .ok (.ok reading) ∧
    reading.events.length + reading.malformedLineCount =
      (inkedLines ((fileText file).getD [])).length

/-- What a run of calls adds to the events. -/
def Recorded (calls : List Append) (added : List RuntimeEvent) : Prop :=
  ∃ groups, added = groups.flatten ∧ List.Forall₂ (Records floatText) calls groups

/-- The log can be read at every moment of the run, and each call leaves the events before
it as they are and adds its own. -/
structure Kept (calls : List Append) (file : Option (List UInt8)) : Prop where
  step : ∀ done call later, calls = done ++ call :: later → ∃ before behind added,
    Reads modelValidateJson (run floatText file done) before ∧
      Reads modelValidateJson (run floatText file (done ++ [call])) behind ∧
      behind.events = before.events ++ added ∧ Records floatText call added
  whole : ∃ before behind added, Reads modelValidateJson file before ∧
    Reads modelValidateJson (run floatText file calls) behind ∧
    behind.events = before.events ++ added ∧ Recorded floatText calls added

/-- The file is UTF-8, and every call finds it ready. -/
structure Tidy (calls : List Append) (file : Option (List UInt8)) : Prop where
  decodes : (fileText file).isSome
  step : ∀ done call later, calls = done ++ call :: later →
    Safe floatText modelValidateJson limit call
      ((fileText (run floatText file done)).getD [])

variable {floatText modelValidateJson limit}

/-- A file of UTF-8 is read, and nothing else is. -/
theorem reads_iff {file : Option (List UInt8)} {events : List RuntimeEvent} :
    (∃ reading, Reads modelValidateJson file reading ∧ reading.events = events) ↔
      (fileText file).map (textEvents modelValidateJson) = some events := by
  have loop (text : List Char) : ∃ reading : RuntimeEventsRead,
      (text.splitOn '\n').foldl (readRuntimeLine modelValidateJson) {} = reading ∧
        reading.events = textEvents modelValidateJson text ∧
        reading.events.length + reading.malformedLineCount = (inkedLines text).length := by
    obtain ⟨read, count⟩ :=
      foldl_readRuntimeLine modelValidateJson (text.splitOn '\n') {}
    refine ⟨_, rfl, read, count.trans ?_⟩
    exact Nat.zero_add _
  unfold Reads
  cases file with
  | none =>
      obtain ⟨reading, whole, read, count⟩ := loop []
      obtain rfl : ({} : RuntimeEventsRead) = reading := whole
      rw [fileText, Option.map_some, ← read]
      constructor
      · rintro ⟨reading, ⟨⟨⟩, -⟩, rfl⟩
        rfl
      · rintro ⟨⟩
        exact ⟨{}, ⟨rfl, count⟩, rfl⟩
  | some bytes =>
      rw [readRuntimeEvents, fileText]
      cases Text.readText bytes with
      | none =>
          constructor
          · rintro ⟨reading, ⟨⟨⟩, -⟩, -⟩
          · rintro ⟨⟩
      | some text =>
          obtain ⟨reading, whole, read, count⟩ := loop text.toList
          dsimp only [Option.map_some, Option.getD_some]
          rw [whole, ← read]
          constructor
          · rintro ⟨reading, ⟨⟨⟩, -⟩, rfl⟩
            rfl
          · rintro ⟨⟩
            exact ⟨reading, ⟨rfl, count⟩, rfl⟩

theorem run_concat (file : Option (List UInt8)) (done : List Append) (call : Append) :
    run floatText file (done ++ [call]) = call.after floatText (run floatText file done) :=
  List.foldl_concat ..

/-- A run of calls, each of which finds the text ready, records each event in turn. -/
theorem records_run (plain : PlainFloats floatText) {calls : List Append}
    (parses : ∀ call ∈ calls, Parses floatText modelValidateJson limit call.event)
    {text : List Char}
    (safe : ∀ done call later, calls = done ++ call :: later →
      Safe floatText modelValidateJson limit call
        (text ++ done.flatMap (Append.written floatText))) :
    ∃ added, textEvents modelValidateJson (text ++ calls.flatMap (Append.written floatText)) =
      textEvents modelValidateJson text ++ added ∧ Recorded floatText calls added := by
  induction calls generalizing text with
  | nil => exact ⟨[], by simp, [], rfl, .nil⟩
  | cons call calls ih =>
      obtain ⟨here, later⟩ := List.forall_mem_cons.mp parses
      have ready := safe [] call calls rfl
      rw [List.flatMap_nil, List.append_nil] at ready
      obtain ⟨first, step, records⟩ := (records_iff plain here text).mpr ready
      have readyLater (done : List Append) (next : Append) (others : List Append)
          (split : calls = done ++ next :: others) :
          Safe floatText modelValidateJson limit next
            (text ++ call.written floatText ++ done.flatMap (Append.written floatText)) := by
        have ready := safe (call :: done) next others (congrArg (List.cons call) split)
        rwa [List.flatMap_cons, ← List.append_assoc] at ready
      obtain ⟨rest, further, groups, flat, pairs⟩ := ih later readyLater
      refine ⟨first ++ rest, ?_, first :: groups, ?_, .cons records pairs⟩
      · rw [List.flatMap_cons, ← List.append_assoc, further, step, List.append_assoc]
      · rw [List.flatten_cons, flat]

theorem Kept.tidy (plain : PlainFloats floatText) {calls : List Append}
    (parses : ∀ call ∈ calls, Parses floatText modelValidateJson limit call.event)
    {file : Option (List UInt8)} (kept : Kept floatText modelValidateJson calls file) :
    Tidy floatText modelValidateJson limit calls file := by
  constructor
  · obtain ⟨before, -, -, reads, -⟩ := kept.whole
    have text := reads_iff.mp ⟨before, reads, rfl⟩
    cases decoded : fileText file with
    | none =>
        rw [decoded] at text
        cases text
    | some text => rfl
  · intro done call later split
    obtain ⟨before, behind, added, reads, reads', events, records⟩ := kept.step _ _ _ split
    have text := reads_iff.mp ⟨before, reads, rfl⟩
    have text' := reads_iff.mp ⟨behind, reads', rfl⟩
    rw [run_concat, fileText_after plain] at text'
    cases decoded : fileText (run floatText file done) with
    | none =>
        rw [decoded] at text
        cases text
    | some chars =>
        rw [decoded] at text text'
        rw [← Option.some.inj text] at events
        have among : call ∈ calls := by
          rw [split]
          exact List.mem_append_right _ (List.mem_cons_self ..)
        apply (records_iff plain (parses call among) chars).mp
        exact ⟨added, (Option.some.inj text').trans events, records⟩

theorem Tidy.kept (plain : PlainFloats floatText) {calls : List Append}
    (parses : ∀ call ∈ calls, Parses floatText modelValidateJson limit call.event)
    {file : Option (List UInt8)} (tidy : Tidy floatText modelValidateJson limit calls file) :
    Kept floatText modelValidateJson calls file := by
  obtain ⟨text, decoded⟩ := Option.isSome_iff_exists.mp tidy.decodes
  have reached (done : List Append) : fileText (run floatText file done) =
      some (text ++ done.flatMap (Append.written floatText)) := by
    rw [fileText_run plain, decoded]
    rfl
  have reads (done : List Append) : ∃ reading,
      Reads modelValidateJson (run floatText file done) reading ∧
        reading.events =
          textEvents modelValidateJson (text ++ done.flatMap (Append.written floatText)) := by
    apply reads_iff.mpr
    rw [reached]
    rfl
  have safe (done : List Append) (call : Append) (later : List Append)
      (split : calls = done ++ call :: later) :
      Safe floatText modelValidateJson limit call
        (text ++ done.flatMap (Append.written floatText)) := by
    have ready := tidy.step done call later split
    rwa [reached] at ready
  constructor
  · intro done call later split
    have among : call ∈ calls := by
      rw [split]
      exact List.mem_append_right _ (List.mem_cons_self ..)
    obtain ⟨added, step, records⟩ :=
      (records_iff plain (parses call among) _).mpr (safe done call later split)
    obtain ⟨before, first, events⟩ := reads done
    obtain ⟨behind, second, events'⟩ := reads (done ++ [call])
    refine ⟨before, behind, added, first, second, ?_, records⟩
    rw [events, events', ← step, List.flatMap_append, List.flatMap_singleton, List.append_assoc]
  · obtain ⟨added, whole, recorded⟩ := records_run plain parses safe
    obtain ⟨before, first, events⟩ := reads []
    obtain ⟨behind, second, events'⟩ := reads calls
    rw [List.flatMap_nil, List.append_nil] at events
    exact ⟨before, behind, added, first, second, by rw [events, events', whole], recorded⟩

/-- Every appended event is read back in order, and none is hidden, exactly when the file is
UTF-8 and no call joins a line that was left unfinished. -/
theorem kept_iff_tidy (plain : PlainFloats floatText) {calls : List Append}
    (parses : ∀ call ∈ calls, Parses floatText modelValidateJson limit call.event)
    (file : Option (List UInt8)) :
    Kept floatText modelValidateJson calls file ↔
      Tidy floatText modelValidateJson limit calls file :=
  ⟨Kept.tidy plain parses, Tidy.kept plain parses⟩

end Runs

/-! ## A file with an unfinished line -/

/-- A text that is not the end of itself can be read only where it stands alone. -/
theorem stripped_ne {whole : List Char} (ink : ∀ c ∈ whole, isSpace c = false)
    (unbordered : ∀ count < whole.length, 0 < count →
      whole.take count ≠ whole.drop (whole.length - count))
    {front : List Char} {count : Nat} (some : 0 < count)
    (broken : ¬ Blank isSpace front ∨ count < whole.length) :
    stripped (front ++ whole.take count) ≠ whole := by
  intro same
  obtain ⟨lead, trail, split, before, behind⟩ :=
    Trim.exists_padding isSpace (front ++ whole.take count)
  rw [← stripped, same] at split
  have alone : trail = [] := by
    rcases List.eq_nil_or_concat' trail with rfl | ⟨trail, c, rfl⟩
    · rfl
    · have last := congrArg List.getLast? split
      have blank := behind c (List.mem_append_right _ (List.mem_singleton_self c))
      rw [← List.append_assoc, List.getLast?_concat] at last
      cases part : whole.take count with
      | nil =>
          rcases List.take_eq_nil_iff.mp part with zero | nil
          · omega
          · rw [part, List.append_nil] at same
            rw [nil] at same broken
            rcases broken with inked | short
            · exact absurd (Trim.trim_eq_nil_iff.mp same) inked
            · cases short
      | cons d rest =>
          rw [part, List.getLast?_append_of_ne_nil _ (List.cons_ne_nil _ _), ← part] at last
          have among := List.mem_of_mem_take (List.mem_of_getLast? last)
          rw [ink c among] at blank
          cases blank
  rw [alone, List.append_nil] at split
  by_cases short : count < whole.length
  · have suffix : whole.take count <:+ whole := by
      have ends : whole.take count <:+ lead ++ whole := ⟨front, split⟩
      apply List.suffix_of_suffix_length_le ends (List.suffix_append lead whole)
      rw [List.length_take]
      exact Nat.min_le_right ..
    have border := List.suffix_iff_eq_drop.mp suffix
    rw [List.length_take, Nat.min_eq_left (Nat.le_of_lt short)] at border
    exact unbordered count short some border
  · rw [List.take_of_length_le (Nat.le_of_not_lt short)] at split
    rw [List.append_cancel_right split] at broken
    rcases broken with inked | short'
    · exact inked before
    · exact short short'

theorem sampleKind_named : "cli" ≠ "" := by decide

theorem sampleTime_dated : "2026-01-01T00:00:00Z" ≠ "" := by decide

def sampleEvent : RuntimeEvent where
  kind := .heartbeat
  clientId := "c1"
  clientKind := "cli"
  timestamp := "2026-01-01T00:00:00Z"
  kindNamed := sampleKind_named
  dated := sampleTime_dated

def noFloats (_ _ : Int) : List Char := []

/-- The JSON of the sample and nothing else is an event. -/
def onlySample (text : String) : Option RuntimeEvent :=
  if text = String.ofList (record noFloats sampleEvent) then some sampleEvent else none

def sampleLine : List Char :=
  ("\x7b\"client_id\":\"c1\",\"client_kind\":\"cli\",\"details\":\x7b\x7d," ++
    "\"kind\":\"heartbeat\",\"timestamp\":\"2026-01-01T00:00:00Z\"\x7d").toList

theorem record_sample : record noFloats sampleEvent = sampleLine := by
  decide +kernel

theorem plain_noFloats : PlainFloats noFloats := fun _ _ _ among => nomatch among

theorem parses_sample : Parses noFloats onlySample 200 sampleEvent where
  readsBack _ := ⟨sampleEvent, if_pos rfl, rfl⟩
  tooDeep deep := absurd deep (by decide)
  oneValue front count some broken := by
    apply if_neg
    intro same
    rw [record_sample] at same broken
    have unbordered : ∀ count < sampleLine.length, 0 < count →
        sampleLine.take count ≠ sampleLine.drop (sampleLine.length - count) := by
      decide +kernel
    exact stripped_ne (Json.forall_mem_of_all (by decide +kernel)) unbordered some broken (String.ofList_injective same)

theorem succeeds_sample : (⟨sampleEvent, none⟩ : Append).Succeeds noFloats := by
  intro file
  have short : (Text.utf8 (runtimeEventJsonl noFloats sampleEvent)).length ≤
      maxRuntimeEventBytes := by
    decide +kernel
  unfold appendRuntimeEvent runtimeEventPayload
  rw [if_neg (Nat.not_lt.mpr short)]

theorem fileText_ascii {chars : List Char} (ascii : ∀ c ∈ chars, c.toNat < 128)
    (plain : '\r' ∉ chars) :
    fileText (some (chars.map fun c => UInt8.ofNat c.toNat)) = some chars := by
  have text : '\r' ∉ (String.ofList chars).toList := by
    rwa [String.toList_ofList]
  rw [fileText, ← Text.utf8_ascii ascii, Text.readText_utf8 text, Option.map_some,
    String.toList_ofList]

/-- Behind a broken line that has its line feed, an event is kept. -/
theorem kept_iff_tidy_ended :
    Kept noFloats onlySample [⟨sampleEvent, none⟩] (some [0x7b, 10]) := by
  have text : fileText (some [0x7b, 10]) = some ['\x7b', '\n'] :=
    @fileText_ascii ['\x7b', '\n'] (Json.forall_mem_of_all (by decide)) (by decide)
  apply (kept_iff_tidy plain_noFloats (List.forall_mem_singleton.mpr parses_sample) _).mpr
  constructor
  · rw [text]
    rfl
  · intro done call later split
    obtain ⟨rfl, rest⟩ | ⟨done, rfl, rest⟩ := List.cons_eq_append_iff.mp split
    · obtain ⟨rfl, -⟩ := List.cons.inj rest
      change Safe _ _ _ _ ((fileText (some [0x7b, 10])).getD [])
      rw [text]
      refine ⟨fun _ => ?_, fun _ => ?_, fun fails => absurd succeeds_sample fails⟩
      · decide
      · decide
    · cases (List.append_eq_nil_iff.mp rest.symm).2

/-- Behind a lone brace an event is lost; a byte that is no UTF-8 escapes the reader. -/
theorem event_log_violated :
    PlainFloats noFloats ∧ Parses noFloats onlySample 200 sampleEvent ∧
      (appendRuntimeEvent noFloats sampleEvent none (some [0x7b])).1 = .ok () ∧
      ¬ Kept noFloats onlySample [⟨sampleEvent, none⟩] (some [0x7b]) ∧
      readRuntimeEvents onlySample none (some [0xff]) = .error unicodeDecodeError ∧
      ¬ Kept noFloats onlySample [] (some [0xff]) := by
  have text : fileText (some [0x7b]) = some ['\x7b'] :=
    @fileText_ascii ['\x7b'] (List.forall_mem_singleton.mpr (by decide)) (by decide)
  have bytes : Text.readText [0xff] = none := by
    decide +kernel
  have raises : readRuntimeEvents onlySample none (some [0xff]) = .error unicodeDecodeError := by
    rw [readRuntimeEvents, bytes]
  refine ⟨plain_noFloats, parses_sample, succeeds_sample _, fun kept => ?_, raises,
    fun kept => ?_⟩
  · have tidy := kept.tidy plain_noFloats (List.forall_mem_singleton.mpr parses_sample)
    have blank := (tidy.step [] _ [] rfl).fresh succeeds_sample
    change Blank isSpace (unfinished ((fileText (some [0x7b])).getD [])) at blank
    rw [text] at blank
    revert blank
    decide
  · obtain ⟨before, -, -, reads, -⟩ := kept.whole
    rw [Reads, raises] at reads
    cases reads.1

end Tela.EventLog
