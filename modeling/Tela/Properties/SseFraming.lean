import Tela.Commands.BridgeHttp

/-!
# Framing of event streams

A message comes back from an event stream exactly if the line splitter and the
stripping of the parser leave its text alone.
-/

namespace Tela.Bridge

open Text (Unbroken Trimmed utf8)

variable {platform : BridgePlatform}

/-! ## The writer -/

inductive LineEnd
  | lf
  | crlf

def LineEnd.text : LineEnd → List Char
  | .lf => ['\n']
  | .crlf => ['\r', '\n']

def eventLine : List Char := "event: message".toList

def dataLine (message : String) : List Char := ("data: " ++ message).toList

/-- One event: an event line, a data line and a blank line. -/
def sseEvent (lineEnd : LineEnd) (message : String) : List Char :=
  eventLine ++ lineEnd.text ++ dataLine message ++ lineEnd.text ++ lineEnd.text

def sseStream (lineEnd : LineEnd) (messages : List String) : String :=
  String.ofList (messages.flatMap (sseEvent lineEnd))

/-- The text is one line for a reader that knows only the line ends of the stream. -/
def SingleLine (message : String) : Prop := '\n' ∉ message.toList ∧ '\r' ∉ message.toList

/-- The parser leaves the message alone. -/
structure Survives (message : String) : Prop where
  unbroken : Unbroken message.toList
  trimmed : Trimmed message.toList
  nonempty : message ≠ ""
  continues : message ≠ "[DONE]"

/-! ## Reading an event back -/

theorem linesFrom_lineEnd (lineEnd : LineEnd) {line : List Char} (unbroken : Unbroken line)
    (rest : List Char) :
    Text.linesFrom (line ++ lineEnd.text ++ rest) [] =
      String.ofList line :: Text.linesFrom rest [] := by
  rw [List.append_assoc]
  cases lineEnd with
  | lf => exact Text.linesFrom_unbroken unbroken rest []
  | crlf => exact Text.linesFrom_unbroken_crlf unbroken rest []

theorem unbroken_eventLine : Unbroken eventLine := by
  decide

theorem unbroken_dataLine {message : String} (unbroken : Unbroken message.toList) :
    Unbroken (dataLine message) := by
  have label : Unbroken "data: ".toList := by
    decide
  intro c among
  rw [dataLine, String.toList_append] at among
  exact (List.mem_append.mp among).elim (label c) (unbroken c)

theorem linesFrom_sseEvent (lineEnd : LineEnd) {message : String}
    (unbroken : Unbroken message.toList) (rest : List Char) :
    Text.linesFrom (sseEvent lineEnd message ++ rest) [] =
      "event: message" :: ("data: " ++ message) :: "" :: Text.linesFrom rest [] := by
  have blank : Text.linesFrom ([] ++ lineEnd.text ++ rest) [] =
      String.ofList [] :: Text.linesFrom rest [] :=
    linesFrom_lineEnd lineEnd (List.forall_mem_nil _) rest
  have data := linesFrom_lineEnd lineEnd (unbroken_dataLine unbroken)
    ([] ++ lineEnd.text ++ rest)
  have event := linesFrom_lineEnd lineEnd unbroken_eventLine
    (dataLine message ++ lineEnd.text ++ ([] ++ lineEnd.text ++ rest))
  have shape : sseEvent lineEnd message ++ rest = eventLine ++ lineEnd.text ++
      (dataLine message ++ lineEnd.text ++ ([] ++ lineEnd.text ++ rest)) := by
    simp only [sseEvent, List.append_assoc, List.nil_append]
  have eventText : String.ofList eventLine = "event: message" := String.ofList_toList
  have dataText : String.ofList (dataLine message) = "data: " ++ message := String.ofList_toList
  have blankText : String.ofList [] = "" := rfl
  rw [shape, event, data, blank, eventText, dataText, blankText]

/-- A surviving data line gives its message. -/
theorem parseSseLines_event {message : String} (survives : Survives message) (rest : List String) :
    parseSseLines ("event: message" :: ("data: " ++ message) :: "" :: rest) [] =
      utf8 message :: parseSseLines rest [] := by
  have nonempty : message.toList ≠ [] := by
    intro empty
    exact survives.nonempty (String.toList_eq_nil_iff.mp empty)
  have trimmed : Trimmed ("data: " ++ message).toList := by
    rw [String.toList_append]
    constructor
    · intro c first
      cases first
      rfl
    · intro c last
      rw [List.getLast?_append_of_ne_nil _ nonempty] at last
      exact survives.trimmed.right c last
  have starts : Text.startsWith ("data: " ++ message) "data:" = true := by
    rw [Text.startsWith_iff, String.toList_append]
    exact ⟨' ' :: message.toList, rfl⟩
  have label : "data: " ++ message ≠ "" := by
    intro empty
    rw [empty] at starts
    cases starts
  have content : Text.stripLeft (Text.dropFirst 5 ("data: " ++ message)) = message := by
    unfold Text.stripLeft Text.dropFirst
    rw [String.toList_ofList, String.toList_append]
    change String.ofList ((' ' :: message.toList).dropWhile Text.isSpace) = message
    rw [List.dropWhile_cons_of_pos (by decide), Text.dropWhile_of_head? survives.trimmed.left,
      String.ofList_toList]
  have skip : Text.strip "event: message" = "event: message" := by decide +kernel
  have other : Text.startsWith "event: message" "data:" = false := by decide +kernel
  have blank : Text.strip "" = "" := by decide
  have cleared : parseSseLines ("" :: rest) [message] = utf8 message :: parseSseLines rest [] := by
    rw [parseSseLines, if_pos blank, eventPayload, if_neg (by simp)]
    dsimp only [Text.join]
    rw [if_neg (by simp [survives.nonempty, survives.continues])]
    rfl
  have gathered : parseSseLines (("data: " ++ message) :: "" :: rest) [] =
      parseSseLines ("" :: rest) [message] := by
    rw [parseSseLines, Text.strip_of_trimmed trimmed, if_neg label, if_pos starts, content]
    rfl
  rw [parseSseLines, skip, if_neg (by decide), other, if_neg nofun, gathered, cleared]

/-- Messages that survive come back in order. -/
theorem parseSseLines_stream (lineEnd : LineEnd) {messages : List String}
    (survive : ∀ message ∈ messages, Survives message) :
    parseSseLines (Text.linesFrom (messages.flatMap (sseEvent lineEnd)) []) [] =
      messages.map utf8 := by
  induction messages with
  | nil => rfl
  | cons message rest ih =>
      obtain ⟨here, later⟩ := List.forall_mem_cons.mp survive
      rw [List.flatMap_cons, linesFrom_sseEvent lineEnd here.unbroken, parseSseLines_event here,
        ih later]
      rfl

/-! ## What the parser can return -/

/-- The datum of a line holds no line break and no white space at its ends. -/
structure Clean (text : String) : Prop where
  unbroken : Unbroken text.toList
  trimmed : Trimmed text.toList

theorem clean_datum {line : String} (unbroken : Unbroken line.toList) :
    Clean (Text.stripLeft (Text.dropFirst 5 (Text.strip line))) := by
  have part : (Text.strip line).toList.drop 5 <:+ (Text.strip line).toList := List.drop_suffix 5 _
  have datum : (Text.stripLeft (Text.dropFirst 5 (Text.strip line))).toList =
      ((Text.strip line).toList.drop 5).dropWhile Text.isSpace := by
    unfold Text.stripLeft Text.dropFirst
    rw [String.toList_ofList, String.toList_ofList]
  constructor
  · intro c among
    rw [datum] at among
    refine unbroken c (Text.mem_of_mem_strip ?_)
    exact part.subset ((List.dropWhile_suffix Text.isSpace).subset among)
  · rw [datum]
    exact (Text.trimmed_strip line).dropWhile part

/-- A payload is one clean text, or it has several lines. -/
theorem payload_of_mem_eventPayload {data : List String} (clean : ∀ datum ∈ data, Clean datum)
    {payload : Bytes} (listed : payload ∈ eventPayload data) :
    ∃ text, payload = utf8 text ∧ text ≠ "" ∧ text ≠ "[DONE]" ∧
      (Clean text ∨ '\n' ∈ text.toList) := by
  unfold eventPayload at listed
  split at listed
  · cases listed
  · rename_i gathered
    dsimp only at listed
    split at listed
    · cases listed
    · rename_i kept
      have content : Text.join "\n" data ≠ "" ∧ Text.join "\n" data ≠ "[DONE]" := by
        simpa [not_or] using kept
      refine ⟨Text.join "\n" data, List.mem_singleton.mp listed, content.1, content.2, ?_⟩
      cases data with
      | nil => exact absurd rfl gathered
      | cons datum rest =>
          cases rest with
          | nil => exact .inl (clean datum List.mem_cons_self)
          | cons next rest =>
              right
              simp [Text.join]

theorem payload_of_mem_parseSseLines {lines data : List String}
    (unbroken : ∀ line ∈ lines, Unbroken line.toList) (clean : ∀ datum ∈ data, Clean datum)
    {payload : Bytes} (listed : payload ∈ parseSseLines lines data) :
    ∃ text, payload = utf8 text ∧ text ≠ "" ∧ text ≠ "[DONE]" ∧
      (Clean text ∨ '\n' ∈ text.toList) := by
  induction lines generalizing data with
  | nil => exact payload_of_mem_eventPayload clean listed
  | cons line rest ih =>
      obtain ⟨here, later⟩ := List.forall_mem_cons.mp unbroken
      rw [parseSseLines] at listed
      split at listed
      · rcases List.mem_append.mp listed with now | after
        · exact payload_of_mem_eventPayload clean now
        · exact ih later (List.forall_mem_nil _) after
      · split at listed
        · refine ih later (fun datum among => ?_) listed
          rcases List.mem_append.mp among with before | last
          · exact clean datum before
          · rw [List.mem_singleton.mp last]
            exact clean_datum here
        · exact ih later clean listed

/-- A message that comes back was left alone. -/
theorem survives_of_returned {text : List Char} {returned : List String}
    (same : parseSseLines (Text.linesFrom text []) [] = returned.map utf8)
    (single : ∀ message ∈ returned, SingleLine message) :
    ∀ message ∈ returned, Survives message := by
  intro message among
  have listed : utf8 message ∈ parseSseLines (Text.linesFrom text []) [] := by
    rw [same]
    exact List.mem_map_of_mem among
  obtain ⟨content, payload, nonempty, continues, shape⟩ := payload_of_mem_parseSseLines
    (fun line begun => Text.unbroken_of_mem_linesFrom (List.forall_mem_nil _) begun)
    (List.forall_mem_nil _) listed
  obtain rfl := Text.utf8_injective payload
  rcases shape with clean | broken
  · exact ⟨clean.unbroken, clean.trimmed, nonempty, continues⟩
  · exact absurd broken (single message among).1

theorem extractResponseMessages_sseStream {contentType : String} (lineEnd : LineEnd)
    (messages : List String) (decodes : ∀ text, platform.decodeReplace (utf8 text) = text)
    (stream : Text.contains (Text.lower contentType) "text/event-stream" = true) :
    extractResponseMessages platform contentType (utf8 (sseStream lineEnd messages)) =
      parseSseLines (Text.linesFrom (messages.flatMap (sseEvent lineEnd)) []) [] := by
  unfold extractResponseMessages
  by_cases empty : utf8 (sseStream lineEnd messages) = []
  · have nothing : sseStream lineEnd messages = "" :=
      Text.utf8_injective (empty.trans Text.utf8_empty.symm)
    have silent : messages.flatMap (sseEvent lineEnd) = [] := by
      have text := congrArg String.toList nothing
      rw [sseStream, String.toList_ofList] at text
      exact text
    rw [if_pos empty, silent]
    rfl
  · rw [if_neg empty, if_pos stream, parseSsePayloads, decodes, Text.splitLines, sseStream,
      String.toList_ofList]

/-- Every message of a stream comes back exactly if the parser leaves each of them alone. -/
theorem sse_framing (platform : BridgePlatform) (contentType : String) (lineEnd : LineEnd)
    (messages : List String)
    (decodes : ∀ text, platform.decodeReplace (utf8 text) = text)
    (stream : Text.contains (Text.lower contentType) "text/event-stream" = true)
    (single : ∀ message ∈ messages, SingleLine message) :
    extractResponseMessages platform contentType (utf8 (sseStream lineEnd messages)) =
        messages.map utf8 ↔
      ∀ message ∈ messages, Survives message := by
  rw [extractResponseMessages_sseStream lineEnd messages decodes stream]
  constructor
  · intro same
    exact survives_of_returned same single
  · exact parseSseLines_stream lineEnd

/-! ## A message that is split -/

/-- A platform whose decoder is exact on valid UTF-8. -/
def utf8Platform : BridgePlatform where
  loads _ := .malformed
  loadsUtf8 _ := .malformed
  dumps _ := []
  decodeReplace bytes := (Text.decodeUtf8 bytes).getD ""
  isHttpUrl _ := true
  loads_of_utf8 _ _ loaded := nomatch loaded
  loads_enriched _ _ _ _ loaded := nomatch loaded

theorem decodes_utf8Platform (text : String) : utf8Platform.decodeReplace (utf8 text) = text := by
  change (Text.decodeUtf8 (utf8 text)).getD "" = text
  rw [Text.decodeUtf8_utf8]
  rfl

/-- A response with an unescaped line separator in a string. -/
def separatedMessage : String :=
  "\x7b\"jsonrpc\":\"2.0\",\"id\":1,\"result\":\"a\u2028b\"\x7d"

def plainMessage : String := "\x7b\"jsonrpc\":\"2.0\",\"id\":1,\"result\":null\x7d"

/-- The message does not come back. -/
theorem sse_framing_violated :
    SingleLine separatedMessage ∧
      extractResponseMessages utf8Platform "text/event-stream"
        (utf8 (sseStream .lf [separatedMessage])) ≠ [separatedMessage].map utf8 := by
  have single : SingleLine separatedMessage := by
    unfold SingleLine
    decide
  refine ⟨single, fun same => ?_⟩
  rw [extractResponseMessages_sseStream .lf _ decodes_utf8Platform (by decide)] at same
  have survives := survives_of_returned same (List.forall_mem_singleton.mpr single)
    separatedMessage List.mem_cons_self
  exact absurd (survives.unbroken (Char.ofNat 0x2028) (by decide)) (by decide)

/-- A notification that a server sends before its response. -/
def progressMessage : String :=
  "\x7b\"jsonrpc\":\"2.0\",\"method\":\"notifications/progress\"\x7d"

/-- The notification and the response come back in their order. -/
theorem sse_framing_in_order :
    extractResponseMessages utf8Platform "text/event-stream"
        (utf8 (sseStream .crlf [progressMessage, plainMessage])) =
      [utf8 progressMessage, utf8 plainMessage] := by
  have single : ∀ message ∈ [progressMessage, plainMessage], SingleLine message := by
    unfold SingleLine
    decide
  have stripped : ∀ message ∈ [progressMessage, plainMessage], Text.strip message = message := by
    decide +kernel
  refine (sse_framing utf8Platform "text/event-stream" .crlf [progressMessage, plainMessage]
    decodes_utf8Platform (by decide) single).mpr ?_
  intro message among
  have kept := Text.strip_eq_iff.mp (stripped message among)
  rcases List.mem_pair.mp among with rfl | rfl
  · exact ⟨by decide, kept, by decide, by decide⟩
  · exact ⟨by decide, kept, by decide, by decide⟩

end Tela.Bridge
