import Tela.Core.Models
import Tela.Library.JsonKeys
import Tela.Library.JsonText
import Tela.Library.Text
import Tela.Library.Trim

/-!
# The runtime event log

Diagnostic events are appended to a file, each as one line of JSON. A reader takes the
lines one by one and counts those it cannot use.
-/

namespace Tela

inductive RuntimeEventKind
  | clientAttachmentStarted
  | heartbeat
  | recoveryProbe
  | hostTransportClosed
  | clientProviderExit
  | recoveryFailed
  | recoverySucceeded
  | providerStarting
  | providerInitialized
  | providerToolsListStarted
  | providerToolsListCompleted
  | providerFailed
  | providerTimeout
  deriving DecidableEq

def RuntimeEventKind.value : RuntimeEventKind → String
  | clientAttachmentStarted => "client_attachment_started"
  | heartbeat => "heartbeat"
  | recoveryProbe => "recovery_probe"
  | hostTransportClosed => "host_transport_closed"
  | clientProviderExit => "client_provider_exit"
  | recoveryFailed => "recovery_failed"
  | recoverySucceeded => "recovery_succeeded"
  | providerStarting => "provider_starting"
  | providerInitialized => "provider_initialized"
  | providerToolsListStarted => "provider_tools_list_started"
  | providerToolsListCompleted => "provider_tools_list_completed"
  | providerFailed => "provider_failed"
  | providerTimeout => "provider_timeout"

structure RuntimeEvent where
  kind : RuntimeEventKind
  clientId : String
  clientKind : String
  timestamp : String
  details : JsonObject := Dict.empty
  identified : clientId ≠ "" := by decide
  kindNamed : clientKind ≠ "" := by decide
  dated : timestamp ≠ "" := by decide

/-- `model_dump(mode="json")`. -/
def RuntimeEvent.modelDump (event : RuntimeEvent) : Json :=
  .obj
    [ ("kind", .str event.kind.value)
    , ("client_id", .str event.clientId)
    , ("client_kind", .str event.clientKind)
    , ("timestamp", .str event.timestamp)
    , ("details", .obj event.details.entries) ]

/-- Equal as models: the order of keys in the details does not count. -/
def RuntimeEvent.Same (first second : RuntimeEvent) : Prop :=
  first.modelDump.SameUpToOrder second.modelDump

namespace EventLog

def maxRuntimeEventBytes : Nat := 16 * 1024

/-! ## Appending -/

section Append

-- How a number that is not an integer is written.
variable (floatText : Int → Int → List Char)

/-- The line of an event without its line feed. -/
def record (event : RuntimeEvent) : List Char :=
  Json.compactText floatText event.modelDump.sortKeys

/-- `_runtime_event_jsonl`. -/
def runtimeEventJsonl (event : RuntimeEvent) : String :=
  String.ofList (record floatText event ++ ['\n'])

/-- `_runtime_event_payload`. -/
def runtimeEventPayload (event : RuntimeEvent) : Except String String :=
  let payload := runtimeEventJsonl floatText event
  if maxRuntimeEventBytes < (Text.utf8 payload).length then
    .error "RUNTIME_EVENT_TOO_LARGE: event exceeds 16 KiB"
  else .ok payload

/-- An `OSError` in the course of one append. -/
inductive WriteFault
  /-- In a call up to `open`; the file is as it was. -/
  | opening (text : String)
  /-- In a later call; `written` bytes of the line are in the file by then. -/
  | writing (written : Nat) (text : String)

/-- `append_runtime_event`: its result and the file behind it. -/
def appendRuntimeEvent (event : RuntimeEvent) (fault : Option WriteFault)
    (file : Option (List UInt8)) : Except String Unit × Option (List UInt8) :=
  match runtimeEventPayload floatText event with
  | .error text => (.error text, file)
  | .ok payload =>
      match fault with
      | none => (.ok (), some (file.getD [] ++ Text.utf8 payload))
      | some (.opening text) => (.error s!"RUNTIME_EVENT_WRITE_ERROR: {text}", file)
      | some (.writing written text) =>
          ( .error s!"RUNTIME_EVENT_WRITE_ERROR: {text}"
          , some (file.getD [] ++ (Text.utf8 payload).take written) )

end Append

/-! ## Reading -/

structure RuntimeEventsRead where
  events : List RuntimeEvent := []
  malformedLineCount : Nat := 0

section Read

-- `RuntimeEvent.model_validate_json`; no event stands for a `ValueError`.
variable (modelValidateJson : String → Option RuntimeEvent)

def stripped (line : List Char) : List Char := Trim.trim Text.isSpace line

/-- One round of the loop over the lines. -/
def readRuntimeLine (reading : RuntimeEventsRead) (line : List Char) : RuntimeEventsRead :=
  if (stripped line).isEmpty then reading
  else
    match modelValidateJson (String.ofList (stripped line)) with
    | some event => { reading with events := reading.events ++ [event] }
    | none => { reading with malformedLineCount := reading.malformedLineCount + 1 }

/-- `read_runtime_events`; `fault` is an `OSError` of its file system calls. -/
def readRuntimeEvents (fault : Option String) (file : Option (List UInt8)) :
    Except PyException (Except String RuntimeEventsRead) :=
  match fault with
  | some text => .ok (.error s!"RUNTIME_EVENTS_READ_ERROR: {text}")
  | none =>
      match file with
      | none => .ok (.ok {})
      | some bytes =>
          match Text.readText bytes with
          | none => .error unicodeDecodeError
          | some text =>
              .ok (.ok ((text.toList.splitOn '\n').foldl (readRuntimeLine modelValidateJson) {}))

end Read

end EventLog

end Tela
