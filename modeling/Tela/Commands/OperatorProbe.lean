import Tela.Core.StatusClassification
import Tela.Shell.RuntimeEvents
import Tela.Shell.StartupCoordinator

/-!
# Operator probes

What the operator commands call, the reading of the lockfile, and the payload that
`GET /status` serves to a probe.
-/

namespace Tela.Operator

open Coop (Coro)
open EventLog (RuntimeEventsRead WriteFault readRuntimeEvents)
open Startup (Reply)

/-! ## The lockfile -/

/-- What is in the lockfile, and whether the process that it names is gone. -/
inductive LockfileReading
  | missing
  | failed (text : String)
  | content (bytes : List UInt8) (stale : Bool)

def staleError (pid : Int) : String :=
  s!"LOCKFILE_STALE: no live process found for pid {pid}; " ++
    "lockfile should be considered stale"

/-- `read_lockfile`; `modelValidateJson` is that of `LockfileData`. -/
def readLockfile (modelValidateJson : String → Except String LockfileData) :
    LockfileReading → Except SystemException (Except String LockfileData)
  | .missing => .ok (.error "LOCKFILE_READ_ERROR: lockfile does not exist")
  | .failed text => .ok (.error s!"LOCKFILE_READ_ERROR: {text}")
  | .content bytes stale =>
      match Text.readText bytes with
      | none => .error (.raised unicodeDecodeError)
      | some raw =>
          match modelValidateJson raw with
          | .error text => .ok (.error s!"LOCKFILE_PARSE_ERROR: {text}")
          | .ok data => .ok (if stale then .error (staleError data.pid) else .ok data)

/-! ## Payloads -/

/-- How `json.loads` fails. -/
inductive LoadFailure
  | decodeError (text : String)
  /-- An error that is no `JSONDecodeError`, as for a text that nests too deep. -/
  | raised (exc : PyException)

/-- A refused or failed request, or what comes of reading the body of the response. -/
abbrev HttpReply := Except String (Except SystemException (List UInt8))

/-- The name of the Python type of a value. -/
def typeName : Json → String
  | .null => "NoneType"
  | .bool _ => "bool"
  | .num _ exponent => if exponent = 0 then "int" else "float"
  | .str _ => "str"
  | .arr _ => "list"
  | .obj _ => "dict"

/-- The mapping whose `get` is called; nothing else has one. -/
def fieldsOf : Json → Except SystemException JsonObject
  | .obj fields => .ok (.ofList fields)
  | value => .error (.raised ⟨.other, "AttributeError",
      s!"'{typeName value}' object has no attribute 'get'"⟩)

/-- `json.loads(response.read().decode("utf-8"))` with the errors that a probe expects. -/
def loadBody (loads : String → Except LoadFailure Json)
    (body : Except SystemException (List UInt8)) : Except SystemException (Except String Json) :=
  match body with
  | .error (.osError text) => .ok (.error text)
  | .error exc => .error exc
  | .ok bytes =>
      match Text.decodeUtf8 bytes with
      | none => .ok (.error unicodeDecodeError.text)
      | some text =>
          match loads text with
          | .ok json => .ok (.ok json)
          | .error (.decodeError text) => .ok (.error text)
          | .error (.raised exc) => .error (.raised exc)

/-- `GET /status` of the gateway that wrote the lockfile. -/
def endpoint (data : LockfileData) : String := s!"http://{data.host}:{data.port}"

/-! ## Reports -/

structure DoctorRuntimeEventsSummary where
  lastProviderExit : Option Json := none
  lastProviderStartupEvent : Option Json := none
  lastProbeEvent : Option Json := none
  lastRecoveryEvent : Option Json := none
  malformedLineCount : Nat := 0
  readError : Option String := none

structure DoctorAttachmentSummary where
  clientAttachmentsAlive : Bool
  livenessReason : String
  count : Nat
  aliveClientIds : List String := []
  registryParseError : Option String := none

structure DoctorRecoverySummary where
  attempted : Bool
  recoverySucceeded : Bool
  alreadyReady : Bool
  staleCleanup : Option Bool
  coldStartAttempted : Bool
  actions : List String
  eventsAppended : List String
  error : Option String

structure SharedRuntime where
  state : String
  pid : Option Int
  endpoint : Option String
  lockfile : String
  degradedReason : Json

structure DoctorResult where
  recoverPerformed : Bool
  probePerformed : Bool
  sharedRuntime : SharedRuntime
  recommendation : String
  runtimeEvents : DoctorRuntimeEventsSummary
  clientAttachments : DoctorAttachmentSummary
  recovery : DoctorRecoverySummary

structure RecoverabilityBlock where
  state : StatusRecoverability
  lastEvent : Option String
  lastError : Option String
  recommendation : String

/-- One attachment with the display state that was derived for it. -/
structure AttachmentRow where
  attachment : ClientAttachment
  displayState : AttachmentDisplayState

structure ADR008StatusResult where
  probePerformed : Bool
  clientAttachments : List AttachmentRow
  registryParseError : Option String
  sharedRuntime : SharedRuntime
  recoverability : RecoverabilityBlock

/-! ## Calls -/

/-- Everything outside the two commands that they call. -/
inductive Call
  | readLockfile
  /-- The bytes of the event log, if it is there. -/
  | readRuntimeEvents
  /-- `read_attachment_registry`. -/
  | readAttachmentRegistry
  | now
  | timestamp
  /-- `GET /status` with the token of the lockfile. -/
  | probe (data : LockfileData) (timeout : Int)
  /-- The same request in `query_remote_state`. -/
  | query (data : LockfileData)
  | deleteLockfileIfStale
  | autostartServe (configPath : String) (defaultProfile : Option String)
  | waitForLiveLockfile (timeout : Int) (expectedPid : Option Int)
  | appendRuntimeEvent (event : RuntimeEvent)
  /-- `os.kill(pid, 0)`: whether it succeeds. -/
  | signal (pid : Int)
  | findOrphanedServeProcesses
  /-- Laying out a report raises nothing; writing it to standard output may. -/
  | printDoctor (jsonOutput : Bool) (result : DoctorResult)
  | printStatus (jsonOutput : Bool) (result : ADR008StatusResult)
      (remotePayload : Option JsonObject)

abbrev Call.Result : Call → Type
  | readLockfile => LockfileReading
  | readRuntimeEvents => Option (List UInt8)
  | readAttachmentRegistry => Except String AttachmentRegistry
  | now => Int
  | timestamp => {text : String // text ≠ ""}
  | probe _ _ => HttpReply
  | query _ => HttpReply
  | deleteLockfileIfStale => Reply Bool
  | autostartServe _ _ => Reply Int
  | waitForLiveLockfile _ _ => Reply LockfileData
  | appendRuntimeEvent _ => Option WriteFault
  | signal _ => Bool
  | findOrphanedServeProcesses => List Int
  | _ => Unit

abbrev sig : Coop.Sig where
  Act := Empty
  Val := nofun
  Wait := Call
  Res := Call.Result

abbrev Prog (α : Type) := Coro sig SystemException α

def sys (call : Call) : Prog call.Result := Coro.await (S := sig) call

/-- The third-party code and the number texts that the commands rely on. -/
structure Setting where
  floatText : Int → Int → List Char
  loads : String → Except LoadFailure Json
  /-- `LockfileData.model_validate_json`. -/
  validateLockfile : String → Except String LockfileData
  /-- `RuntimeEvent.model_validate_json`. -/
  validateEvent : String → Option RuntimeEvent
  /-- `datetime.fromisoformat`. -/
  fromIsoFormat : String → Option IsoDatetime
  /-- `_parse_remote_state` and the dump of what it returns; nothing for an error. -/
  remotePayload : JsonObject → Option JsonObject

def readLockfileNow (setting : Setting) : Prog (Except String LockfileData) := do
  Coro.ofExcept (readLockfile setting.validateLockfile (← sys .readLockfile))

end Tela.Operator
