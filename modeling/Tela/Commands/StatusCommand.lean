import Tela.Commands.OperatorProbe

/-!
# The status command

What the lockfile, the attachment registry and, on request, a probe tell about the shared
runtime. Nothing is started, cleaned up or written.
-/

namespace Tela.Operator

open Coop (Coro)

def statusProbeTimeout : Int := 5000000

structure StatusDiscovery where
  lockfilePresent : Bool
  lockfileStale : Bool
  lockfileData : Option LockfileData
  lockfileStatus : String
  pid : Option Int
  endpoint : Option String

/-- The state and the reason may be any JSON value. -/
structure ProbeObservation where
  probedState : Json
  degradedReason : Json
  probeError : Option String

section Commands

variable (setting : Setting)

/-- `_read_status_discovery`; the reading of the lockfile has ruled out a signal that overflows. -/
def readStatusDiscovery : Prog StatusDiscovery := do
  match ← readLockfileNow setting with
  | .error _ => return ⟨false, false, none, "missing", none, none⟩
  | .ok data =>
      let stale := !(← sys (.signal data.pid))
      return ⟨true, stale, some data, if stale then "stale" else "present", some data.pid,
        some (endpoint data)⟩

/-- `_read_status_attachments`. -/
def readStatusAttachments : Prog (Except String (List AttachmentRow)) := do
  match ← sys .readAttachmentRegistry with
  | .error error => return .error error
  | .ok registry =>
      return .ok (registry.attachments.map fun attachment =>
        ⟨attachment, classifyAttachmentDisplayState attachment.runtimeState
          attachment.recoverability attachment.staleCandidate attachment.unknownState⟩)

/-- What a probe makes of the answer of the gateway. -/
def statusReading : HttpReply → Except SystemException ProbeObservation
  | .error error => .ok ⟨.str "stale", .null, some error⟩
  | .ok body => do
      match ← loadBody setting.loads body with
      | .error _ => return ⟨.str "unknown", .null, none⟩
      | .ok payload =>
          let fields ← fieldsOf payload
          return ⟨(fields.get? "state").getD (.str "unknown"),
            (fields.get? "degraded_reason").getD .null, none⟩

/-- `_probe_status_runtime`. -/
def probeStatusRuntime (discovery : StatusDiscovery) (probe : Bool) (probeTimeout : Int) :
    Prog ProbeObservation :=
  if !probe then return ⟨.null, .null, none⟩
  else if !discovery.lockfilePresent then return ⟨.str "absent", .null, none⟩
  else
    match discovery.lockfileData with
    | none => return ⟨.str "absent", .null, none⟩
    | some data =>
        if discovery.lockfileStale then return ⟨.str "stale", .null, none⟩
        else do Coro.ofExcept (statusReading setting (← sys (.probe data probeTimeout)))

/-- What `_fetch_status_payload` and `_parse_remote_state` make of the answer; every error of
theirs, and every value that is no object, stands for no payload. -/
def remoteReading : HttpReply → Except SystemException (Option JsonObject)
  | .error _ => .ok none
  | .ok (.error _) => .ok none
  | .ok (.ok bytes) =>
      match loadBody setting.loads (.ok bytes) with
      | .ok (.ok (.obj fields)) => .ok (setting.remotePayload (.ofList fields))
      | .ok _ => .ok none
      | .error exc => .error exc

/-- `_read_remote_status_payload` around `query_remote_state`. -/
def readRemoteStatusPayload (discovery : StatusDiscovery) : Prog (Option JsonObject) := do
  if !discovery.lockfilePresent || discovery.lockfileStale then return none
  else
    match ← readLockfileNow setting with
    | .error _ =>
        -- The orphaned processes only go into the text of an error that is dropped.
        let _ ← sys .findOrphanedServeProcesses
        return none
    | .ok data => Coro.ofExcept (remoteReading setting (← sys (.query data)))

def isReady (state : Json) : Bool := state.str? = some "ready"

def statusResult (probe clients : Bool) (discovery : StatusDiscovery)
    (attachments : Except String (List AttachmentRow)) (observation : ProbeObservation)
    (runtimeState : SharedRuntimeState) : ADR008StatusResult :=
  let registryError := match attachments with
    | .error error => some error
    | .ok _ => none
  let lastError := observation.probeError.or (registryError.filter (· ≠ ""))
  let recoverability := classifyStatusRecoverability runtimeState true
  { probePerformed := probe
    clientAttachments := if clients then attachments.toOption.getD [] else []
    registryParseError := registryError
    sharedRuntime := ⟨runtimeState.value, discovery.pid, discovery.endpoint,
      discovery.lockfileStatus, observation.degradedReason⟩
    recoverability :=
      { state := recoverability
        lastEvent :=
          if probe && isReady observation.probedState then some "runtime_probe_succeeded"
          else if probe && (observation.probeError.filter (· ≠ "")).isSome then
            some "runtime_probe_failed"
          else none
        lastError := lastError
        recommendation := makeStatusRecommendation runtimeState recoverability } }

/-- `_run_status_command`. -/
def runStatusCommand (jsonOutput probe clients : Bool) (probeTimeout : Int) :
    Prog (Except String Unit) := do
  let discovery ← readStatusDiscovery setting
  if !jsonOutput && !probe && !discovery.lockfilePresent then
    return .error ("NO_RUNNING_SERVER: no running tela server found via " ++
      "~/.tela/gateway.lock (lockfile unavailable)")
  else
    let attachments ← readStatusAttachments
    let observation ← probeStatusRuntime setting discovery probe probeTimeout
    match classifySharedRuntimeState discovery.lockfilePresent discovery.lockfileStale
        observation.probedState false with
    | .error exc => .raise (.raised exc)
    | .ok runtimeState =>
        let remotePayload ← readRemoteStatusPayload setting discovery
        sys (.printStatus jsonOutput
          (statusResult probe clients discovery attachments observation runtimeState)
          remotePayload)
        return .ok ()

/-- `status_command`. -/
def statusCommand (jsonOutput probe clients : Bool) (probeTimeout : Option Int) :
    Prog (Except String Int) := do
  if probe && clients then
    return .error "MUTUALLY_EXCLUSIVE: --probe and --clients cannot be used together"
  else if probeTimeout.isSome && !probe then
    return .error "INVALID_ARGUMENT: --probe-timeout requires --probe"
  else
    match ← runStatusCommand setting jsonOutput probe clients
        (probeTimeout.getD statusProbeTimeout) with
    | .error error => return .error error
    | .ok () => return .ok 0

end Commands

end Tela.Operator
