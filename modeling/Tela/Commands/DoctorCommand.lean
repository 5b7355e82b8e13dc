import Tela.Commands.OperatorProbe

/-!
# The doctor command

Passive diagnostics, and explicit recovery: a probe, the cleanup of a stale lockfile, one
cold start and a last probe. Each probe and the end of a recovery is a runtime event.
-/

namespace Tela.Operator

open Coop (Coro)
open EventLog (RuntimeEventsRead readRuntimeEvents)
open Startup (Reply)

def defaultProbeTimeout : Int := 5000000

def defaultRecoverTimeout : Int := 5000000

def attachmentHeartbeatStale : Int := 90000000

structure DoctorDiscovery where
  lockfilePresent : Bool
  lockfileStale : Bool
  lockfileData : Option LockfileData
  lockfileStatus : String
  pid : Option Int
  endpoint : Option String
  discoveryError : Option String := none

structure DoctorProbeObservation where
  state : Option String
  degradedReason : Option String
  error : Option String

def nullOr (text : Option String) : Json :=
  match text with
  | some text => .str text
  | none => .null

/-- `text or fallback`. -/
def textOr (text : Option String) (fallback : String) : String :=
  match text with
  | some text => if text = "" then fallback else text
  | none => fallback

/-! ## What doctor reads -/

def presentDiscovery (data : LockfileData) : DoctorDiscovery where
  lockfilePresent := true
  lockfileStale := false
  lockfileData := some data
  lockfileStatus := "present"
  pid := some data.pid
  endpoint := some (endpoint data)

def discoveryOf : Except String LockfileData → DoctorDiscovery
  | .ok data => presentDiscovery data
  | .error error =>
      if Text.startsWith error "LOCKFILE_STALE" then
        { lockfilePresent := true, lockfileStale := true, lockfileData := none
          lockfileStatus := "stale", pid := none, endpoint := none, discoveryError := some error }
      else
        { lockfilePresent := false, lockfileStale := false, lockfileData := none
          lockfileStatus := "missing", pid := none, endpoint := none, discoveryError := some error }

def providerStartupKinds : List RuntimeEventKind :=
  [ .providerStarting, .providerInitialized, .providerToolsListStarted
  , .providerToolsListCompleted, .providerFailed, .providerTimeout ]

/-- One round of the loop over the events. -/
def noteEvent (summary : DoctorRuntimeEventsSummary) (event : RuntimeEvent) :
    DoctorRuntimeEventsSummary :=
  let payload := some event.modelDump
  if event.kind = .clientProviderExit then { summary with lastProviderExit := payload }
  else if providerStartupKinds.contains event.kind then
    { summary with lastProviderStartupEvent := payload }
  else if event.kind = .recoveryProbe then { summary with lastProbeEvent := payload }
  else if event.kind = .recoveryFailed ∨ event.kind = .recoverySucceeded then
    { summary with lastRecoveryEvent := payload }
  else summary

def runtimeEventsSummary : Except String RuntimeEventsRead → DoctorRuntimeEventsSummary
  | .error error => { readError := some error }
  | .ok reading =>
      { reading.events.foldl noteEvent {} with
        malformedLineCount := reading.malformedLineCount }

def liveStates : List RuntimeState := [.active, .initializing, .recovering]

/-- `_attachment_heartbeat_is_fresh`. -/
def attachmentHeartbeatIsFresh (fromIsoFormat : String → Option IsoDatetime)
    (attachment : ClientAttachment) (now : Int) : Except PyException Bool := do
  match ← heartbeatTimestamp fromIsoFormat attachment with
  | none => return false
  | some heartbeat => return 0 ≤ now - heartbeat && now - heartbeat ≤ attachmentHeartbeatStale

/-- The identifiers of the attachments that are alive. -/
def aliveIds (fromIsoFormat : String → Option IsoDatetime) (now : Int) :
    List ClientAttachment → Except PyException (List String)
  | [] => .ok []
  | attachment :: rest =>
      if liveStates.contains attachment.runtimeState then do
        let fresh ← attachmentHeartbeatIsFresh fromIsoFormat attachment now
        let others ← aliveIds fromIsoFormat now rest
        return if fresh then attachment.clientId :: others else others
      else aliveIds fromIsoFormat now rest

section Commands

variable (setting : Setting)

def readDoctorDiscovery : Prog DoctorDiscovery :=
  return discoveryOf (← readLockfileNow setting)

def readDoctorRuntimeEvents : Prog DoctorRuntimeEventsSummary := do
  match readRuntimeEvents setting.validateEvent none (← sys .readRuntimeEvents) with
  | .ok reading => return runtimeEventsSummary reading
  | .error exc => .raise (.raised exc)

def readDoctorAttachmentSummary (runtimeEvents : DoctorRuntimeEventsSummary) :
    Prog DoctorAttachmentSummary := do
  match ← sys .readAttachmentRegistry with
  | .error error => return ⟨false, "registry_parse_error", 0, [], some error⟩
  | .ok registry =>
      let now ← sys .now
      match aliveIds setting.fromIsoFormat now registry.attachments with
      | .error exc => .raise (.raised exc)
      | .ok alive =>
          let reason :=
            if !alive.isEmpty then "client_attachments_alive"
            else if runtimeEvents.lastProviderExit.isSome then "last_provider_exit"
            else "no_live_client_attachments"
          return ⟨!alive.isEmpty, reason, registry.attachments.length, alive, none⟩

/-! ## Recovery -/

/-- What a probe makes of a payload. -/
def observationOf (fields : JsonObject) : DoctorProbeObservation where
  state := some (((fields.get? "state").bind Json.str?).getD "unknown")
  degradedReason := (fields.get? "degraded_reason").bind Json.str?
  error := none

def unknownObservation (error : Option String) : DoctorProbeObservation where
  state := some "unknown"
  degradedReason := none
  error := error

/-- What a probe makes of the answer of the gateway. -/
def doctorReading : HttpReply → Except SystemException DoctorProbeObservation
  | .error error => .ok (unknownObservation (some error))
  | .ok body => do
      match ← loadBody setting.loads body with
      | .error text => return unknownObservation (some s!"PROBE_PARSE_ERROR: {text}")
      | .ok payload => return observationOf (← fieldsOf payload)

/-- `_probe_doctor_runtime`. -/
def probeDoctorRuntime (discovery : DoctorDiscovery) (probeTimeout : Int) :
    Prog DoctorProbeObservation :=
  if !discovery.lockfilePresent then return ⟨some "absent", none, discovery.discoveryError⟩
  else
    match discovery.lockfileData with
    | none => return ⟨some "absent", none, discovery.discoveryError⟩
    | some data =>
        if discovery.lockfileStale then return ⟨some "stale", none, discovery.discoveryError⟩
        else do Coro.ofExcept (doctorReading setting (← sys (.probe data probeTimeout)))

/-- `_append_doctor_event`: the kinds that were appended so far. -/
def appendDoctorEvent (kind : RuntimeEventKind) (details : JsonObject)
    (eventsAppended : List String) : Prog (List String) := do
  let timestamp ← sys .timestamp
  let event : RuntimeEvent :=
    { kind := kind, clientId := "doctor", clientKind := "tela_cli", timestamp := timestamp.val
      details := details, dated := timestamp.property }
  let fault ← sys (.appendRuntimeEvent event)
  match (EventLog.appendRuntimeEvent setting.floatText event fault none).1 with
  | .ok () => return eventsAppended ++ [kind.value]
  | .error _ => return eventsAppended

/-- A probe and its event. -/
def probeAndRecord (discovery : DoctorDiscovery) (probeTimeout : Int)
    (eventsAppended : List String) : Prog (DoctorProbeObservation × List String) := do
  let observation ← probeDoctorRuntime setting discovery probeTimeout
  let eventsAppended ← appendDoctorEvent setting .recoveryProbe
    (.ofList
      [ ("state", nullOr observation.state)
      , ("degraded_reason", nullOr observation.degradedReason)
      , ("error", nullOr observation.error) ])
    eventsAppended
  return (observation, eventsAppended)

/-- The end of a recovery that failed. -/
def failRecovery (staleCleanup : Option Bool) (coldStartAttempted : Bool)
    (actions eventsAppended : List String) (error : String) : Prog DoctorRecoverySummary := do
  let eventsAppended ← appendDoctorEvent setting .recoveryFailed (.ofList [("error", .str error)])
    eventsAppended
  return ⟨true, false, false, staleCleanup, coldStartAttempted, actions, eventsAppended,
    some error⟩

/-- The value of a `Result` that is no error. -/
def succeeded {α : Type} (reply : Reply α) : Option α :=
  if reply.error.isSome then none else reply.value

/-- The part of a recovery from the cold start on. -/
def coldStart (probeTimeout recoverTimeout : Int) (staleCleanup : Option Bool)
    (actions eventsAppended : List String) : Prog DoctorRecoverySummary := do
  let start ← sys (.autostartServe "tela.yaml" none)
  let actions := actions ++ ["cold_start"]
  match succeeded start with
  | none =>
      failRecovery setting staleCleanup true actions eventsAppended
        (textOr start.error "COLD_START_FAILED")
  | some pid =>
      let live ← sys (.waitForLiveLockfile recoverTimeout (some pid))
      match succeeded live with
      | none =>
          failRecovery setting staleCleanup true actions eventsAppended
            (textOr live.error "COLD_START_FAILED")
      | some data =>
          let (finalProbe, eventsAppended) ←
            probeAndRecord setting (presentDiscovery data) probeTimeout eventsAppended
          let actions := actions ++ ["probe_after_cold_start"]
          if finalProbe.state = some "ready" then
            let eventsAppended ← appendDoctorEvent setting .recoverySucceeded
              (.ofList [("state", .str "ready")]) eventsAppended
            return ⟨true, true, false, staleCleanup, true, actions, eventsAppended, none⟩
          else
            let state := textOr finalProbe.state "unknown"
            failRecovery setting staleCleanup true actions eventsAppended
              (textOr finalProbe.error s!"RECOVERY_NOT_READY: {state}")

def alreadyReady (staleCleanup : Option Bool) (actions eventsAppended : List String) :
    DoctorRecoverySummary :=
  ⟨true, false, true, staleCleanup, false, actions, eventsAppended, none⟩

/-- `_recover_doctor_runtime`. -/
def recoverDoctorRuntime (discovery : DoctorDiscovery) (probeTimeout recoverTimeout : Int) :
    Prog DoctorRecoverySummary := do
  let (firstProbe, eventsAppended) ← probeAndRecord setting discovery probeTimeout []
  let actions := ["probe"]
  if firstProbe.state = some "ready" then return alreadyReady none actions eventsAppended
  else if discovery.lockfileStale then
    let cleanup ← sys .deleteLockfileIfStale
    let actions := actions ++ ["stale_cleanup"]
    match cleanup.error with
    | some error =>
        failRecovery setting none false actions eventsAppended
          (textOr (some error) "LOCKFILE_STALE_CLEANUP_ERROR")
    | none =>
        if cleanup.value = some true then
          coldStart setting probeTimeout recoverTimeout (some true) actions eventsAppended
        else
          -- The lockfile was replaced, or is gone: look again before starting anything.
          let refreshed ← readDoctorDiscovery setting
          let (refreshedProbe, eventsAppended) ←
            probeAndRecord setting refreshed probeTimeout eventsAppended
          let actions := actions ++ ["probe_after_stale_cleanup_false"]
          if refreshedProbe.state = some "ready" then
            return alreadyReady (some false) actions eventsAppended
          else coldStart setting probeTimeout recoverTimeout (some false) actions eventsAppended
  else coldStart setting probeTimeout recoverTimeout none actions eventsAppended

/-! ## The command -/

def runtimeStateFromDiscovery (discovery : DoctorDiscovery) : String :=
  if discovery.lockfileStale then "stale"
  else if !discovery.lockfilePresent then "absent"
  else "unknown"

def doctorRecommendation (runtimeState : String) (recover : Bool)
    (recovery : DoctorRecoverySummary) (attachments : DoctorAttachmentSummary) : String :=
  if !recover then
    "Doctor is passive; run tela doctor --recover to probe and attempt recovery."
  else if recovery.alreadyReady then
    "Runtime is already ready; no recovery mutation was needed."
  else if recovery.recoverySucceeded then
    "Recovery succeeded; reconnect clients if their transports were closed."
  else if attachments.clientAttachmentsAlive then
    "Client attachments are still alive; do not revive closed client transports."
  else if runtimeState = "stale" then
    "Stale cleanup did not restore readiness; inspect runtime-events."
  else if runtimeState = "absent" then
    "Cold-start recovery did not produce a ready runtime; inspect serve logs."
  else "Recovery did not establish readiness; inspect runtime-events and status output."

def noRecovery : DoctorRecoverySummary :=
  ⟨false, false, false, none, false, [], [], none⟩

def doctorResult (recover : Bool) (discovery : DoctorDiscovery)
    (runtimeEvents : DoctorRuntimeEventsSummary) (attachments : DoctorAttachmentSummary)
    (recovery : DoctorRecoverySummary) : DoctorResult :=
  let runtimeState := runtimeStateFromDiscovery discovery
  { recoverPerformed := recover
    probePerformed := recover
    sharedRuntime := ⟨runtimeState, discovery.pid, discovery.endpoint, discovery.lockfileStatus,
      nullOr recovery.error⟩
    recommendation := doctorRecommendation runtimeState recover recovery attachments
    runtimeEvents := runtimeEvents
    clientAttachments := attachments
    recovery := recovery }

/-- `_run_doctor_command`; none of its steps returns an error. -/
def runDoctorCommand (jsonOutput recover : Bool) (probeTimeout recoverTimeout : Int) :
    Prog Unit := do
  let discovery ← readDoctorDiscovery setting
  let runtimeEvents ← readDoctorRuntimeEvents setting
  let attachments ← readDoctorAttachmentSummary setting runtimeEvents
  if recover then
    let recovery ← recoverDoctorRuntime setting discovery probeTimeout recoverTimeout
    let refreshed ← readDoctorDiscovery setting
    sys (.printDoctor jsonOutput (doctorResult true refreshed runtimeEvents attachments recovery))
  else
    sys (.printDoctor jsonOutput
      (doctorResult false discovery runtimeEvents attachments noRecovery))

/-- `doctor_command`. -/
def doctorCommand (jsonOutput recover : Bool) (probeTimeout recoverTimeout : Option Int) :
    Prog (Except String Int) := do
  if probeTimeout.isSome && !recover then
    return .error "INVALID_ARGUMENT: --probe-timeout requires --recover"
  else
    runDoctorCommand setting jsonOutput recover (probeTimeout.getD defaultProbeTimeout)
      (recoverTimeout.getD defaultRecoverTimeout)
    return .ok 0

end Commands

end Tela.Operator
