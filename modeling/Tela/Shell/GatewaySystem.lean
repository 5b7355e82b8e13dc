import Tela.Shell.GatewayWorld

/-!
# The gateway system

The initialize handler and its session hook, the tools requests up to their
enforcement, the lifecycle routes, the reaper and the broadcast, as tasks over the
runtime state.
-/

namespace Tela

namespace Gateway

open Coop

/-- Run one block. -/
def act (a : Act) : Prog a.Val := .act (S := sig) a .ret

/-- Wait, and raise the exception when the wait ends with one. -/
def pause (w : Wait) : Prog w.Res := Coro.await (S := sig) w

/-! ## Idle manager -/

/-- Count one connection more, and wait for the end of a timer that this cancels. -/
def increment : Prog Unit := do
  pause .idleLock
  let cancelled : Option TimerId ← act .increment
  match cancelled with
  | some timer => do
      pause (.timer timer)
      act .clearTimer
  | none => pure ()
  act .releaseIdleLock

/-- Count one connection less. -/
def decrement (retired : Option String) : Prog (Except String Unit) := do
  pause .idleLock
  let counted : Bool ← act (.decrement retired)
  act .releaseIdleLock
  if counted then return .ok ()
  else
    return .error
      "CONNECTION_COUNT_UNDERFLOW: disconnect called without matching connect"

/-! ## Initialize -/

/-- Take the old connection of a registered bridge out before it is initialized again. -/
def retireBridge (bridgeConnectionId : String) : Prog (Except String Unit) := do
  let registered : Except String Bool ← act (.hasBridgeRegistration bridgeConnectionId)
  match registered with
  | .error error => return .error error
  | .ok false =>
      return .error ("CONNECTION_NOT_FOUND: bridge initialize requires pre-registered " ++
        s!"connection '{bridgeConnectionId}'")
  | .ok true =>
      let removed : Bool × Bool ← act (.removeRuntimeConnection bridgeConnectionId)
      let uncounted ← if removed.2 then decrement (some bridgeConnectionId) else pure (.ok ())
      match uncounted with
      | .error error => return .error error
      | .ok () =>
          act (.releaseSession bridgeConnectionId)
          return .ok ()

/-- Admit a connection under its credential. -/
def admitConnection (platform : Platform) (config : TelaConfig) (clientInfo : JsonObject)
    (connectionId : String) : Prog (Except String ConnectionContext) := do
  let now : Int ← act .utcNow
  let secrets : List String ← act .getRuntimeSecrets
  match admitCredentials platform config secrets clientInfo now with
  | .error exc => .raise exc
  | .ok (.error error) => return .error error
  | .ok (.ok admission) =>
      let ctx := admittedContext platform config clientInfo connectionId now admission
      let counted : Bool ← act (.addRuntimeConnection ctx)
      if counted then increment
      return .ok ctx

/-- Handle an MCP initialize request. -/
def handleInitialize (platform : Platform) (clientInfo : JsonObject) :
    Prog (Except String ConnectionContext) := do
  let config : Option TelaConfig ← act .getRuntimeConfig
  match config with
  | none => return .error "GATEWAY_NOT_STARTED: gateway has not been started"
  | some config =>
      match requestedBridge platform clientInfo with
      | some bridgeConnectionId =>
          match ← retireBridge bridgeConnectionId with
          | .error error => return .error error
          | .ok () => admitConnection platform config clientInfo bridgeConnectionId
      | none =>
          let connectionId : String ← act .newConnectionId
          admitConnection platform config clientInfo connectionId

/-- Tear a connection down after its admission, without counting. -/
def abandonConnection (connectionId : String) : Prog Unit := act (.cleanupConnection connectionId)

/-- `_patched_received_request` for an initialize request. -/
def receivedInitialize (platform : Platform) (session : UpstreamSession)
    (clientInfo : JsonObject) : Prog Unit := do
  match ← handleInitialize platform clientInfo with
  | .error _ => pause .respond
  | .ok ctx =>
      let captured : Except String Unit ←
        act (.captureSession ctx.connectionId session .initialized)
      match captured with
      | .error _ =>
          abandonConnection ctx.connectionId
          pause .respond
      | .ok () =>
          match ← (pause .receivedRequest).attempt with
          | .ok () => return ()
          | .error exc =>
              if exc.isException then abandonConnection ctx.connectionId
              .raise exc

/-! ## Tools requests up to their enforcement -/

def waitForConvergence : Prog Unit := do
  let present : Bool ← act .convergeEvent
  if present then pause .converged

/-- `_list_tools`. -/
def listTools (session : UpstreamSession) : Prog Unit := do
  let connection : Except String ConnectionContext ← act (.ensureConnection session)
  match connection with
  | .error error => .raise ⟨.runtimeError, "RuntimeError", error⟩
  | .ok connection =>
      waitForConvergence
      let _ : Except String Unit ←
        act (.captureSession connection.connectionId session .recaptured)
      act (.enforced session connection.profileId)

/-- `_call_tool`; a builtin tool neither adopts a connection nor waits. -/
def callTool (session : UpstreamSession) (builtin : Bool) : Prog Unit := do
  let connection : Except String ConnectionContext ←
    if builtin then act (.ensureBoundConnection session) else act (.ensureConnection session)
  match connection with
  | .error error => .raise ⟨.runtimeError, "RuntimeError", error⟩
  | .ok connection =>
      let _ : Except String Unit ←
        act (.captureSession connection.connectionId session .recaptured)
      if !builtin then waitForConvergence
      act (.enforced session connection.profileId)

/-! ## Routes, reaper and broadcast -/

/-- `POST /disconnect` behind the bearer check. -/
def disconnectRoute (connectionId : String) : Prog Unit := do
  let handled : Except PyException (Except String ConnectReply × Bool) ←
    act (.disconnect connectionId)
  match handled with
  | .error exc => .raise exc
  | .ok (_, uncount) =>
      if uncount then
        let _ ← decrement none
        return ()

/-- One round of a sweep. -/
def sweepRound (now : Int) (conn : ConnectionContext) : Prog Unit := do
  let uncount : Bool ← act (.sweepConnection conn now)
  if uncount then
    let _ ← decrement none
    return ()

/-- One sweep over the connections there are at its start. -/
def sweep : Prog Unit := do
  let connections : List ConnectionContext ← act .connections
  let now : Int ← act .utcNow
  connections.forM (sweepRound now)

/-- `notify_tools_changed`; a failed send releases the session. -/
def notifyToolsChanged (connection : ConnectionContext) : Prog Unit := do
  let session : Option UpstreamSession ← act (.getCapturedSession connection.connectionId)
  match session with
  | none => return ()
  | some session =>
      match ← (pause (.sendToolListChanged session)).attempt with
      | .ok () => return ()
      | .error exc =>
          if exc.isException then act (.releaseSession connection.connectionId)
          else .raise exc

def notifyAllConnections : Prog Unit := do
  let connections : List ConnectionContext ← act .connections
  connections.forM notifyToolsChanged

/-! ## The world -/

def program (platform : Platform) (_ : TaskId) : Req → Prog Unit
  | .clock _ => return ()
  | .initializeRequest session clientInfo => receivedInitialize platform session clientInfo
  | .listTools session => listTools session
  | .callTool session builtin => callTool session builtin
  | .connect connectionId => act (.registerBridgeConnection connectionId)
  | .disconnect connectionId => disconnectRoute connectionId
  | .sweep => sweep
  | .notifyAllConnections => notifyAllConnections
  | .installIdleManager shutdownDisabled => act (.installIdleManager shutdownDisabled)
  | .converged => act .converged
  | .reload config => act (.setRuntimeConfig (some config))
  | .timerExpired _ => return ()

/-- The session side of one gateway process. -/
def world (platform : Platform) : World sig PyException where
  State := State
  Req := Req
  exec := State.exec
  enter := State.enter
  wake := State.wake
  lapse _ _ _ _ := none
  accept := State.accept
  program := program platform

/-- The state of a gateway that is prepared and serves its first request. -/
def State.launch (config : TelaConfig) (uuids : Nat → String) : State where
  runtime :=
    { config := some config, startupConfig := some ⟨config.auth.mode⟩, running := true,
      secrets := config.auth.secrets }
  uuids := uuids
  convergeEvent := some false
  reaperConfig := config.reaper

end Gateway

end Tela
