import Tela.Core.Models

/-!
# Gateway runtime state

The connections, captured sessions and bridge registrations of a gateway, with
the locked accessors over them. Every accessor is one synchronous block.
-/

namespace Tela

open Text (startsWith)

/-- The identity of an upstream MCP session object. -/
abbrev UpstreamSession := Nat

/-- Resolved startup contract, as far as a request consults it. -/
structure GatewayStartupConfig where
  authMode : AuthMode := .token

structure GatewayRuntime where
  config : Option TelaConfig := none
  startupConfig : Option GatewayStartupConfig := none
  running : Bool := false
  connections : List ConnectionContext := []
  expectedBearerToken : Option String := none
  secrets : List String := []
  pendingBridgeRegistrations : List String := []
  sessionRegistry : Dict String UpstreamSession := ∅

namespace GatewayRuntime

/-! ## Connections -/

def addRuntimeConnection (r : GatewayRuntime) (ctx : ConnectionContext) : GatewayRuntime :=
  { r with connections := r.connections ++ [ctx] }

/-- Remove every connection with the identifier; the flag tells whether there was one. -/
def removeRuntimeConnection (r : GatewayRuntime) (connectionId : String) : Bool × GatewayRuntime :=
  let kept := r.connections.filter (·.connectionId ≠ connectionId)
  (kept.length != r.connections.length, { r with connections := kept })

/-- Record activity on the first connection with the identifier. -/
def touchFirst (connectionId : String) (timestamp : Int) :
    List ConnectionContext → List ConnectionContext
  | [] => []
  | conn :: rest =>
      if conn.connectionId = connectionId then { conn with lastActivity := some timestamp } :: rest
      else conn :: touchFirst connectionId timestamp rest

def touchConnectionActivity (r : GatewayRuntime) (connectionId : String) (timestamp : Int) :
    GatewayRuntime :=
  { r with connections := touchFirst connectionId timestamp r.connections }

/-! ## Bridge registrations -/

def registerBridgeConnection (r : GatewayRuntime) (connectionId : String) :
    Except String Unit × GatewayRuntime :=
  if connectionId = "" then
    (.error "BRIDGE_REGISTRATION_FAILED: connection_id must not be empty", r)
  else
    (.ok (), { r with
      pendingBridgeRegistrations := r.pendingBridgeRegistrations.insert connectionId })

def hasBridgeRegistration (r : GatewayRuntime) (connectionId : String) : Except String Bool :=
  if connectionId = "" then
    .error "BRIDGE_REGISTRATION_LOOKUP_FAILED: connection_id must not be empty"
  else .ok (r.pendingBridgeRegistrations.contains connectionId)

def removeBridgeRegistration (r : GatewayRuntime) (connectionId : String) :
    Except String Bool × GatewayRuntime :=
  if connectionId = "" then
    (.error "BRIDGE_REGISTRATION_REMOVE_FAILED: connection_id must not be empty", r)
  else
    (.ok (r.pendingBridgeRegistrations.contains connectionId),
      { r with
        pendingBridgeRegistrations :=
          r.pendingBridgeRegistrations.filter (· ≠ connectionId) })

/-! ## Session registry -/

/-- Register a session for a connection; the first binding stands. -/
def captureSession (r : GatewayRuntime) (connectionId : String) (session : UpstreamSession) :
    Except String Unit × GatewayRuntime :=
  if connectionId = "" then
    (.error "SESSION_CAPTURE_FAILED: connection_id must not be empty", r)
  else
    match r.sessionRegistry.get? connectionId with
    | some existing =>
        if existing = session then (.ok (), r)
        else
          (.error
            s!"SESSION_ALREADY_BOUND: connection '{connectionId}' already has a session", r)
    | none =>
        (.ok (), { r with sessionRegistry := r.sessionRegistry.set connectionId session })

def releaseSession (r : GatewayRuntime) (connectionId : String) : GatewayRuntime :=
  { r with sessionRegistry := r.sessionRegistry.erase connectionId }

def getCapturedSession (r : GatewayRuntime) (connectionId : String) : Option UpstreamSession :=
  r.sessionRegistry.get? connectionId

/-- The first connection identifier that the session is bound to. -/
def getConnectionIdForSession (r : GatewayRuntime) (session : UpstreamSession) : Option String :=
  (r.sessionRegistry.entries.find? fun entry => entry.2 = session).map Prod.fst

/-! ## Connection teardown -/

/-- Result of one cleanup. -/
structure ConnectionCleanupOutcome where
  removedRuntimeConnection : Bool
  removedBridgeRegistration : Bool

/-- Cleanup of everything that belongs to one connection identifier. -/
def cleanupConnectionById (r : GatewayRuntime) (connectionId : String) :
    Except String ConnectionCleanupOutcome × GatewayRuntime :=
  let removed := r.removeRuntimeConnection connectionId
  match removed.2.removeBridgeRegistration connectionId with
  | (.error error, r) => (.error error, r)
  | (.ok registered, r) => (.ok ⟨removed.1, registered⟩, r.releaseSession connectionId)

/-! ## Connections of sessions -/

/-- The connection that the session registry binds to the session. -/
def findConnectionForSession (r : GatewayRuntime) (session : UpstreamSession) :
    Option ConnectionContext :=
  (r.getConnectionIdForSession session).bind fun connectionId =>
    r.connections.find? fun conn => conn.connectionId = connectionId

/-- The first bridge connection without a captured session. -/
def unboundBridge (r : GatewayRuntime) : Option ConnectionContext :=
  r.connections.find? fun candidate =>
    startsWith candidate.connectionId "bridge_" &&
      (r.getCapturedSession candidate.connectionId).isNone

/-- Resolve the session's connection, or adopt an unbound bridge connection for it. -/
def ensureConnection (r : GatewayRuntime) (session : UpstreamSession) (now : Int) :
    Except String ConnectionContext × GatewayRuntime :=
  match r.findConnectionForSession session with
  | some conn => (.ok conn, r.touchConnectionActivity conn.connectionId now)
  | none =>
      match r.unboundBridge with
      | some candidate =>
          (.ok candidate,
            (r.captureSession candidate.connectionId session).2.touchConnectionActivity
              candidate.connectionId now)
      | none =>
          (.error ("RECONNECT_REQUIRED: no live session or connection available; " ++
            "client must re-establish the MCP connection"), r)

/-- Resolve the session's connection; a builtin tool adopts none. -/
def ensureBoundConnection (r : GatewayRuntime) (session : UpstreamSession) (now : Int) :
    Except String ConnectionContext × GatewayRuntime :=
  match r.findConnectionForSession session with
  | some conn => (.ok conn, r.touchConnectionActivity conn.connectionId now)
  | none =>
      (.error ("RECONNECT_REQUIRED: no admitted connection bound to the " ++
        "current session for builtin tool call"), r)

end GatewayRuntime

end Tela
