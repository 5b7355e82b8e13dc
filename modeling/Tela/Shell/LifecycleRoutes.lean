import Tela.Shell.GatewayRuntime
import Tela.Shell.HttpAuth

/-!
# The lifecycle handlers

`POST /connect` and `POST /disconnect` as their contracts see them. A result that is in
none of the families that the postcondition lists is not returned but raised.
-/

namespace Tela

structure ConnectRequest where
  serverName : String

/-- What a client is told about its connection. -/
structure ConnectReply where
  connectionId : String
  status : String

namespace LifecycleRoutes

open Text (startsWith)

structure DisconnectRequest where
  connectionId : String

/-! ## Error families -/

def isAuthError (error : String) : Bool := startsWith error "AUTH_INVALID_TOKEN"

def isGatewayNotStartedError (error : String) : Bool := startsWith error "GATEWAY_NOT_STARTED"

def isConnectionNotFoundError (error : String) : Bool := startsWith error "CONNECTION_NOT_FOUND"

def connectPost : Except String ConnectReply → Bool
  | .ok reply => reply.status = "connected"
  | .error error => isAuthError error || isGatewayNotStartedError error

def disconnectPost : Except String ConnectReply → Bool
  | .ok reply => reply.status = "disconnected"
  | .error error =>
      isAuthError error || isGatewayNotStartedError error || isConnectionNotFoundError error

/-- `@post` around a handler that has run. -/
def ensured {α : Type} (name : String) (post : Except String α → Bool)
    (outcome : Except PyException (Except String α) × GatewayRuntime) :
    Except PyException (Except String α) × GatewayRuntime :=
  match outcome with
  | (.error exc, r) => (.error exc, r)
  | (.ok result, r) => ((postcondition name (post result)).map fun _ => result, r)

/-! ## Handlers -/

section Handlers

variable (registry : DownstreamRegistry) (startup : StartupTracking) (r : GatewayRuntime)
  (requestToken expectedToken : String)

/-- The body of `handle_connect`. -/
def connectBody (payload : ConnectRequest) :
    Except PyException (Except String ConnectReply) × GatewayRuntime :=
  match validateBearerToken requestToken expectedToken with
  | .error exc => (.error exc, r)
  | .ok (.error error) => (.ok (.error error), r)
  | .ok (.ok ()) =>
      if r.config.isNone || !r.running then
        (.ok (.error "GATEWAY_NOT_STARTED: gateway has not been started"), r)
      else
        match getLifecycleStatusFacts r.config registry startup with
        | .error error => (.ok (.error error), r)
        | .ok _ =>
            match r.registerBridgeConnection payload.serverName with
            | (.error error, r) => (.ok (.error error), r)
            | (.ok (), r) => (.ok (.ok ⟨payload.serverName, "connected"⟩), r)

def handleConnect (payload : ConnectRequest) :
    Except PyException (Except String ConnectReply) × GatewayRuntime :=
  ensured "handle_connect" connectPost
    (connectBody registry startup r requestToken expectedToken payload)

/-- The body of `handle_disconnect` behind the bearer check. -/
def admittedDisconnect (payload : DisconnectRequest) :
    Except PyException (Except String ConnectReply) × GatewayRuntime :=
  if r.config.isNone || !r.running then
    (.ok (.error "GATEWAY_NOT_STARTED: gateway has not been started"), r)
  else
    match r.cleanupConnectionById payload.connectionId with
    | (.error error, r) => (.ok (.error error), r)
    | (.ok outcome, r) =>
        if outcome.removedRuntimeConnection || outcome.removedBridgeRegistration then
          (.ok (.ok ⟨payload.connectionId, "disconnected"⟩), r)
        else
          (.ok (.error
            s!"CONNECTION_NOT_FOUND: connection '{payload.connectionId}' not found"), r)

/-- The body of `handle_disconnect`. -/
def disconnectBody (payload : DisconnectRequest) :
    Except PyException (Except String ConnectReply) × GatewayRuntime :=
  match validateBearerToken requestToken expectedToken with
  | .error exc => (.error exc, r)
  | .ok (.error error) => (.ok (.error error), r)
  | .ok (.ok ()) => admittedDisconnect r payload

def handleDisconnect (payload : DisconnectRequest) :
    Except PyException (Except String ConnectReply) × GatewayRuntime :=
  ensured "handle_disconnect" disconnectPost
    (disconnectBody r requestToken expectedToken payload)

end Handlers

end LifecycleRoutes

end Tela
