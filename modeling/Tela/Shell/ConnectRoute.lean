import Tela.Shell.LifecycleRoutes

/-!
# Startup and the connect route

`POST /connect` checks its payload under the authentication mode that the gateway
was prepared with. The preparation copies the secrets out of the configuration.
-/

namespace Tela

/-! ## Preparing and reloading -/

/-- The runtime part of `gateway_prepare_startup`; `created` is the upstream server's outcome. -/
def GatewayRuntime.gatewayPrepareStartup (r : GatewayRuntime) (config : GatewayStartupConfig)
    (telaConfig : Option TelaConfig) (expectedBearerToken : Option String)
    (created : Except String Unit) : Except String Unit × GatewayRuntime :=
  let effectiveConfig := telaConfig.getD {}
  match created with
  | .error error => (.error error, r)
  | .ok () =>
      (.ok (), { r with
        config := some effectiveConfig
        startupConfig := some config
        running := true
        expectedBearerToken := expectedBearerToken
        secrets := effectiveConfig.auth.secrets })

/-- A call that writes the configuration of the gateway. -/
inductive ConfigCall
  | gatewayPrepareStartup (config : GatewayStartupConfig) (telaConfig : Option TelaConfig)
      (expectedBearerToken : Option String) (created : Except String Unit)
  /-- A successful `on_config_changed`. -/
  | onConfigChanged (newConfig : TelaConfig)

/-- The runtime after the call. -/
def GatewayRuntime.afterCall (r : GatewayRuntime) : ConfigCall → GatewayRuntime
  | .gatewayPrepareStartup config telaConfig expectedBearerToken created =>
      (r.gatewayPrepareStartup config telaConfig expectedBearerToken created).2
  | .onConfigChanged newConfig => { r with config := some newConfig }

/-! ## The connect route -/

def canonicalConnectKeys : List String := ["server_name"]

def tokenModeForbiddenConnectKeys : List String :=
  ["profile_id", "profile_name", "tools_profile", "default_profile"]

/-- Validate the raw payload against the canonical conformance rules. -/
def validateConnectRequestPayload (payload : Json) (authMode : AuthMode) :
    Except String ConnectRequest :=
  match payload with
  | .obj fields =>
      let payload : JsonObject := .ofList fields
      let bindingKeys := Text.sorted (payload.keys.filter tokenModeForbiddenConnectKeys.contains)
      if authMode = .token && !bindingKeys.isEmpty then
        .error ("fabricated_profile_binding_forbidden: token-mode /connect must " ++
          "not carry profile binding fields: " ++ Text.join "," bindingKeys)
      else
        match payload.get? "server_name" with
        | none => .error "missing_required_field: field=server_name"
        | some (.str serverName) =>
            let extraKeys := Text.sorted (payload.keys.filter fun key =>
              !canonicalConnectKeys.contains key)
            if !extraKeys.isEmpty then
              .error ("extra_key: rejected_keys=" ++ Text.join "," extraKeys)
            else .ok ⟨serverName⟩
        | some _ => .error "wrong_type: field=server_name"
  | _ => .error "wrong_type: field=server_name"

namespace GatewayRuntime

variable (registry : DownstreamRegistry) (startup : StartupTracking) (r : GatewayRuntime)

/-- What the route does once it knows the authentication mode. -/
def connectUnder (authMode : AuthMode) (requestToken expectedToken : String) (payload : Json) :
    Except PyException (Except String ConnectReply) × GatewayRuntime :=
  match validateConnectRequestPayload payload authMode with
  | .error error => (.ok (.error error), r)
  | .ok request =>
      LifecycleRoutes.handleConnect registry startup r requestToken expectedToken request

/-- Canonical validation and dispatch of `POST /connect`. -/
def connectHandler (requestToken expectedToken : String) (payload : Json) :
    Except PyException (Except String ConnectReply) × GatewayRuntime :=
  match r.startupConfig with
  | none => (.ok (.error "GATEWAY_NOT_STARTED: startup auth mode is unavailable"), r)
  | some startupConfig =>
      connectUnder registry startup r startupConfig.authMode requestToken expectedToken payload

end GatewayRuntime

end Tela
