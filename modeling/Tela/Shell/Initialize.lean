import Tela.Core.Token
import Tela.Shell.GatewayRuntime

/-!
# Initialize admission

What an initialize request is checked for: reserved keys of its client
information, the shape of a capability token, and the credential that selects the
profile of the new connection.
-/

namespace Tela

open Text (startsWith)

/-- What the gateway takes from the platform: HMAC-SHA256, and `str` of a JSON value. -/
structure Platform where
  hmac : Hmac
  str : Json → String
  str_text : ∀ text, str (.str text) = text

def bridgeConnectionIdKey : String := "tela_bridge_connection_id"

def capabilityTokenKey : String := "capability_token"

def canonicalTokenFields : List String :=
  ["token_id", "profile_id", "persona_ref", "instance_id", "max_depth", "issued_at",
    "expires_at", "token_version", "signature"]

def tokenAliasFields : List String := ["profile_name", "tools_profile"]

/-! ## Capability token extraction -/

/-- Project a validation failure onto the canonical conformance codes. -/
def canonicalValidationError (error : FieldError) : String :=
  if error.type = "missing" then "missing_required_field"
  else if error.type = "string_type" || error.type = "int_type" then "wrong_type"
  else if error.type = "extra_forbidden" then "extra_key"
  else "token_schema_invalid"

def rejectInitialize (code detail : String) (field : Option String) : String :=
  match field with
  | none => s!"INITIALIZE_REJECTED: {code}: {detail}"
  | some field => s!"INITIALIZE_REJECTED: {code}: field={field}: {detail}"

/-- The first reserved top-level key that must be rejected. -/
def invalidReservedClientInfoKey (clientInfo : JsonObject) : Option String :=
  clientInfo.keys.find? fun key =>
    canonicalTokenFields.contains key || tokenAliasFields.contains key ||
      (key != bridgeConnectionIdKey && key != capabilityTokenKey &&
        (startsWith key "tela_" || startsWith key "opifex_"))

/-- The keys of a token payload are canonical; the rest is left to the token model. -/
def validateTokenPayload (payload : JsonObject) : Except String CapabilityToken :=
  let aliasFields := Text.sorted (payload.keys.filter fun key => tokenAliasFields.contains key)
  let extraFields := Text.sorted (payload.keys.filter fun key =>
    !canonicalTokenFields.contains key && !tokenAliasFields.contains key)
  if !aliasFields.isEmpty then
    let joined := Text.join ", " aliasFields
    .error (rejectInitialize "alias_field_present"
      s!"capability_token field(s) {joined} are invalid; use 'profile_id'" (some joined))
  else if !extraFields.isEmpty then
    .error (rejectInitialize "extra_key" ("rejected_keys=" ++ Text.join "," extraFields) none)
  else
    match CapabilityToken.ofPayload payload with
    | .ok token => .ok token
    | .error error =>
        .error (rejectInitialize (canonicalValidationError error) error.message
          (some error.field))

/-- Extract the nested capability token from the client information. -/
def extractCapabilityToken (clientInfo : JsonObject) : Except String CapabilityToken :=
  match invalidReservedClientInfoKey clientInfo with
  | some key =>
      if tokenAliasFields.contains key then
        .error (rejectInitialize "alias_field_present"
          (s!"top-level client_info key '{key}' is invalid; " ++
            "use client_info.capability_token.profile_id") (some key))
      else
        .error (rejectInitialize "extra_key"
          (s!"top-level client_info key '{key}' is reserved; use client_info.capability_token")
          (some key))
  | none =>
      match clientInfo.get? capabilityTokenKey with
      | some (.obj fields) => validateTokenPayload (.ofList fields)
      | _ =>
          .error ("INITIALIZE_REJECTED: token mode requires client_info." ++
            "capability_token object")

/-- The accepted client information, flattened to text. -/
def buildClientInfoSnapshot (platform : Platform) (clientInfo : JsonObject)
    (token : Option CapabilityToken) : Dict String String :=
  let hints := clientInfo.entries.filter fun entry => entry.1 != capabilityTokenKey
  let snapshot := Dict.ofList (hints.map fun entry => (entry.1, platform.str entry.2))
  match token with
  | none => snapshot
  | some token =>
      snapshot.setAll ((token.modelDump.filter fun entry => !entry.2.isNull).map fun entry =>
        (entry.1, platform.str entry.2))

/-! ## Credentials -/

inductive DefaultProfileResolutionStatus
  | resolved
  | missing
  | ambiguous
  deriving DecidableEq, Repr

/-- Resolve an open-mode initialize to the default profile. -/
def resolveInitializeProfileBinding (resolvedDefaultProfile : Option String)
    (status : DefaultProfileResolutionStatus) : Except String (Option String) :=
  match status, resolvedDefaultProfile with
  | .missing, _ =>
      .error ("INITIALIZE_REJECTED: no default profile resolved; open mode requires an explicit " ++
        "default profile from config or CLI --default-profile")
  | .ambiguous, _ =>
      .error ("INITIALIZE_REJECTED: ambiguous default profile; " ++
        "multiple profiles marked default=true in open mode")
  | .resolved, none =>
      .error "INITIALIZE_REJECTED: status is RESOLVED but resolved_default_profile is None"
  | .resolved, some profile => .ok (some profile)

def openModeStatus (config : TelaConfig) : DefaultProfileResolutionStatus :=
  if config.resolvedDefaultProfile.isSome then .resolved
  else if (config.profiles.values.filter ProfileConfig.default).length > 1 then .ambiguous
  else .missing

/-- The profile that a credential admits to, with the token that was presented. -/
abbrev Admission := String × Option CapabilityToken

def admitOpen (config : TelaConfig) : Except PyException (Except String Admission) :=
  match resolveInitializeProfileBinding config.resolvedDefaultProfile (openModeStatus config) with
  | .error error => .ok (.error error)
  | .ok none => .error (.assertionError "")
  | .ok (some profileId) => .ok (.ok (profileId, none))

def admitToken (platform : Platform) (config : TelaConfig) (secrets : List String)
    (clientInfo : JsonObject) (now : Int) : Except PyException (Except String Admission) :=
  match extractCapabilityToken clientInfo with
  | .error error => .ok (.error error)
  | .ok token =>
      if secrets.isEmpty then
        .ok (.error "INITIALIZE_REJECTED: token mode requires secrets configured")
      else
        match resolveTokenInitBinding platform.hmac token secrets now with
        | .error exc => .error exc
        | .ok binding =>
            if binding.tokenResult.verdict = .deny then
              let message := binding.tokenResult.errorMessage.getD "Token validation failed"
              let code := binding.tokenResult.errorCode.getD "TOKEN_INVALID"
              .ok (.error s!"INITIALIZE_REJECTED: {code}: {message}")
            else if config.profiles.contains binding.profileId then
              .ok (.ok (binding.profileId, some token))
            else
              .ok (.error ("INITIALIZE_REJECTED: unknown_profile_binding: " ++
                s!"profile_id '{binding.profileId}' is not configured"))

/-- The credential part of `handle_initialize`. -/
def admitCredentials (platform : Platform) (config : TelaConfig) (secrets : List String)
    (clientInfo : JsonObject) (now : Int) : Except PyException (Except String Admission) :=
  match config.auth.mode with
  | .open => admitOpen config
  | .token => admitToken platform config secrets clientInfo now

/-- The bridge connection that the client asks to initialize. -/
def requestedBridge (platform : Platform) (clientInfo : JsonObject) : Option String :=
  match clientInfo.get? bridgeConnectionIdKey with
  | none => none
  | some .null => none
  | some value => some (platform.str value)

/-- The context of an admitted connection. -/
def admittedContext (platform : Platform) (config : TelaConfig) (clientInfo : JsonObject)
    (connectionId : String) (now : Int) (admission : Admission) : ConnectionContext where
  connectionId := connectionId
  profileId := admission.1
  connectedAt := now
  initMode := some config.auth.mode
  clientInfoSnapshot := some (buildClientInfoSnapshot platform clientInfo
    (if config.auth.mode = .token then admission.2 else none))
  bridgeConnectionId := requestedBridge platform clientInfo

end Tela
