import Tela.Core.Models
import Tela.Library.IsoTime
import Tela.Library.JsonText

/-!
# Capability tokens

The fields of a token and their validation, the payload that is signed, and the
check of a token against the configured secrets and the time. HMAC-SHA256 is an
opaque function of key and payload.
-/

namespace Tela

/-- HMAC-SHA256 in hex, over the JSON text of a payload with sorted keys. -/
structure Hmac where
  digest : (secret : String) → (payload : List (String × Json)) → String
  hex : ∀ secret payload, (digest secret payload).toList.all (·.toNat < 128) = true

/-- An error that the model validation reports for a field. -/
structure FieldError where
  field : String
  type : String
  message : String
  deriving DecidableEq, Repr

/--
`_validate_capability_token_datetime`, with the contract of its field validator. A text
that is read as a date-time has the form of one.
-/
def validateCapabilityTokenDatetime (field value : String) : Except FieldError Unit :=
  if value = "" then
    .error ⟨field, "assertion_error",
      "Assertion failed, Precondition failed for _validate_canonical_datetime"⟩
  else if (IsoTime.instant? value).isSome then .ok ()
  else if IsoTime.shaped value then
    .error ⟨field, "value_error", "Value error, must be a valid date-time"⟩
  else
    .error ⟨field, "value_error", "Value error, " ++
      "must be a canonical date-time with timezone (RFC3339/JSON-schema date-time)"⟩

/-- A token that passed validation; its version is always `0.1.0`. -/
structure CapabilityToken where
  tokenId : String
  profileId : String
  personaRef : String
  instanceId : String
  maxDepth : Option Nat := none
  issuedAt : String
  expiresAt : String
  signature : String
  tagged : Text.startsWith tokenId "tok_" = true
  issued : (IsoTime.instant? issuedAt).isSome = true
  expires : (IsoTime.instant? expiresAt).isSome = true

namespace CapabilityToken

def requiredText (payload : JsonObject) (field : String) : Except FieldError String :=
  match payload.get? field with
  | none => .error ⟨field, "missing", "Field required"⟩
  | some (.str text) => .ok text
  | some _ => .error ⟨field, "string_type", "Input should be a valid string"⟩

def requiredDatetime (payload : JsonObject) (field : String) :
    Except FieldError { text : String // (IsoTime.instant? text).isSome = true } := do
  let text ← requiredText payload field
  validateCapabilityTokenDatetime field text
  if valid : (IsoTime.instant? text).isSome = true then return ⟨text, valid⟩
  else .error ⟨field, "value_error", "Value error, must be a valid date-time"⟩

/-- A strict integer of at least zero, or nothing. -/
def optionalDepth (payload : JsonObject) : Except FieldError (Option Nat) :=
  match payload.get? "max_depth" with
  | none => .ok none
  | some .null => .ok none
  | some (.num (.ofNat depth) 0) => .ok (some depth)
  | some (.num (.negSucc _) 0) =>
      .error ⟨"max_depth", "greater_than_equal", "Input should be greater than or equal to 0"⟩
  | some _ => .error ⟨"max_depth", "int_type", "Input should be a valid integer"⟩

/-- Build a token from a payload without foreign keys; the first faulty field is reported. -/
def ofPayload (payload : JsonObject) : Except FieldError CapabilityToken := do
  let tokenId ← requiredText payload "token_id"
  if tagged : Text.startsWith tokenId "tok_" = true then
    let profileId ← requiredText payload "profile_id"
    let personaRef ← requiredText payload "persona_ref"
    let instanceId ← requiredText payload "instance_id"
    let maxDepth ← optionalDepth payload
    let issuedAt ← requiredDatetime payload "issued_at"
    let expiresAt ← requiredDatetime payload "expires_at"
    match payload.get? "token_version" with
    | none => .error ⟨"token_version", "missing", "Field required"⟩
    | some (.str "0.1.0") =>
        let signature ← requiredText payload "signature"
        return ⟨tokenId, profileId, personaRef, instanceId, maxDepth, issuedAt.1, expiresAt.1,
          signature, tagged, issuedAt.2, expiresAt.2⟩
    | some _ => .error ⟨"token_version", "literal_error", "Input should be '0.1.0'"⟩
  else .error ⟨"token_id", "string_pattern_mismatch", "String should match pattern '^tok_'"⟩

/-- `model_dump`: every field in the order of the model. -/
def modelDump (token : CapabilityToken) : List (String × Json) :=
  [ ("token_id", .str token.tokenId)
  , ("profile_id", .str token.profileId)
  , ("persona_ref", .str token.personaRef)
  , ("instance_id", .str token.instanceId)
  , ("max_depth", match token.maxDepth with | some depth => .num depth 0 | none => .null)
  , ("issued_at", .str token.issuedAt)
  , ("expires_at", .str token.expiresAt)
  , ("token_version", .str "0.1.0")
  , ("signature", .str token.signature) ]

end CapabilityToken

/-! ## Signing -/

def requiredSigningFields : List String :=
  ["token_id", "profile_id", "persona_ref", "instance_id", "issued_at", "expires_at",
    "token_version"]

/-- The payload that is signed: no signature and no absent value. -/
def canonicalizeTokenFields (tokenFields : List (String × Json)) :
    Except PyException (List (String × Json)) :=
  let canonical := tokenFields.filter fun entry => entry.1 != "signature" && !entry.2.isNull
  let missing := requiredSigningFields.filter fun field => !(canonical.map Prod.fst).contains field
  if missing.isEmpty then .ok canonical
  else .error (.valueError ("Capability token payload missing required signing fields: " ++
    Text.join ", " missing))

def sortKeys (fields : List (String × Json)) : List (String × Json) :=
  fields.insertionSort fun first second => first.1 ≤ second.1

/-- HMAC-SHA256 signature over token fields. -/
def computeSignature (hmac : Hmac) (tokenFields : List (String × Json)) (secret : String) :
    Except PyException String := do
  precondition "compute_signature" (secret != "")
  return hmac.digest secret (sortKeys tokenFields)

def isAscii (text : String) : Bool := text.toList.all (·.toNat < 128)

/-- `hmac.compare_digest` on two strings. -/
def compareDigest (expected actual : String) : Except PyException Bool :=
  if isAscii expected && isAscii actual then .ok (expected = actual)
  else .error ⟨.other, "TypeError",
    "comparing strings with non-ASCII characters is not supported"⟩

/-- A token has expired at the given time. -/
def isExpired (expiresAt : String) (now : Int) : Except PyException Bool :=
  match IsoTime.instant? expiresAt with
  | some expiry => .ok (expiry ≤ now)
  | none => .error (.valueError s!"Invalid isoformat string: '{expiresAt}'")

/-- Try each secret in turn; the first that fits decides. -/
def signatureValid (hmac : Hmac) (tokenFields : List (String × Json)) (signature : String) :
    List String → Except PyException Bool
  | [] => .ok false
  | secret :: rest => do
      let expected ← computeSignature hmac tokenFields secret
      if ← compareDigest expected signature then return true
      else signatureValid hmac tokenFields signature rest

/-- Validate a capability token against the secrets and the time. -/
def validateToken (hmac : Hmac) (token : CapabilityToken) (secrets : List String) (now : Int) :
    Except PyException EnforcementResult := do
  precondition "validate_token" !secrets.isEmpty
  let tokenFields ← canonicalizeTokenFields token.modelDump
  if ← signatureValid hmac tokenFields token.signature secrets then
    if ← isExpired token.expiresAt now then
      return ⟨.deny, some "token_validation", some "TOKEN_EXPIRED",
        some s!"Token expired at {token.expiresAt}"⟩
    else return ⟨.allow, none, none, none⟩
  else
    return ⟨.deny, some "token_validation", some "TOKEN_INVALID",
      some "Token signature verification failed"⟩

/-- Validation result and profile binding of a token. -/
structure TokenInitBinding where
  tokenResult : EnforcementResult
  profileId : String

/-- Resolve the binding of a token-mode initialize. -/
def resolveTokenInitBinding (hmac : Hmac) (token : CapabilityToken) (secrets : List String)
    (now : Int) : Except PyException TokenInitBinding := do
  precondition "resolve_token_init_binding"
    (token.tokenId != "" && token.profileId != "" && token.signature != "" && !secrets.isEmpty)
  let tokenResult ← validateToken hmac token secrets now
  return ⟨tokenResult, token.profileId⟩

/-! ## Creating tokens -/

/-- The arguments of `create_token` apart from the secret. -/
structure TokenArguments where
  profile : String
  tokenId : String := "tok_auto"
  expiresAt : String := "2099-12-31T23:59:59Z"
  issuedAt : String := "2026-01-01T00:00:00Z"
  personaRef : String := "persona.default"
  instanceId : String := "instance.default"
  tokenVersion : String := "0.1.0"

def TokenArguments.fields (arguments : TokenArguments) : List (String × Json) :=
  [ ("token_id", .str arguments.tokenId)
  , ("profile_id", .str arguments.profile)
  , ("persona_ref", .str arguments.personaRef)
  , ("instance_id", .str arguments.instanceId)
  , ("issued_at", .str arguments.issuedAt)
  , ("expires_at", .str arguments.expiresAt)
  , ("token_version", .str arguments.tokenVersion) ]

end Tela
