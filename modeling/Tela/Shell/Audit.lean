import Tela.Core.Enforcement

/-!
# Audit entries

What one audited call leaves in the log. The digest of the arguments, the time and
the latency are told from outside.
-/

namespace Tela

/-- Tracing metadata of a call, as far as its fields are known. -/
structure MetaField where
  traceId : String
  eventId : Option String := none
  idempotencyKey : Option String := none
  instanceId : Option String := none
  personaId : Option String := none
  deriving DecidableEq

/-- An optional text field: absent, null or a string. -/
def optionalText (fields : JsonObject) (name : String) : Option (Option String) :=
  match fields.get? name with
  | none => some none
  | some .null => some none
  | some (.str text) => some (some text)
  | some _ => none

/-- `MetaField.model_validate`; further fields are ignored. -/
def MetaField.validate : Json → Option MetaField
  | .obj fields => do
      let fields : JsonObject := .ofList fields
      let traceId ← (fields.get? "trace_id").bind Json.str?
      let eventId ← optionalText fields "event_id"
      let idempotencyKey ← optionalText fields "idempotency_key"
      let instanceId ← optionalText fields "instance_id"
      let personaId ← optionalText fields "persona_id"
      return ⟨traceId, eventId, idempotencyKey, instanceId, personaId⟩
  | _ => none

/-- The metadata that an audit entry keeps; an invalid one is dropped. -/
def auditMetaField : Option Json → Option MetaField
  | none => none
  | some .null => none
  | some held => MetaField.validate held

structure AuditEntry where
  timestamp : Int
  level : AuditLevel
  connectionId : String
  profileId : String
  toolName : String
  serverName : String
  verdict : EnforcementVerdict
  deniedBy : Option String := none
  errorCode : Option String := none
  latencyMs : Option Nat := none
  paramHash : Option String := none
  requestContent : Option JsonObject := none
  responseContent : Option JsonObject := none
  metadata : Option MetaField := none

/-- The readings of the clock for an entry. -/
structure AuditStamp where
  timestamp : Int
  latencyMs : Nat

/-- SHA-256 of the arguments, serialized with sorted keys. -/
abbrev ParamHash := JsonObject → String

/-- Build an entry with the fields that its level records. -/
def buildAuditEntry (paramHash : ParamHash) (level : AuditLevel) (connection : ConnectionContext)
    (toolName serverName : String) (result : EnforcementResult) (stamp : AuditStamp)
    (arguments responseContent : Option JsonObject) (metadata : Option MetaField) :
    AuditEntry where
  timestamp := stamp.timestamp
  level := level
  connectionId := connection.connectionId
  profileId := connection.profileId
  toolName := toolName
  serverName := serverName
  verdict := result.verdict
  deniedBy := result.deniedBy
  errorCode := result.errorCode
  latencyMs := some stamp.latencyMs
  paramHash := if level = .L1 then none else arguments.map paramHash
  requestContent := none
  responseContent := if level = .L3 then responseContent else none
  metadata := metadata

end Tela
