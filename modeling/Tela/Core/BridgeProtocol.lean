import Tela.Core.Models
import Tela.Library.Json

/-!
# Bridge protocol

What the bridge reads off a JSON-RPC payload: its method, its request id, whether
it may be sent again, and whether a response asks for a recovery.
-/

namespace Tela.Bridge

abbrev Bytes := List UInt8

/-- What `json.loads` does with a payload. -/
inductive Loaded
  | value (json : Json)
  /-- `UnicodeDecodeError` or `JSONDecodeError`. -/
  | malformed
  | fails (exc : PyException)

/-- The message with the connection identifier in its client information, if that changes it. -/
def enrichedMessage (connectionId : String) (message : JsonObject) : Option JsonObject :=
  match message.get? "method", message.get? "params" with
  | some (.str "initialize"), some (.obj params) =>
      let params : JsonObject := .ofList params
      match params.get? "clientInfo" with
      | some (.obj clientInfo) =>
          let clientInfo : JsonObject := .ofList clientInfo
          if (clientInfo.get? "tela_bridge_connection_id").bind Json.str? = some connectionId then
            none
          else
            let clientInfo := clientInfo.set "tela_bridge_connection_id" (.str connectionId)
            some (message.set "params"
              (.obj (params.set "clientInfo" (.obj clientInfo.entries)).entries))
      | _ => none
  | _, _ => none

/-- What the bridge takes from the platform: the JSON codec, decoding and URL splitting. -/
structure BridgePlatform where
  /-- `json.loads` on bytes, which detects their encoding. -/
  loads : Bytes → Loaded
  /-- `json.loads` on bytes decoded as UTF-8. -/
  loadsUtf8 : Bytes → Loaded
  dumps : Json → Bytes
  /-- UTF-8 decoding with replacement characters. -/
  decodeReplace : Bytes → String
  /-- The URL has an HTTP scheme and a host. -/
  isHttpUrl : String → Bool
  /-- The encoding of UTF-8 text is detected. -/
  loads_of_utf8 : ∀ payload json, loadsUtf8 payload = .value json → loads payload = .value json
  /-- An enriched message is read back as it was written. -/
  loads_enriched : ∀ payload fields connectionId message,
    loads payload = .value (.obj fields) →
      enrichedMessage connectionId (.ofList fields) = some message →
        loadsUtf8 (dumps (.obj message.entries)) = .value (.obj message.entries)

variable (platform : BridgePlatform)

/-- The JSON object that a payload holds, if it holds one. -/
def decodeObject (payload : Bytes) : Except PyException (Option JsonObject) :=
  match platform.loadsUtf8 payload with
  | .value (.obj fields) => .ok (some (.ofList fields))
  | .value _ => .ok none
  | .malformed => .ok none
  | .fails exc => .error exc

/-- The JSON-RPC method name of a payload, when present. -/
def extractJsonrpcMethod (payload : Bytes) : Except PyException (Option String) := do
  match ← decodeObject platform payload with
  | none => return none
  | some decoded => return (decoded.get? "method").bind Json.str?

/-- An identifier that is a string or an integer. -/
def usableId : Json → Option Json
  | .str text => some (.str text)
  | .num mantissa 0 => some (.num mantissa 0)
  | _ => none

/-- The request id of a single JSON-RPC object when safely usable. -/
def jsonrpcRequestId (payload : Bytes) : Except PyException (Option Json) := do
  match ← decodeObject platform payload with
  | none => return none
  | some decoded => return (decoded.get? "id").bind usableId

/-- A single object with a string method and no id. -/
def jsonrpcIsNotification (payload : Bytes) : Except PyException Bool := do
  match ← decodeObject platform payload with
  | none => return false
  | some decoded =>
      return ((decoded.get? "method").bind Json.str?).isSome && !decoded.contains "id"

inductive BridgeReplayPolicy
  | safe
  | notSafe
  deriving DecidableEq, Repr

def replaySafeMethods : List String := ["initialize", "ping", "tools/list"]

/-- A list or an object cannot be looked up in a set. -/
def unhashable (typeName : String) : PyException :=
  ⟨.other, "TypeError", s!"unhashable type: '{typeName}'"⟩

/-- Whether a single JSON-RPC request is replay-safe. -/
def bridgeReplayPolicy (payload : Bytes) : Except PyException BridgeReplayPolicy := do
  match ← decodeObject platform payload with
  | none => return .notSafe
  | some decoded =>
      match decoded.get? "method" with
      | some (.arr _) => .error (unhashable "list")
      | some (.obj _) => .error (unhashable "dict")
      | some (.str method) =>
          if replaySafeMethods.contains method then
            if (← jsonrpcRequestId platform payload).isNone then return .notSafe else return .safe
          else return .notSafe
      | _ => return .notSafe

def recoveryMarkers : List String :=
  ["reconnect_required:", "bridge initialize requires pre-registered connection"]

/-- The message of a JSON-RPC error envelope. -/
def errorMessage (decoded : JsonObject) : Option String :=
  match decoded.get? "error" with
  | some (.obj errorObj) => ((Dict.ofList errorObj).get? "message").bind Json.str?
  | _ => none

/-- The gateway answers with an error that asks for a recovery. -/
def responseRequiresBridgeRecovery : List Bytes → Except PyException Bool
  | [] => .ok false
  | payload :: rest => do
      match (← decodeObject platform payload).bind errorMessage with
      | none => responseRequiresBridgeRecovery rest
      | some message =>
          if recoveryMarkers.any (Text.contains (Text.lower message)) then return true
          else responseRequiresBridgeRecovery rest

/-! ## Headers and timeouts -/

/-- Headers of one payload submission. -/
def bridgeHttpHeaders (bearerToken : String) (payloadLength : Nat) (sessionId : Option String) :
    Except PyException (List (String × String)) := do
  precondition "bridge_http_headers" (bearerToken != "")
  let headers :=
    [("Authorization", "Bearer " ++ bearerToken), ("Content-Type", "application/json"),
      ("Accept", "application/json, text/event-stream"),
      ("Content-Length", toString payloadLength)]
  match sessionId with
  | none => return headers
  | some sessionId => return headers ++ [("mcp-session-id", sessionId)]

/-- A timeout value in microseconds. -/
inductive Seconds
  | finite (micros : Int)
  | notFinite
  deriving DecidableEq, Repr

def Seconds.isPositive : Seconds → Bool
  | .finite micros => 0 < micros
  | .notFinite => false

structure BridgeTimeouts where
  connect : Seconds
  write : Seconds
  /-- Without one there is no response deadline. -/
  response : Option Seconds

def BridgeTimeouts.valid (timeouts : BridgeTimeouts) : Bool :=
  timeouts.connect.isPositive && timeouts.write.isPositive &&
    timeouts.response.all Seconds.isPositive

end Tela.Bridge
