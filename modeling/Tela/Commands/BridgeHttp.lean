import Tela.Core.BridgeProtocol
import Tela.Library.Text

/-!
# Bridge HTTP

One POST of the bridge to the gateway, and the messages in its answer. What the
network does is an `Exchange`; the executor turns it into facts about the request.
-/

namespace Tela.Bridge

open Text (startsWith)

/-! ## One POST -/

structure HttpReply where
  status : Nat
  reason : String := ""
  contentType : Option String := none
  sessionId : Option String := none
  body : Bytes := []

/-- What the network does with one POST. -/
inductive Exchange
  | connectFails (message : String)
  | headersFail (message : String)
  | sendFails (message : String)
  | noHeaders (message : String) (timedOut : Bool)
  | noBody (message : String) (timedOut : Bool)
  /-- The gateway takes the request and never says anything. -/
  | unanswered
  | answered (reply : HttpReply)

inductive Phase
  | connect
  | write
  | responseHeaders
  | responseBody
  | httpStatus
  deriving DecidableEq, Repr

structure BridgeHttpError where
  phase : Phase
  message : String
  requestSent : Option Bool
  mcpAdmitted : Option Bool
  statusCode : Option Nat := none
  retryableWarming : Bool := false

structure BridgeHttpResponse where
  contentType : String
  body : Bytes
  sessionId : Option String

def invalidTimeoutMessage : String :=
  "INVALID_TIMEOUT: connect_timeout_seconds and write_timeout_seconds must be finite > 0; " ++
    "response_timeout_seconds must be None or finite > 0"

/-- The text of a failure while waiting for the response. -/
def responseFailure (timeouts : BridgeTimeouts) (message : String) (timedOut : Bool) : String :=
  if timeouts.response.isSome && timedOut then "MCP_REQUEST_TIMEOUT: response deadline expired"
  else message

/-- What the executor makes of a complete reply. -/
def readReply (sessionId : Option String) (is503Retryable : Bytes → Except PyException Bool)
    (reply : HttpReply) : Except PyException (Except BridgeHttpError BridgeHttpResponse) := do
  if 200 ≤ reply.status ∧ reply.status ≤ 299 then
    return .ok ⟨reply.contentType.getD "", reply.body, reply.sessionId⟩
  else
    let retryableWarming ← if reply.status = 503 then is503Retryable reply.body else pure false
    let sessionNotFound := reply.status = 404 && sessionId.any (· != "")
    let detail := if reply.reason = "" then s!"http {reply.status}"
      else s!"http {reply.status} {reply.reason}"
    return .error {
      phase := .httpStatus
      message :=
        if retryableWarming then s!"HTTP_{reply.status}: gateway warming"
        else s!"MCP_FORWARD_FAILED: {detail}"
      requestSent := some true
      mcpAdmitted := if retryableWarming || sessionNotFound then some false else none
      statusCode := some reply.status
      retryableWarming := retryableWarming }

/-- What has come of a POST; nothing while it waits for its answer. -/
abbrev Posted := Option (Except PyException (Except BridgeHttpError BridgeHttpResponse))

/-- What follows the headers, unless building them raises. -/
def afterHeaders {α β : Type} (headers : Except PyException α)
    (result : Option (Except PyException β)) : Option (Except PyException β) :=
  match headers with
  | .error exc => some (.error exc)
  | .ok _ => result

variable (platform : BridgePlatform)

/-- POST a payload and report in which phase it failed. -/
def postMcpHttp (mcpUrl bearerToken : String) (payload : Bytes) (sessionId : Option String)
    (timeouts : BridgeTimeouts) (is503Retryable : Bytes → Except PyException Bool)
    (exchange : Exchange) : Posted :=
  let unsent (phase : Phase) (message : String) : BridgeHttpError :=
    ⟨phase, message, some false, none, none, false⟩
  let unread (phase : Phase) (message : String) (timedOut : Bool) : BridgeHttpError :=
    ⟨phase, responseFailure timeouts message timedOut, some true, none, none, false⟩
  let connected : Posted → Posted :=
    afterHeaders (bridgeHttpHeaders bearerToken payload.length sessionId)
  if !timeouts.valid then some (.ok (.error (unsent .connect invalidTimeoutMessage)))
  else if !platform.isHttpUrl mcpUrl then
    some (.ok (.error (unsent .connect s!"INVALID_MCP_URL: unsupported or missing host: {mcpUrl}")))
  else
    match exchange with
    | .connectFails message => some (.ok (.error (unsent .connect message)))
    | .headersFail message => connected (some (.ok (.error (unsent .write message))))
    | .sendFails message =>
        connected (some (.ok (.error ⟨.write, message, none, none, none, false⟩)))
    | .noHeaders message timedOut =>
        connected (some (.ok (.error (unread .responseHeaders message timedOut))))
    | .noBody message timedOut =>
        connected (some (.ok (.error (unread .responseBody message timedOut))))
    | .unanswered =>
        -- Without a response timeout the socket blocks for ever.
        connected (if timeouts.response.isSome then
          some (.ok (.error (unread .responseHeaders "timed out" true)))
        else none)
    | .answered reply => connected (some (readReply sessionId is503Retryable reply))

/-- A 503 body matches the MCP warming admission contract. -/
def isMcpTransientWarmingBody (body : Bytes) : Except PyException Bool := do
  match ← decodeObject platform body with
  | none => return false
  | some payload =>
      match payload.get? "retry" with
      | some (.obj retry) =>
          let retry : JsonObject := .ofList retry
          let text (message : JsonObject) (key : String) := (message.get? key).bind Json.str?
          let isTrue (message : JsonObject) (key : String) := (message.get? key).any Json.isTrue
          return text payload "code" = some "ADMISSION_REJECTED_WARMING" &&
            isTrue payload "transient" && isTrue retry "authorized" &&
              text retry "basis" = some "gateway_signal" &&
                text retry "expectation" = some "bounded" &&
                  text payload "gateway_state" = some "warming"
      | _ => return false

/-- The timeouts of the forwarding path. -/
def forwardingTimeouts : BridgeTimeouts := ⟨.finite 10000000, .finite 10000000, none⟩

/-- POST one data-plane payload. -/
def postMcpForForwarding (mcpUrl bearerToken : String) (payload : Bytes)
    (sessionId : Option String) (exchange : Exchange) : Posted :=
  postMcpHttp platform mcpUrl bearerToken payload sessionId forwardingTimeouts
    (isMcpTransientWarmingBody platform) exchange

/-- The text that the facade returns for an error. -/
def facadeError (message : String) : String :=
  if startsWith message "HTTP_" then
    "MCP_FORWARD_FAILED: http " ++ Text.dropFirst 5 (Text.before ':' message)
  else if startsWith message "MCP_" || startsWith message "INVALID_TIMEOUT:" then message
  else "MCP_FORWARD_FAILED: " ++ message

/-- POST a payload once, with errors as texts. -/
def postMcpMessage (mcpUrl bearerToken : String) (payload : Bytes) (sessionId : Option String)
    (exchange : Exchange) : Option (Except PyException (Except String BridgeHttpResponse)) :=
  (postMcpForForwarding platform mcpUrl bearerToken payload sessionId exchange).map fun posted => do
    match ← posted with
    | .ok response => return .ok response
    | .error error => return .error (facadeError error.message)

/-! ## Payloads -/

/-- Attach the bridge connection identity to the client information of an initialize. -/
def injectBridgeConnectionId (payload : Bytes) (connectionId : Option String) :
    Except PyException Bytes :=
  match connectionId with
  | none => .ok payload
  | some connectionId =>
      match platform.loads payload with
      | .value (.obj fields) =>
          match enrichedMessage connectionId (.ofList fields) with
          | some message => .ok (platform.dumps (.obj message.entries))
          | none => .ok payload
      | .value _ => .ok payload
      | .malformed => .ok payload
      | .fails exc => if exc.kind = .valueError then .ok payload else .error exc

/-- The data lines of one event, as a message. -/
def eventPayload (currentData : List String) : List Bytes :=
  if currentData.isEmpty then []
  else
    let payload := Text.join "\n" currentData
    if payload = "" || payload = "[DONE]" then [] else [payload.toUTF8.toList]

/-- Walk the lines of an event stream; `currentData` are the data lines of the open event. -/
def parseSseLines : List String → (currentData : List String) → List Bytes
  | [], currentData => eventPayload currentData
  | line :: rest, currentData =>
      let stripped := Text.strip line
      if stripped = "" then eventPayload currentData ++ parseSseLines rest []
      else if startsWith stripped "data:" then
        parseSseLines rest (currentData ++ [Text.stripLeft (Text.dropFirst 5 stripped)])
      else parseSseLines rest currentData

def parseSsePayloads (rawBody : Bytes) : List Bytes :=
  parseSseLines (Text.splitLines (platform.decodeReplace rawBody)) []

/-- Convert an HTTP response body into payloads for stdio. -/
def extractResponseMessages (contentType : String) (responseBody : Bytes) : List Bytes :=
  if responseBody = [] then []
  else if Text.contains (Text.lower contentType) "text/event-stream" then
    parseSsePayloads platform responseBody
  else [responseBody]

end Tela.Bridge
