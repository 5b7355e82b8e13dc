import Tela.Commands.BridgeHttp

/-!
# The stdio bridge

`tela connect` forwards frames from stdin to the gateway. What the network, the
recovery and stdout do is a script: a round holds the answers to one pass of the
retry loop, a turn those to one frame, a cycle those to one readiness and forwarding
cycle. A loop that has used up its script, or whose POST is not answered, is still running.
-/

namespace Tela.Bridge

open Text (startsWith)

structure BridgeMessage where
  payload : Bytes
  isContentLengthFramed : Bool := false

/-- A URL of the gateway with its bearer token. -/
structure Endpoint where
  mcpUrl : String
  bearerToken : String
  deriving DecidableEq

structure ForwardedBridgeResponse where
  endpoint : Endpoint
  sessionId : Option String
  responseMessages : List Bytes

/-- Classify runtime failures for a request-level JSON-RPC error. -/
def recoveryErrorCode (errorText : String) : Option String :=
  if startsWith errorText "MCP_REQUEST_TIMEOUT" then some "MCP_REQUEST_TIMEOUT"
  else if startsWith errorText "MCP_RESPONSE_INTERRUPTED" then some "MCP_RESPONSE_INTERRUPTED"
  else if startsWith errorText "MCP_FORWARD_FAILED" then some "MCP_FORWARD_FAILED"
  else if startsWith errorText "BRIDGE_RECOVERY_EXHAUSTED" then some "BRIDGE_RECOVERY_EXHAUSTED"
  else if startsWith errorText "ATTACH_INTERRUPTED" then some "ATTACH_INTERRUPTED"
  else if Text.contains errorText "RECOVERY" || startsWith errorText "GATEWAY_RECOVERY_FAILED" then
    some "RECOVERY_FAILED_FOR_REQUEST"
  else none

/-- A JSON-RPC error response for one failed request. -/
def jsonrpcErrorResponse (requestId : Option Json) (code message : String) : Json :=
  .obj [("jsonrpc", .str "2.0"), ("id", requestId.getD .null),
    ("error", .obj [("code", .num (-32000) 0), ("message", .str s!"{code}: {message}"),
      ("data", .obj [("code", .str code)])])]

/-- `text or fallback`. -/
def orText (text fallback : String) : String := if text = "" then fallback else text

/-! ## Recovering the transport -/

/-- What one call of `recover_transport` comes to. -/
structure Recovered where
  /-- The gateway was looked for. -/
  probed : Bool
  result : Except String Endpoint

/-- `recover_transport`, with the state it closes over; `ρ` is what its environment does. -/
abbrev RecoverTransport (σ ρ : Type) := ρ → σ → Recovered × σ

/-- The answers to one pass of the retry loop. -/
structure Round (ρ : Type) where
  post : Exchange
  recovery : ρ
  bootstrap : Exchange

/-- What the bridge does for a frame. -/
inductive Event
  /-- The frame is posted. -/
  | posted (endpoint : Endpoint) (sessionId : Option String) (exchange : Exchange)
  | recovered (outcome : Recovered)
  /-- The initialize payload is posted; the session it leads to, if it comes back with one. -/
  | bootstrapped (endpoint : Endpoint) (established : Option (Option String))
  /-- A diagnostic on stderr. -/
  | diagnosed (text : String)

/-- One frame on its way to the gateway. -/
structure Request where
  message : Bytes
  messageMethod : Option String
  initializePayload : Option Bytes

variable {σ ρ : Type} (platform : BridgePlatform)

/-- What a recovery leads to; nothing as long as its POST waits. -/
abbrev Rebuilt := Option (Except PyException (Except String (Endpoint × Option String)))

/-- Recover the transport and bootstrap the MCP session again when needed. -/
def recoverBridgeTransportState (recoverTransport : RecoverTransport σ ρ) (request : Request)
    (round : Round ρ) (state : σ) : List Event × σ × Rebuilt :=
  let (outcome, state) := recoverTransport round.recovery state
  match outcome.result with
  | .error error => ([.recovered outcome], state, some (.ok (.error error)))
  | .ok endpoint =>
      if request.messageMethod = some "initialize" then
        ([.recovered outcome], state, some (.ok (.ok (endpoint, none))))
      else
        match request.initializePayload with
        | none => ([.recovered outcome], state, some (.ok (.ok (endpoint, none))))
        | some initializePayload =>
            match postMcpMessage platform endpoint.mcpUrl endpoint.bearerToken initializePayload
                none round.bootstrap with
            | none => ([.recovered outcome, .bootstrapped endpoint none], state, none)
            | some (.error exc) =>
                ([.recovered outcome, .bootstrapped endpoint none], state, some (.error exc))
            | some (.ok (.error error)) =>
                ([.recovered outcome, .bootstrapped endpoint none], state,
                  some (.ok (.error error)))
            | some (.ok (.ok response)) =>
                ([.recovered outcome, .bootstrapped endpoint (some response.sessionId)], state,
                  some (.ok (.ok (endpoint, response.sessionId))))

/-! ## Forwarding one request -/

/-- What the retry loop decides on the outcome of a POST. -/
inductive Verdict
  | fail (error : String)
  /-- Give a notification up. -/
  | drop (diagnostic : String)
  | recover
  | deliver (responseMessages : List Bytes) (sessionId : Option String)

def Phase.text : Phase → String
  | .connect => "connect"
  | .write => "write"
  | .responseHeaders => "response_headers"
  | .responseBody => "response_body"
  | .httpStatus => "http_status"

/-- The frame as the retry loop classifies it. -/
structure FrameKind where
  replayPolicy : BridgeReplayPolicy
  isNotification : Bool

/-- The branch of the retry loop for a failed POST. -/
def judgeError (kind : FrameKind) (error : BridgeHttpError) : Verdict :=
  let errorText := orText error.message "MCP_FORWARD_FAILED: unknown MCP HTTP failure"
  if startsWith errorText "MCP_REQUEST_TIMEOUT" then .fail errorText
  else if error.phase = .httpStatus && error.mcpAdmitted != some false then .fail errorText
  else if error.requestSent = some false || error.mcpAdmitted = some false ||
      kind.replayPolicy = .safe then .recover
  else if kind.isNotification && error.mcpAdmitted = none then
    .drop s!"notification delivery unknown: {error.phase.text} {errorText}"
  else
    .fail ("MCP_RESPONSE_INTERRUPTED: MCP response interrupted after " ++
      "request send; unsafe JSON-RPC payload was not replayed")

/-- The branch of the retry loop for an answered POST. -/
def judgeResponse (kind : FrameKind) (canRecover : Bool) (response : BridgeHttpResponse) :
    Except PyException Verdict := do
  let responseMessages := extractResponseMessages platform response.contentType response.body
  if responseMessages.isEmpty && !kind.isNotification then
    return .fail "MCP_FORWARD_FAILED: empty MCP HTTP response"
  else
    let stale ←
      if canRecover then responseRequiresBridgeRecovery platform responseMessages else pure false
    if stale then return .recover
    else return .deliver responseMessages response.sessionId

/-- POST the frame and decide on the outcome. -/
def attemptPost (request : Request) (kind : FrameKind) (canRecover : Bool) (endpoint : Endpoint)
    (sessionId : Option String) (exchange : Exchange) : Option (Except PyException Verdict) :=
  (postMcpForForwarding platform endpoint.mcpUrl endpoint.bearerToken request.message sessionId
      exchange).map fun posted => do
    match ← posted with
    | .error error => return judgeError kind error
    | .ok response => judgeResponse platform kind canRecover response

/-- How one pass of the retry loop goes on. -/
inductive Next
  /-- A POST of the pass is not answered. -/
  | waiting
  | finished (result : Except PyException (Except String ForwardedBridgeResponse))
  | again (endpoint : Endpoint) (sessionId : Option String)

/-- One pass of the retry loop. -/
def forwardRound (recoverTransport : Option (RecoverTransport σ ρ)) (request : Request)
    (kind : FrameKind) (endpoint : Endpoint) (sessionId : Option String) (round : Round ρ)
    (state : σ) : List Event × σ × Next :=
  let posted := Event.posted endpoint sessionId round.post
  match attemptPost platform request kind recoverTransport.isSome endpoint sessionId
      round.post with
  | none => ([posted], state, .waiting)
  | some (.error exc) => ([posted], state, .finished (.error exc))
  | some (.ok (.fail error)) => ([posted], state, .finished (.ok (.error error)))
  | some (.ok (.drop diagnostic)) =>
      ([posted, .diagnosed diagnostic], state, .finished (.ok (.ok ⟨endpoint, sessionId, []⟩)))
  | some (.ok (.deliver responseMessages responseSession)) =>
      ([posted], state,
        .finished (.ok (.ok ⟨endpoint, responseSession.or sessionId, responseMessages⟩)))
  | some (.ok .recover) =>
      match recoverTransport with
      | none =>
          ([posted], state, .finished (.ok
            (.error "RECOVERY_FAILED_FOR_REQUEST: no recovery transport available")))
      | some recoverTransport =>
          match recoverBridgeTransportState platform recoverTransport request round state with
          | (events, state, none) => (posted :: events, state, .waiting)
          | (events, state, some (.error exc)) => (posted :: events, state, .finished (.error exc))
          | (events, state, some (.ok (.error error))) =>
              (posted :: events, state, .finished (.ok (.error error)))
          | (events, state, some (.ok (.ok (endpoint, sessionId)))) =>
              (posted :: events, state, .again endpoint sessionId)

/-- What has become of a forwarded request; it is still running without a result. -/
structure Forwarding (σ : Type) where
  events : List Event
  state : σ
  result : Option (Except PyException (Except String ForwardedBridgeResponse))

/-- The retry loop. -/
def forwardRounds (recoverTransport : Option (RecoverTransport σ ρ)) (request : Request)
    (kind : FrameKind) :
    List (Round ρ) → Endpoint → Option String → σ → Forwarding σ
  | [], _, _, state => ⟨[], state, none⟩
  | round :: rest, endpoint, sessionId, state =>
      match forwardRound platform recoverTransport request kind endpoint sessionId round state with
      | (events, state, .waiting) => ⟨events, state, none⟩
      | (events, state, .finished result) => ⟨events, state, some result⟩
      | (events, state, .again endpoint sessionId) =>
          let later := forwardRounds recoverTransport request kind rest endpoint sessionId state
          ⟨events ++ later.events, later.state, later.result⟩

/-- The replay policy of the message, and whether it is a notification. -/
def classifyFrame (message : Bytes) : Except PyException FrameKind := do
  let replayPolicy ← bridgeReplayPolicy platform message
  let isNotification ← jsonrpcIsNotification platform message
  return ⟨replayPolicy, isNotification⟩

/-- Forward one MCP request, recovering and replaying only when that is allowed. -/
def forwardRequestWithRecovery (recoverTransport : Option (RecoverTransport σ ρ))
    (request : Request) (endpoint : Endpoint) (sessionId : Option String)
    (rounds : List (Round ρ)) (state : σ) : Forwarding σ :=
  match classifyFrame platform request.message with
  | .error exc => ⟨[], state, some (.error exc)⟩
  | .ok kind => forwardRounds platform recoverTransport request kind rounds endpoint sessionId state

/-! ## The forwarding loop -/

/-- A message on stdout. -/
inductive Written
  | gateway (payload : Bytes)
  /-- A response that the bridge made up. -/
  | bridge (response : Json)

/-- The answers to one turn of the forwarding loop. -/
structure Turn (ρ : Type) where
  read : Except String BridgeMessage
  rounds : List (Round ρ)
  /-- The write of this turn that fails, with its error. -/
  brokenWrite : Option (Nat × String) := none

/-- Write the messages in order, up to the first that fails. -/
def writeBridgeResponseMessages (brokenWrite : Option (Nat × String)) (messages : List Written) :
    List Written × Except String Unit :=
  match brokenWrite with
  | none => (messages, .ok ())
  | some (index, error) =>
      if index < messages.length then (messages.take index, .error error) else (messages, .ok ())

/-- The variables of the forwarding loop. -/
structure BridgeSession where
  endpoint : Endpoint
  sessionId : Option String := none
  initializePayload : Option Bytes := none

inductive Completion
  | completed
  | stopped (error : String)
  | raised (exc : PyException)
  | running

/-- What has been done for one frame. -/
structure FrameLog where
  frame : BridgeMessage
  events : List Event
  written : List Written
  completion : Completion

/-- The frame with its connection identity, and the initialize payload to remember. -/
def readRequest (bridgeConnectionId : String) (session : BridgeSession) (payload : Bytes) :
    Except PyException Request := do
  let message ← injectBridgeConnectionId platform payload (some bridgeConnectionId)
  let messageMethod ← extractJsonrpcMethod platform message
  return ⟨message, messageMethod,
    if messageMethod = some "initialize" then some message else session.initializePayload⟩

/-- Answer a frame whose forwarding failed. -/
def answerFailure (frame : BridgeMessage) (brokenWrite : Option (Nat × String))
    (error : String) : List Written × Completion :=
  let errorText := orText error "BRIDGE_RUNTIME_ERROR: unknown bridge failure"
  match recoveryErrorCode errorText with
  | none => ([], .stopped errorText)
  | some code =>
      match jsonrpcRequestId platform frame.payload with
      | .error exc => ([], .raised exc)
      | .ok requestId =>
          match writeBridgeResponseMessages brokenWrite
              [.bridge (jsonrpcErrorResponse requestId code errorText)] with
          | (written, .error error) => (written, .stopped error)
          | (written, .ok ()) => (written, .completed)

/-- One turn of the forwarding loop, after its read. -/
def forwardFrame (bridgeConnectionId : String)
    (recoverTransport : Option (RecoverTransport σ ρ)) (session : BridgeSession)
    (frame : BridgeMessage) (rounds : List (Round ρ)) (brokenWrite : Option (Nat × String))
    (state : σ) : FrameLog × BridgeSession × σ :=
  match readRequest platform bridgeConnectionId session frame.payload with
  | .error exc => (⟨frame, [], [], .raised exc⟩, session, state)
  | .ok request =>
      let session := { session with initializePayload := request.initializePayload }
      let forwarding := forwardRequestWithRecovery platform recoverTransport request
        session.endpoint session.sessionId rounds state
      match forwarding.result with
      | none => (⟨frame, forwarding.events, [], .running⟩, session, forwarding.state)
      | some (.error exc) => (⟨frame, forwarding.events, [], .raised exc⟩, session, forwarding.state)
      | some (.ok (.error error)) =>
          let answer := answerFailure platform frame brokenWrite error
          (⟨frame, forwarding.events, answer.1, answer.2⟩, session, forwarding.state)
      | some (.ok (.ok forwarded)) =>
          let session := { session with
            endpoint := forwarded.endpoint, sessionId := forwarded.sessionId }
          match writeBridgeResponseMessages brokenWrite
              (forwarded.responseMessages.map Written.gateway) with
          | (written, .error error) =>
              (⟨frame, forwarding.events, written, .stopped error⟩, session, forwarding.state)
          | (written, .ok ()) =>
              (⟨frame, forwarding.events, written, .completed⟩, session, forwarding.state)

/-- What has become of the forwarding loop. -/
structure Bridging (σ : Type) where
  logs : List FrameLog
  state : σ
  result : Option (Except PyException (Except String Unit))

/-- Forward stdio frames until stdin ends, a stop is requested or a frame cannot be answered. -/
def forwardStdioHttp (bridgeConnectionId : String)
    (recoverTransport : Option (RecoverTransport σ ρ)) (resetRecoveryAttempts : σ → σ) :
    List (Turn ρ) → BridgeSession → σ → Bridging σ
  | [], _, state => ⟨[], state, some (.ok (.ok ()))⟩
  | turn :: rest, session, state =>
      match turn.read with
      | .error error => ⟨[], state, some (.ok (.error error))⟩
      | .ok frame =>
          let (log, session, state) := forwardFrame platform bridgeConnectionId recoverTransport
            session frame turn.rounds turn.brokenWrite state
          match log.completion with
          | .running => ⟨[log], state, none⟩
          | .raised exc => ⟨[log], state, some (.error exc)⟩
          | .stopped error => ⟨[log], state, some (.ok (.error error))⟩
          | .completed =>
              let later := forwardStdioHttp bridgeConnectionId recoverTransport
                resetRecoveryAttempts rest session (resetRecoveryAttempts state)
              ⟨log :: later.logs, later.state, later.result⟩

/-! ## The attach loop -/

structure BridgeRuntimeState where
  baseUrl : String
  host : String
  port : Nat
  bearerToken : String
  recoveryAttempts : Nat := 0

/-- What the environment does in one recovery of the gateway. -/
structure RecoveryAnswer where
  recoverGateway : Except String (String × Nat × String)
  registerBridgeConnection : Except String Unit

/-- The answers to one readiness and forwarding cycle. -/
structure Cycle where
  /-- The outcome of the bounded readiness wait. -/
  readiness : Except String Unit
  turns : List (Turn RecoveryAnswer)
  recovery : RecoveryAnswer

inductive BridgeLoopAction
  | again
  | done

/-- What has become of one cycle; `recovered` is the recovery between two cycles. -/
structure CycleLog where
  frames : List FrameLog
  recovered : Option Recovered
  result : Option (Except PyException (Except String BridgeLoopAction))

def resetRecoveryAttempts (state : BridgeRuntimeState) : BridgeRuntimeState :=
  { state with recoveryAttempts := 0 }

end Tela.Bridge
