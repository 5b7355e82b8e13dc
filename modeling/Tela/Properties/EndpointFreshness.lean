import Tela.Properties.BoundedRecovery

/-!
# Freshness of the endpoint

The position of the bridge is the endpoint of its last successful recovery with the
session of its last initialize or bootstrap. The forwarding loop keeps its variables
at that position as long as no frame fails after a recovery of its own.
-/

namespace Tela.Bridge

variable {platform : BridgePlatform} {σ ρ : Type}

/-! ## Positions -/

/-- An endpoint and a session. -/
abbrev Position := Endpoint × Option String

/-- The position after an event. -/
def Position.after (position : Position) : Event → Position
  | .recovered ⟨_, .ok endpoint⟩ => (endpoint, position.2)
  | .bootstrapped _ (some sessionId) => (position.1, sessionId)
  | _ => position

/-- The method under which a frame is sent. -/
def sentMethod (platform : BridgePlatform) (connectionId : String) (frame : BridgeMessage) :
    Option String :=
  match injectBridgeConnectionId platform frame.payload (some connectionId) with
  | .error _ => none
  | .ok message => ((extractJsonrpcMethod platform message).toOption).join

/-- The message is a JSON-RPC error. -/
def isErrorMessage (platform : BridgePlatform) (payload : Bytes) : Bool :=
  match decodeObject platform payload with
  | .ok (some decoded) => (decoded.get? "error").isSome
  | _ => false

/-- A message of the gateway that reports no error. -/
def Written.succeeds (platform : BridgePlatform) : Written → Bool
  | .gateway payload => !isErrorMessage platform payload
  | .bridge _ => false

/-- The session that a successful initialize establishes: the one it is told, or was sent under. -/
def FrameLog.established (platform : BridgePlatform) (connectionId : String) (log : FrameLog) :
    Option (Option String) :=
  if sentMethod platform connectionId log.frame = some "initialize" &&
      log.written.all (Written.succeeds platform) then
    match log.events.getLast? with
    | some (.posted _ sessionId (.answered reply)) =>
        if 200 ≤ reply.status ∧ reply.status ≤ 299 then some (reply.sessionId.or sessionId)
        else none
    | _ => none
  else none

/-- The position after a frame. -/
def Position.afterFrame (platform : BridgePlatform) (connectionId : String)
    (position : Position) (log : FrameLog) : Position :=
  let position := log.events.foldl Position.after position
  match log.established platform connectionId with
  | some sessionId => (position.1, sessionId)
  | none => position

/-- The first POST of every frame goes to the position that the frames before it have led to. -/
def Fresh (platform : BridgePlatform) (connectionId : String) (start : Position)
    (logs : List FrameLog) : Prop :=
  ∀ before log after, logs = before ++ log :: after →
    ∀ post, (framePosts log.events).head? = some post →
      (post.endpoint, post.sessionId) =
        before.foldl (Position.afterFrame platform connectionId) start

/-! ## Turns that keep the position -/

/-- The error ends the forwarding loop. -/
def stops (error : String) : Bool :=
  (recoveryErrorCode (orText error "BRIDGE_RUNTIME_ERROR: unknown bridge failure")).isNone

/-- The recovery of the round succeeds. -/
def recovers (recoverTransport : RecoverTransport σ ρ) (round : Round ρ) (state : σ) : Bool :=
  (recoverTransport round.recovery state).1.result.isOk

/-- The reply names the session, or names none and answers a POST under it. -/
def namesSession (established sessionId : Option String) : (header : Option String) → Bool
  | some header => established = some header
  | none => sessionId = established

/--
Once a recovery of the frame has succeeded, neither a POST nor a recovery nor a bootstrap
fails any more; a notification is given up only under the session, and no reply but that to a
successful initialize names another one.
-/
def carries (platform : BridgePlatform) (recoverTransport : Option (RecoverTransport σ ρ))
    (request : Request) (kind : FrameKind) :
    List (Round ρ) → (recovered : Bool) → Endpoint → (sessionId established : Option String) →
      σ → Bool
  | [], _, _, _, _, _ => true
  | round :: rest, recovered, endpoint, sessionId, established, state =>
      match attemptPost platform request kind recoverTransport.isSome endpoint sessionId
          round.post with
      | none => true
      | some (.error _) => true
      | some (.ok (.fail error)) => !recovered || stops error
      | some (.ok (.drop _)) => sessionId = established
      | some (.ok (.deliver messages header)) =>
          (request.messageMethod = some "initialize" && !messages.any (isErrorMessage platform)) ||
            namesSession established sessionId header
      | some (.ok .recover) =>
          match recoverTransport with
          | none => !recovered
          | some recover =>
              match recoverBridgeTransportState platform recover request round state with
              | (_, _, none) => true
              | (_, _, some (.error _)) => true
              | (_, _, some (.ok (.error error))) =>
                  (!recovered && !recovers recover round state) || stops error
              | (events, state, some (.ok (.ok (next, nextSession)))) =>
                  carries platform recoverTransport request kind rest true next nextSession
                    (events.foldl Position.after (endpoint, established)).2 state

/-- The turn keeps the position of the session. -/
def carriesTurn (platform : BridgePlatform) (connectionId : String)
    (recoverTransport : Option (RecoverTransport σ ρ)) (session : BridgeSession)
    (frame : BridgeMessage) (rounds : List (Round ρ)) (state : σ) : Bool :=
  match readRequest platform connectionId session frame.payload with
  | .error _ => true
  | .ok request =>
      match classifyFrame platform request.message with
      | .error _ => true
      | .ok kind =>
          carries platform recoverTransport request kind rounds false session.endpoint
            session.sessionId session.sessionId state

/-- Every turn of the run meets the condition where the run finds it. -/
def everyTurn (platform : BridgePlatform) (connectionId : String)
    (recoverTransport : Option (RecoverTransport σ ρ)) (resetRecoveryAttempts : σ → σ)
    (condition : BridgeSession → BridgeMessage → List (Round ρ) → σ → Bool) :
    List (Turn ρ) → BridgeSession → σ → Bool
  | [], _, _ => true
  | turn :: rest, session, state =>
      match turn.read with
      | .error _ => true
      | .ok frame =>
          condition session frame turn.rounds state &&
            match forwardFrame platform connectionId recoverTransport session frame turn.rounds
                turn.brokenWrite state with
            | (⟨_, _, _, .completed⟩, session, state) =>
                everyTurn platform connectionId recoverTransport resetRecoveryAttempts condition
                  rest session (resetRecoveryAttempts state)
            | _ => true

/-! ## One frame -/

/-- What the retry loop can decide on an answered POST. -/
theorem judgeResponse_cases {kind : FrameKind} {canRecover : Bool} {response : BridgeHttpResponse}
    {verdict : Verdict} (judged : judgeResponse platform kind canRecover response = .ok verdict) :
    verdict = .fail "MCP_FORWARD_FAILED: empty MCP HTTP response" ∨ verdict = .recover ∨
      ∃ messages, verdict = .deliver messages response.sessionId ∧
        (messages = [] → kind.isNotification = true) := by
  unfold judgeResponse at judged
  dsimp only at judged
  split at judged
  · cases judged
    exact .inl rfl
  · rename_i answered
    have decided : ∀ stale : Bool,
        ((if stale then .ok .recover else .ok (.deliver (extractResponseMessages platform
          response.contentType response.body) response.sessionId)) : Except PyException Verdict) =
            .ok verdict → verdict = .recover ∨ ∃ messages,
              verdict = .deliver messages response.sessionId ∧
                (messages = [] → kind.isNotification = true) := by
      intro stale same
      cases stale with
      | true =>
          cases same
          exact .inl rfl
      | false =>
          cases same
          refine .inr ⟨_, rfl, fun empty => ?_⟩
          rw [empty] at answered
          simpa using answered
    cases canRecover with
    | false => exact .inr (decided false judged)
    | true =>
        obtain ⟨stale, -, judged⟩ := bind_ok judged
        exact .inr (decided stale judged)

/-- A response is delivered only from a complete reply with a status of success. -/
theorem attemptPost_deliver {request : Request} {kind : FrameKind} {canRecover : Bool}
    {endpoint : Endpoint} {sessionId responseSession : Option String} {exchange : Exchange}
    {messages : List Bytes}
    (attempted : attemptPost platform request kind canRecover endpoint sessionId exchange =
      some (.ok (.deliver messages responseSession))) :
    ∃ reply, exchange = .answered reply ∧ (200 ≤ reply.status ∧ reply.status ≤ 299) ∧
      responseSession = reply.sessionId ∧ (messages = [] → kind.isNotification = true) := by
  obtain ⟨outcome, posted, attempted⟩ := Option.map_eq_some_iff.mp attempted
  obtain ⟨answer, rfl, judged⟩ := bind_ok attempted
  cases answer with
  | error error =>
      have judged : judgeError kind error = .deliver messages responseSession :=
        Except.ok.inj judged
      unfold judgeError at judged
      dsimp only at judged
      repeat' split at judged
      all_goals cases judged
  | ok response =>
      obtain ⟨reply, rfl, success, rfl⟩ := postMcpHttp_response posted
      refine ⟨reply, rfl, success, ?_⟩
      rcases judgeResponse_cases judged with failed | again | ⟨_, delivered, empty⟩
      · cases failed
      · cases again
      · cases delivered
        exact ⟨rfl, empty⟩

/-- The last POST was answered, and this is the session that its answer leads to. -/
def Answers (events : List Event) (sessionId : Option String) : Prop :=
  ∃ endpoint posted reply, events.getLast? = some (.posted endpoint posted (.answered reply)) ∧
    (200 ≤ reply.status ∧ reply.status ≤ 299) ∧ sessionId = reply.sessionId.or posted

/-- The messages answer an initialize, and none is an error. -/
def Establishes (platform : BridgePlatform) (messageMethod : Option String)
    (messages : List Bytes) : Prop :=
  messageMethod = some "initialize" ∧ messages.any (isErrorMessage platform) = false

theorem namesSession_or {established sessionId header : Option String}
    (named : namesSession established sessionId header = true) :
    header.or sessionId = established := by
  cases header with
  | none => exact of_decide_eq_true named
  | some header => exact (of_decide_eq_true named).symm

/-- A forwarding that keeps its endpoint and session at the position of its events. -/
inductive Keeps (establishes : List Bytes → Prop) (recovered : Bool) (start : Position)
    (events : List Event) : Option (Except PyException (Except String ForwardedBridgeResponse)) → Prop
  | running : Keeps establishes recovered start events none
  | raised {exc : PyException} : Keeps establishes recovered start events (some (.error exc))
  | stopped {error : String} (stopped : stops error = true) :
      Keeps establishes recovered start events (some (.ok (.error error)))
  | failed {error : String} (first : recovered = false)
      (still : events.foldl Position.after start = start) :
      Keeps establishes recovered start events (some (.ok (.error error)))
  | answered {forwarded : ForwardedBridgeResponse}
      (establishing : establishes forwarded.responseMessages)
      (endpoint : forwarded.endpoint = (events.foldl Position.after start).1)
      (answers : Answers events forwarded.sessionId) :
      Keeps establishes recovered start events (some (.ok (.ok forwarded)))
  | passed {forwarded : ForwardedBridgeResponse}
      (position : (forwarded.endpoint, forwarded.sessionId) = events.foldl Position.after start)
      (silent : establishes forwarded.responseMessages →
        ∀ sessionId, ¬ Answers events sessionId) :
      Keeps establishes recovered start events (some (.ok (.ok forwarded)))

/-- What goes on after a recovery is kept by what the recovery leads to. -/
theorem Keeps.later {establishes : List Bytes → Prop} {recovered : Bool} {start middle : Position}
    {events later : List Event}
    {result : Option (Except PyException (Except String ForwardedBridgeResponse))}
    (keeps : Keeps establishes true middle later result)
    (moved : events.foldl Position.after start = middle) (more : result ≠ none → later ≠ []) :
    Keeps establishes recovered start (events ++ later) result := by
  have fold : (events ++ later).foldl Position.after start = later.foldl Position.after middle := by
    rw [List.foldl_append, moved]
  have answers (more : later ≠ []) (sessionId : Option String) :
      Answers (events ++ later) sessionId ↔ Answers later sessionId := by
    unfold Answers
    rw [List.getLast?_append_of_ne_nil _ more]
  cases keeps with
  | running => exact .running
  | raised => exact .raised
  | stopped stopped => exact .stopped stopped
  | failed first still => cases first
  | answered establishing endpoint answer =>
      exact .answered establishing (by rw [fold]; exact endpoint)
        ((answers (more nofun) _).mpr answer)
  | passed position silent =>
      refine .passed (by rw [fold]; exact position) fun establishing sessionId answer => ?_
      exact silent establishing sessionId ((answers (more nofun) _).mp answer)

/-- The loop posts first to the endpoint it is given. -/
theorem forwardRounds_cons_framePosts (platform : BridgePlatform)
    (recoverTransport : Option (RecoverTransport σ ρ)) (request : Request) (kind : FrameKind)
    (round : Round ρ) (rest : List (Round ρ)) (endpoint : Endpoint) (sessionId : Option String)
    (state : σ) :
    ∃ later, framePosts (forwardRounds platform recoverTransport request kind (round :: rest)
      endpoint sessionId state).events = ⟨endpoint, sessionId, round.post⟩ :: later := by
  have once := forwardRound_framePosts platform recoverTransport request kind endpoint sessionId
    round state
  unfold forwardRounds
  split
  · rename_i moved
    rw [moved] at once
    exact ⟨[], once⟩
  · rename_i moved
    rw [moved] at once
    exact ⟨[], once⟩
  · rename_i events state' endpoint' sessionId' moved
    rw [moved] at once
    refine ⟨framePosts (forwardRounds platform recoverTransport request kind rest endpoint'
      sessionId' state').events, ?_⟩
    change List.filterMap Event.framePost? (events ++ _) = _
    rw [List.filterMap_append]
    exact congrArg (· ++ _) once

/-- Only a recovery, and the bootstrap after it, move the position. -/
theorem recoverBridgeTransportState_position (platform : BridgePlatform)
    (recover : RecoverTransport σ ρ) (request : Request) (round : Round ρ) (state : σ)
    (start : Position) :
    (∀ endpoint sessionId,
      (recoverBridgeTransportState platform recover request round state).2.2 =
        some (.ok (.ok (endpoint, sessionId))) →
      ((recoverBridgeTransportState platform recover request round state).1.foldl
        Position.after start).1 = endpoint) ∧
    ∀ error, (recoverBridgeTransportState platform recover request round state).2.2 =
        some (.ok (.error error)) → recovers recover round state = false →
      (recoverBridgeTransportState platform recover request round state).1.foldl
        Position.after start = start := by
  unfold recoverBridgeTransportState recovers
  obtain ⟨⟨probed, error | endpoint⟩, state'⟩ := recover round.recovery state
  · exact ⟨nofun, fun _ _ _ => rfl⟩
  · dsimp only
    refine ⟨fun next sessionId => ?_, fun _ _ failed => nomatch failed⟩
    split
    · rintro ⟨⟩
      rfl
    · split
      · rintro ⟨⟩
        rfl
      · split
        · nofun
        · nofun
        · nofun
        · rintro ⟨⟩
          rfl

/-- A frame that carries keeps the bridge at the position of its events. -/
theorem forwardRounds_keeps {recoverTransport : Option (RecoverTransport σ ρ)} {request : Request}
    {kind : FrameKind} (rounds : List (Round ρ)) (recovered : Bool) (endpoint : Endpoint)
    (sessionId established : Option String) (state : σ)
    (carried : carries platform recoverTransport request kind rounds recovered endpoint sessionId
      established state = true) :
    Keeps (Establishes platform request.messageMethod) recovered (endpoint, established)
      (forwardRounds platform recoverTransport request kind rounds endpoint sessionId state).events
      (forwardRounds platform recoverTransport request kind rounds endpoint sessionId
        state).result := by
  induction rounds generalizing recovered endpoint sessionId established state with
  | nil => exact .running
  | cons round rest ih =>
      unfold carries at carried
      unfold forwardRounds forwardRound
      cases attempted : attemptPost platform request kind recoverTransport.isSome endpoint sessionId
        round.post with
      | none => exact .running
      | some outcome =>
        rw [attempted] at carried
        rcases outcome with exc | verdict
        · exact .raised
        · cases verdict with
          | fail error =>
              rcases (Bool.or_eq_true _ _).mp carried with first | stopped
              · exact .failed (by simpa using first) rfl
              · exact .stopped stopped
          | drop diagnostic =>
              have same : sessionId = established := of_decide_eq_true carried
              refine .passed (by rw [same]; rfl) fun _ session answers => ?_
              obtain ⟨_, _, _, last, -⟩ := answers
              cases last
          | deliver messages header =>
              obtain ⟨reply, answered, success, same, -⟩ := attemptPost_deliver attempted
              by_cases establishing : Establishes platform request.messageMethod messages
              · refine .answered establishing rfl
                  ⟨endpoint, sessionId, reply, ?_, success, by rw [same]⟩
                rw [answered]
                rfl
              · have named : namesSession established sessionId header = true := by
                  rcases (Bool.or_eq_true _ _).mp carried with accepted | named
                  · obtain ⟨initialize', accepted⟩ := (Bool.and_eq_true _ _).mp accepted
                    exact absurd ⟨of_decide_eq_true initialize', by simpa using accepted⟩
                      establishing
                  · exact named
                exact .passed (by rw [← namesSession_or named]; rfl)
                  fun establishing' => absurd establishing' establishing
          | recover =>
              cases recoverTransport with
              | none => exact .failed (by simpa using carried) rfl
              | some recover =>
                  have moves := recoverBridgeTransportState_position platform recover request round
                    state (endpoint, established)
                  dsimp only at carried ⊢
                  generalize recoverBridgeTransportState platform recover request round state =
                    recovery at carried moves ⊢
                  obtain ⟨events, state', outcome⟩ := recovery
                  obtain ⟨endpoints, failures⟩ := moves
                  rcases outcome with _ | exc | error | ⟨next, nextSession⟩
                  · exact .running
                  · exact .raised
                  · rcases (Bool.or_eq_true _ _).mp carried with first | stopped
                    · obtain ⟨first, failed⟩ := (Bool.and_eq_true _ _).mp first
                      exact .failed (by simpa using first) (failures error rfl (by simpa using failed))
                    · exact .stopped stopped
                  · have kept := ih true next nextSession _ state' carried
                    have moved : events.foldl Position.after (endpoint, established) =
                        (next, (events.foldl Position.after (endpoint, established)).2) :=
                      Prod.ext (endpoints next nextSession rfl) rfl
                    refine kept.later moved fun ended empty => ?_
                    cases rest with
                    | nil => exact ended rfl
                    | cons round rest =>
                        obtain ⟨later, posts⟩ := forwardRounds_cons_framePosts platform
                          (some recover) request kind round rest next nextSession state'
                        rw [empty] at posts
                        cases posts

theorem readRequest_ok {connectionId : String} {session : BridgeSession} {payload : Bytes}
    {request : Request} (read : readRequest platform connectionId session payload = .ok request) :
    injectBridgeConnectionId platform payload (some connectionId) = .ok request.message ∧
      extractJsonrpcMethod platform request.message = .ok request.messageMethod := by
  unfold readRequest at read
  obtain ⟨message, injected, read⟩ := bind_ok read
  obtain ⟨messageMethod, extracted, read⟩ := bind_ok read
  cases read
  exact ⟨injected, extracted⟩

theorem readRequest_method {connectionId : String} {session : BridgeSession}
    {frame : BridgeMessage} {request : Request}
    (read : readRequest platform connectionId session frame.payload = .ok request) :
    sentMethod platform connectionId frame = request.messageMethod := by
  obtain ⟨injected, extracted⟩ := readRequest_ok read
  unfold sentMethod
  rw [injected]
  dsimp only
  rw [extracted]
  rfl

section Established

variable {connectionId : String} {log : FrameLog}

theorem established_of_answers {sessionId : Option String}
    (sent : sentMethod platform connectionId log.frame = some "initialize")
    (succeeds : log.written.all (Written.succeeds platform) = true) (answers : Answers log.events sessionId) :
    log.established platform connectionId = some sessionId := by
  obtain ⟨endpoint, posted, reply, last, success, rfl⟩ := answers
  unfold FrameLog.established
  rw [if_pos (by simp [sent, succeeds]), last]
  exact if_pos success

theorem established_of_silent
    (silent : sentMethod platform connectionId log.frame = some "initialize" →
      log.written.all (Written.succeeds platform) = true →
        ∀ sessionId, ¬ Answers log.events sessionId) :
    log.established platform connectionId = none := by
  unfold FrameLog.established
  split
  · rename_i initialize'
    obtain ⟨sent, succeeds⟩ := (Bool.and_eq_true _ _).mp initialize'
    split
    · rename_i endpoint posted reply last
      split
      · rename_i success
        exact absurd ⟨endpoint, posted, reply, last, success, rfl⟩
          (silent (of_decide_eq_true sent) succeeds _)
      · rfl
    · rfl
  · rfl

theorem established_of_bridge (bridge : log.written.all (Written.succeeds platform) = false) :
    log.established platform connectionId = none := by
  unfold FrameLog.established
  rw [if_neg (by simp [bridge])]

end Established

theorem writeBridgeResponseMessages_ok {brokenWrite : Option (Nat × String)}
    {messages : List Written} (written : (writeBridgeResponseMessages brokenWrite messages).2 =
      .ok ()) : (writeBridgeResponseMessages brokenWrite messages).1 = messages := by
  unfold writeBridgeResponseMessages at written ⊢
  split
  · rfl
  · dsimp only at written
    split
    · rename_i broken
      rw [if_pos broken] at written
      cases written
    · rfl

/-- A failure is answered with one frame of the bridge, unless the loop ends. -/
theorem answerFailure_completed {frame : BridgeMessage} {brokenWrite : Option (Nat × String)}
    {error : String} (completed : (answerFailure platform frame brokenWrite error).2 = .completed) :
    ∃ code requestId, stops error = false ∧
      jsonrpcRequestId platform frame.payload = .ok requestId ∧
        (answerFailure platform frame brokenWrite error).1 =
          [.bridge (jsonrpcErrorResponse requestId code
            (orText error "BRIDGE_RUNTIME_ERROR: unknown bridge failure"))] := by
  unfold answerFailure at completed ⊢
  dsimp only at completed ⊢
  cases classified : recoveryErrorCode
      (orText error "BRIDGE_RUNTIME_ERROR: unknown bridge failure") with
  | none =>
      rw [classified] at completed
      cases completed
  | some code =>
      rw [classified] at completed
      dsimp only at completed ⊢
      cases identified : jsonrpcRequestId platform frame.payload with
      | error exc =>
          rw [identified] at completed
          cases completed
      | ok requestId =>
          rw [identified] at completed
          dsimp only at completed ⊢
          have wrote := @writeBridgeResponseMessages_ok brokenWrite
            [.bridge (jsonrpcErrorResponse requestId code
              (orText error "BRIDGE_RUNTIME_ERROR: unknown bridge failure"))]
          generalize writeBridgeResponseMessages brokenWrite _ = outcome at completed wrote ⊢
          rcases outcome with ⟨written, error' | _⟩
          · cases completed
          · refine ⟨code, requestId, ?_, rfl, wrote rfl⟩
            rw [stops, classified]
            rfl

/-- A frame that was forwarded is completed with the messages of its response. -/
theorem delivered_completed {σ : Type} {frame : BridgeMessage} {events : List Event}
    {brokenWrite : Option (Nat × String)} {messages : List Written}
    {session session' : BridgeSession} {state state' : σ} {log : FrameLog}
    (forwarded : (match writeBridgeResponseMessages brokenWrite messages with
      | (written, .error error) => (⟨frame, events, written, .stopped error⟩, session, state)
      | (written, .ok ()) => (⟨frame, events, written, .completed⟩, session, state)) =
        ((log, session', state') : FrameLog × BridgeSession × σ))
    (completed : log.completion = .completed) :
    log = ⟨frame, events, messages, .completed⟩ ∧ session' = session := by
  have wrote := @writeBridgeResponseMessages_ok brokenWrite messages
  generalize writeBridgeResponseMessages brokenWrite messages = outcome at forwarded wrote
  rcases outcome with ⟨written, error | _⟩
  · cases forwarded
    cases completed
  · cases forwarded
    rw [← wrote rfl]
    exact ⟨rfl, rfl⟩

theorem succeeds_iff (platform : BridgePlatform) (messages : List Bytes) :
    (messages.map Written.gateway).all (Written.succeeds platform) = true ↔
      messages.any (isErrorMessage platform) = false := by
  simp [Written.succeeds]

/-- A turn that carries leaves the loop's variables at the position of its frame. -/
theorem forwardFrame_position {connectionId : String}
    {recoverTransport : Option (RecoverTransport σ ρ)} {session session' : BridgeSession}
    {frame : BridgeMessage} {rounds : List (Round ρ)} {brokenWrite : Option (Nat × String)}
    {log : FrameLog} {state state' : σ}
    (carried : carriesTurn platform connectionId recoverTransport session frame rounds state = true)
    (forwarded : forwardFrame platform connectionId recoverTransport session frame rounds
      brokenWrite state = (log, session', state'))
    (completed : log.completion = .completed) :
    (session'.endpoint, session'.sessionId) =
      Position.afterFrame platform connectionId (session.endpoint, session.sessionId) log := by
  unfold carriesTurn at carried
  unfold forwardFrame forwardRequestWithRecovery at forwarded
  cases read : readRequest platform connectionId session frame.payload with
  | error exc =>
      rw [read] at forwarded
      cases forwarded
      cases completed
  | ok request =>
      have sent := readRequest_method read
      rw [read] at forwarded carried
      dsimp only at forwarded carried
      cases classified : classifyFrame platform request.message with
      | error exc =>
          rw [classified] at forwarded
          cases forwarded
          cases completed
      | ok kind =>
          rw [classified] at forwarded carried
          dsimp only at forwarded carried
          have keeps := forwardRounds_keeps rounds false session.endpoint session.sessionId
            session.sessionId state carried
          generalize forwardRounds platform recoverTransport request kind rounds session.endpoint
            session.sessionId state = forwarding at forwarded keeps
          rcases forwarding with ⟨events, state'', result⟩
          dsimp only at forwarded keeps
          cases keeps with
          | running =>
              cases forwarded
              cases completed
          | raised =>
              cases forwarded
              cases completed
          | stopped stopped =>
              cases forwarded
              obtain ⟨_, _, goes, -⟩ := answerFailure_completed completed
              rw [stopped] at goes
              cases goes
          | failed first still =>
              cases forwarded
              obtain ⟨code, requestId, -, -, written⟩ := answerFailure_completed completed
              unfold Position.afterFrame
              rw [established_of_bridge (by rw [written]; rfl)]
              exact still.symm
          | answered establishing endpoint answers =>
              obtain ⟨rfl, rfl⟩ := delivered_completed forwarded completed
              obtain ⟨initialize', accepted⟩ := establishing
              unfold Position.afterFrame
              rw [established_of_answers (sent.trans initialize')
                ((succeeds_iff platform _).mpr accepted) answers]
              exact Prod.ext endpoint rfl
          | passed position silent =>
              obtain ⟨rfl, rfl⟩ := delivered_completed forwarded completed
              unfold Position.afterFrame
              rw [established_of_silent fun initialize' succeeds =>
                silent ⟨sent.symm.trans initialize', (succeeds_iff platform _).mp succeeds⟩]
              exact position

/-- The first POST of a frame goes where the loop's variables point. -/
theorem forwardFrame_first {connectionId : String}
    {recoverTransport : Option (RecoverTransport σ ρ)} {session : BridgeSession}
    {frame : BridgeMessage} {rounds : List (Round ρ)} {brokenWrite : Option (Nat × String)}
    {state : σ} {post : FramePost}
    (first : (framePosts (forwardFrame platform connectionId recoverTransport session frame rounds
      brokenWrite state).1.events).head? = some post) :
    (post.endpoint, post.sessionId) = (session.endpoint, session.sessionId) := by
  cases read : readRequest platform connectionId session frame.payload with
  | error exc =>
      rw [forwardFrame_unread read] at first
      cases first
  | ok request =>
      rw [(forwardFrame_read read).1] at first
      unfold forwardRequestWithRecovery at first
      split at first
      · cases first
      · rename_i kind _
        cases rounds with
        | nil => cases first
        | cons round rest =>
            obtain ⟨later, posts⟩ := forwardRounds_cons_framePosts platform recoverTransport request
              kind round rest session.endpoint session.sessionId state
            rw [posts] at first
            cases first
            rfl

/-! ## Every run -/

theorem Fresh.nil {connectionId : String} {start : Position} :
    Fresh platform connectionId start [] := by
  intro before log after split
  exact absurd split.symm (by simp)

theorem Fresh.cons {connectionId : String} {start : Position} {log : FrameLog}
    {logs : List FrameLog}
    (first : ∀ post, (framePosts log.events).head? = some post →
      (post.endpoint, post.sessionId) = start)
    (later : Fresh platform connectionId (start.afterFrame platform connectionId log) logs) :
    Fresh platform connectionId start (log :: logs) := by
  intro before log' after split
  cases before with
  | nil =>
      cases split
      exact first
  | cons log before =>
      cases split
      exact later before log' after rfl

/-- A run is followed turn by turn, up to the first frame that is not completed. -/
theorem forwardStdioHttp_induction {connectionId : String}
    {recoverTransport : Option (RecoverTransport σ ρ)} {resetRecoveryAttempts : σ → σ}
    {condition : BridgeSession → BridgeMessage → List (Round ρ) → σ → Bool}
    {motive : BridgeSession → List FrameLog → Prop} (silent : ∀ session, motive session [])
    (turns : List (Turn ρ))
    (turned : ∀ turn ∈ turns, ∀ frame session session' state state' log, turn.read = .ok frame →
      condition session frame turn.rounds state = true →
      forwardFrame platform connectionId recoverTransport session frame turn.rounds
        turn.brokenWrite state = (log, session', state') →
      (log.completion ≠ .completed → motive session [log]) ∧
        (log.completion = .completed → ∀ logs, motive session' logs → motive session (log :: logs)))
    (session : BridgeSession) (state : σ)
    (met : everyTurn platform connectionId recoverTransport resetRecoveryAttempts condition turns
      session state = true) :
    motive session (forwardStdioHttp platform connectionId recoverTransport resetRecoveryAttempts
      turns session state).logs := by
  induction turns generalizing session state with
  | nil => exact silent session
  | cons turn rest ih =>
      unfold everyTurn at met
      unfold forwardStdioHttp
      cases read : turn.read with
      | error error => exact silent session
      | ok frame =>
          rw [read] at met
          dsimp only at met ⊢
          obtain ⟨here, later⟩ := (Bool.and_eq_true _ _).mp met
          cases forwarded : forwardFrame platform connectionId recoverTransport session frame
            turn.rounds turn.brokenWrite state with
          | mk log moved =>
              obtain ⟨session', state'⟩ := moved
              obtain ⟨alone, onwards⟩ := turned turn List.mem_cons_self frame session session' state
                state' log read here forwarded
              rw [forwarded] at later
              obtain ⟨frame', events, written, completion⟩ := log
              cases completion with
              | running => exact alone (by rintro ⟨⟩)
              | raised exc => exact alone (by rintro ⟨⟩)
              | stopped error => exact alone (by rintro ⟨⟩)
              | completed =>
                  refine onwards rfl _ (ih ?_ session' (resetRecoveryAttempts state') later)
                  exact fun turn listed => turned turn (List.mem_cons_of_mem _ listed)

/-- In every run whose turns all carry, every frame starts at the position of the frames before. -/
theorem endpoint_freshness (platform : BridgePlatform) (connectionId : String)
    (recoverTransport : Option (RecoverTransport σ ρ)) (resetRecoveryAttempts : σ → σ)
    (turns : List (Turn ρ)) (session : BridgeSession) (state : σ)
    (carried : everyTurn platform connectionId recoverTransport resetRecoveryAttempts
      (carriesTurn platform connectionId recoverTransport) turns session state = true) :
    Fresh platform connectionId (session.endpoint, session.sessionId)
      (forwardStdioHttp platform connectionId recoverTransport resetRecoveryAttempts turns session
        state).logs := by
  refine forwardStdioHttp_induction
    (motive := fun session => Fresh platform connectionId (session.endpoint, session.sessionId))
    (fun _ => .nil) turns ?_ session state carried
  intro turn _ frame session session' state state' log _ carries forwarded
  have first : ∀ post, (framePosts log.events).head? = some post →
      (post.endpoint, post.sessionId) = (session.endpoint, session.sessionId) := by
    intro post posted
    refine @forwardFrame_first platform σ ρ connectionId recoverTransport session frame turn.rounds
      turn.brokenWrite state post ?_
    rw [forwarded]
    exact posted
  refine ⟨fun _ => .cons first .nil, fun completed logs later => .cons first ?_⟩
  rw [← forwardFrame_position carries forwarded completed]
  exact later

/-! ## A recovery that is forgotten -/

/-- The connection is refused, the gateway is found elsewhere, and the frame fails there. -/
def failedThere : List (Round (Except String Endpoint)) :=
  [⟨.connectFails "refused", .ok newEndpoint, .connectFails ""⟩,
    ⟨.answered { status := 500 }, .error "", .connectFails ""⟩]

def answeredAt : List (Round (Except String Endpoint)) :=
  [⟨answerOk toolResult, .error "", .connectFails ""⟩]

/-- Two tool calls, of which the first goes through the given rounds. -/
def twoCalls (rounds : List (Round (Except String Endpoint))) :
    List (Turn (Except String Endpoint)) :=
  [⟨.ok { payload := ascii toolCall }, rounds, none⟩,
    ⟨.ok { payload := ascii toolCall }, answeredAt, none⟩]

def callLogs (turns : List (Turn (Except String Endpoint))) : List FrameLog :=
  (forwardStdioHttp callPlatform "bridge_1" (some toldTransport) id turns ⟨oldEndpoint, none, none⟩
    ()).logs

/-- The call after a failed one is posted to the dead endpoint again. -/
theorem endpoint_forgotten :
    ¬ Fresh callPlatform "bridge_1" (oldEndpoint, none) (callLogs (twoCalls failedThere)) := by
  intro fresh
  let logs := callLogs (twoCalls failedThere)
  have two : logs.length = 2 := by decide +kernel
  have split : logs = logs.take 1 ++ logs[1] :: logs.drop 2 := by
    rw [← List.drop_eq_getElem_cons, List.take_append_drop]
  have again : ((framePosts logs[1].events).head?.map FramePost.endpoint) = some oldEndpoint := by
    decide +kernel
  have moved : ((logs.take 1).foldl (Position.afterFrame callPlatform "bridge_1")
      (oldEndpoint, none)).1 = newEndpoint := by decide +kernel
  obtain ⟨post, first, posted⟩ := Option.map_eq_some_iff.mp again
  have same : post.endpoint = newEndpoint :=
    (congrArg Prod.fst (fresh _ _ _ split post first)).trans moved
  rw [posted] at same
  exact absurd same (by decide)

theorem endpoint_freshness_moved :
    Fresh callPlatform "bridge_1" (oldEndpoint, none) (callLogs (twoCalls movedGateway)) :=
  endpoint_freshness callPlatform "bridge_1" (some toldTransport) id (twoCalls movedGateway)
    ⟨oldEndpoint, none, none⟩ () (by decide +kernel)

end Tela.Bridge
