import Tela.Commands.ConnectBridge

/-!
# Replay safety of the bridge

A frame that must not be replayed is posted a second time only after an outcome
that proves the gateway did not admit it.
-/

namespace Tela.Bridge

variable {platform : BridgePlatform} {σ ρ : Type}

/-! ## Outcomes that prove non-admission -/

/-- The exchange gets as far as sending the body, fully or possibly. -/
def Exchange.SendsBody : Exchange → Prop
  | .connectFails _ => False
  | .headersFail _ => False
  | _ => True

/-- One of the payloads is an error envelope that carries a reconnect marker. -/
def CarriesMarker (platform : BridgePlatform) (payloads : List Bytes) : Prop :=
  ∃ payload ∈ payloads, ∃ decoded message,
    decodeObject platform payload = .ok (some decoded) ∧ errorMessage decoded = some message ∧
      ∃ marker ∈ recoveryMarkers, marker.toList <:+: (Text.lower message).toList

/-- The outcome of a POST proves that the gateway did not admit the payload. -/
inductive Unadmitted (platform : BridgePlatform) (endpoint : Endpoint)
    (sessionId : Option String) : Exchange → Prop
  | badUrl {exchange : Exchange} (bad : platform.isHttpUrl endpoint.mcpUrl = false) :
      Unadmitted platform endpoint sessionId exchange
  | unsent {exchange : Exchange} (unsent : ¬ exchange.SendsBody) :
      Unadmitted platform endpoint sessionId exchange
  | warming {reply : HttpReply} (status : reply.status = 503)
      (body : isMcpTransientWarmingBody platform reply.body = .ok true) :
      Unadmitted platform endpoint sessionId (.answered reply)
  | sessionNotFound {reply : HttpReply} {session : String} (status : reply.status = 404)
      (carried : sessionId = some session) (named : session ≠ "") :
      Unadmitted platform endpoint sessionId (.answered reply)
  | reconnect {reply : HttpReply} (status : 200 ≤ reply.status ∧ reply.status ≤ 299)
      (marked : CarriesMarker platform (extractResponseMessages platform
        (reply.contentType.getD "") reply.body)) :
      Unadmitted platform endpoint sessionId (.answered reply)

/-! ## The executor -/

theorem readReply_error {sessionId : Option String}
    {is503Retryable : Bytes → Except PyException Bool} {reply : HttpReply}
    {error : BridgeHttpError}
    (read : readReply sessionId is503Retryable reply = .ok (.error error)) :
    error.requestSent = some true ∧ (error.mcpAdmitted = some false →
      (reply.status = 503 ∧ is503Retryable reply.body = .ok true) ∨
        (reply.status = 404 ∧ ∃ session, sessionId = some session ∧ session ≠ "")) := by
  unfold readReply at read
  split at read
  · cases read
  · by_cases warming : reply.status = 503
    · rw [if_pos warming] at read
      cases retryable : is503Retryable reply.body with
      | error exc =>
          rw [retryable] at read
          cases read
      | ok flag =>
          rw [retryable] at read
          cases read
          refine ⟨rfl, fun unadmitted => ?_⟩
          cases flag with
          | true => exact .inl ⟨warming, rfl⟩
          | false => simp [warming] at unadmitted
    · rw [if_neg warming] at read
      cases read
      refine ⟨rfl, fun unadmitted => .inr ?_⟩
      simp only [Bool.false_or, Bool.and_eq_true, decide_eq_true_eq, ite_eq_left_iff,
        reduceCtorEq, imp_false, not_not] at unadmitted
      obtain ⟨status, carried⟩ := unadmitted
      obtain ⟨session, found, named⟩ := (Option.any_eq_true _ _).mp carried
      exact ⟨status, session, found, bne_iff_ne.mp named⟩

theorem readReply_response {sessionId : Option String}
    {is503Retryable : Bytes → Except PyException Bool} {reply : HttpReply}
    {response : BridgeHttpResponse}
    (read : readReply sessionId is503Retryable reply = .ok (.ok response)) :
    (200 ≤ reply.status ∧ reply.status ≤ 299) ∧
      response = ⟨reply.contentType.getD "", reply.body, reply.sessionId⟩ := by
  unfold readReply at read
  split at read
  · rename_i success
    cases read
    exact ⟨success, rfl⟩
  · by_cases warming : reply.status = 503
    · rw [if_pos warming] at read
      cases retryable : is503Retryable reply.body with
      | error exc =>
          rw [retryable] at read
          cases read
      | ok flag =>
          rw [retryable] at read
          cases read
    · rw [if_neg warming] at read
      cases read

theorem result_of_headers {α β : Type} {headers : Except PyException α}
    {result : Option (Except PyException β)} {value : β}
    (ran : afterHeaders headers result = some (.ok value)) : result = some (.ok value) := by
  cases headers with
  | error exc => cases ran
  | ok _ => exact ran

section PostMcpHttp

variable {mcpUrl bearerToken : String} {payload : Bytes} {sessionId : Option String}
  {timeouts : BridgeTimeouts} {is503Retryable : Bytes → Except PyException Bool}
  {exchange : Exchange}

/-- A response is a complete reply with a status of success. -/
theorem postMcpHttp_response {response : BridgeHttpResponse}
    (posted : postMcpHttp platform mcpUrl bearerToken payload sessionId timeouts is503Retryable
      exchange = some (.ok (.ok response))) :
    ∃ reply, exchange = .answered reply ∧ (200 ≤ reply.status ∧ reply.status ≤ 299) ∧
      response = ⟨reply.contentType.getD "", reply.body, reply.sessionId⟩ := by
  unfold postMcpHttp at posted
  dsimp only at posted
  split at posted
  · cases posted
  · split at posted
    · cases posted
    · cases exchange with
      | connectFails message => cases posted
      | headersFail message => cases result_of_headers posted
      | sendFails message => cases result_of_headers posted
      | noHeaders message timedOut => cases result_of_headers posted
      | noBody message timedOut => cases result_of_headers posted
      | unanswered =>
          have result := result_of_headers posted
          split at result <;> cases result
      | answered reply =>
          obtain ⟨success, same⟩ := readReply_response (Option.some.inj (result_of_headers posted))
          exact ⟨reply, rfl, success, same⟩

/-- The executor denies a POST that may have been sent only for two kinds of replies. -/
theorem postMcpHttp_denied {error : BridgeHttpError}
    (posted : postMcpHttp platform mcpUrl bearerToken payload sessionId timeouts is503Retryable
      exchange = some (.ok (.error error)))
    (denied : error.requestSent = some false ∨ error.mcpAdmitted = some false) :
    timeouts.valid = false ∨ platform.isHttpUrl mcpUrl = false ∨ ¬ exchange.SendsBody ∨
      ∃ reply, exchange = .answered reply ∧
        ((reply.status = 503 ∧ is503Retryable reply.body = .ok true) ∨
          (reply.status = 404 ∧ ∃ session, sessionId = some session ∧ session ≠ "")) := by
  unfold postMcpHttp at posted
  dsimp only at posted
  split at posted
  · rename_i invalid
    exact .inl (by simpa using invalid)
  · split at posted
    · rename_i bad
      exact .inr (.inl (by simpa using bad))
    · refine .inr (.inr ?_)
      cases exchange with
      | connectFails message => exact .inl id
      | headersFail message => exact .inl id
      | sendFails message =>
          cases result_of_headers posted
          rcases denied with denied | denied <;> cases denied
      | noHeaders message timedOut =>
          cases result_of_headers posted
          rcases denied with denied | denied <;> cases denied
      | noBody message timedOut =>
          cases result_of_headers posted
          rcases denied with denied | denied <;> cases denied
      | unanswered =>
          have result := result_of_headers posted
          split at result
          · cases result
            rcases denied with denied | denied <;> cases denied
          · cases result
      | answered reply =>
          obtain ⟨sent, admitted⟩ := readReply_error (Option.some.inj (result_of_headers posted))
          rcases denied with denied | denied
          · rw [sent] at denied
            cases denied
          · exact .inr ⟨reply, rfl, admitted denied⟩

end PostMcpHttp

/-! ## The retry loop -/

theorem responseRequiresBridgeRecovery_marker {payloads : List Bytes}
    (required : responseRequiresBridgeRecovery platform payloads = .ok true) :
    CarriesMarker platform payloads := by
  induction payloads with
  | nil => cases required
  | cons payload rest ih =>
      unfold responseRequiresBridgeRecovery at required
      have later (found : responseRequiresBridgeRecovery platform rest = .ok true) :
          CarriesMarker platform (payload :: rest) := by
        obtain ⟨other, member, marked⟩ := ih found
        exact ⟨other, .tail _ member, marked⟩
      cases decoding : decodeObject platform payload with
      | error exc =>
          rw [decoding] at required
          cases required
      | ok decoded =>
          rw [decoding] at required
          dsimp only [bind, Except.bind] at required
          cases found : decoded.bind errorMessage with
          | none =>
              rw [found] at required
              exact later required
          | some message =>
              rw [found] at required
              dsimp only at required
              split at required
              · rename_i marked
                obtain ⟨decoded, rfl, found⟩ := Option.bind_eq_some_iff.mp found
                obtain ⟨marker, member, occurs⟩ := List.any_eq_true.mp marked
                exact ⟨payload, .head _, decoded, message, decoding, found, marker, member,
                  Text.contains_iff.mp occurs⟩
              · exact later required

theorem judgeError_recover {kind : FrameKind} {error : BridgeHttpError}
    (judged : judgeError kind error = .recover) :
    error.requestSent = some false ∨ error.mcpAdmitted = some false ∨
      kind.replayPolicy = .safe := by
  unfold judgeError at judged
  dsimp only at judged
  split at judged
  · cases judged
  · split at judged
    · cases judged
    · split at judged
      · rename_i replayable
        simpa only [Bool.or_eq_true, decide_eq_true_eq, or_assoc] using replayable
      · split at judged <;> cases judged

theorem judgeResponse_recover {kind : FrameKind} {canRecover : Bool}
    {response : BridgeHttpResponse}
    (judged : judgeResponse platform kind canRecover response = .ok .recover) :
    responseRequiresBridgeRecovery platform
      (extractResponseMessages platform response.contentType response.body) = .ok true := by
  unfold judgeResponse at judged
  dsimp only at judged
  split at judged
  · cases judged
  · cases canRecover with
    | false => cases judged
    | true =>
        cases required : responseRequiresBridgeRecovery platform
          (extractResponseMessages platform response.contentType response.body) with
        | error exc =>
            erw [required] at judged
            cases judged
        | ok stale =>
            erw [required] at judged
            cases stale with
            | true => rfl
            | false => cases judged

theorem unadmitted_of_denied {endpoint : Endpoint} {message : Bytes} {sessionId : Option String}
    {exchange : Exchange} {error : BridgeHttpError}
    (posted : postMcpForForwarding platform endpoint.mcpUrl endpoint.bearerToken message sessionId
      exchange = some (.ok (.error error)))
    (denied : error.requestSent = some false ∨ error.mcpAdmitted = some false) :
    Unadmitted platform endpoint sessionId exchange := by
  rcases postMcpHttp_denied posted denied with
    invalid | bad | unsent | ⟨reply, rfl, ⟨status, body⟩ | ⟨status, session, carried, named⟩⟩
  · exact absurd invalid (by decide)
  · exact .badUrl bad
  · exact .unsent unsent
  · exact .warming status body
  · exact .sessionNotFound status carried named

/-- A POST leads to a recovery only if its frame is safe or it was not admitted. -/
theorem attemptPost_recover {request : Request} {kind : FrameKind} {canRecover : Bool}
    {endpoint : Endpoint} {sessionId : Option String} {exchange : Exchange}
    (attempted : attemptPost platform request kind canRecover endpoint sessionId exchange =
      some (.ok .recover)) :
    kind.replayPolicy = .safe ∨ Unadmitted platform endpoint sessionId exchange := by
  obtain ⟨outcome, posted, attempted⟩ := Option.map_eq_some_iff.mp attempted
  obtain ⟨answer, rfl, judged⟩ := bind_ok attempted
  cases answer with
  | error error =>
      have judged : judgeError kind error = .recover := Except.ok.inj judged
      rcases judgeError_recover judged with unsent | denied | safe
      · exact .inr (unadmitted_of_denied posted (.inl unsent))
      · exact .inr (unadmitted_of_denied posted (.inr denied))
      · exact .inl safe
  | ok response =>
      obtain ⟨reply, rfl, success, rfl⟩ := postMcpHttp_response posted
      have required := judgeResponse_recover judged
      exact .inr (.reconnect success (responseRequiresBridgeRecovery_marker required))

/-- One POST of a frame: where it went, under which session, and what came of it. -/
structure FramePost where
  endpoint : Endpoint
  sessionId : Option String
  exchange : Exchange

def Event.framePost? : Event → Option FramePost
  | .posted endpoint sessionId exchange => some ⟨endpoint, sessionId, exchange⟩
  | _ => none

/-- The POSTs of the frame, in order. -/
def framePosts (events : List Event) : List FramePost := events.filterMap Event.framePost?

theorem recoverBridgeTransportState_framePosts (recoverTransport : RecoverTransport σ ρ)
    (request : Request) (round : Round ρ) (state : σ) :
    framePosts (recoverBridgeTransportState platform recoverTransport request round state).1 =
      [] := by
  unfold recoverBridgeTransportState
  dsimp only
  split
  · rfl
  · split
    · rfl
    · split
      · rfl
      · split <;> rfl

variable {recoverTransport : Option (RecoverTransport σ ρ)} {request : Request}
  {kind : FrameKind} {endpoint : Endpoint} {sessionId : Option String}

/-- One pass posts the frame once. -/
theorem forwardRound_framePosts (platform : BridgePlatform)
    (recoverTransport : Option (RecoverTransport σ ρ)) (request : Request) (kind : FrameKind)
    (endpoint : Endpoint) (sessionId : Option String) (round : Round ρ) (state : σ) :
    framePosts (forwardRound platform recoverTransport request kind endpoint sessionId round
      state).1 = [⟨endpoint, sessionId, round.post⟩] := by
  unfold forwardRound
  dsimp only
  split
  · rfl
  · rfl
  · rfl
  · rfl
  · rfl
  · split
    · rfl
    · rename_i recover _
      have none : framePosts (recoverBridgeTransportState platform recover request round state).1 =
          [] := recoverBridgeTransportState_framePosts recover request round state
      split <;> rename_i same <;> rw [same] at none <;>
        exact congrArg (FramePost.mk endpoint sessionId round.post :: ·) none

/-- The loop goes on only after a recovery. -/
theorem forwardRound_again {round : Round ρ} {state : σ} {nextEndpoint : Endpoint}
    {nextSession : Option String}
    (again : (forwardRound platform recoverTransport request kind endpoint sessionId round
      state).2.2 = .again nextEndpoint nextSession) :
    attemptPost platform request kind recoverTransport.isSome endpoint sessionId round.post =
      some (.ok .recover) := by
  unfold forwardRound at again
  dsimp only at again
  split at again
  · cases again
  · cases again
  · cases again
  · cases again
  · cases again
  · assumption

/-- Every POST but the last proves that the frame was not admitted. -/
theorem forwardRounds_replays (rounds : List (Round ρ)) (endpoint : Endpoint)
    (sessionId : Option String) (state : σ) {before after : List FramePost}
    {first second : FramePost}
    (posts : framePosts (forwardRounds platform recoverTransport request kind rounds endpoint
      sessionId state).events = before ++ first :: second :: after) :
    kind.replayPolicy = .safe ∨
      Unadmitted platform first.endpoint first.sessionId first.exchange := by
  induction rounds generalizing endpoint sessionId state before with
  | nil =>
      exact absurd posts (by
        intro nothing
        cases before <;> cases nothing)
  | cons round rest ih =>
      have once := forwardRound_framePosts platform recoverTransport request kind endpoint sessionId
        round state
      unfold forwardRounds at posts
      have alone (posts : [FramePost.mk endpoint sessionId round.post] =
          before ++ first :: second :: after) : False := by
        have lengths := congrArg List.length posts
        simp only [List.length_append, List.length_cons, List.length_nil] at lengths
        omega
      split at posts
      · rename_i events state' moved
        rw [moved] at once
        exact (alone (once.symm.trans posts)).elim
      · rename_i events state' result moved
        rw [moved] at once
        exact (alone (once.symm.trans posts)).elim
      · rename_i events state' nextEndpoint nextSession moved
        rw [moved] at once
        dsimp only at once posts
        have split : framePosts (events ++ (forwardRounds platform recoverTransport request kind
            rest nextEndpoint nextSession state').events) =
              framePosts events ++ framePosts (forwardRounds platform recoverTransport request kind
                rest nextEndpoint nextSession state').events := List.filterMap_append
        rw [split, once] at posts
        cases before with
        | nil =>
            obtain ⟨rfl, -⟩ := List.cons.inj posts
            exact attemptPost_recover (forwardRound_again (by rw [moved]))
        | cons _ before =>
            obtain ⟨rfl, later⟩ := List.cons.inj posts
            exact ih _ _ _ later

/--
The bridge posts a frame again only if the frame is safe to replay or its last POST proves
non-admission, and the executor denies a POST whose body it sent only on two replies.
The stored initialize that a recovery posts to set the session up again is not counted.
-/
theorem replay_safety (platform : BridgePlatform) :
    (∀ {σ ρ : Type} (recoverTransport : Option (RecoverTransport σ ρ)) (request : Request)
      (endpoint : Endpoint) (sessionId : Option String) (rounds : List (Round ρ)) (state : σ)
      (before after : List FramePost) (first second : FramePost),
      framePosts (forwardRequestWithRecovery platform recoverTransport request endpoint sessionId
        rounds state).events = before ++ first :: second :: after →
      bridgeReplayPolicy platform request.message = .ok .safe ∨
        Unadmitted platform first.endpoint first.sessionId first.exchange) ∧
    ∀ (mcpUrl bearerToken : String) (payload : Bytes) (sessionId : Option String)
      (timeouts : BridgeTimeouts) (is503Retryable : Bytes → Except PyException Bool)
      (exchange : Exchange) (error : BridgeHttpError),
      timeouts.valid = true → platform.isHttpUrl mcpUrl = true → exchange.SendsBody →
      postMcpHttp platform mcpUrl bearerToken payload sessionId timeouts is503Retryable exchange =
        some (.ok (.error error)) →
      error.requestSent = some false ∨ error.mcpAdmitted = some false →
      ∃ reply, exchange = .answered reply ∧
        ((reply.status = 503 ∧ is503Retryable reply.body = .ok true) ∨
          (reply.status = 404 ∧ ∃ session, sessionId = some session ∧ session ≠ "")) := by
  constructor
  · intro σ ρ recoverTransport request endpoint sessionId rounds state before after first second
      posts
    unfold forwardRequestWithRecovery at posts
    cases classified : classifyFrame platform request.message with
    | error exc =>
        rw [classified] at posts
        cases before <;> cases posts
    | ok kind =>
        rw [classified] at posts
        have policy : bridgeReplayPolicy platform request.message = .ok kind.replayPolicy := by
          unfold classifyFrame at classified
          cases policy : bridgeReplayPolicy platform request.message with
          | error exc =>
              rw [policy] at classified
              cases classified
          | ok replayPolicy =>
              rw [policy] at classified
              cases notification : jsonrpcIsNotification platform request.message with
              | error exc =>
                  erw [notification] at classified
                  cases classified
              | ok isNotification =>
                  erw [notification] at classified
                  cases classified
                  rfl
        rw [policy]
        rcases forwardRounds_replays rounds endpoint sessionId state posts with safe | unadmitted
        · exact .inl (congrArg Except.ok safe)
        · exact .inr unadmitted
  · intro mcpUrl bearerToken payload sessionId timeouts is503Retryable exchange error valid url sent
      posted denied
    rcases postMcpHttp_denied posted denied with invalid | bad | unsent | denied
    · rw [valid] at invalid
      cases invalid
    · rw [url] at bad
      cases bad
    · contradiction
    · exact denied

/-! ## A tool call that is posted twice -/

def ascii (text : String) : Bytes := text.toList.map fun c => UInt8.ofNat c.toNat

/-- The parsed frames are no initialize requests. -/
def plainTable (table : List (String × Json)) : Bool :=
  table.all fun entry =>
    match entry.2 with
    | .obj fields => ((Dict.ofList fields).get? "method").bind Json.str? != some "initialize"
    | _ => true

/-- The JSON parser on the texts of the table. -/
def parse (table : List (String × Json)) (payload : Bytes) : Loaded :=
  match table.find? fun entry => ascii entry.1 = payload with
  | some entry => .value entry.2
  | none => .malformed

/-- A platform on which the parser is only asked for the texts of the table. -/
def tabled (table : List (String × Json)) (plain : plainTable table = true) : BridgePlatform where
  loads := parse table
  loadsUtf8 := parse table
  dumps _ := []
  decodeReplace _ := ""
  isHttpUrl _ := true
  loads_of_utf8 _ _ loaded := loaded
  loads_enriched payload fields connectionId message loaded enriched := by
    unfold parse at loaded
    split at loaded
    · rename_i entry found
      have calm := List.all_eq_true.mp plain entry (List.mem_of_find?_eq_some found)
      rw [Loaded.value.inj loaded] at calm
      unfold enrichedMessage at enriched
      split at enriched
      · rename_i method _
        dsimp only at calm
        rw [method] at calm
        exact absurd calm (by decide)
      · cases enriched
    · cases loaded

def toolCall : String := "\x7b\"id\":1,\"method\":\"tools/call\"\x7d"

def toolResult : String := "\x7b\"id\":1,\"result\":null\x7d"

def callTable : List (String × Json) :=
  [(toolCall, .obj [("id", .num 1 0), ("method", .str "tools/call")]),
    (toolResult, .obj [("id", .num 1 0), ("result", .null)])]

def callPlatform : BridgePlatform := tabled callTable (by decide +kernel)

/-- A recovery that comes to what it is told. -/
def toldTransport : RecoverTransport Unit (Except String Endpoint) :=
  fun answer state => (⟨true, answer⟩, state)

def oldEndpoint : Endpoint := ⟨"http://127.0.0.1:8000/mcp", "old"⟩

def newEndpoint : Endpoint := ⟨"http://127.0.0.1:8001/mcp", "new"⟩

def answerOk (body : String) : Exchange :=
  .answered { status := 200, contentType := some "application/json", body := ascii body }

/-- The gateway is gone, comes back elsewhere, and answers. -/
def movedGateway : List (Round (Except String Endpoint)) :=
  [⟨.connectFails "refused", .ok newEndpoint, .connectFails ""⟩,
    ⟨answerOk toolResult, .error "", .connectFails ""⟩]

theorem replay_safety_tool_call : ∃ first second : FramePost,
    framePosts (forwardRequestWithRecovery callPlatform (some toldTransport)
      ⟨ascii toolCall, some "tools/call", none⟩ oldEndpoint none movedGateway ()).events =
        [first, second] ∧
      (bridgeReplayPolicy callPlatform (ascii toolCall) = .ok .safe ∨
        Unadmitted callPlatform first.endpoint first.sessionId first.exchange) ∧
      ∃ error reply, postMcpHttp callPlatform oldEndpoint.mcpUrl "old" (ascii toolCall) (some "s")
          forwardingTimeouts (isMcpTransientWarmingBody callPlatform)
          (.answered { status := 404 }) = some (.ok (.error error)) ∧
        Exchange.answered { status := 404 } = .answered reply ∧
          (reply.status = 503 ∨ reply.status = 404) := by
  obtain ⟨first, second, posts⟩ := List.length_eq_two.mp (by decide +kernel :
    (framePosts (forwardRequestWithRecovery callPlatform (some toldTransport)
      ⟨ascii toolCall, some "tools/call", none⟩ oldEndpoint none movedGateway ()).events).length =
        2)
  obtain ⟨reply, same, denied⟩ := (replay_safety callPlatform).2 oldEndpoint.mcpUrl "old"
    (ascii toolCall) (some "s") forwardingTimeouts (isMcpTransientWarmingBody callPlatform)
    (.answered { status := 404 }) _ (by decide) rfl trivial rfl (.inr rfl)
  refine ⟨first, second, posts, ?_, _, reply, rfl, same, ?_⟩
  · exact (replay_safety callPlatform).1 _ _ _ _ _ _ [] [] first second posts
  · rcases denied with ⟨warming, -⟩ | ⟨gone, -⟩
    · exact .inl warming
    · exact .inr gone

end Tela.Bridge
