import Tela.Properties.BearerAdmission
import Tela.Shell.LifecycleRoutes

/-!
# The contracts of the lifecycle handlers

Each handler answers within the families of its postcondition, unless it is admitted with
an empty identifier. An error answer leaves the connections and registrations alone.
-/

namespace Tela.LifecycleRoutes

/-- The gateway admits the request. -/
def Admits (r : GatewayRuntime) (requestToken expectedToken : String) : Prop :=
  requestToken = expectedToken ∧ r.config.isSome ∧ r.running

/-- Nothing of the connections and the registrations is missing or new. -/
structure Untouched (before after : GatewayRuntime) : Prop where
  connections : after.connections = before.connections
  registrations : after.pendingBridgeRegistrations = before.pendingBridgeRegistrations

/-- The handler returns a result that satisfies the postcondition, and an error only with
everything left in its place. -/
def Answers (post : Except String ConnectReply → Bool) (before : GatewayRuntime)
    (outcome : Except PyException (Except String ConnectReply) × GatewayRuntime) : Prop :=
  ∃ result, outcome.1 = .ok result ∧ post result = true ∧
    ∀ error, result = .error error → Untouched before outcome.2

theorem Untouched.refl (r : GatewayRuntime) : Untouched r r := ⟨rfl, rfl⟩

/-! ## The contract -/

section Contract

variable {post : Except String ConnectReply → Bool} {r after : GatewayRuntime} {name : String}

theorem answers_ensured {result : Except String ConnectReply} (holds : post result = true)
    (quiet : ∀ error, result = .error error → Untouched r after) :
    Answers post r (ensured name post (.ok result, after)) := by
  refine ⟨result, ?_, holds, quiet⟩
  rw [ensured, holds]
  rfl

/-- A result outside the families is not returned. -/
theorem not_answers_ensured {result : Except String ConnectReply} (fails : post result = false) :
    ¬ Answers post r (ensured name post (.ok result, after)) := by
  rintro ⟨_, returned, -⟩
  rw [ensured, fails] at returned
  cases returned

end Contract

theorem started_of_admits {r : GatewayRuntime} {requestToken expectedToken : String}
    (admits : Admits r requestToken expectedToken) : (r.config.isNone || !r.running) = false := by
  obtain ⟨-, configured, running⟩ := admits
  rw [running, ← Option.not_isSome, configured]
  rfl

theorem startsWith_append (head rest : String) : Text.startsWith (head ++ rest) head = true := by
  rw [Text.startsWith_iff, String.toList_append]
  exact List.prefix_append ..

theorem notFound_family (connectionId : String) : isConnectionNotFoundError
    s!"CONNECTION_NOT_FOUND: connection '{connectionId}' not found" = true := by
  have text : s!"CONNECTION_NOT_FOUND: connection '{connectionId}' not found" =
      "CONNECTION_NOT_FOUND" ++ (": connection '" ++ connectionId ++ "' not found") := by
    rw [← String.append_assoc, ← String.append_assoc]
    rfl
  rw [text]
  exact startsWith_append ..

/-! ## Before the identifier matters -/

section Handlers

variable {requestToken expectedToken : String} (request : isAscii requestToken = true)
  (expected : isAscii expectedToken = true) {registry : DownstreamRegistry}
  {startup : StartupTracking} {r : GatewayRuntime}

include request expected

/-- A request that is not admitted is turned down with everything left in its place. -/
theorem refused_of_not_admits (refused : ¬ Admits r requestToken expectedToken) :
    ∃ error, (isAuthError error = true ∨ isGatewayNotStartedError error = true) ∧
      (∀ payload, connectBody registry startup r requestToken expectedToken payload =
        (.ok (.error error), r)) ∧
      ∀ payload, disconnectBody r requestToken expectedToken payload =
        (.ok (.error error), r) := by
  unfold connectBody disconnectBody
  rw [validateBearerToken_ascii request expected]
  by_cases same : requestToken = expectedToken
  · rw [if_pos same]
    have stopped : (r.config.isNone || !r.running) = true := by
      unfold Admits at refused
      cases config : r.config with
      | none => rfl
      | some => simpa [same, config] using refused
    refine ⟨_, .inr ?_, fun _ => if_pos stopped, fun _ => if_pos stopped⟩
    decide
  · rw [if_neg same]
    refine ⟨_, .inl ?_, fun _ => rfl, fun _ => rfl⟩
    decide

/-- Behind the admission only the registration is left. -/
theorem connectBody_of_admits (admits : Admits r requestToken expectedToken)
    (payload : ConnectRequest) :
    connectBody registry startup r requestToken expectedToken payload =
      if payload.serverName = "" then
        (.ok (.error "BRIDGE_REGISTRATION_FAILED: connection_id must not be empty"), r)
      else
        (.ok (.ok ⟨payload.serverName, "connected"⟩), { r with
          pendingBridgeRegistrations :=
            r.pendingBridgeRegistrations.insert payload.serverName }) := by
  unfold connectBody
  rw [validateBearerToken_ascii request expected, if_pos admits.1]
  simp only [started_of_admits admits, Bool.false_eq_true, if_false, getLifecycleStatusFacts,
    GatewayRuntime.registerBridgeConnection]
  by_cases empty : payload.serverName = ""
  · simp only [if_pos empty]
  · simp only [if_neg empty]

/-- An empty identifier is refused only when the connections are already gone. -/
theorem disconnectBody_empty (admits : Admits r requestToken expectedToken) :
    disconnectBody r requestToken expectedToken ⟨""⟩ =
      (.ok (.error "BRIDGE_REGISTRATION_REMOVE_FAILED: connection_id must not be empty"),
        { r with connections := r.connections.filter (·.connectionId ≠ "") }) := by
  unfold disconnectBody
  rw [validateBearerToken_ascii request expected, if_pos admits.1]
  simp only [admittedDisconnect, started_of_admits admits, Bool.false_eq_true, if_false]
  rfl

/-- With a proper identifier everything that belongs to it is removed. -/
theorem disconnectBody_proper (admits : Admits r requestToken expectedToken)
    {payload : DisconnectRequest} (proper : payload.connectionId ≠ "") :
    disconnectBody r requestToken expectedToken payload =
      ( .ok (if (r.removeRuntimeConnection payload.connectionId).1 ||
            r.pendingBridgeRegistrations.contains payload.connectionId then
          .ok ⟨payload.connectionId, "disconnected"⟩
        else .error s!"CONNECTION_NOT_FOUND: connection '{payload.connectionId}' not found")
      , { r with
          connections := r.connections.filter (·.connectionId ≠ payload.connectionId)
          pendingBridgeRegistrations :=
            r.pendingBridgeRegistrations.filter (· ≠ payload.connectionId)
          sessionRegistry := r.sessionRegistry.erase payload.connectionId } ) := by
  unfold disconnectBody
  rw [validateBearerToken_ascii request expected, if_pos admits.1]
  simp only [admittedDisconnect, started_of_admits admits, Bool.false_eq_true, if_false,
    GatewayRuntime.cleanupConnectionById, GatewayRuntime.removeBridgeRegistration, if_neg proper,
    GatewayRuntime.releaseSession]
  by_cases found : ((r.removeRuntimeConnection payload.connectionId).1 ||
      r.pendingBridgeRegistrations.contains payload.connectionId) = true
  · rw [if_pos found]
    exact if_pos found
  · rw [if_neg found]
    exact if_neg found

end Handlers

/-- What is not there is not missing afterwards. -/
theorem untouched_of_absent {r : GatewayRuntime} {connectionId : String}
    (absent : (r.removeRuntimeConnection connectionId).1 = false)
    (unregistered : r.pendingBridgeRegistrations.contains connectionId = false)
    (sessions : Dict String UpstreamSession) :
    Untouched r { r with
      connections := r.connections.filter (·.connectionId ≠ connectionId)
      pendingBridgeRegistrations := r.pendingBridgeRegistrations.filter (· ≠ connectionId)
      sessionRegistry := sessions } := by
  constructor
  · have length : (r.connections.filter (·.connectionId ≠ connectionId)).length =
        r.connections.length := by
      simpa [GatewayRuntime.removeRuntimeConnection] using absent
    exact List.filter_sublist.eq_of_length length
  · apply List.filter_eq_self.mpr
    intro other among
    apply decide_eq_true
    rintro rfl
    rw [List.contains_iff_mem.mpr among] at unregistered
    cases unregistered

/-- Each handler keeps its contract, and an error removes nothing, exactly when it is not admitted
with an empty identifier. -/
theorem lifecycle_handlers_iff {requestToken expectedToken : String}
    (request : isAscii requestToken = true) (expected : isAscii expectedToken = true)
    (registry : DownstreamRegistry) (startup : StartupTracking) (r : GatewayRuntime) :
    (∀ payload : ConnectRequest,
      Answers connectPost r
          (handleConnect registry startup r requestToken expectedToken payload) ↔
        ¬ (Admits r requestToken expectedToken ∧ payload.serverName = "")) ∧
      ∀ payload : DisconnectRequest,
        Answers disconnectPost r (handleDisconnect r requestToken expectedToken payload) ↔
          ¬ (Admits r requestToken expectedToken ∧ payload.connectionId = "") := by
  by_cases admits : Admits r requestToken expectedToken
  · constructor
    · intro payload
      unfold handleConnect
      rw [connectBody_of_admits request expected admits]
      by_cases empty : payload.serverName = ""
      · rw [if_pos empty]
        refine ⟨fun answers => absurd answers (not_answers_ensured ?_), fun proper => ?_⟩
        · decide
        · exact absurd ⟨admits, empty⟩ proper
      · rw [if_neg empty]
        refine ⟨fun _ both => empty both.2, fun _ => answers_ensured ?_ nofun⟩
        rfl
    · intro payload
      unfold handleDisconnect
      by_cases empty : payload.connectionId = ""
      · obtain ⟨connectionId⟩ := payload
        obtain rfl : connectionId = "" := empty
        rw [disconnectBody_empty request expected admits]
        refine ⟨fun answers => absurd answers (not_answers_ensured ?_), fun proper => ?_⟩
        · decide
        · exact absurd ⟨admits, rfl⟩ proper
      · rw [disconnectBody_proper request expected admits empty]
        refine ⟨fun _ both => empty both.2, fun _ => ?_⟩
        cases found : (r.removeRuntimeConnection payload.connectionId).1 ||
            r.pendingBridgeRegistrations.contains payload.connectionId with
        | true =>
            apply answers_ensured
            · rfl
            · exact nofun
        | false =>
            obtain ⟨absent, unregistered⟩ := Bool.or_eq_false_iff.mp found
            apply answers_ensured
            · exact Bool.or_eq_true_iff.mpr (.inr (notFound_family payload.connectionId))
            · intro _ _
              exact untouched_of_absent absent unregistered _
  · obtain ⟨error, family, connect, disconnect⟩ :=
      @refused_of_not_admits _ _ request expected registry startup r admits
    constructor
    · intro payload
      refine ⟨fun _ both => admits both.1, fun _ => ?_⟩
      unfold handleConnect
      rw [connect payload]
      refine answers_ensured ?_ fun _ _ => .refl r
      exact Bool.or_eq_true_iff.mpr family
    · intro payload
      refine ⟨fun _ both => admits both.1, fun _ => ?_⟩
      unfold handleDisconnect
      rw [disconnect payload]
      refine answers_ensured ?_ fun _ _ => .refl r
      exact Bool.or_eq_true_iff.mpr (.inl (Bool.or_eq_true_iff.mpr family))

/-- A started gateway that holds a connection without an identifier. -/
def startedGateway : GatewayRuntime where
  config := some {}
  running := true
  connections := [⟨"", "default", 0, none, none, none, none⟩]

theorem lifecycle_handlers_iff_bridge :
    Answers connectPost startedGateway
        (handleConnect {} {} startedGateway "token" "token" ⟨"bridge_1"⟩) ∧
      Answers disconnectPost startedGateway
        (handleDisconnect startedGateway "token" "token" ⟨"bridge_1"⟩) := by
  obtain ⟨connect, disconnect⟩ :=
    @lifecycle_handlers_iff "token" "token" (by decide) (by decide) {} {} startedGateway
  constructor
  · apply (connect ⟨"bridge_1"⟩).mpr
    exact fun both => absurd both.2 (by decide)
  · apply (disconnect ⟨"bridge_1"⟩).mpr
    exact fun both => absurd both.2 (by decide)

/-- The empty identifier: both handlers raise, and the second has removed the connection by then. -/
theorem lifecycle_handlers_violated :
    (handleConnect {} {} startedGateway "token" "token" ⟨""⟩).1 =
        .error (.assertionError "Postcondition failed for handle_connect") ∧
      ¬ Answers connectPost startedGateway
        (handleConnect {} {} startedGateway "token" "token" ⟨""⟩) ∧
      (handleDisconnect startedGateway "token" "token" ⟨""⟩).1 =
        .error (.assertionError "Postcondition failed for handle_disconnect") ∧
      (handleDisconnect startedGateway "token" "token" ⟨""⟩).2.connections = [] ∧
      ¬ Answers disconnectPost startedGateway
        (handleDisconnect startedGateway "token" "token" ⟨""⟩) := by
  have connect : (handleConnect {} {} startedGateway "token" "token" ⟨""⟩).1 =
      .error (.assertionError "Postcondition failed for handle_connect") := by
    rfl
  have disconnect : (handleDisconnect startedGateway "token" "token" ⟨""⟩).1 =
      .error (.assertionError "Postcondition failed for handle_disconnect") := by
    rfl
  refine ⟨connect, ?_, disconnect, rfl, ?_⟩
  · rintro ⟨_, returned, -⟩
    rw [connect] at returned
    cases returned
  · rintro ⟨_, returned, -⟩
    rw [disconnect] at returned
    cases returned

end Tela.LifecycleRoutes
