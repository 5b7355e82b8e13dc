import Tela.Library.Play
import Tela.Shell.DownstreamRecovery

/-!
# The retry of a call

One `call_tool` in an environment that answers as it likes. A second dispatch follows
only a first that is known not to have been taken up, and a recovery that succeeded.
-/

namespace Tela.SafeRetry

open Coop (Coro Follows Monitor Player Move)

/-! ## What a recovery does not do -/

/-- A recovery makes no call, and does not mark where it starts and ends. -/
def silentAct : Act → Prop
  | .attemptFailed => False
  | .recovered _ => False
  | _ => True

def silentWait : Wait → Prop
  | .callTool _ _ _ => False
  | _ => True

def silence : Monitor sig Unit where
  may a _ := silentAct a
  after _ _ := id
  mayWait w _ := silentWait w
  woken _ _ := id
  mayTime _ := True
  mayTime_after := id
  mayTime_woken := id

section Rules

variable {α β : Type} {Q : α → Prop}

/-- The program makes no call, and returns what `onRet` says. -/
abbrev Silent (onRet : α → Prop) (x : Prog α) : Prop :=
  Follows silence (fun value _ => onRet value) (fun _ _ => True) x ()

theorem silent_bind {x : Prog β} {rest : β → Prog α} {P : β → Prop} (first : Silent P x)
    (second : ∀ value, P value → Silent Q (rest value)) : Silent Q (x >>= rest) :=
  Follows.bind_iff.mpr (first.mono (fun value _ holds => second value holds) fun _ _ h => h)

theorem silent_seq {x : Prog β} {rest : β → Prog α} (first : Silent (fun _ => True) x)
    (second : ∀ value, Silent Q (rest value)) : Silent Q (x >>= rest) :=
  silent_bind first fun value _ => second value

theorem silent_attempt {x : Prog β} {rest : Except PyException β → Prog α} {P : β → Prop}
    (first : Silent P x) (ok : ∀ value, P value → Silent Q (rest (.ok value)))
    (failed : ∀ exc, Silent Q (rest (.error exc))) : Silent Q (x.attempt >>= rest) :=
  (Follows.bind_iff.trans Follows.attempt_iff).mpr
    (first.mono (fun value _ holds => ok value holds) fun exc _ _ => failed exc)

theorem silent_act {a : Act} (silent : silentAct a) : Silent (fun _ => True) (act a) :=
  ⟨silent, fun _ => trivial⟩

theorem silent_pause {w : Wait} (silent : silentWait w) : Silent (fun _ => True) (pause w) :=
  Follows.await_iff.mpr ⟨silent, fun _ => trivial, fun _ => trivial⟩

theorem silent_waitFor {limit : Nat} {body : Prog α} (inner : Silent Q body) :
    Silent Q (waitFor limit body) :=
  Follows.within trivial (inner.mono (fun _ _ h => h) fun _ _ _ => ⟨trivial, trivial⟩)

theorem silent_withLock {lock : LockName} {body : Prog α} (inner : Silent Q body) :
    Silent Q (withLock lock body) := by
  refine silent_seq (silent_pause trivial) fun _ => Follows.ensure (inner.mono ?_ fun _ _ _ => ?_)
  · exact fun _ _ holds => ⟨trivial, fun _ => holds⟩
  · exact ⟨trivial, fun _ => trivial⟩

theorem silent_locked {lock : LockName} (a : Act) (silent : silentAct a) :
    Silent (fun _ => True) (withLock lock (act a)) :=
  silent_withLock (silent_act silent)

end Rules

section Programs

variable {serverName : String} {serverConfig : ServerConfig} {handle : ClientHandle}
  {deadline : Nat} {rawTools : List RawTool}

theorem silent_close : Silent (fun _ => True) (closeHandleBestEffort handle) :=
  silent_seq (silent_act trivial) fun _ =>
    silent_attempt (silent_pause trivial) (fun _ _ => trivial) fun _ => trivial

theorem silent_abandonConnect {session : Option SessionId} {failure : PyException → String}
    {exc : PyException} : Silent (fun _ => True) (abandonConnect session failure exc) := by
  have close : Silent (fun _ => True) (if exc.isCancelled then do
      let _ ← (pause .aclose).attempt
      .raise exc
    else do
      pause .aclose
      return .error (failure exc) : Prog (Except String ClientHandle)) := by
    split
    · exact silent_attempt (silent_pause trivial) (fun _ _ => trivial) fun _ => trivial
    · exact silent_seq (silent_pause trivial) fun _ => trivial
  unfold abandonConnect
  cases session with
  | none => exact close
  | some session => exact silent_seq (silent_act trivial) fun _ => close

theorem silent_openTransportClient {failure : PyException → String} :
    Silent (fun _ => True) (openTransportClient serverName serverConfig failure) := by
  refine silent_attempt (silent_pause trivial) (fun _ _ => ?_) fun _ => silent_abandonConnect
  refine silent_seq (silent_act trivial) fun session => ?_
  refine silent_attempt (silent_pause trivial) (fun _ _ => ?_) fun _ => silent_abandonConnect
  exact silent_seq (silent_act trivial) fun _ => trivial

theorem silent_openClientForServer :
    Silent (fun _ => True) (openClientForServer serverName serverConfig) := by
  unfold openClientForServer
  split
  · exact trivial
  · split
    · exact silent_openTransportClient
    · split
      · unfold openSseClient
        split
        · exact trivial
        · exact silent_openTransportClient
      · unfold openStreamableHttpClient
        split
        · exact trivial
        · exact silent_openTransportClient

theorem silent_enumerateClientTools :
    Silent (fun _ => True) (enumerateClientTools serverName handle) := by
  refine silent_seq ?_ fun result => ?_
  · refine silent_attempt (silent_pause trivial) (fun _ _ => trivial) fun exc => ?_
    dsimp only
    split <;> exact trivial
  · cases result <;> exact trivial

theorem silent_onServerReconnect :
    Silent (fun _ => True) (onServerReconnect serverName serverConfig rawTools) := by
  refine silent_seq (silent_withLock (silent_seq (silent_act trivial) fun outcome => ?_))
    fun outcome => ?_
  · cases outcome with
    | error exc => exact trivial
    | ok outcome => cases outcome <;> exact trivial
  · unfold settleConvergence
    split
    · exact silent_seq (silent_pause trivial) fun _ => trivial
    · refine silent_seq (silent_seq (silent_act trivial) fun registered => ?_) fun _ => trivial
      cases registered with
      | false => exact trivial
      | true => exact silent_seq (silent_locked .exposedToolNames trivial) fun _ => silent_pause trivial

/-- An error of a recovery says how far the recovery got. -/
def Diagnosed (serverName : String) (error : TelaError) : Prop :=
  ∃ stage text missing, error = buildRecoveryError serverName true true stage text missing ∧
    (stage = .reconnectStarted ∨ stage = .convergenceRejected ∨ stage = .recoveryTimeout)

theorem diagnosed_reconnect {text : String} {missing : Option Bool} :
    Diagnosed serverName
      (buildRecoveryError serverName true true .reconnectStarted text missing) :=
  ⟨_, _, _, rfl, .inl rfl⟩

theorem diagnosed_rejected {text : String} :
    Diagnosed serverName (recoveryError serverName .convergenceRejected text) :=
  ⟨_, _, _, rfl, .inr (.inl rfl)⟩

theorem diagnosed_timeout {text : String} :
    Diagnosed serverName (recoveryError serverName .recoveryTimeout text) :=
  ⟨_, _, _, rfl, .inr (.inr rfl)⟩

/-- A failed recovery returns such an error. -/
def Explains {α : Type} (serverName : String) (result : Except TelaError α) : Prop :=
  ∀ error, result = .error error → Diagnosed serverName error

theorem explains_ok {α : Type} {value : α} : Explains serverName (.ok value) := by
  rintro error ⟨⟩

theorem explains_error {α : Type} {error : TelaError} (diagnosed : Diagnosed serverName error) :
    Explains serverName (.error error : Except TelaError α) := by
  rintro _ ⟨⟩
  exact diagnosed

/-- The recovery step makes no call and explains its failures. -/
abbrev Explained (serverName : String) (x : Prog RecoveryOutcome) : Prop :=
  Silent (fun outcome => Explains serverName outcome.1) x

theorem silent_getRuntimeServerConfig :
    Silent (Explains serverName) (getRuntimeServerConfig serverName) := by
  refine silent_seq (silent_act trivial) fun runtimeConfig => ?_
  change Explains serverName (runtimeServerConfig serverName runtimeConfig)
  unfold runtimeServerConfig
  split
  · exact explains_error diagnosed_reconnect
  · split
    · exact explains_ok
    · exact explains_error diagnosed_reconnect

theorem silent_acquireRecoveryLock :
    Silent (Explains serverName) (acquireRecoveryLock serverName deadline) := by
  refine silent_seq (silent_locked (.fetchRecoveryLock serverName) trivial) fun _ => silent_seq (silent_act trivial) fun now => ?_
  change Silent _ (if _ then _ else _)
  split
  · exact explains_error diagnosed_timeout
  · refine silent_attempt (silent_waitFor (silent_pause trivial)) (fun _ _ => explains_ok) fun exc => ?_
    dsimp only
    split
    · exact explains_error diagnosed_timeout
    · exact trivial

theorem silent_dropClient : Silent (fun _ => True) (dropClientForServer serverName) := by
  refine silent_seq (silent_locked (.dropClient serverName) trivial) fun handle => ?_
  cases handle with
  | none => exact trivial
  | some handle => exact silent_close

theorem explained_failMissingConfig {error : TelaError} (diagnosed : Diagnosed serverName error) :
    Explained serverName (failMissingConfig serverName error) := by
  unfold failMissingConfig
  split
  · exact silent_seq silent_dropClient fun _ => explains_error diagnosed
  · exact explains_error diagnosed

theorem explained_failAfterOpen {stage : RecoveryStage} {text : String}
    (diagnosed : Diagnosed serverName (recoveryError serverName stage text)) :
    Explained serverName
      (failAfterOpen serverName handle stage text) :=
  silent_seq silent_close fun _ => explains_error diagnosed

theorem explained_late {exc : PyException} {late : String} :
    Explained serverName
      (if exc.isTimeout then failAfterOpen serverName handle .recoveryTimeout late
      else .raise exc) := by
  split
  · exact explained_failAfterOpen diagnosed_timeout
  · exact trivial

theorem explained_swap {previous : List ResolvedTool} :
    Explained serverName
      (swapRecoveredClient serverName serverConfig handle previous) := by
  refine silent_bind silent_getRuntimeServerConfig fun config explains => ?_
  cases config with
  | error error =>
      exact silent_seq silent_close fun _ => silent_seq (silent_locked (.rollback serverName previous) trivial) fun _ =>
        explained_failMissingConfig (explains error rfl)
  | ok preSwapConfig =>
      dsimp only
      split
      · exact silent_seq silent_close fun _ => silent_seq (silent_locked (.rollback serverName previous) trivial) fun _ =>
          explains_error diagnosed_reconnect
      · refine silent_seq (silent_locked (.swapClient serverName handle) trivial) fun old => ?_
        cases old with
        | none => exact explains_ok
        | some old => exact silent_seq silent_close fun _ => explains_ok

theorem explained_converge :
    Explained serverName
      (convergeRecovered serverName deadline serverConfig handle rawTools) := by
  refine silent_seq (silent_locked (.readTools serverName) trivial) fun _ => silent_seq (silent_act trivial) fun now => ?_
  change Silent _ (if _ then _ else _)
  split
  · exact explained_failAfterOpen diagnosed_timeout
  · refine silent_attempt (silent_waitFor silent_onServerReconnect) (fun result _ => ?_)
      fun _ => explained_late
    cases result with
    | error error => exact explained_failAfterOpen diagnosed_rejected
    | ok _ => exact explained_swap

theorem explained_checkEnumerated :
    Explained serverName
      (checkEnumeratedConfig serverName deadline serverConfig handle rawTools) := by
  refine silent_bind silent_getRuntimeServerConfig fun config explains => ?_
  cases config with
  | error error =>
      exact silent_seq silent_close fun _ => explained_failMissingConfig (explains error rfl)
  | ok latest =>
      dsimp only
      split
      · exact explained_failAfterOpen diagnosed_reconnect
      · exact explained_converge

theorem explained_enumerate :
    Explained serverName
      (enumerateRecovered serverName deadline serverConfig handle) := by
  refine silent_seq (silent_act trivial) fun now => ?_
  change Silent _ (if _ then _ else _)
  split
  · exact explained_failAfterOpen diagnosed_timeout
  · refine silent_attempt (silent_waitFor silent_enumerateClientTools) (fun result _ => ?_)
      fun _ => explained_late
    cases result with
    | error error => exact explained_failAfterOpen diagnosed_reconnect
    | ok rawTools => exact explained_checkEnumerated

theorem explained_reopen :
    Explained serverName
      (reopenClient serverName deadline serverConfig) := by
  refine silent_seq (silent_act trivial) fun now => ?_
  change Silent _ (if _ then _ else _)
  split
  · exact explains_error diagnosed_timeout
  · refine silent_attempt (silent_waitFor silent_openClientForServer) (fun result _ => ?_)
      fun exc => ?_
    · cases result with
      | error error => exact explains_error diagnosed_reconnect
      | ok handle => exact explained_enumerate
    · dsimp only
      split
      · exact explains_error diagnosed_timeout
      · exact trivial

theorem silent_recoverServerClient :
    Silent (Explains serverName) (recoverServerClient serverName deadline) := by
  refine silent_bind silent_acquireRecoveryLock fun acquired explains => ?_
  cases acquired with
  | error error => exact explains_error (explains error rfl)
  | ok lock =>
      have locked : Explained serverName
          (recoverLocked serverName deadline lock.2) := by
        refine silent_bind silent_getRuntimeServerConfig fun config explains => ?_
        cases config with
        | error error => exact explained_failMissingConfig (explains error rfl)
        | ok serverConfig =>
            dsimp only
            split
            · refine silent_seq (silent_locked (.readClientAndTools serverName) trivial) fun found => ?_
              change Silent _ (if _ then _ else _)
              split
              · exact explains_ok
              · exact explained_reopen
            · exact explained_reopen
      refine silent_attempt locked (fun outcome explains => ?_) fun exc => ?_
      · refine silent_seq (silent_act trivial) fun _ => ?_
        obtain ⟨result, shouldPruneLock⟩ := outcome
        dsimp only
        split
        · exact silent_seq (silent_locked (.pruneRecoveryLock serverName) trivial) fun _ => explains
        · exact explains
      · exact silent_seq (silent_act trivial) fun _ => trivial

end Programs

/-! ## Dispatches -/

/-- A call that was sent to a session; no outcome stands for a lapse. -/
structure Dispatch where
  session : SessionId
  toolName : String
  arguments : JsonObject
  outcome : Option (Except PyException Json)

def dispatch : Move sig PyException → Option Dispatch
  | .waited (.callTool session toolName arguments) outcome =>
      some ⟨session, toolName, arguments, some outcome⟩
  | .lapsed (.callTool session toolName arguments) => some ⟨session, toolName, arguments, none⟩
  | _ => none

def dispatches (moves : List (Move sig PyException)) : List Dispatch := moves.filterMap dispatch

/-- A recovery starts. -/
def startsRecovery : Move sig PyException → Bool
  | .acted .attemptFailed _ => true
  | _ => false

/-- The recovery of the server has succeeded. -/
def endsRecovery (serverName : String) : Move sig PyException → Bool
  | .acted (.recovered other) _ => other = serverName
  | _ => false

/-- The call failed in a way that shows the session did not take it up. -/
def Dispatch.Untaken (sent : Dispatch) : Prop :=
  ∃ exc, sent.outcome = some (.error exc) ∧ isRecoveryEligibleException exc = true

/-- What `call_tool` was asked for. -/
structure Call where
  serverName : String
  toolName : String
  arguments : JsonObject

/-- A dispatch is the first, or follows a recovery and dispatches that were not taken up. -/
def Justified (call : Call) (before : List (Move sig PyException)) (move : Move sig PyException) :
    Prop :=
  ∀ sent, dispatch move = some sent →
    sent.toolName = call.toolName ∧ sent.arguments = call.arguments ∧
      (before.any startsRecovery = false ∧ dispatches before = [] ∨
        before.any (endsRecovery call.serverName) = true ∧
          ∀ earlier ∈ dispatches before, earlier.Untaken)

/-- The stage of an error, by whether a recovery was started and whether it succeeded. -/
def Reached (stage : RecoveryStage) (attempted recovered : Bool) : Prop :=
  match attempted, recovered with
  | false, _ => stage = .notAttempted
  | true, false => stage = .reconnectStarted ∨ stage = .convergenceRejected ∨ stage = .recoveryTimeout
  | true, true => stage = .retryFailed ∨ stage = .recoveryTimeout

/-- What holds of a finished call and its history. -/
structure Handled (call : Call) (result : Except PyException (Except TelaError Json))
    (moves : List (Move sig PyException)) : Prop where
  justified : Coop.Along (Justified call) moves
  twice : (dispatches moves).length ≤ 2
  returned : ∀ payload, result = .ok (.ok payload) ↔
    ∃ sent ∈ dispatches moves, sent.outcome = some (.ok payload)
  truthful : ∀ error, result = .ok (.error error) → ∃ stage text missing,
    error = buildRecoveryError call.serverName (moves.any startsRecovery)
      (moves.any startsRecovery) stage text missing ∧
    Reached stage (moves.any startsRecovery) (moves.any (endsRecovery call.serverName))
  raised : ∀ exc, result = .error exc → exc.isException = true →
    .waited (.acquire .registry) (.error exc) ∈ moves ∨
      moves.any startsRecovery = true ∧ moves.any (endsRecovery call.serverName) = false

/-! ## The history so far -/

section History

variable {call : Call} {moves added : List (Move sig PyException)} {sent : List Dispatch}
  {attempted recovered : Bool}

/-- What the moves so far amount to. -/
structure Sofar (call : Call) (moves : List (Move sig PyException)) (sent : List Dispatch)
    (attempted recovered : Bool) : Prop where
  justified : Coop.Along (Justified call) moves
  sent : dispatches moves = sent
  attempted : moves.any startsRecovery = attempted
  recovered : moves.any (endsRecovery call.serverName) = recovered

theorem sofar_nil (call : Call) : Sofar call [] [] false false := ⟨.nil, rfl, rfl, rfl⟩

/-- A move that neither dispatches nor marks anything. -/
structure Plain (call : Call) (move : Move sig PyException) : Prop where
  dispatch : dispatch move = none
  starts : startsRecovery move = false
  ends : endsRecovery call.serverName move = false

theorem plain_of_silent {move : Move sig PyException} (silent : silence.Allows () move) :
    Plain call move := by
  cases move with
  | acted a v => cases a <;> first | exact ⟨rfl, rfl, rfl⟩ | exact silent.elim
  | waited w outcome => cases w <;> first | exact ⟨rfl, rfl, rfl⟩ | exact silent.elim
  | lapsed w => cases w <;> first | exact ⟨rfl, rfl, rfl⟩ | exact silent.elim

theorem Sofar.append (sofar : Sofar call moves sent attempted recovered)
    (plain : ∀ move ∈ added, Plain call move) :
    Sofar call (moves ++ added) sent attempted recovered where
  justified := by
    refine sofar.justified.append fun before move among sent same => ?_
    rw [(plain move among).dispatch] at same
    cases same
  sent := by
    have none : added.filterMap dispatch = [] :=
      List.filterMap_eq_nil_iff.mpr fun move among => (plain move among).dispatch
    rw [dispatches, List.filterMap_append, none, List.append_nil]
    exact sofar.sent
  attempted := by
    have none : added.any startsRecovery = false :=
      List.any_eq_false.mpr fun move among => by simp [(plain move among).starts]
    rw [List.any_append, none, Bool.or_false, sofar.attempted]
  recovered := by
    have none : added.any (endsRecovery call.serverName) = false :=
      List.any_eq_false.mpr fun move among => by simp [(plain move among).ends]
    rw [List.any_append, none, Bool.or_false, sofar.recovered]

theorem Sofar.concat (sofar : Sofar call moves sent attempted recovered)
    (move : Move sig PyException) (plain : Plain call move) :
    Sofar call (moves ++ [move]) sent attempted recovered :=
  sofar.append (List.forall_mem_singleton.mpr plain)

theorem Sofar.start (sofar : Sofar call moves sent attempted recovered) (v : Unit) :
    Sofar call (moves ++ [.acted .attemptFailed v]) sent true recovered where
  justified := sofar.justified.concat (by rintro _ ⟨⟩)
  sent := by
    rw [dispatches, List.filterMap_append]
    exact (List.append_nil _).trans sofar.sent
  attempted := by simp [startsRecovery]
  recovered := by
    rw [List.any_append, sofar.recovered]
    exact Bool.or_false _

theorem Sofar.finish {v : Unit} (sofar : Sofar call moves sent attempted recovered) :
    Sofar call (moves ++ [.acted (.recovered call.serverName) v]) sent attempted true where
  justified := sofar.justified.concat (by rintro _ ⟨⟩)
  sent := by
    rw [dispatches, List.filterMap_append]
    exact (List.append_nil _).trans sofar.sent
  attempted := by
    rw [List.any_append, sofar.attempted]
    exact Bool.or_false _
  recovered := by simp [endsRecovery]

/-- A call is sent. -/
theorem Sofar.dispatch {session : SessionId} {outcome : Option (Except PyException Json)}
    (sofar : Sofar call moves sent attempted recovered) (move : Move sig PyException)
    (same : dispatch move = some ⟨session, call.toolName, call.arguments, outcome⟩)
    (first : attempted = false ∧ sent = [] ∨
      recovered = true ∧ ∀ earlier ∈ sent, earlier.Untaken) :
    Sofar call (moves ++ [move]) (sent ++ [⟨session, call.toolName, call.arguments, outcome⟩])
      attempted recovered := by
  have unmarked : startsRecovery move = false ∧ endsRecovery call.serverName move = false := by
    cases move with
    | acted a v => cases same
    | waited w outcome => exact ⟨rfl, rfl⟩
    | lapsed w => exact ⟨rfl, rfl⟩
  refine ⟨sofar.justified.concat fun other found => ?_, ?_, ?_, ?_⟩
  · rw [same] at found
    cases found
    refine ⟨rfl, rfl, ?_⟩
    rw [sofar.attempted, sofar.recovered, sofar.sent]
    exact first
  · rw [dispatches, List.filterMap_append, List.filterMap_cons, same]
    exact congrArg (· ++ _) sofar.sent
  · simp [sofar.attempted, unmarked.1]
  · simp [sofar.recovered, unmarked.2]

/-- Only dispatches that were not taken up. -/
def Untaken (sent : List Dispatch) : Prop :=
  sent.length ≤ 1 ∧ ∀ earlier ∈ sent, earlier.Untaken

theorem Untaken.unanswered {payload : Json} (untaken : Untaken sent) :
    ¬ ∃ earlier ∈ sent, earlier.outcome = some (.ok payload) := by
  rintro ⟨earlier, among, answered⟩
  obtain ⟨exc, failed, -⟩ := untaken.2 earlier among
  rw [answered] at failed
  cases failed

theorem Untaken.few (untaken : Untaken sent) (last : Dispatch) : (sent ++ [last]).length ≤ 2 := by
  rw [List.length_append]
  exact Nat.add_le_add_right untaken.1 1

/-- What the history so far says of the finished call. -/
theorem Sofar.handled {result : Except PyException (Except TelaError Json)}
    (sofar : Sofar call moves sent attempted recovered) (few : sent.length ≤ 2)
    (returned : ∀ payload, result = .ok (.ok payload) ↔
      ∃ earlier ∈ sent, earlier.outcome = some (.ok payload))
    (truthful : ∀ error, result = .ok (.error error) → ∃ stage text missing,
      error = buildRecoveryError call.serverName attempted attempted stage text missing ∧
        Reached stage attempted recovered)
    (raised : ∀ exc, result = .error exc → exc.isException = true →
      .waited (.acquire .registry) (.error exc) ∈ moves ∨ attempted = true ∧ recovered = false) :
    Handled call result moves := by
  obtain ⟨justified, rfl, rfl, rfl⟩ := sofar
  exact ⟨justified, few, returned, truthful, raised⟩

end History

/-! ## The call -/

section Calls

variable {call : Call} {moves : List (Move sig PyException)} {sent : List Dispatch}
  {deadline : Nat}

/-- Reading the client adds moves that say nothing, or ends with the wait for the lock. -/
theorem leads_readClient {α : Type} {serverName : String} {attempted recovered : Bool}
    {Q : Except PyException α → List (Move sig PyException) → Prop}
    {rest : Option ClientHandle → Prog α} (sofar : Sofar call moves sent attempted recovered)
    (interrupted : ∀ exc moves, Sofar call moves sent attempted recovered →
      .waited (.acquire .registry) (.error exc) ∈ moves → Q (.error exc) moves)
    (read : ∀ client moves, Sofar call moves sent attempted recovered →
      (rest client).Leads Q moves) :
    Coro.Leads Q (withLock .registry (act (.readClient serverName)) >>= rest) moves := by
  intro outcome
  have acquired := sofar.concat (.waited (.acquire .registry) outcome) ⟨rfl, rfl, rfl⟩
  cases outcome with
  | error exc => exact interrupted exc _ acquired (by simp)
  | ok _ =>
      intro client released
      refine read client _ ?_
      exact (acquired.concat (.acted (.readClient serverName) client) ⟨rfl, rfl, rfl⟩).concat
        (.acted (.release .registry) released) ⟨rfl, rfl, rfl⟩

/-- A result without a payload is in order when no dispatch brought one. -/
theorem handled_error {recovered : Bool} {stage : RecoveryStage} {text : String}
    {missing : Option Bool} (sofar : Sofar call moves sent true recovered) (few : sent.length ≤ 2)
    (unanswered : ∀ payload, ¬ ∃ earlier ∈ sent, earlier.outcome = some (.ok payload))
    (reached : Reached stage true recovered) :
    Handled call (.ok (.error (buildRecoveryError call.serverName true true stage text missing)))
      moves := by
  refine sofar.handled few (fun payload => ⟨by rintro ⟨⟩, fun held => (unanswered payload held).elim⟩)
    ?_ (by rintro _ ⟨⟩)
  rintro _ ⟨⟩
  exact ⟨stage, text, missing, rfl, reached⟩

theorem handled_raised {attempted recovered : Bool} {exc : PyException}
    (sofar : Sofar call moves sent attempted recovered) (few : sent.length ≤ 2)
    (unanswered : ∀ payload, ¬ ∃ earlier ∈ sent, earlier.outcome = some (.ok payload))
    (raised : exc.isException = true → .waited (.acquire .registry) (.error exc) ∈ moves ∨
      attempted = true ∧ recovered = false) :
    Handled call (.error exc) moves := by
  refine sofar.handled few (fun payload => ⟨by rintro ⟨⟩, fun held => (unanswered payload held).elim⟩)
    (by rintro _ ⟨⟩) ?_
  rintro _ ⟨⟩
  exact raised

/-- The last dispatch and what came of it. -/
theorem unanswered_append (untaken : Untaken sent) (last : Dispatch)
    (failed : ∀ payload, last.outcome ≠ some (.ok payload)) (payload : Json) :
    ¬ ∃ earlier ∈ sent ++ [last], earlier.outcome = some (.ok payload) := by
  rintro ⟨earlier, among, answered⟩
  obtain before | rfl := List.mem_append.mp among |>.imp_right List.mem_singleton.mp
  · exact untaken.unanswered ⟨earlier, before, answered⟩
  · exact failed payload answered

theorem handled_payload {attempted recovered : Bool} {session : SessionId} {payload : Json}
    (sent : List Dispatch) (sofar : Sofar call moves
      (sent ++ [⟨session, call.toolName, call.arguments, some (.ok payload)⟩]) attempted recovered)
    (untaken : Untaken sent) : Handled call (.ok (.ok payload)) moves := by
  refine sofar.handled (untaken.few _) (fun other => ⟨?_, ?_⟩) (by rintro _ ⟨⟩) (by rintro _ ⟨⟩)
  · rintro ⟨⟩
    exact ⟨_, List.mem_append_right sent (List.mem_singleton_self _), rfl⟩
  · rintro ⟨earlier, among, answered⟩
    obtain before | rfl := List.mem_append.mp among |>.imp_right List.mem_singleton.mp
    · exact (untaken.unanswered ⟨earlier, before, answered⟩).elim
    · cases answered
      rfl

/-- The retry sends the call once more, if the recovered client is there in time. -/
theorem leads_retryCall (sofar : Sofar call moves sent true true) (untaken : Untaken sent) :
    (retryCall call.serverName call.toolName call.arguments deadline).Leads (Handled call)
      moves := by
  have few : sent.length ≤ 2 := Nat.le_succ_of_le untaken.1
  refine leads_readClient sofar ?_ ?_
  · intro exc moves sofar waited
    exact handled_raised sofar few (fun _ => untaken.unanswered) fun _ => .inl waited
  · intro client moves sofar
    cases client with
    | none => exact handled_error sofar few (fun _ => untaken.unanswered) (.inl rfl)
    | some client =>
        intro now
        have sofar := sofar.concat (.acted .monotonic now) ⟨rfl, rfl, rfl⟩
        change Coro.Leads (Handled call) (if deadline ≤ now then _ else _) _
        split
        · exact handled_error sofar few (fun _ => untaken.unanswered) (.inr rfl)
        · refine ⟨fun outcome => ?_, ?_⟩
          · have sofar := sofar.dispatch
              (.waited (.callTool client.session call.toolName call.arguments) outcome)
              rfl (.inr ⟨rfl, untaken.2⟩)
            cases outcome with
            | ok payload => exact handled_payload sent sofar untaken
            | error exc =>
                have unanswered := unanswered_append untaken ⟨client.session, call.toolName,
                  call.arguments, some (.error exc)⟩ (by rintro payload ⟨⟩)
                change Coro.Leads (Handled call) (if exc.isTimeout = true then _ else _) _
                split
                · exact handled_error sofar (untaken.few _) unanswered (.inr rfl)
                · change Coro.Leads (Handled call) (if exc.isException = true then _ else _) _
                  split
                  · exact handled_error sofar (untaken.few _) unanswered (.inl rfl)
                  · rename_i cancelled
                    exact handled_raised sofar (untaken.few _) unanswered fun ordinary =>
                      absurd ordinary cancelled
          · have sofar := sofar.dispatch
              (.lapsed (.callTool client.session call.toolName call.arguments))
              rfl (.inr ⟨rfl, untaken.2⟩)
            exact handled_error sofar (untaken.few _) (unanswered_append untaken _ (by rintro payload ⟨⟩))
              (.inr rfl)

theorem leads_recoverAndRetry (sofar : Sofar call moves sent false false)
    (untaken : Untaken sent) :
    (recoverAndRetry call.serverName call.toolName call.arguments deadline).Leads (Handled call)
      moves := by
  have few : sent.length ≤ 2 := Nat.le_succ_of_le untaken.1
  intro v
  change Coro.Leads _ (recoverServerClient call.serverName deadline >>= fun result => _) _
  refine Coro.Leads.bind (Coro.Leads.of_follows silent_recoverServerClient ?_)
  intro result added silent explains
  have sofar := (sofar.start v).append fun move among => plain_of_silent (silent move among)
  cases result with
  | error exc => exact handled_raised sofar few (fun _ => untaken.unanswered) fun _ => .inr ⟨rfl, rfl⟩
  | ok result =>
      cases result with
      | error error =>
          obtain ⟨stage, text, missing, rfl, reached⟩ := explains _ rfl error rfl
          exact handled_error sofar few (fun _ => untaken.unanswered) reached
      | ok _ =>
          intro v
          exact leads_retryCall sofar.finish untaken

theorem leads_callTool :
    (callTool call.serverName call.toolName call.arguments).Leads (Handled call) [] := by
  have nothing : Untaken [] := ⟨Nat.zero_le 1, List.forall_mem_nil _⟩
  refine leads_readClient (sofar_nil call) ?_ ?_
  · intro exc moves sofar waited
    exact handled_raised sofar (Nat.zero_le 2) (fun _ => nothing.unanswered) fun _ => .inl waited
  · intro client moves sofar started
    have sofar := sofar.concat (.acted .monotonic started) ⟨rfl, rfl, rfl⟩
    cases client with
    | none => exact leads_recoverAndRetry sofar nothing
    | some client =>
        intro outcome
        have sofar := sofar.dispatch
          (.waited (.callTool client.session call.toolName call.arguments) outcome)
          rfl (.inl ⟨rfl, rfl⟩)
        cases outcome with
        | ok payload => exact handled_payload [] sofar nothing
        | error exc =>
            have unanswered := unanswered_append nothing ⟨client.session, call.toolName,
              call.arguments, some (.error exc)⟩ (by rintro payload ⟨⟩)
            change Coro.Leads (Handled call) (if exc.isException = true then _ else _) _
            split
            · change Coro.Leads (Handled call)
                (if isRecoveryEligibleException exc = true then _ else _) _
              split
              · rename_i eligible
                exact leads_recoverAndRetry sofar ⟨Nat.le_refl 1,
                  List.forall_mem_singleton.mpr ⟨exc, rfl, eligible⟩⟩
              · refine sofar.handled (Nat.le_succ 1)
                  (fun payload => ⟨by rintro ⟨⟩, fun held => (unanswered payload held).elim⟩) ?_
                  (by rintro _ ⟨⟩)
                rintro _ ⟨⟩
                exact ⟨.notAttempted, _, _, rfl, rfl⟩
            · rename_i cancelled
              exact handled_raised sofar (Nat.le_succ 1) unanswered fun ordinary =>
                absurd ordinary cancelled

/--
However the sessions, the other tasks, the clock and the steps of a recovery behave, one
`call_tool` dispatches twice at most, a second time only after the first is known not to
have been taken up and the recovery succeeded; it returns a payload exactly when a
dispatch brought it, reports in every error whether and how far recovery went, and raises
an ordinary exception only out of a recovery or a wait for the registry lock.
-/
theorem single_safe_retry (player : Player sig PyException) (call : Call) :
    Handled call
      ((callTool call.serverName call.toolName call.arguments).play player []).1
      ((callTool call.serverName call.toolName call.arguments).play player []).2 :=
  leads_callTool.play player

end Calls

end Tela.SafeRetry
