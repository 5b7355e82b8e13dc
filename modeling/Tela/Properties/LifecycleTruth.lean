import Tela.Properties.BearerAdmission
import Tela.Properties.SingleFlight

/-!
# What the lifecycle state says

In every run the state that the gateway reports can be read off the servers that are
being started, the registry and the servers that were ever tried, and requests are held
back accordingly.
-/

namespace Tela

open Coop

/-! ## The startup diagnostics -/

/-- A startup is under way with all its servers and without results, or it is over. -/
structure StartupTracking.Tracked (startup : StartupTracking) : Prop where
  complete : startup.complete = startup.inProgress.isEmpty
  underway : startup.inProgress ≠ [] →
    startup.inProgress = startup.attempted ∧ startup.successful = [] ∧ startup.failed = ∅

theorem StartupTracking.tracked_begun (serverNames : List String) :
    StartupTracking.Tracked
      { attempted := serverNames, successful := [], failed := ∅, inProgress := serverNames,
        complete := serverNames.isEmpty } :=
  ⟨rfl, fun _ => ⟨rfl, rfl, rfl⟩⟩

theorem StartupTracking.tracked_over {startup : StartupTracking} (complete : startup.complete = true)
    (inProgress : startup.inProgress = []) : startup.Tracked :=
  ⟨by rw [complete, inProgress]; rfl, fun busy => absurd inProgress busy⟩

/-- Only the writers of the registry touch the diagnostics. -/
theorem startup_exec {task : TaskId} {a : Act} {s : State} (kept : a.writesRegistry = false) :
    (State.exec task a s).2.startup = s.startup := by
  cases a with
  | release lock =>
      obtain ⟨_, _, same⟩ := s.releaseLock_frame task lock
      change (s.releaseLock task lock).startup = s.startup
      rw [same]
  | fetchRecoveryLock serverName =>
      obtain ⟨_, _, same⟩ := s.fetchRecoveryLock_frame serverName
      change (s.fetchRecoveryLock serverName).2.startup = s.startup
      rw [same]
  | pruneRecoveryLock serverName =>
      obtain ⟨_, same⟩ := s.pruneRecoveryLock_frame serverName
      change (s.pruneRecoveryLock serverName).startup = s.startup
      rw [same]
  | getRuntimeConfig =>
      obtain ⟨_, same⟩ := s.getRuntimeConfig_frame task
      change (s.getRuntimeConfig task).2.startup = s.startup
      rw [same]
  | _ => first | rfl | cases kept

theorem tracked_exec {task : TaskId} {a : Act} {s : State} (tracked : s.startup.Tracked) :
    (State.exec task a s).2.startup.Tracked := by
  cases kept : a.writesRegistry with
  | false =>
      rw [startup_exec kept]
      exact tracked
  | true =>
      cases a with
      | resetForConnect serverNames => exact StartupTracking.tracked_begun serverNames
      | failStartup failures => exact StartupTracking.tracked_over rfl rfl
      | publish servers connected allResolved failures => exact StartupTracking.tracked_over rfl rfl
      | resetForDisconnect => exact StartupTracking.tracked_over rfl rfl
      | converge trigger serverName serverConfig rawTools => exact tracked
      | rollback serverName previousTools => exact tracked
      | restoreRegistry snap => exact tracked
      | _ => cases kept

/-- Only blocks change what the lifecycle state is derived from. -/
theorem executed_or_same {c c' : Config world} {event : Event world} (taken : Step c event c') :
    (∃ task a, event = .executed task a ∧ c'.state = (State.exec task a c.state).2) ∨
      (State.startup c'.state = State.startup c.state ∧
        State.registry c'.state = State.registry c.state) := by
  have entered {task : TaskId} {w : Wait} {result : Option w.Res} {state : State}
      (enters : State.enter task w c.state = (result, state)) :
      state.startup = State.startup c.state ∧ state.registry = State.registry c.state := by
    cases result with
    | some result =>
        obtain ⟨_, _, _, rfl⟩ | ⟨_, rfl⟩ := State.enter_passed enters
        · exact ⟨rfl, rfl⟩
        · exact ⟨rfl, rfl⟩
    | none =>
        obtain ⟨_, _, rfl⟩ | ⟨_, rfl⟩ := State.enter_suspended enters
        · exact ⟨rfl, rfl⟩
        · exact ⟨rfl, rfl⟩
  cases taken with
  | admitted idle accepted =>
      obtain ⟨_, _, _, _, rfl⟩ := State.accept_frame accepted
      exact .inr ⟨rfl, rfl⟩
  | executed running => exact .inl ⟨_, _, rfl, rfl⟩
  | passed running enters => exact .inr (entered enters)
  | suspended running enters => exact .inr (entered enters)
  | passedTimed running enters => exact .inr (entered enters)
  | suspendedTimed running enters => exact .inr (entered enters)
  | woken idle waiting ended =>
      obtain ⟨_, _, rfl⟩ := State.wake_frame ended
      exact .inr ⟨rfl, rfl⟩
  | lapsed idle waiting timer ended =>
      obtain ⟨_, _, rfl⟩ | ⟨_, rfl⟩ := State.lapse_locks ended
      · exact .inr ⟨rfl, rfl⟩
      · exact .inr ⟨rfl, rfl⟩
  | returned running => exact .inr ⟨rfl, rfl⟩
  | raised running => exact .inr ⟨rfl, rfl⟩

/-- No step leaves a startup half begun or half over. -/
theorem tracked_step {c c' : Config world} {event : Event world} (taken : Step c event c')
    (tracked : (State.startup c.state).Tracked) : (State.startup c'.state).Tracked := by
  obtain ⟨task, a, -, after⟩ | ⟨same, -⟩ := executed_or_same taken
  · rw [after]
    exact tracked_exec tracked
  · rw [same]
    exact tracked

theorem tracked_reached {start : State} {c : Config world} (begun : start.startup.Tracked)
    (reachable : Reachable start c) : (State.startup c.state).Tracked := by
  induction reachable with
  | start => exact begun
  | step _ _ taken ih => exact tracked_step taken ih

/-! ## Under the registry lock -/

theorem registry_of_may {a : Act} {g : Trace} (writes : a.writesRegistry = true)
    (may : a.may g) : g.registry = true := by
  cases a with
  | resetForConnect serverNames => exact may
  | failStartup failures => exact may.1
  | publish servers connected allResolved failures => exact may.1
  | resetForDisconnect => exact may.1
  | converge trigger serverName serverConfig rawTools => exact may.1
  | rollback serverName previousTools => exact may.1
  | restoreRegistry snap => exact may.1
  | _ => cases writes

/-- Who changes the diagnostics or the registry holds the registry lock. -/
theorem holder_of_changed {start : State} {c c' : Config world} {event : Event world}
    (idle : ∀ lock, start.locks lock = {}) (reachable : Reachable start c)
    (taken : Step c event c')
    (changed : ¬(State.startup c'.state = State.startup c.state ∧
      State.registry c'.state = State.registry c.state)) :
    ∃ task a, event = .executed task a ∧
      (State.locks c.state .registry).holder = some task := by
  obtain ⟨task, a, rfl, after⟩ | same := executed_or_same taken
  · refine ⟨task, a, rfl, ?_⟩
    obtain ⟨v, tracks, fit⟩ := (locksFit_keeps _).reached (locksFit_initial idle) reachable
    rw [← tracks.state, fit.holder]
    refine registry_of_may ?_ (tracks.may_of_step taken)
    cases kept : a.writesRegistry with
    | true => rfl
    | false =>
        have unwritten := State.exec_unwritten task a c.state
        rw [after] at changed
        exact absurd ⟨startup_exec kept, unwritten.registry kept⟩ changed
  · exact absurd same changed

/-! ## The decision chain -/

section Chain

variable {servers connected : List String} {startup : StartupTracking}

theorem lifecycleState_busy (configured : servers ≠ []) (busy : startup.inProgress ≠ []) :
    lifecycleState servers connected startup = (.warming, none) := by
  simp [lifecycleState, configured, busy]

theorem degradedReasonFromFailures_eq_none {failures : Dict String ProviderStartupFailure} :
    degradedReasonFromFailures failures = none ↔ failures.keys = [] := by
  simp [degradedReasonFromFailures]

theorem lifecycleState_warming_iff (complete : startup.complete = startup.inProgress.isEmpty) :
    (lifecycleState servers connected startup).1 = .warming ↔
      servers ≠ [] ∧ (startup.inProgress ≠ [] ∨
        connected = [] ∧ ∃ name ∈ servers, name ∉ startup.attempted) := by
  by_cases configured : servers = []
  · simp [lifecycleState, configured]
  by_cases busy : startup.inProgress = []
  · have finished : startup.complete = true := by rw [complete, busy]; rfl
    cases reason : degradedReasonFromFailures startup.failed with
    | none =>
        by_cases alone : connected = []
        · by_cases untried : ∃ name ∈ servers, name ∉ startup.attempted <;>
            simp [lifecycleState, configured, busy, alone, finished, reason, untried]
        · by_cases few : connected.length < servers.length <;>
            simp [lifecycleState, configured, busy, alone, reason, few]
    | some reason' =>
        by_cases alone : connected = []
        · by_cases untried : ∃ name ∈ servers, name ∉ startup.attempted <;>
            simp [lifecycleState, configured, busy, alone, reason, untried]
        · simp [lifecycleState, configured, busy, alone, reason]
  · simp [lifecycleState_busy configured busy, configured, busy]

/-- Without a connected server the chain only warms or degrades. -/
theorem lifecycleState_alone (configured : servers ≠ []) :
    (lifecycleState servers [] startup).1 ≠ .ready := by
  by_cases busy : startup.inProgress = []
  · by_cases untried : ∃ name ∈ servers, name ∉ startup.attempted
    · simp [lifecycleState, configured, busy, untried]
    · cases reason : degradedReasonFromFailures startup.failed with
      | none =>
          cases finished : startup.complete <;>
            simp [lifecycleState, configured, busy, untried, reason, finished]
      | some reason' => simp [lifecycleState, configured, busy, untried, reason]
  · simp [lifecycleState_busy configured busy]

theorem lifecycleState_ready_iff :
    (lifecycleState servers connected startup).1 = .ready ↔
      servers = [] ∨ startup.inProgress = [] ∧ startup.failed.keys = [] ∧ connected ≠ [] ∧
        servers.length ≤ connected.length := by
  rw [← degradedReasonFromFailures_eq_none]
  by_cases configured : servers = []
  · simp [lifecycleState, configured]
  by_cases busy : startup.inProgress = []
  · by_cases alone : connected = []
    · subst alone
      simp [lifecycleState_alone configured, configured]
    · cases reason : degradedReasonFromFailures startup.failed with
      | none =>
          by_cases few : connected.length < servers.length
          · simp [lifecycleState, configured, busy, alone, reason, few]
          · simp [lifecycleState, configured, busy, alone, reason, few, Nat.le_of_not_lt few]
      | some reason' => simp [lifecycleState, configured, busy, alone, reason]
  · simp [lifecycleState_busy configured busy, configured, busy]

end Chain

/-! ## The admission of requests -/

/-- The servers of the current configuration. -/
def State.serverNames (s : State) : List String :=
  match s.runtimeConfig with
  | some config => config.servers.keys
  | none => []

def State.lifecycle (s : State) : Except String LifecycleStatusFacts :=
  getLifecycleStatusFacts s.runtimeConfig s.registry s.startup

/-- A startup is under way, or nothing is connected and some server was never tried. -/
def State.Warming (s : State) : Prop :=
  s.serverNames ≠ [] ∧ (s.startup.inProgress ≠ [] ∨
    s.registry.getAllTools.keys = [] ∧ ∃ name ∈ s.serverNames, name ∉ s.startup.attempted)

/-- The last startup left no failure, and no fewer servers are connected than configured. -/
def State.Converged (s : State) : Prop :=
  s.serverNames = [] ∨ s.startup.inProgress = [] ∧ s.startup.failed.keys = [] ∧
    s.registry.getAllTools.keys ≠ [] ∧
    s.serverNames.length ≤ s.registry.getAllTools.keys.length

theorem State.lifecycle_ok (s : State) (tracked : s.startup.Tracked) :
    ∃ facts, s.lifecycle = .ok facts ∧
      facts.connectedServers = s.registry.getAllTools.keys ∧
      (facts.state = .warming ↔ s.Warming) ∧ (facts.state = .ready ↔ s.Converged) :=
  ⟨_, rfl, rfl, lifecycleState_warming_iff tracked.complete, lifecycleState_ready_iff⟩

theorem reportsWarming_iff {s : State} (tracked : s.startup.Tracked) :
    reportsWarming s.lifecycle = true ↔ s.Warming := by
  obtain ⟨facts, reported, _, warming, _⟩ := s.lifecycle_ok tracked
  rw [reported, ← warming]
  exact decide_eq_true_iff

theorem warmed_iff {s : State} {request : HttpRequest} (tracked : s.startup.Tracked) :
    Warmed request s.lifecycle ↔ isMcpPost request = true ∧ s.Warming := by
  unfold Warmed
  rw [reportsWarming_iff tracked]

/-- An authenticated request goes by the method, the path and the state alone. -/
theorem bearerAuth_authenticated {s : State} {request : HttpRequest} {token : String}
    (tracked : s.startup.Tracked) (guarded : isHealth request = false)
    (extracted : extractBearerToken request = some token) (ascii : isAscii token = true) :
    (isMcpPost request = true ∧ s.Warming →
      bearerAuth (.http request) (some token) s.lifecycle = .ok send503McpWarming) ∧
    (¬(isMcpPost request = true ∧ s.Warming) →
      bearerAuth (.http request) (some token) s.lifecycle = .ok [.callApp]) := by
  rw [← warmed_iff tracked, bearerAuth_compared guarded extracted ⟨ascii, ascii⟩, if_pos rfl]
  constructor
  · intro warmed
    exact if_pos (Bool.and_eq_true _ _ ▸ warmed)
  · intro admitted
    exact if_neg (Bool.and_eq_true _ _ ▸ admitted)

/-- In every run, what the lifecycle state says and which requests are held back. -/
theorem lifecycle_truth {config : Option TelaConfig} {notifyCallback : Bool}
    {serverNames : List String} {c : Config world}
    (reachable : Reachable
      ((State.launch config notifyCallback).beginDownstreamStartupTracking serverNames) c) :
    (∃ facts, State.lifecycle c.state = .ok facts ∧
      facts.connectedServers = c.state.registry.getAllTools.keys ∧
      (facts.state = .warming ↔ State.Warming c.state) ∧
      (facts.state = .ready ↔ State.Converged c.state)) ∧
    (c.state.startup.inProgress ≠ [] →
      c.state.startup.inProgress = c.state.startup.attempted ∧
      c.state.startup.successful = [] ∧ c.state.startup.failed = ∅) ∧
    (∀ (event : Event world) (c' : Config world), Step c event c' →
      ¬(State.startup c'.state = c.state.startup ∧ State.registry c'.state = c.state.registry) →
        ∃ task a, event = .executed task a ∧
          (c.state.locks .registry).holder = some task) ∧
    ∀ (request : HttpRequest) (token : String), isHealth request = false →
      extractBearerToken request = some token → isAscii token = true →
        (isMcpPost request = true ∧ State.Warming c.state →
          bearerAuth (.http request) (some token) (State.lifecycle c.state) =
            .ok send503McpWarming) ∧
        (¬(isMcpPost request = true ∧ State.Warming c.state) →
          bearerAuth (.http request) (some token) (State.lifecycle c.state) =
            .ok [.callApp]) := by
  have tracked : (State.startup c.state).Tracked :=
    tracked_reached (StartupTracking.tracked_begun serverNames) reachable
  refine ⟨State.lifecycle_ok c.state tracked, tracked.underway, ?_, ?_⟩
  · intro event c' taken changed
    exact holder_of_changed (fun _ => rfl) reachable taken changed
  · intro request token guarded extracted ascii
    exact bearerAuth_authenticated tracked guarded extracted ascii

/-! ## A startup with one server -/

def postMcp : HttpRequest where
  method := some "POST"
  path := some "/mcp"
  headers := [(authorizationName, encodeLatin1 "Bearer token")]

/-- Before the first task the request is held back, after the startup it goes through. -/
theorem lifecycle_truth_startup :
    ∃ c c' : Config world,
      Reachable ((State.launch (some filesConfig) false).beginDownstreamStartupTracking ["files"])
        c ∧
      Reachable ((State.launch (some filesConfig) false).beginDownstreamStartupTracking ["files"])
        c' ∧
      bearerAuth (.http postMcp) (some "token") (State.lifecycle c.state) =
        .ok send503McpWarming ∧
      bearerAuth (.http postMcp) (some "token") (State.lifecycle c'.state) = .ok [.callApp] := by
  obtain ⟨c, run, published⟩ := Run.exists_of_play (Run.sound_anything (W := world))
    ((State.launch (some filesConfig) false).beginDownstreamStartupTracking ["files"]) 60
    startFiles
    (fun c => decide (c.state.startup.inProgress = [] ∧
      c.state.registry.getAllTools.keys = ["files"])) (by decide +kernel)
  obtain ⟨idle, connected⟩ := of_decide_eq_true published
  refine ⟨_, c, .start, run, ?_, ?_⟩
  · exact ((lifecycle_truth .start).2.2.2 postMcp "token" (by decide +kernel)
      (by decide +kernel) (by decide)).1
      ⟨by decide +kernel, List.cons_ne_nil _ _, .inl (List.cons_ne_nil _ _)⟩
  · refine ((lifecycle_truth run).2.2.2 postMcp "token" (by decide +kernel)
      (by decide +kernel) (by decide)).2 ?_
    rintro ⟨-, -, underway | ⟨alone, -⟩⟩
    · exact underway idle
    · rw [connected] at alone
      cases alone

end Tela
