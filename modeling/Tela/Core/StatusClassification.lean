import Tela.Core.Attachments
import Tela.Library.Json

/-!
# Status classification

The state of the shared runtime from the discovery facts and the state that a probe
read, and what an operator is told to do about it.
-/

namespace Tela

inductive SharedRuntimeState
  | absent
  | degraded
  | ready
  | stale
  | starting
  | unknown
  deriving DecidableEq

def SharedRuntimeState.value : SharedRuntimeState → String
  | absent => "absent"
  | degraded => "degraded"
  | ready => "ready"
  | stale => "stale"
  | starting => "starting"
  | unknown => "unknown"

inductive StatusRecoverability
  | notRecoverable
  | recoverable
  | unknown
  deriving DecidableEq

def StatusRecoverability.value : StatusRecoverability → String
  | notRecoverable => "not_recoverable"
  | recoverable => "recoverable"
  | unknown => "unknown"

def startingStates : List String :=
  ["warming", "starting", "discoverable", "concurrent_startup_follower"]

/-- `classify_shared_runtime_state`; the probed state may be any JSON value, and its contract
admits `null` and strings. -/
def classifySharedRuntimeState (lockfilePresent lockfileStale : Bool) (probedState : Json)
    (startupInProgress : Bool) : Except PyException SharedRuntimeState := do
  precondition "classify_shared_runtime_state" (probedState.isNull || probedState.str?.isSome)
  if startupInProgress then return .starting
  if !lockfilePresent then return .absent
  if lockfileStale then return .stale
  match probedState.str? with
  | none => return .unknown
  | some state =>
      if state = "ready" then return .ready
      else if state = "degraded" then return .degraded
      else if startingStates.contains state then return .starting
      else if state = "config_mismatch" then return .degraded
      else return .unknown

/-- `classify_status_recoverability`; the last error does not count. -/
def classifyStatusRecoverability (runtimeState : SharedRuntimeState)
    (recoveryCommandAvailable : Bool) : StatusRecoverability :=
  match runtimeState with
  | .ready => .notRecoverable
  | .starting => .unknown
  | .unknown => .unknown
  | .degraded => if recoveryCommandAvailable then .recoverable else .notRecoverable
  | .stale => if recoveryCommandAvailable then .recoverable else .notRecoverable
  | .absent => if recoveryCommandAvailable then .recoverable else .notRecoverable

/-- `make_status_recommendation`. -/
def makeStatusRecommendation (runtimeState : SharedRuntimeState)
    (recoverabilityState : StatusRecoverability) : String :=
  match runtimeState, recoverabilityState with
  | .ready, _ => "Runtime is ready; no recovery action is needed."
  | .starting, _ => "Runtime is starting; wait or run tela status --probe again."
  | .absent, .recoverable => "Run tela doctor --recover to attempt explicit recovery."
  | .stale, .recoverable => "Run tela doctor --recover to clean stale discovery and recover."
  | .degraded, .recoverable =>
      "Run tela doctor --recover to retry recovery; inspect degraded_reason if it persists."
  | _, .notRecoverable => "No automatic recovery is available for this state."
  | .unknown, _ =>
      "State is ambiguous; inspect runtime-events and run tela status --probe to determine state."
  | _, _ => "Run tela status --probe to verify reachability."

/-- The postcondition of the recommendation: it is never empty. -/
theorem makeStatusRecommendation_ne_empty (runtimeState : SharedRuntimeState)
    (recoverabilityState : StatusRecoverability) :
    makeStatusRecommendation runtimeState recoverabilityState ≠ "" := by
  cases runtimeState <;> cases recoverabilityState <;> decide

/-- Only a probed state that is neither `null` nor a string breaks the contract. -/
theorem classifySharedRuntimeState_ok_iff {lockfilePresent lockfileStale : Bool}
    {probedState : Json} {startupInProgress : Bool} :
    (∃ state, classifySharedRuntimeState lockfilePresent lockfileStale probedState
        startupInProgress = .ok state) ↔
      (probedState.isNull || probedState.str?.isSome) = true := by
  unfold classifySharedRuntimeState
  cases admitted : (probedState.isNull || probedState.str?.isSome) with
  | false =>
      constructor
      · rintro ⟨_, ⟨⟩⟩
      · exact nofun
  | true =>
      refine ⟨fun _ => rfl, fun _ => ?_⟩
      simp only [precondition, if_true, bind, Except.bind, pure, Except.pure]
      split_ifs <;> try exact ⟨_, rfl⟩
      split
      · exact ⟨_, rfl⟩
      · split_ifs <;> exact ⟨_, rfl⟩

/-! ## Attachments -/

/-- `classify_attachment_display_state`. -/
def classifyAttachmentDisplayState (runtimeState : RuntimeState) (recoverability : Recoverability)
    (staleCandidate unknownState : Bool) : AttachmentDisplayState :=
  if unknownState then .unknown
  else if staleCandidate then .staleCandidate
  else if runtimeState = .exited then .exited
  else if runtimeState = .recovering then .recovering
  else if recoverability = .stale then .degraded
  else if runtimeState = .active ∧ recoverability = .recoverable then .healthy
  else if runtimeState = .idle then .degraded
  else .unknown

end Tela
