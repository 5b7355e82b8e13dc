import Tela.Core.Models

/-!
# Recovery classification and error shaping
-/

namespace Tela

def eligibleRuntimeErrors : List String :=
  [ "Client is not connected. Use the 'async with client:' context manager first."
  , "Server session was closed unexpectedly" ]

/-- Exception text as recovery diagnostics show it. -/
def getExceptionText (exc : PyException) : String := exc.typeName ++ ": " ++ exc.text

/-- Transport failures that are safe for one automatic retry. -/
def isRecoveryEligibleException (exc : PyException) : Bool :=
  match exc.kind with
  | .timeoutError => false
  | .brokenPipeError => false
  | .connectionResetError => false
  | .runtimeError => eligibleRuntimeErrors.contains exc.text
  | _ => false

/-- How far a recovery got. -/
inductive RecoveryStage
  | notAttempted
  | reconnectStarted
  | reconnectSucceeded
  | convergenceRejected
  | retryFailed
  | recoveryTimeout
  | classifierUnknown
  deriving DecidableEq, Repr

def RecoveryStage.text : RecoveryStage → String
  | .notAttempted => "not_attempted"
  | .reconnectStarted => "reconnect_started"
  | .reconnectSucceeded => "reconnect_succeeded"
  | .convergenceRejected => "convergence_rejected"
  | .retryFailed => "retry_failed"
  | .recoveryTimeout => "recovery_timeout"
  | .classifierUnknown => "classifier_unknown"

/-- The canonical error envelope for recovery outcomes. -/
def buildRecoveryError (serverName : String) (recoveryAttempted recoveryEligible : Bool)
    (recoveryStage : RecoveryStage) (underlyingError : String)
    (configMissing : Option Bool) : TelaError where
  code := "DOWNSTREAM_UNAVAILABLE"
  message := s!"Downstream server '{serverName}' is not connected"
  details :=
    let details := Dict.ofList
      [ ("server_name", Json.str serverName)
      , ("recovery_attempted", .bool recoveryAttempted)
      , ("recovery_stage", .str recoveryStage.text)
      , ("recovery_eligible", .bool recoveryEligible)
      , ("underlying_error", .str underlyingError) ]
    match configMissing with
    | none => details
    | some missing => details.set "config_missing" (.bool missing)

/-- The flag by which a caller tells that a server left the configuration. -/
def TelaError.configMissing (error : TelaError) : Bool :=
  match error.details.get? "config_missing" with
  | some (.bool true) => true
  | _ => false

@[simp] theorem configMissing_buildRecoveryError (serverName : String)
    (recoveryAttempted recoveryEligible : Bool) (stage : RecoveryStage)
    (underlyingError : String) (configMissing : Option Bool) :
    (buildRecoveryError serverName recoveryAttempted recoveryEligible stage underlyingError
      configMissing).configMissing = configMissing.getD false := by
  cases configMissing with
  | none =>
      simp only [TelaError.configMissing, buildRecoveryError, Dict.ofList]
      rw [Dict.get?_setAll_of_not_mem _ _ (by simp)]
      rfl
  | some missing => cases missing <;> simp [TelaError.configMissing, buildRecoveryError]

end Tela
