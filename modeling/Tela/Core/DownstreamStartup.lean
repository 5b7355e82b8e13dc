import Tela.Core.Models

/-!
# Provider startup diagnostics
-/

namespace Tela

open Text (contains)

/-- Diagnostic for one downstream provider startup failure. -/
structure ProviderStartupFailure where
  serverName : String
  phase : String
  reason : String
  timeout : Bool := false
  deriving DecidableEq, Repr

/-- Status token for one provider failure. -/
def failureReason (failure : ProviderStartupFailure) : String :=
  let suffix := if failure.timeout then "timeout" else "failed"
  s!"provider_{failure.phase}_{suffix}:{failure.serverName}"

/-- Provider diagnostics for the status, in the order of the server names. -/
def degradedReasonFromFailures (failures : Dict String ProviderStartupFailure) : Option String :=
  if failures.keys.isEmpty then none
  else some (Text.join ";"
    ((Text.sorted failures.keys).filterMap fun name => (failures.get? name).map failureReason))

/-- Classify a provider startup error by the phase its text names. -/
def startupFailureFromError (serverName message : String) : ProviderStartupFailure :=
  let message := if message = "" then "unknown" else message
  if contains message s!"provider_initialize_timeout:{serverName}" then
    ⟨serverName, "initialize", message, true⟩
  else if contains message s!"provider_initialize_cancelled:{serverName}" then
    ⟨serverName, "initialize", message, false⟩
  else if contains message s!"provider_tools_list_timeout:{serverName}" then
    ⟨serverName, "tools_list", message, true⟩
  else if contains message s!"provider_tools_list_cancelled:{serverName}" then
    ⟨serverName, "tools_list", message, false⟩
  else if contains message "enumeration failed" ||
      contains message "DOWNSTREAM_ENUMERATE_FAILED" then
    ⟨serverName, "tools_list", message, false⟩
  else ⟨serverName, "initialize", message, false⟩

end Tela
