import Tela.Shell.DownstreamState

/-!
# Gateway lifecycle

The state that the status surfaces and the admission of new requests go by,
derived from the runtime configuration, the registry and the startup diagnostics.
-/

namespace Tela

inductive LifecycleState
  | ready
  | warming
  | degraded
  deriving DecidableEq, Repr

structure LifecycleStatusFacts where
  serverCount : Nat
  profileCount : Nat
  connectedServers : List String
  state : LifecycleState
  degradedReason : Option String := none
  deriving DecidableEq, Repr

/-- `begin_downstream_startup_tracking`, before the server is bound. -/
def State.beginDownstreamStartupTracking (s : State) (serverNames : List String) : State :=
  { s with
    startup :=
      { attempted := serverNames, successful := [], failed := ∅, inProgress := serverNames,
        complete := serverNames.isEmpty } }

/-- The decision chain over the configured and the connected servers. -/
def lifecycleState (servers connected : List String) (startup : StartupTracking) :
    LifecycleState × Option String :=
  let startupReason := degradedReasonFromFailures startup.failed
  if servers.length = 0 then (.ready, none)
  else if !startup.inProgress.isEmpty then (.warming, none)
  else if !connected.isEmpty then
    match startupReason with
    | some reason => (.degraded, some reason)
    | none =>
        if connected.length < servers.length then
          (.degraded, some "downstream_not_fully_converged")
        else (.ready, none)
  else if !servers.all startup.attempted.contains then (.warming, none)
  else
    match startupReason with
    | some reason => (.degraded, some reason)
    | none =>
        if startup.complete then
          (.degraded, some "startup_convergence_no_connected_providers")
        else (.warming, none)

/-- `get_lifecycle_status_facts`; none of the snapshots it reads can fail. -/
def getLifecycleStatusFacts (config : Option TelaConfig) (registry : DownstreamRegistry)
    (startup : StartupTracking) : Except String LifecycleStatusFacts :=
  let servers := match config with
    | some config => config.servers.keys
    | none => []
  let connected := registry.getAllTools.keys
  let decided := lifecycleState servers connected startup
  .ok
    { serverCount := servers.length
      profileCount := match config with
        | some config => config.profiles.keys.length
        | none => 0
      connectedServers := connected
      state := decided.1
      degradedReason := decided.2 }

end Tela
