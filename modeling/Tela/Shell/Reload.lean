import Tela.Shell.Downstream

/-!
# Hot reload

The single-server convergence kernel, its two event wrappers and the reload of a
whole configuration.
-/

namespace Tela

open Coop

inductive KernelDisposition
  | applied
  | conflict
  deriving DecidableEq, Repr

/-- Kernel result, before notify and audit policy. -/
structure SingleServerConvergenceResult where
  disposition : KernelDisposition
  trigger : ConvergenceTrigger
  serverName : String
  rollbackApplied : Bool
  resolvedToolNames : List String
  conflicts : List (String × List String) := []

/-- Apply one server update with resolve, register, conflict and rollback semantics. -/
def convergeSingleServerUpdate (serverName : String) (serverConfig : ServerConfig)
    (rawTools : List RawTool) (trigger : ConvergenceTrigger) :
    Prog SingleServerConvergenceResult :=
  withLock .registry do
    let outcome : Except PyException (Except (List ToolConflict) (List ResolvedTool)) ←
      act (.converge trigger serverName serverConfig rawTools)
    match outcome with
    | .error exc => .raise exc
    | .ok (.error conflicts) =>
        return ⟨.conflict, trigger, serverName, true, [],
          conflicts.map fun c => (c.toolName, c.servers)⟩
    | .ok (.ok resolved) =>
        return ⟨.applied, trigger, serverName, false, resolved.map ResolvedTool.name, []⟩

/-- Write the `TOOL_CONFLICT` audit entry of a rejected update. -/
def emitConflictWarning (outcome : SingleServerConvergenceResult) :
    Prog (Except String Unit) := do
  pause .auditWrite
  return .error ("TOOL_CONFLICT: " ++ conflictDescription outcome.conflicts)

/-- Notify upstream listeners with a digest of the exposed tool set. -/
def notifyRegistryToolDigest : Prog Unit := do
  let registered : Bool ← act .hasNotifyCallback
  if registered then
    let toolNames : List String ← withLock .registry (act .exposedToolNames)
    pause (.notify (Text.join ":" toolNames))

/-- What both event wrappers do with a kernel result. -/
def settleConvergence (outcome : SingleServerConvergenceResult) : Prog (Except String Unit) := do
  if outcome.disposition = .conflict then emitConflictWarning outcome
  else
    notifyRegistryToolDigest
    return .ok ()

/-- Handle the `tools/list_changed` notification of a downstream server. -/
def onToolsChanged (serverName : String) (serverConfig : ServerConfig)
    (newToolList : List RawTool) : Prog (Except String Unit) := do
  let outcome ← convergeSingleServerUpdate serverName serverConfig newToolList .reload
  settleConvergence outcome

/-- Handle a downstream server that reconnected with a fresh tool list. -/
def onServerReconnect (serverName : String) (serverConfig : ServerConfig)
    (toolList : List RawTool) : Prog (Except String Unit) := do
  let outcome ← convergeSingleServerUpdate serverName serverConfig toolList .reconnect
  settleConvergence outcome

/-- Put the registry and the configuration back after a conflicting reload. -/
def revertReload (oldConfig : TelaConfig) (registrySnapshot : DownstreamRegistry) : Prog Unit := do
  withLock .registry (act (.restoreRegistry registrySnapshot))
  act (.setRuntimeConfig (some oldConfig))

/-- Reconnect all servers under the new configuration. -/
def reconnectServers (oldConfig newConfig : TelaConfig) : Prog (Except String Unit) := do
  let registrySnapshot : DownstreamRegistry ← withLock .registry (act .snapshotRegistry)
  let _ ← disconnectAll
  match ← connectAll newConfig.servers none with
  | .error error =>
      if Text.startsWith error "TOOL_CONFLICT" then revertReload oldConfig registrySnapshot
      return .error error
  | .ok () =>
      notifyRegistryToolDigest
      return .ok ()

/-- Handle a change of the configuration file. -/
def onConfigChanged (newConfig : TelaConfig) : Prog (Except String Unit) := do
  let oldConfig : Option TelaConfig ← act .getRuntimeConfig
  act (.setRuntimeConfig (some newConfig))
  match oldConfig with
  | none => return .ok ()
  | some oldConfig =>
      if serversDiffer oldConfig.servers newConfig.servers then
        reconnectServers oldConfig newConfig
      else return .ok ()

end Tela
