import Tela.Shell.Reload

/-!
# Downstream recovery and the call path

Recovery of one client under its per-server lock, the message handlers that
start it, and `call_tool`.
-/

namespace Tela

open Coop

def recoveryTimeout : Nat := 15000

/-- Server settings from the runtime configuration only; a missing server fails closed. -/
def runtimeServerConfig (serverName : String) (runtimeConfig : Option TelaConfig) :
    Except TelaError ServerConfig :=
  match runtimeConfig with
  | none =>
      .error (buildRecoveryError serverName true true .reconnectStarted
        "Runtime config unavailable" (some true))
  | some config =>
      match config.servers.get? serverName with
      | some serverConfig => .ok serverConfig
      | none =>
          .error (buildRecoveryError serverName true true .reconnectStarted
            s!"Server '{serverName}' missing from runtime config" (some true))

def getRuntimeServerConfig (serverName : String) : Prog (Except TelaError ServerConfig) := do
  let runtimeConfig : Option TelaConfig ← act .getRuntimeConfig
  return runtimeServerConfig serverName runtimeConfig

/-- An error of a recovery that was started. -/
def recoveryError (serverName : String) (stage : RecoveryStage) (underlyingError : String) :
    TelaError :=
  buildRecoveryError serverName true true stage underlyingError (some false)

/-! ## The recovery lock -/

/-- Acquire the per-server recovery lock within the shared time limit. -/
def acquireRecoveryLock (serverName : String) (deadline : Nat) :
    Prog (Except TelaError (LockId × Bool)) := do
  let (lock, waitContended) : LockId × Bool ←
    withLock .registry (act (.fetchRecoveryLock serverName))
  let now : Nat ← act .monotonic
  if deadline ≤ now then
    return .error (recoveryError serverName .recoveryTimeout "Recovery lock wait timed out")
  match ← (waitFor deadline (pause (.acquire (.recovery lock)))).attempt with
  | .error exc =>
      if exc.isTimeout then
        return .error (recoveryError serverName .recoveryTimeout "Recovery lock wait timed out")
      else .raise exc
  | .ok _ => return .ok (lock, waitContended)

/-- Remove the lock entry of a server without an active client. -/
def pruneRecoveryLockIfUnused (serverName : String) : Prog Unit :=
  withLock .registry (act (.pruneRecoveryLock serverName))

/-- Remove one cached client handle and close it. -/
def dropClientForServer (serverName : String) : Prog Unit := do
  let staleHandle : Option ClientHandle ← withLock .registry (act (.dropClient serverName))
  match staleHandle with
  | some handle => closeHandleBestEffort handle
  | none => pure ()

/-! ## Core recovery -/

/-- The error of a recovery step, and whether the lock entry should be pruned. -/
abbrev RecoveryOutcome := Except TelaError Unit × Bool

/-- Give up because the configuration cannot be read for the server. -/
def failMissingConfig (serverName : String) (error : TelaError) : Prog RecoveryOutcome := do
  if error.configMissing then
    dropClientForServer serverName
    return (.error error, true)
  return (.error error, false)

/-- Put back what the registry held before convergence. -/
def rollbackTools (serverName : String) (previousTools : List ResolvedTool) : Prog Unit :=
  withLock .registry (act (.rollback serverName previousTools))

/-- The last stage: check the configuration again and swap the client in. -/
def swapRecoveredClient (serverName : String) (latestServerConfig : ServerConfig)
    (newHandle : ClientHandle) (previousTools : List ResolvedTool) : Prog RecoveryOutcome := do
  match ← getRuntimeServerConfig serverName with
  | .error error =>
      closeHandleBestEffort newHandle
      rollbackTools serverName previousTools
      failMissingConfig serverName error
  | .ok preSwapConfig =>
      if ¬ preSwapConfig.Same latestServerConfig then
        closeHandleBestEffort newHandle
        rollbackTools serverName previousTools
        return (.error (recoveryError serverName .reconnectStarted
          "Server config changed before recovered client swap"), false)
      else
        let oldHandle : Option ClientHandle ←
          withLock .registry (act (.swapClient serverName newHandle))
        match oldHandle with
        | some handle => closeHandleBestEffort handle
        | none => pure ()
        return (.ok (), false)

/-- Give up with a closed new handle. -/
def failAfterOpen (serverName : String) (newHandle : ClientHandle) (stage : RecoveryStage)
    (underlyingError : String) : Prog RecoveryOutcome := do
  closeHandleBestEffort newHandle
  return (.error (recoveryError serverName stage underlyingError), false)

/-- Converge the registry to the freshly listed tools. -/
def convergeRecovered (serverName : String) (deadline : Nat) (latestServerConfig : ServerConfig)
    (newHandle : ClientHandle) (rawTools : List RawTool) : Prog RecoveryOutcome := do
  let previousTools : List ResolvedTool ← withLock .registry (act (.readTools serverName))
  let now : Nat ← act .monotonic
  if deadline ≤ now then
    failAfterOpen serverName newHandle .recoveryTimeout
      "Recovery timeout exhausted before convergence"
  else
    match ← (waitFor deadline
        (onServerReconnect serverName latestServerConfig rawTools)).attempt with
    | .error exc =>
        if exc.isTimeout then
          failAfterOpen serverName newHandle .recoveryTimeout
            "Recovery timeout exhausted during convergence"
        else .raise exc
    | .ok (.error error) => failAfterOpen serverName newHandle .convergenceRejected error
    | .ok (.ok ()) => swapRecoveredClient serverName latestServerConfig newHandle previousTools

/-- Check that the configuration is the one the client was opened with. -/
def checkEnumeratedConfig (serverName : String) (deadline : Nat) (serverConfig : ServerConfig)
    (newHandle : ClientHandle) (rawTools : List RawTool) : Prog RecoveryOutcome := do
  match ← getRuntimeServerConfig serverName with
  | .error error =>
      closeHandleBestEffort newHandle
      failMissingConfig serverName error
  | .ok latestServerConfig =>
      if ¬ latestServerConfig.Same serverConfig then
        failAfterOpen serverName newHandle .reconnectStarted "Server config changed during recovery"
      else convergeRecovered serverName deadline latestServerConfig newHandle rawTools

/-- List the tools of the new client. -/
def enumerateRecovered (serverName : String) (deadline : Nat) (serverConfig : ServerConfig)
    (newHandle : ClientHandle) : Prog RecoveryOutcome := do
  let now : Nat ← act .monotonic
  if deadline ≤ now then
    failAfterOpen serverName newHandle .recoveryTimeout
      "Recovery timeout exhausted before enumeration"
  else
    match ← (waitFor deadline (enumerateClientTools serverName newHandle)).attempt with
    | .error exc =>
        if exc.isTimeout then
          failAfterOpen serverName newHandle .recoveryTimeout
            "Recovery timeout exhausted while enumerating tools"
        else .raise exc
    | .ok (.error error) => failAfterOpen serverName newHandle .reconnectStarted error
    | .ok (.ok rawTools) =>
        checkEnumeratedConfig serverName deadline serverConfig newHandle rawTools

/-- Open a new client. -/
def reopenClient (serverName : String) (deadline : Nat) (serverConfig : ServerConfig) :
    Prog RecoveryOutcome := do
  let now : Nat ← act .monotonic
  if deadline ≤ now then
    return (.error (recoveryError serverName .recoveryTimeout
      "Recovery timeout exhausted before reconnect"), false)
  else
    match ← (waitFor deadline (openClientForServer serverName serverConfig)).attempt with
    | .error exc =>
        if exc.isTimeout then
          return (.error (recoveryError serverName .recoveryTimeout
            "Recovery timeout exhausted while reconnecting"), false)
        else .raise exc
    | .ok (.error error) =>
        return (.error (recoveryError serverName .reconnectStarted error), false)
    | .ok (.ok newHandle) => enumerateRecovered serverName deadline serverConfig newHandle

/-- `_recover_server_client` while it holds the recovery lock. -/
def recoverLocked (serverName : String) (deadline : Nat) (waitContended : Bool) :
    Prog RecoveryOutcome := do
  match ← getRuntimeServerConfig serverName with
  | .error error => failMissingConfig serverName error
  | .ok serverConfig =>
      if waitContended then
        let (currentHandle, currentRegistry) : Option ClientHandle × Option (List ResolvedTool) ←
          withLock .registry (act (.readClientAndTools serverName))
        if currentHandle.isSome && currentRegistry.isSome then return (.ok (), false)
        else reopenClient serverName deadline serverConfig
      else reopenClient serverName deadline serverConfig

/-- The `finally` block of `_recover_server_client`. -/
def finishRecovery (serverName : String) (lock : LockId)
    (outcome : Except PyException RecoveryOutcome) : Prog (Except TelaError Unit) := do
  act (.release (.recovery lock))
  match outcome with
  | .error exc => .raise exc
  | .ok (result, shouldPruneLock) =>
      if shouldPruneLock then pruneRecoveryLockIfUnused serverName
      return result

/-- Recover one downstream client through reload convergence. -/
def recoverServerClient (serverName : String) (deadline : Nat) :
    Prog (Except TelaError Unit) := do
  match ← acquireRecoveryLock serverName deadline with
  | .error error => return .error error
  | .ok (lock, waitContended) =>
      let outcome ← (recoverLocked serverName deadline waitContended).attempt
      finishRecovery serverName lock outcome

/-! ## Message handlers -/

/-- Re-enumerate a server after its list-changed notification. -/
def handleToolsListChanged (serverName : String) (serverConfig : ServerConfig) : Prog Unit := do
  let client : Option ClientHandle ← withLock .registry (act (.readClient serverName))
  match client with
  | none => return ()
  | some client =>
      match ← enumerateClientTools serverName client with
      | .error _ => return ()
      | .ok rawTools =>
          let _ ← onToolsChanged serverName serverConfig rawTools
          return ()

/-- Recover after a transport error; the captured configuration is not used. -/
def handleReconnect (serverName : String) (_serverConfig : ServerConfig) : Prog Unit := do
  let now : Nat ← act .monotonic
  act .attemptFailed
  match ← recoverServerClient serverName (now + recoveryTimeout) with
  | .error _ => return ()
  | .ok () =>
      act (.recovered serverName)
      return ()

/-- The closure that `_build_downstream_message_handler` returns. -/
def messageHandler (serverName : String) (serverConfig : ServerConfig) (message : Message) :
    Prog Unit := do
  act (.setHint serverName serverConfig)
  match message with
  | .error => handleReconnect serverName serverConfig
  | .toolListChanged => handleToolsListChanged serverName serverConfig
  | .other => return ()

/-! ## Calling a tool -/

/-- The retry of `call_tool` on the recovered client. -/
def retryCall (serverName toolName : String) (arguments : JsonObject) (deadline : Nat) :
    Prog (Except TelaError Json) := do
  let refreshedClient : Option ClientHandle ← withLock .registry (act (.readClient serverName))
  match refreshedClient with
  | none =>
      return .error (buildRecoveryError serverName true true .retryFailed
        "Recovered client handle missing after convergence" none)
  | some client =>
      let now : Nat ← act .monotonic
      if deadline ≤ now then
        return .error (recoveryError serverName .recoveryTimeout
          "Recovery timeout exhausted before retry")
      else
        match ← (waitFor deadline (pause (.callTool client.session toolName arguments))).attempt with
        | .ok payload => return .ok payload
        | .error exc =>
            if exc.isTimeout then
              return .error (recoveryError serverName .recoveryTimeout
                "Recovery timeout exhausted during retry")
            else if exc.isException then
              return .error (recoveryError serverName .retryFailed (getExceptionText exc))
            else .raise exc

/-- Recover the client of a server and retry the call once. -/
def recoverAndRetry (serverName toolName : String) (arguments : JsonObject) (deadline : Nat) :
    Prog (Except TelaError Json) := do
  act .attemptFailed
  match ← recoverServerClient serverName deadline with
  | .error error => return .error error
  | .ok () =>
      act (.recovered serverName)
      retryCall serverName toolName arguments deadline

/-- Call one downstream tool on the connected session of a server. -/
def callTool (serverName toolName : String) (arguments : JsonObject) :
    Prog (Except TelaError Json) := do
  let client : Option ClientHandle ← withLock .registry (act (.readClient serverName))
  let started : Nat ← act .monotonic
  match client with
  | none => recoverAndRetry serverName toolName arguments (started + recoveryTimeout)
  | some client =>
      match ← (pause (.callTool client.session toolName arguments)).attempt with
      | .ok payload => return .ok payload
      | .error exc =>
          if exc.isException then
            if isRecoveryEligibleException exc then
              recoverAndRetry serverName toolName arguments (started + recoveryTimeout)
            else
              return .error (buildRecoveryError serverName false false .notAttempted
                (getExceptionText exc) none)
          else .raise exc

end Tela
