import Tela.Shell.DownstreamRecovery

/-!
# The downstream system

Every entry point of the downstream layer as a task over the shared state.
-/

namespace Tela

open Coop

/-- Forget what a task returns. -/
def discard {α : Type} (x : Prog α) : Prog Unit := do
  let _ ← x
  return ()

/-- A receive loop awaits the handler of its session. -/
def handleMessage (session : SessionId) (message : Message) : Prog Unit := do
  let closure : Option (String × ServerConfig) ← act (.receive session)
  match closure with
  | none => act (.handlerDone session)
  | some (serverName, serverConfig) =>
      (messageHandler serverName serverConfig message).ensure (act (.handlerDone session))

/-- One coroutine of a `gather` runs and reports how it ended. -/
def runJob (batch : BatchId) (index : Nat) : Prog Unit := do
  let job : Option (String × ServerConfig) ← act (.takeJob batch index)
  match job with
  | none => act (.report batch index (.error .cancelledError))
  | some (serverName, serverConfig) =>
      let outcome ← (connectServer serverName serverConfig).attempt
      act (.report batch index outcome)

def program (_ : TaskId) : Req → Prog Unit
  | .tick _ => return ()
  | .connectAll servers toolLists => discard (connectAll servers toolLists)
  | .disconnectAll => discard disconnectAll
  | .reEnumerate serverName => discard (reEnumerate serverName)
  | .configChanged newConfig => discard (onConfigChanged newConfig)
  | .callTool serverName toolName arguments => discard (callTool serverName toolName arguments)
  | .toolsChanged serverName serverConfig rawTools =>
      discard (onToolsChanged serverName serverConfig rawTools)
  | .serverReconnect serverName serverConfig rawTools =>
      discard (onServerReconnect serverName serverConfig rawTools)
  | .deliver session message => handleMessage session message
  | .connectServer batch index => runJob batch index

/-- The downstream layer of one gateway process. -/
def world : World sig PyException where
  State := State
  Req := Req
  exec := State.exec
  enter := State.enter
  wake := State.wake
  lapse := State.lapse
  accept := State.accept
  program := program

/-- The state of a gateway process before its first task. -/
def State.launch (config : Option TelaConfig) (notifyCallback : Bool) : State :=
  { runtimeConfig := config, notifyCallback := notifyCallback }

end Tela
