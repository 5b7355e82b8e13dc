import Tela.Shell.DownstreamState

/-!
# Acts, awaits and requests of the downstream layer

An act is one synchronous block; a wait is one await. A response of a session
arrives only while its receive loop is free, because the loop awaits the message
handler before it reads on.
-/

namespace Tela

open Coop

/-- A synchronous block. -/
inductive Act
  | release (lock : LockName)
  | monotonic
  | getRuntimeConfig
  | setRuntimeConfig (config : Option TelaConfig)
  | openSession (serverName : String) (serverConfig : ServerConfig)
  | newHandle (session : SessionId) (instructions : Option String)
  | beginClose (session : SessionId)
  | takeClients
  | resetForConnect (serverNames : List String)
  | spawn (servers : Dict String ServerConfig)
  | takeJob (batch : BatchId) (index : Nat)
  | report (batch : BatchId) (index : Nat)
      (outcome : Except PyException (Except String ConnectedServerData))
  | jobResults (batch : BatchId)
  | failStartup (failures : Dict String ProviderStartupFailure)
  | publish (servers : Dict String ServerConfig) (connected : Dict String ConnectedServerData)
      (allResolved : Dict String (List ResolvedTool))
      (failures : Dict String ProviderStartupFailure)
  | resetForDisconnect
  | readClient (serverName : String)
  | readClientAndTools (serverName : String)
  | readTools (serverName : String)
  | fetchRecoveryLock (serverName : String)
  | pruneRecoveryLock (serverName : String)
  | dropClient (serverName : String)
  | converge (trigger : ConvergenceTrigger) (serverName : String)
      (serverConfig : ServerConfig) (rawTools : List RawTool)
  | rollback (serverName : String) (previousTools : List ResolvedTool)
  | swapClient (serverName : String) (handle : ClientHandle)
  | snapshotRegistry
  | restoreRegistry (snap : DownstreamRegistry)
  | exposedToolNames
  | hasNotifyCallback
  | externallyCancelled
  | receive (session : SessionId)
  | setHint (serverName : String) (serverConfig : ServerConfig)
  | handlerDone (session : SessionId)
  /-- An attempt on a client failed and its recovery starts; changes history only. -/
  | attemptFailed
  /-- `_recover_server_client` returned success to this task; changes nothing. -/
  | recovered (serverName : String)

/-- What a block hands to the code after it. -/
@[reducible] def Act.Val : Act → Type
  | monotonic => Nat
  | getRuntimeConfig => Option TelaConfig
  | openSession _ _ => SessionId
  | newHandle _ _ => ClientHandle
  | takeClients => List ClientHandle
  | spawn _ => BatchId
  | takeJob _ _ => Option (String × ServerConfig)
  | jobResults _ => List (Except String ConnectedServerData)
  | readClient _ => Option ClientHandle
  | readClientAndTools _ => Option ClientHandle × Option (List ResolvedTool)
  | readTools _ => List ResolvedTool
  | fetchRecoveryLock _ => LockId × Bool
  | dropClient _ => Option ClientHandle
  | converge _ _ _ _ => Except PyException (Except (List ToolConflict) (List ResolvedTool))
  | swapClient _ _ => Option ClientHandle
  | snapshotRegistry => DownstreamRegistry
  | exposedToolNames => List String
  | hasNotifyCallback => Bool
  | externallyCancelled => Bool
  | receive _ => Option (String × ServerConfig)
  | _ => Unit

/-- An await. `_enumerate_tools` is one wait: all pages of a session's tool list. -/
inductive Wait
  | acquire (lock : LockName)
  | connectTransport (serverName : String)
  /-- `session.initialize()`. -/
  | handshake (session : SessionId)
  | listTools (session : SessionId)
  | callTool (session : SessionId) (toolName : String) (arguments : JsonObject)
  | aclose
  | gather (batch : BatchId)
  /-- The notify callback, with the text whose hash is the digest. -/
  | notify (digestInput : String)
  | auditWrite

@[reducible] def Wait.Res : Wait → Type
  | handshake _ => Option String
  | listTools _ => List RawTool
  | callTool _ _ _ => Json
  | _ => Unit

abbrev sig : Sig := ⟨Act, Act.Val, Wait, Wait.Res⟩

abbrev Prog (α : Type) := Coro sig PyException α

/-- The session whose receive loop must deliver the end of this wait. -/
def Wait.session? : Wait → Option SessionId
  | handshake session => some session
  | listTools session => some session
  | callTool session _ _ => some session
  | _ => none

namespace State

def exec (task : TaskId) : (a : Act) → State → a.Val × State
  | .release lock, s => ((), s.releaseLock task lock)
  | .monotonic, s => (s.clock, s)
  | .getRuntimeConfig, s => s.getRuntimeConfig task
  | .setRuntimeConfig config, s => ((), s.setRuntimeConfig task config)
  | .openSession serverName serverConfig, s => s.openSession serverName serverConfig
  | .newHandle session instructions, s => s.newHandle session instructions
  | .beginClose session, s => ((), s.beginClose session)
  | .takeClients, s => s.takeClients
  | .resetForConnect serverNames, s => ((), s.resetForConnect task serverNames)
  | .spawn servers, s => s.spawn servers
  | .takeJob batch index, s => (s.takeJob batch index, s)
  | .report batch index outcome, s => ((), s.report batch index outcome)
  | .jobResults batch, s => (s.jobResults batch, s)
  | .failStartup failures, s => ((), s.failStartup failures)
  | .publish servers connected allResolved failures, s =>
      ((), s.publish servers connected allResolved failures)
  | .resetForDisconnect, s => ((), s.resetForDisconnect)
  | .readClient serverName, s => (s.clients.get? serverName, s)
  | .readClientAndTools serverName, s =>
      ((s.clients.get? serverName, s.registry.getAllTools.get? serverName), s)
  | .readTools serverName, s => ((s.registry.getAllTools.get? serverName).getD [], s)
  | .fetchRecoveryLock serverName, s => s.fetchRecoveryLock serverName
  | .pruneRecoveryLock serverName, s => ((), s.pruneRecoveryLock serverName)
  | .dropClient serverName, s => s.dropClient serverName
  | .converge trigger serverName serverConfig rawTools, s =>
      s.converge task trigger serverName serverConfig rawTools
  | .rollback serverName previousTools, s => ((), s.rollback task serverName previousTools)
  | .swapClient serverName handle, s => s.swapClient serverName handle
  | .snapshotRegistry, s => (s.registry.snapshot, s)
  | .restoreRegistry snap, s => ((), s.restoreRegistry task snap)
  | .exposedToolNames, s => (s.exposedToolNames, s)
  | .hasNotifyCallback, s => (s.notifyCallback, s)
  | .externallyCancelled, s => (s.interruptible task, s)
  | .receive session, s => (s.receive session, s)
  | .setHint serverName serverConfig, s => ((), s.setHint serverName serverConfig)
  | .handlerDone session, s => ((), s.handlerDone session)
  | .attemptFailed, s => ((), s.attemptFailed task)
  | .recovered _, s => ((), s)

/-- A free lock is taken without suspending; every other await suspends. -/
def enter (task : TaskId) : (w : Wait) → State → Option w.Res × State
  | .acquire lock, s =>
      match (s.locks lock).arrive task with
      | (true, next) => (some (), s.updateLock lock next)
      | (false, next) => (none, s.updateLock lock next)
  | .gather batch, s => if (s.batches batch).jobs.isEmpty then (some (), s) else (none, s)
  | .connectTransport _, s => (none, s)
  | .handshake _, s => (none, s)
  | .listTools _, s => (none, s)
  | .callTool _ _ _, s => (none, s)
  | .aclose, s => (none, s)
  | .notify _, s => (none, s)
  | .auditWrite, s => (none, s)

/-- The receive loop of the session is reading. -/
def reading (s : State) (session : SessionId) : Bool :=
  (s.sessions session).any fun current => !current.closed && current.handler.isNone

def closed (s : State) (session : SessionId) : Bool :=
  (s.sessions session).any Session.closed

/-- A pending request may fail: by an error response, a dead session or a cancel scope. -/
def mayFail (s : State) (session : SessionId) (exc : PyException) : Bool :=
  exc.isCancelled || s.reading session || s.closed session

/-- A server reported its tool list. -/
def noteReport (s : State) (session : SessionId) (rawTools : List RawTool) : State :=
  match s.sessions session with
  | some current =>
      { s with
        history :=
          { s.history with reported := s.history.reported ++ [(current.serverName, rawTools)] } }
  | none => s

/-- A waiter leaves the queue. -/
def leaveQueue (s : State) (task : TaskId) (lock : LockName) : State :=
  s.updateLock lock ((s.locks lock).withdraw task)

/-- How a pending await may end. -/
def wake (task : TaskId) : (w : Wait) → Except PyException w.Res → State → Option State
  | .acquire lock, .ok (), s => ((s.locks lock).grant task).map fun next => s.updateLock lock next
  | .acquire lock, .error exc, s =>
      if exc.isCancelled && s.interruptible task then some (s.leaveQueue task lock) else none
  | .connectTransport _, _, s => some s
  | .handshake session, .ok _, s => if s.reading session then some s else none
  | .handshake session, .error exc, s => if s.mayFail session exc then some s else none
  | .listTools session, .ok rawTools, s =>
      if s.reading session then some (s.noteReport session rawTools) else none
  | .listTools session, .error exc, s => if s.mayFail session exc then some s else none
  | .callTool session _ _, .ok _, s => if s.reading session then some s else none
  | .callTool session _ _, .error exc, s => if s.mayFail session exc then some s else none
  | .aclose, _, s => some s
  | .gather batch, .ok (), s =>
      if (s.batches batch).jobs.all fun job =>
          match job.outcome with
          | some (.ok _) => true
          | _ => false
      then some s else none
  | .gather batch, .error exc, s =>
      if (exc.isCancelled && s.interruptible task) || (s.batches batch).jobs.any fun job =>
          match job.outcome with
          | some (.error raised) => raised = exc
          | _ => false
      then some s else none
  | .notify _, _, s => some s
  | .auditWrite, _, s => some s

/-- A time limit has passed. -/
def lapse (task : TaskId) (w : Wait) (limit : Nat) (s : State) : Option State :=
  if limit ≤ s.clock then
    match w with
    | .acquire lock => some (s.leaveQueue task lock)
    | _ => some s
  else none

end State

/-- What starts a task. -/
inductive Req
  /-- Time passes. -/
  | tick (milliseconds : Nat)
  | connectAll (servers : Dict String ServerConfig)
      (toolLists : Option (Dict String (List RawTool)))
  | disconnectAll
  | reEnumerate (serverName : String)
  | configChanged (newConfig : TelaConfig)
  | callTool (serverName toolName : String) (arguments : JsonObject)
  | toolsChanged (serverName : String) (serverConfig : ServerConfig) (rawTools : List RawTool)
  | serverReconnect (serverName : String) (serverConfig : ServerConfig)
      (rawTools : List RawTool)
  /-- A receive loop hands a message to its handler. -/
  | deliver (session : SessionId) (message : Message)
  /-- A coroutine of a `gather` starts. -/
  | connectServer (batch : BatchId) (index : Nat)

namespace State

def allowCancel (s : State) (task : TaskId) : State :=
  { s with interruptible := assign s.interruptible task true }

def accept (task : TaskId) : Req → State → Option State
  | .tick milliseconds, s => some { s with clock := s.clock + milliseconds }
  | .callTool _ _ _, s => some (s.allowCancel task)
  | .deliver session message, s =>
      if s.reading session then
        some ((s.updateSession session fun current =>
          { current with handler := some (task, message) }).allowCancel task)
      else none
  | .connectServer batch index, s =>
      match (s.batches batch).jobs[index]? with
      | some job =>
          if job.worker.isNone then
            some { s with
              batches := assign s.batches batch
                { s.batches batch with
                  jobs := (s.batches batch).jobs.modify index fun job =>
                    { job with worker := some task } } }
          else none
      | none => none
  | .connectAll _ _, s => some s
  | .disconnectAll, s => some s
  | .reEnumerate _, s => some s
  | .configChanged _, s => some s
  | .toolsChanged _ _ _, s => some s
  | .serverReconnect _ _ _, s => some s

end State

end Tela
