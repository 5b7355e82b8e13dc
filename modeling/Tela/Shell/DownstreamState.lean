import Tela.Core.DownstreamStartup
import Tela.Core.Family
import Tela.Core.RecoveryHelpers
import Tela.Library.FifoLock
import Tela.Shell.DownstreamRegistry

/-!
# Downstream state

The module-level state of the downstream layer and the synchronous blocks that
change it. A block is what a task does between two awaits, so no other task sees
its intermediate states. History variables record what the properties speak
about; no block or await reads them.
-/

namespace Tela

open Coop

abbrev SessionId := Nat

abbrev BatchId := Nat

abbrev LockId := Nat

/-! ## Data -/

/-- A connected client session. `serial` numbers the handles in the order they were opened. -/
structure ClientHandle where
  session : SessionId
  instructions : Option String
  serial : Nat
  deriving DecidableEq, Repr

/-- Result of a successful provider startup, before it is published. -/
structure ConnectedServerData where
  serverName : String
  rawTools : List RawTool
  clientHandle : Option ClientHandle := none
  instructions : Option String := none

/-- The registry lock, or the recovery lock object with the given identity. -/
inductive LockName
  | registry
  | recovery (id : LockId)
  deriving DecidableEq, Repr

/-- What a downstream session hands to its message handler. -/
inductive Message
  | toolListChanged
  | error
  | other
  deriving DecidableEq, Repr

/-- A client session: the closure of its handler and the state of its receive loop. -/
structure Session where
  serverName : String
  serverConfig : ServerConfig
  closed : Bool := false
  /-- The handler call that the receive loop awaits. -/
  handler : Option (TaskId × Message) := none

/-- One coroutine of a `gather`. -/
structure Job where
  serverName : String
  serverConfig : ServerConfig
  worker : Option TaskId := none
  outcome : Option (Except PyException (Except String ConnectedServerData)) := none

/-- The coroutines of one `gather`; `spawnedAt` is how many handles were open before it. -/
structure Batch where
  jobs : List Job := []
  spawnedAt : Nat := 0

structure StartupTracking where
  attempted : List String := []
  successful : List String := []
  failed : Dict String ProviderStartupFailure := ∅
  inProgress : List String := []
  complete : Bool := true

inductive ConvergenceTrigger
  | reconnect
  | reload
  | manualReenumeration
  deriving DecidableEq, Repr

/-- A list that a recovery registered before it swapped its client in. -/
structure PendingUpdate where
  serverName : String
  serverConfig : ServerConfig
  rawTools : List RawTool
  resolved : List ResolvedTool

/-- What has happened so far; only properties read it. -/
structure History where
  /-- How many handles had been opened when the task's attempt failed. -/
  attemptAt : TaskId → Nat := fun _ => 0
  /-- Every tool list a server reported. -/
  reported : List (String × List RawTool) := []
  /-- The task replaced the configuration and has not yet reset the registry. -/
  ahead : TaskId → Bool := fun _ => false
  pending : TaskId → Option PendingUpdate := fun _ => none

structure State where
  runtimeConfig : Option TelaConfig := none
  registry : DownstreamRegistry := {}
  clients : Dict String ClientHandle := ∅
  serverInstructions : Dict String String := ∅
  serverConfigHints : Dict String ServerConfig := ∅
  startup : StartupTracking := {}
  recoveryLocks : Dict String LockId := ∅
  locks : LockName → FifoLock := fun _ => {}
  /-- The server each recovery lock object was made for. -/
  lockServers : List String := []
  notifyCallback : Bool := false
  clock : Nat := 0
  sessions : SessionId → Option Session := fun _ => none
  nextSession : SessionId := 0
  nextSerial : Nat := 0
  batches : BatchId → Batch := fun _ => {}
  nextBatch : BatchId := 0
  /-- Tasks that an outside party may cancel. -/
  interruptible : TaskId → Bool := fun _ => false
  history : History := {}

/-! ## Configuration changes -/

def removedServers (old new : Dict String ServerConfig) : List String :=
  old.keys.filter fun name => !new.contains name

/-- Servers that are new, or present in both with other settings. -/
def serversToReconnect (old new : Dict String ServerConfig) : List String :=
  new.keys.filter fun name =>
    match old.get? name, new.get? name with
    | some before, some after => !decide (before.Same after)
    | none, _ => true
    | _, none => false

/-- A reload reconnects: some server is removed, added or changed. -/
def serversDiffer (old new : Dict String ServerConfig) : Bool :=
  !(removedServers old new).isEmpty || !(serversToReconnect old new).isEmpty

/-- `new` replaces a configuration whose servers differ from its own. -/
def replacesServers (old new : Option TelaConfig) : Bool :=
  match old, new with
  | some old, some new => serversDiffer old.servers new.servers
  | _, _ => false

/-! ## Single-server convergence -/

/-- Resolve, register, detect conflicts; a conflict restores the snapshot. -/
def DownstreamRegistry.converge (registry : DownstreamRegistry) (serverName : String)
    (serverConfig : ServerConfig) (rawTools : List RawTool) :
    Except PyException (Except (List ToolConflict) (List ResolvedTool)) × DownstreamRegistry :=
  let snap := registry.snapshot
  match resolveTools serverName serverConfig rawTools with
  | .error exc => (.error exc, registry)
  | .ok resolved =>
      let registered := registry.register serverName resolved
      match detectConflicts registered.getAllTools with
      | [] => (.ok (.ok resolved), registered)
      | conflict :: conflicts => (.ok (.error (conflict :: conflicts)), registered.restore snap)

namespace State

/-! ## Blocks of `connect_all` and `disconnect_all` -/

/-- `_close_all_clients_locked` up to its first await. -/
def takeClients (s : State) : List ClientHandle × State :=
  (s.clients.values, { s with clients := ∅ })

/-- `connect_all` between closing the clients and opening new ones. -/
def resetForConnect (s : State) (task : TaskId) (serverNames : List String) : State :=
  { s with
    registry := s.registry.clear
    serverInstructions := ∅
    serverConfigHints := ∅
    startup :=
      { attempted := serverNames, successful := [], failed := ∅, inProgress := serverNames,
        complete := serverNames.isEmpty }
    history := { s.history with ahead := assign s.history.ahead task false } }

/-- `_mark_startup_finished`. -/
def markStartupFinished (s : State) (successful : List String)
    (failures : Dict String ProviderStartupFailure) : State :=
  { s with
    startup :=
      { s.startup with
        successful := successful, failed := failures, inProgress := [], complete := true } }

/-- `connect_all` after a conflict among the started servers. -/
def failStartup (s : State) (failures : Dict String ProviderStartupFailure) : State :=
  { s with registry := s.registry.clear }.markStartupFinished [] failures

/-- One round of the publishing loop of `connect_all`. -/
def publishServer (servers : Dict String ServerConfig)
    (allResolved : Dict String (List ResolvedTool)) (s : State)
    (entry : String × ConnectedServerData) : State :=
  { s with
    serverConfigHints :=
      match servers.get? entry.1 with
      | some serverConfig => s.serverConfigHints.set entry.1 serverConfig
      | none => s.serverConfigHints
    clients :=
      match entry.2.clientHandle with
      | some handle => s.clients.set entry.1 handle
      | none => s.clients
    serverInstructions :=
      match entry.2.instructions.filter (· != "") with
      | some instructions => s.serverInstructions.set entry.1 instructions
      | none => s.serverInstructions
    registry := s.registry.register entry.1 ((allResolved.get? entry.1).getD []) }

/-- `connect_all` from its publishing loop to the end of the lock. -/
def publish (s : State) (servers : Dict String ServerConfig)
    (connected : Dict String ConnectedServerData)
    (allResolved : Dict String (List ResolvedTool))
    (failures : Dict String ProviderStartupFailure) : State :=
  (connected.entries.foldl (publishServer servers allResolved) s).markStartupFinished
    connected.keys failures

/-- `disconnect_all` after closing the clients. -/
def resetForDisconnect (s : State) : State :=
  { s with
    registry := s.registry.clear
    serverInstructions := ∅
    serverConfigHints := ∅
    startup := {}
    recoveryLocks := ∅ }

/-- Create the coroutines of a `gather`. -/
def spawn (s : State) (servers : Dict String ServerConfig) : BatchId × State :=
  (s.nextBatch,
    { s with
      batches := assign s.batches s.nextBatch
        ⟨servers.entries.map fun entry => ⟨entry.1, entry.2, none, none⟩, s.nextSerial⟩
      nextBatch := s.nextBatch + 1 })

def takeJob (s : State) (batch : BatchId) (index : Nat) : Option (String × ServerConfig) :=
  (s.batches batch).jobs[index]?.map fun job => (job.serverName, job.serverConfig)

def report (s : State) (batch : BatchId) (index : Nat)
    (outcome : Except PyException (Except String ConnectedServerData)) : State :=
  { s with
    batches := assign s.batches batch
      { s.batches batch with
        jobs := (s.batches batch).jobs.modify index fun job =>
          { job with outcome := some outcome } } }

/-- The result of every coroutine of a finished `gather`, in order. -/
def jobResults (s : State) (batch : BatchId) : List (Except String ConnectedServerData) :=
  (s.batches batch).jobs.filterMap fun job =>
    match job.outcome with
    | some (.ok result) => some result
    | _ => none

/-! ## Sessions and handles -/

/-- A client session starts its receive loop. -/
def openSession (s : State) (serverName : String) (serverConfig : ServerConfig) :
    SessionId × State :=
  (s.nextSession,
    { s with
      sessions := assign s.sessions s.nextSession (some { serverName, serverConfig })
      nextSession := s.nextSession + 1 })

def newHandle (s : State) (session : SessionId) (instructions : Option String) :
    ClientHandle × State :=
  (⟨session, instructions, s.nextSerial⟩, { s with nextSerial := s.nextSerial + 1 })

def updateSession (s : State) (session : SessionId) (change : Session → Session) : State :=
  { s with sessions := assign s.sessions session ((s.sessions session).map change) }

/-- The receive loop of a session is cancelled. -/
def beginClose (s : State) (session : SessionId) : State :=
  s.updateSession session fun current => { current with closed := true }

/-- The receive loop may read its next message. -/
def handlerDone (s : State) (session : SessionId) : State :=
  s.updateSession session fun current => { current with handler := none }

def receive (s : State) (session : SessionId) : Option (String × ServerConfig) :=
  (s.sessions session).map fun current => (current.serverName, current.serverConfig)

/-! ## Blocks of recovery -/

/-- The recovery lock of a server, made on first use, and whether it is held now. -/
def fetchRecoveryLock (s : State) (serverName : String) : (LockId × Bool) × State :=
  match s.recoveryLocks.get? serverName with
  | some lock => ((lock, (s.locks (.recovery lock)).locked), s)
  | none =>
      let lock := s.lockServers.length
      ((lock, (s.locks (.recovery lock)).locked),
        { s with
          recoveryLocks := s.recoveryLocks.set serverName lock
          lockServers := s.lockServers ++ [serverName] })

/-- `_prune_recovery_lock_if_unused` inside the registry lock. -/
def pruneRecoveryLock (s : State) (serverName : String) : State :=
  match s.recoveryLocks.get? serverName with
  | none => s
  | some existing =>
      if (s.locks (.recovery existing)).locked then s
      else if s.clients.contains serverName then s
      else { s with recoveryLocks := s.recoveryLocks.erase serverName }

/-- `_drop_client_for_server` inside the registry lock. -/
def dropClient (s : State) (serverName : String) : Option ClientHandle × State :=
  (s.clients.get? serverName,
    { s with
      clients := s.clients.erase serverName
      serverInstructions := s.serverInstructions.erase serverName })

/-- Put the saved list back, or drop the entry when nothing was saved. -/
def rollback (s : State) (task : TaskId) (serverName : String)
    (previousTools : List ResolvedTool) : State :=
  { s with
    registry :=
      if previousTools.isEmpty then s.registry.unregister serverName
      else s.registry.register serverName previousTools
    history := { s.history with pending := assign s.history.pending task none } }

/-- Install the recovered handle and hand back the old one. -/
def swapClient (s : State) (serverName : String) (handle : ClientHandle) :
    Option ClientHandle × State :=
  (s.clients.get? serverName,
    { s with
      clients := s.clients.set serverName handle
      serverInstructions :=
        match handle.instructions.filter (· != "") with
        | some instructions => s.serverInstructions.set serverName instructions
        | none => s.serverInstructions })

/-- One server update under the registry lock. -/
def converge (s : State) (task : TaskId) (trigger : ConvergenceTrigger) (serverName : String)
    (serverConfig : ServerConfig) (rawTools : List RawTool) :
    Except PyException (Except (List ToolConflict) (List ResolvedTool)) × State :=
  let outcome := s.registry.converge serverName serverConfig rawTools
  (outcome.1,
    { s with
      registry := outcome.2
      history :=
        { s.history with
          pending :=
            match trigger, outcome.1 with
            | .reconnect, .ok (.ok resolved) =>
                assign s.history.pending task
                  (some ⟨serverName, serverConfig, rawTools, resolved⟩)
            | _, _ => s.history.pending } })

/-! ## Blocks of configuration reload -/

/-- The runtime configuration still holds the settings a pending update was resolved with. -/
def Confirms (config : Option TelaConfig) (update : PendingUpdate) : Prop :=
  ∃ current, (config.bind fun config => config.servers.get? update.serverName) = some current ∧
    current.Same update.serverConfig

instance (config : Option TelaConfig) (update : PendingUpdate) :
    Decidable (Confirms config update) :=
  match found : config.bind fun config => config.servers.get? update.serverName with
  | none => isFalse fun ⟨_, same, _⟩ => by rw [found] at same; cases same
  | some current =>
      if same : current.Same update.serverConfig then isTrue ⟨current, found, same⟩
      else isFalse fun ⟨other, foundOther, sameOther⟩ => by
        rw [found] at foundOther
        cases foundOther
        exact same sameOther

/-- `get_runtime_config`; a pending update that it confirms is pending no longer. -/
def getRuntimeConfig (s : State) (task : TaskId) : Option TelaConfig × State :=
  (s.runtimeConfig,
    match s.history.pending task with
    | some update =>
        if Confirms s.runtimeConfig update then
          { s with history := { s.history with pending := assign s.history.pending task none } }
        else s
    | none => s)

/-- `set_runtime_config`; a second call by a reload takes its first one back. -/
def setRuntimeConfig (s : State) (task : TaskId) (config : Option TelaConfig) : State :=
  { s with
    runtimeConfig := config
    history :=
      { s.history with
        ahead := assign s.history.ahead task
          (!s.history.ahead task && replacesServers s.runtimeConfig config) } }

def restoreRegistry (s : State) (task : TaskId) (snap : DownstreamRegistry) : State :=
  { s with
    registry := s.registry.restore snap
    history := { s.history with ahead := assign s.history.ahead task true } }

/-- Every exposed name, in code point order. -/
def exposedToolNames (s : State) : List String :=
  Text.sorted (s.registry.getAllTools.values.flatMap fun tools => tools.map ResolvedTool.name)

def setHint (s : State) (serverName : String) (serverConfig : ServerConfig) : State :=
  { s with serverConfigHints := s.serverConfigHints.set serverName serverConfig }

/-! ## Locks -/

def updateLock (s : State) (lock : LockName) (next : FifoLock) : State :=
  { s with locks := fun other => if other = lock then next else s.locks other }

/-- Release a lock; an update still pending under a recovery lock is pending no longer. -/
def releaseLock (s : State) (task : TaskId) (lock : LockName) : State :=
  let released := s.updateLock lock (s.locks lock).release
  match lock with
  | .registry => released
  | .recovery _ =>
      { released with
        history := { s.history with pending := assign s.history.pending task none } }

/-! ## History -/

def attemptFailed (s : State) (task : TaskId) : State :=
  { s with
    history := { s.history with attemptAt := assign s.history.attemptAt task s.nextSerial } }

end State

end Tela
