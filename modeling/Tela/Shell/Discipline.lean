import Tela.Library.Monitor
import Tela.Shell.DownstreamSystem

/-!
# What each downstream task may do, and when

A trace records the locks a task holds and the values it carries from one block to
a later one. The monitor states, for every block and await, which trace allows it;
the rest of the module shows that every program keeps to that. Invariants of the
shared state are then proved once for each block instead of along each program.
-/

namespace Tela

open Coop

/-- What started a task. -/
inductive Role
  | absent
  | plain
  | caller
  | reload
  | handler (session : SessionId) (message : Message)
  | worker (batch : BatchId) (index : Nat)
  deriving DecidableEq

/-- Calls and handlers of a transport error recover clients; nothing else does. -/
def Role.recovers : Role → Bool
  | caller => true
  | handler _ .error => true
  | _ => false

/-- A recovery lock that a task has looked up, and whether it has acquired it. -/
structure Hold where
  server : String
  lock : LockId
  acquired : Bool
  deriving DecidableEq

/-- What a task holds and carries. -/
structure Trace where
  role : Role := .absent
  /-- The task holds the registry lock. -/
  registry : Bool := false
  recovery : Option Hold := none
  /-- The registry is empty and nobody else can write it. -/
  cleared : Bool := false
  /-- A waiter found this client and a registry entry in place. -/
  shortcut : Option (String × ClientHandle) := none
  /-- The recovery of this server has swapped its new client in. -/
  swapped : Option String := none
  /-- The configuration a reload has read and not yet replaced. -/
  config : Option (Option TelaConfig) := none
  /-- A reload replaced the configuration and has not yet reset the registry. -/
  ahead : Bool := false
  /-- Waiting for the registry lock ended with an exception. -/
  interrupted : Bool := false
  batch : Option BatchId := none
  results : Option (List (Except String ConnectedServerData)) := none
  snapshot : Option DownstreamRegistry := none
  previous : Option (String × List ResolvedTool) := none
  /-- The session to list, with the server it belongs to. -/
  target : Option (String × SessionId) := none
  listed : Option (String × List RawTool) := none
  opened : Option ClientHandle := none
  /-- A coroutine of a `gather` has handed over its outcome. -/
  reported : Bool := false

namespace Trace

/-- The task may wait. -/
structure Settled (g : Trace) : Prop where
  recovery : ∀ hold, g.recovery = some hold → hold.acquired = true
  shortcut : g.shortcut = none
  config : g.config = none
  role : ∀ session, g.role ≠ .handler session .other
  swapped : ∀ server, g.swapped = some server → ∃ lock, g.recovery = some ⟨server, lock, true⟩

/-- The task may wait for the registry lock. -/
structure Free (g : Trace) : Prop extends Settled g where
  registry : g.registry = false
  cleared : g.cleared = false
  notWorker : ∀ batch index, g.role ≠ .worker batch index

def locked (g : Trace) : Trace := { g with registry := true }

def unlocked (g : Trace) : Trace := { g with registry := false, cleared := false }

def interrupt (g : Trace) (flag : Bool) : Trace := { g with interrupted := flag }

theorem unlocked_locked {g : Trace} (free : g.Free) : g.locked.unlocked = g := by
  obtain ⟨-, registry, cleared, -⟩ := free
  cases g
  cases registry
  cases cleared
  rfl

/-- The locks and the carried decisions are the same. -/
structure Frame (g g' : Trace) : Prop where
  role : g'.role = g.role
  registry : g'.registry = g.registry
  recovery : g'.recovery = g.recovery
  shortcut : g'.shortcut = g.shortcut
  swapped : g'.swapped = g.swapped
  config : g'.config = g.config
  snapshot : g'.snapshot = g.snapshot

/-- So are the phases of `connect_all` and of a reload. -/
structure Steady (g g' : Trace) : Prop extends Frame g g' where
  cleared : g'.cleared = g.cleared
  ahead : g'.ahead = g.ahead

theorem Frame.refl (g : Trace) : Frame g g := ⟨rfl, rfl, rfl, rfl, rfl, rfl, rfl⟩

theorem Frame.trans {g g' g'' : Trace} (first : Frame g g') (second : Frame g' g'') :
    Frame g g'' :=
  ⟨second.role.trans first.role, second.registry.trans first.registry,
    second.recovery.trans first.recovery, second.shortcut.trans first.shortcut,
    second.swapped.trans first.swapped, second.config.trans first.config,
    second.snapshot.trans first.snapshot⟩

theorem Frame.settled {g g' : Trace} (frame : Frame g g') (settled : g.Settled) : g'.Settled where
  recovery := by rw [frame.recovery]; exact settled.recovery
  shortcut := by rw [frame.shortcut]; exact settled.shortcut
  config := by rw [frame.config]; exact settled.config
  role := by rw [frame.role]; exact settled.role
  swapped := by rw [frame.swapped, frame.recovery]; exact settled.swapped

theorem Frame.free {g g' : Trace} (frame : Frame g g') (free : g.Free)
    (cleared : g'.cleared = false) : g'.Free where
  toSettled := frame.settled free.toSettled
  registry := frame.registry.trans free.registry
  cleared := cleared
  notWorker := by rw [frame.role]; exact free.notWorker

theorem Steady.refl (g : Trace) : Steady g g := ⟨.refl g, rfl, rfl⟩

theorem Steady.trans {g g' g'' : Trace} (first : Steady g g') (second : Steady g' g'') :
    Steady g g'' :=
  ⟨first.toFrame.trans second.toFrame, second.cleared.trans first.cleared,
    second.ahead.trans first.ahead⟩

/-- The task holds the recovery lock of the server. -/
def Recovers (g : Trace) (server : String) : Prop :=
  ∃ lock, g.recovery = some ⟨server, lock, true⟩

/-- What a published startup rests on: a finished coroutine, or a list given beforehand. -/
def Started (g : Trace) (serverName : String) (startup : ConnectedServerData) : Prop :=
  startup.serverName = serverName ∧
    ((∃ results, g.results = some results ∧ .ok startup ∈ results) ∨
      (startup.clientHandle = none ∧ g.role ≠ .reload))

/-- A coroutine reports the list and the handle it obtained itself. -/
def Reportable (g : Trace) (outcome : Except PyException (Except String ConnectedServerData)) :
    Prop :=
  ∀ startup, outcome = .ok (.ok startup) →
    g.listed = some (startup.serverName, startup.rawTools) ∧ startup.clientHandle = g.opened

end Trace

/-! ## The monitor -/

/-- The trace in which a block may run. -/
def Act.may : Act → Trace → Prop
  | release .registry, g => g.registry = true
  | release (.recovery lock), g => ∃ server, g.recovery = some ⟨server, lock, true⟩
  | setRuntimeConfig _, g => g.role = .reload ∧ (g.config.isSome = true ∨ g.ahead = true)
  | newHandle session _, g => ∃ server, g.target = some (server, session)
  | takeClients, g => g.registry = true ∧ g.shortcut = none
  | resetForConnect _, g => g.registry = true
  | spawn _, g => g.registry = true ∧ g.cleared = true
  | takeJob batch index, g => g.role = .worker batch index
  | report batch index outcome, g => g.role = .worker batch index ∧ g.Reportable outcome
  | jobResults batch, g => g.batch = some batch
  | failStartup _, g => g.registry = true ∧ g.cleared = true
  | publish servers connected allResolved _, g =>
      g.registry = true ∧ g.cleared = true ∧ g.shortcut = none ∧
        detectConflicts allResolved = [] ∧
        ∀ serverName startup, connected.get? serverName = some startup →
          g.Started serverName startup ∧
            ∃ serverConfig resolved, servers.get? serverName = some serverConfig ∧
              allResolved.get? serverName = some resolved ∧
              resolveTools serverName serverConfig startup.rawTools = .ok resolved
  | resetForDisconnect, g => g.registry = true ∧ g.recovery = none
  | readClient _, g => g.registry = true
  | readClientAndTools _, g => g.registry = true
  | readTools _, g => g.registry = true
  | fetchRecoveryLock _, g => g.registry = true ∧ g.recovery = none
  | pruneRecoveryLock _, g => g.registry = true ∧ g.recovery = none
  | dropClient _, g => g.registry = true ∧ g.shortcut = none
  | converge trigger serverName _ rawTools, g =>
      g.registry = true ∧ g.cleared = false ∧ g.listed = some (serverName, rawTools) ∧
        (trigger = .reconnect → g.Recovers serverName ∨ g.role = .plain)
  | rollback serverName previousTools, g =>
      g.registry = true ∧ g.cleared = false ∧ g.previous = some (serverName, previousTools) ∧
        g.Recovers serverName
  | swapClient serverName handle, g =>
      g.registry = true ∧ g.cleared = false ∧ g.shortcut = none ∧ g.opened = some handle ∧
        g.Recovers serverName
  | snapshotRegistry, g => g.registry = true
  | restoreRegistry snap, g =>
      g.registry = true ∧ g.snapshot = some snap ∧ g.role = .reload ∧ g.cleared = false
  | exposedToolNames, g => g.registry = true
  | receive session, g => ∃ message, g.role = .handler session message
  | handlerDone session, g => ∃ message, g.role = .handler session message
  | attemptFailed, g => g.swapped = none ∧ g.shortcut = none ∧ g.recovery = none
  | recovered serverName, g =>
      (∃ handle, g.shortcut = some (serverName, handle)) ∨ g.swapped = some serverName
  | _, _ => True

/-- The trace after a block. -/
def Act.after : (a : Act) → a.Val → Trace → Trace
  | release .registry, _, g => g.unlocked
  | release (.recovery _), _, g => { g with recovery := none }
  | getRuntimeConfig, runtimeConfig, g =>
      if g.role = .reload then { g with config := some runtimeConfig } else g
  | setRuntimeConfig config, _, g =>
      { g with
        ahead := !g.ahead && g.config.any fun before => replacesServers before config
        config := none }
  | openSession serverName _, session, g => { g with target := some (serverName, session) }
  | newHandle _ _, handle, g =>
      { g with
        target := g.target.map fun target => (target.1, handle.session)
        opened := some handle }
  | resetForConnect _, _, g =>
      { g with cleared := true, ahead := false, batch := none, results := none }
  | spawn _, batch, g => { g with batch := some batch }
  | report _ _ _, _, g => { g with reported := true }
  | jobResults _, results, g => { g with results := some results }
  | publish _ _ _ _, _, g => { g with cleared := false }
  | readClient serverName, client, g =>
      { g with target := client.map fun client => (serverName, client.session) }
  | readClientAndTools serverName, (client, tools), g =>
      { g with shortcut := tools.bind fun _ => client.map fun client => (serverName, client) }
  | readTools serverName, tools, g => { g with previous := some (serverName, tools) }
  | fetchRecoveryLock serverName, (lock, _), g =>
      { g with recovery := some ⟨serverName, lock, false⟩ }
  | swapClient serverName _, _, g => { g with swapped := some serverName }
  | snapshotRegistry, registry, g => { g with snapshot := some registry }
  | restoreRegistry _, _, g => { g with ahead := true }
  | handlerDone _, _, g => { g with role := .plain }
  | attemptFailed, _, g => { g with opened := none }
  | recovered _, _, g => { g with shortcut := none, swapped := none }
  | _, _, g => g

/-- The trace in which a task may wait. -/
def Wait.may : Wait → Trace → Prop
  | acquire .registry, g => g.Free
  | acquire (.recovery lock), g =>
      (∃ server, g.recovery = some ⟨server, lock, false⟩) ∧ g.registry = false ∧
        g.shortcut = none ∧ g.config = none ∧ g.swapped = none ∧ g.role.recovers = true
  | listTools session, g => g.Settled ∧ ∃ server, g.target = some (server, session)
  | gather batch, g =>
      g.Settled ∧ g.batch = some batch ∧ g.registry = true ∧ g.cleared = true ∧
        ∀ batch index, g.role ≠ .worker batch index
  | _, g => g.Settled

/-- The trace after a wait; no result stands for an exception or a lapse. -/
def Wait.woken : (w : Wait) → Option w.Res → Trace → Trace
  | acquire .registry, some _, g => g.locked
  | acquire .registry, none, g => g.interrupt true
  | acquire (.recovery _), some _, g =>
      { g with recovery := g.recovery.map fun hold => { hold with acquired := true } }
  | acquire (.recovery _), none, g => { g with recovery := none }
  | listTools _, some rawTools, g =>
      { g with listed := g.target.map fun target => (target.1, rawTools) }
  | _, _, g => g

theorem Act.after_role (a : Act) (v : a.Val) (g : Trace) :
    (a.after v g).role = g.role ∨ (a.after v g).role = .plain := by
  unfold Act.after
  split <;> first | exact .inl rfl | exact .inr rfl | skip
  split
  · exact .inl rfl
  · exact .inl rfl

theorem Wait.woken_role (w : Wait) (r : Option w.Res) (g : Trace) :
    (w.woken r g).role = g.role := by
  unfold Wait.woken
  split <;> rfl

/-- Traces of downstream tasks. Only a reload never waits under a time limit. -/
def monitor : Monitor sig Trace where
  may := Act.may
  after := Act.after
  mayWait := Wait.may
  woken := Wait.woken
  mayTime g := g.role ≠ .reload
  mayTime_after {a v g} other := by
    obtain same | plain := Act.after_role a v g
    · rwa [same]
    · simp [plain]
  mayTime_woken {w r g} other := by rwa [Wait.woken_role w r g]

end Tela
