import Tela.Library.FifoLock
import Tela.Library.Ledger
import Tela.Shell.Initialize
import Tela.Shell.LifecycleRoutes

/-!
# Acts, awaits and requests of the gateway

The runtime state together with the idle manager, and the synchronous blocks and
awaits of the tasks that serve sessions, routes and sweeps. Removing a connection
and looking up the idle manager happen in one block, as do adding and looking up.
-/

namespace Tela

namespace Gateway

open Coop
open Text (startsWith)

abbrev TimerId := Nat

/-- The task behind an idle timer. -/
inductive TimerState
  | sleeping
  /-- Cancelled, and not yet run again. -/
  | cancelled
  | ended
  deriving DecidableEq, Repr

/-- Connection count and idle timer; the lock is kept beside it. -/
structure IdleShutdownManager where
  shutdownDisabled : Bool
  connectionCount : Nat := 0
  idleHandle : Option TimerId := none

/-- How a session came to be bound to a connection. -/
inductive Origin
  | initialized
  | adopted
  | recaptured
  deriving DecidableEq, Repr

structure Binding where
  session : UpstreamSession
  connectionId : String
  origin : Origin
  deriving DecidableEq, Repr

/-- What has happened so far; only properties read it. -/
structure History where
  /-- Tasks that have added (`true`) or removed a connection and not yet counted that. -/
  ledger : Ledger TaskId := []
  bindings : List Binding := []
  /-- How often an idle timer has run out. -/
  shutdowns : Nat := 0

structure State where
  runtime : GatewayRuntime := {}
  now : Int := 0
  /-- The identifiers that will be drawn for native connections. -/
  uuids : Nat → String := fun _ => ""
  drawn : Nat := 0
  idleManager : Option IdleShutdownManager := none
  idleLock : FifoLock := {}
  timers : TimerId → TimerState := fun _ => .ended
  nextTimer : TimerId := 0
  /-- The event that tasks wait for before they serve tools, when there is one. -/
  convergeEvent : Option Bool := none
  reaperConfig : ReaperPolicyConfig := {}
  history : History := {}

/-- A synchronous block. -/
inductive Act
  | getRuntimeConfig
  | getRuntimeSecrets
  | setRuntimeConfig (config : Option TelaConfig)
  | utcNow
  | newConnectionId
  | hasBridgeRegistration (connectionId : String)
  | registerBridgeConnection (connectionId : String)
  | removeRuntimeConnection (connectionId : String)
  | addRuntimeConnection (ctx : ConnectionContext)
  | captureSession (connectionId : String) (session : UpstreamSession) (origin : Origin)
  | releaseSession (connectionId : String)
  | getCapturedSession (connectionId : String)
  | cleanupConnection (connectionId : String)
  | disconnect (connectionId : String)
  | connections
  | sweepConnection (conn : ConnectionContext) (now : Int)
  | ensureConnection (session : UpstreamSession)
  | ensureBoundConnection (session : UpstreamSession)
  | convergeEvent
  | converged
  /-- A tools request of the session is enforced under this profile; changes nothing. -/
  | enforced (session : UpstreamSession) (profileId : String)
  | installIdleManager (shutdownDisabled : Bool)
  | increment
  | clearTimer
  /-- The bridge is the one whose old connection is retired, when there is one. -/
  | decrement (retired : Option String)
  | releaseIdleLock

/-- What a block hands to the code after it. -/
@[reducible] def Act.Val : Act → Type
  | getRuntimeConfig => Option TelaConfig
  | getRuntimeSecrets => List String
  | utcNow => Int
  | newConnectionId => String
  | hasBridgeRegistration _ => Except String Bool
  -- Whether a connection was removed, and whether that must be uncounted.
  | removeRuntimeConnection _ => Bool × Bool
  -- Whether the connection must be counted.
  | addRuntimeConnection _ => Bool
  | captureSession _ _ _ => Except String Unit
  | getCapturedSession _ => Option UpstreamSession
  -- The response, and whether a removal must be uncounted.
  | disconnect _ => Except PyException (Except String ConnectReply × Bool)
  | connections => List ConnectionContext
  -- Whether a removal must be uncounted.
  | sweepConnection _ _ => Bool
  | ensureConnection _ => Except String ConnectionContext
  | ensureBoundConnection _ => Except String ConnectionContext
  | convergeEvent => Bool
  -- The cancelled timer to wait for.
  | increment => Option TimerId
  -- Whether the count was above zero.
  | decrement _ => Bool
  | _ => Unit

/-- An await. -/
inductive Wait
  | idleLock
  | timer (id : TimerId)
  | converged
  /-- `responder.respond`. -/
  | respond
  /-- The original `_received_request` of the session. -/
  | receivedRequest
  | sendToolListChanged (session : UpstreamSession)

@[reducible] def Wait.Res : Wait → Type := fun _ => Unit

abbrev sig : Sig := ⟨Act, Act.Val, Wait, Wait.Res⟩

abbrev Prog (α : Type) := Coro sig PyException α

namespace State

/-! ## Idle manager blocks -/

/-- `increment` inside the lock up to its await. -/
def increment (s : State) (task : TaskId) : Option TimerId × State :=
  match s.idleManager with
  | none => (none, s)
  | some manager =>
      let counted :=
        { s with
          idleManager := some { manager with connectionCount := manager.connectionCount + 1 }
          history := { s.history with ledger := s.history.ledger.settle task } }
      match manager.idleHandle with
      | none => (none, counted)
      | some timer =>
          (some timer,
            { counted with
              timers := fun other =>
                if other = timer ∧ s.timers timer = .sleeping then .cancelled
                else s.timers other })

def clearTimer (s : State) : State :=
  { s with idleManager := s.idleManager.map fun manager => { manager with idleHandle := none } }

/-- `decrement` inside the lock; a count of zero is left alone. -/
def decrement (s : State) (task : TaskId) : Bool × State :=
  let settled :=
    { s with history := { s.history with ledger := s.history.ledger.settle task } }
  match s.idleManager with
  | none => (false, settled)
  | some manager =>
      match manager.connectionCount with
      | 0 => (false, settled)
      | count + 1 =>
          if count = 0 && !manager.shutdownDisabled then
            (true,
              { settled with
                idleManager :=
                  some { manager with
                    connectionCount := count, idleHandle := some s.nextTimer }
                timers := fun other => if other = s.nextTimer then .sleeping else s.timers other
                nextTimer := s.nextTimer + 1 })
          else
            (true, { settled with idleManager := some { manager with connectionCount := count } })

/--
`init_idle_manager`; an enabled manager is primed with one increment and decrement.
Its lock is new, so that neither of them waits.
-/
def installIdleManager (s : State) (task : TaskId) (shutdownDisabled : Bool) : State :=
  match s.idleManager with
  | some _ => s
  | none =>
      let fresh := { s with idleManager := some { shutdownDisabled }, idleLock := {} }
      if shutdownDisabled then fresh else ((fresh.increment task).2.decrement task).2

/-! ## Connection blocks -/

/-- The task must still count what it has done, when there is an idle manager. -/
def owes (s : State) (task : TaskId) (added : Bool) : Bool × State :=
  if s.idleManager.isSome then
    (true, { s with history := { s.history with ledger := s.history.ledger.enter task added } })
  else (false, s)

def removeRuntimeConnection (s : State) (task : TaskId) (connectionId : String) :
    (Bool × Bool) × State :=
  let removed := s.runtime.removeRuntimeConnection connectionId
  let s := { s with runtime := removed.2 }
  if removed.1 then
    let owed := s.owes task false
    ((true, owed.1), owed.2)
  else ((false, false), s)

def addRuntimeConnection (s : State) (task : TaskId) (ctx : ConnectionContext) : Bool × State :=
  { s with runtime := s.runtime.addRuntimeConnection ctx }.owes task true

/-- A new binding is noted. -/
def captureSession (s : State) (connectionId : String) (session : UpstreamSession)
    (origin : Origin) : Except String Unit × State :=
  let captured := s.runtime.captureSession connectionId session
  (captured.1,
    { s with
      runtime := captured.2
      history :=
        { s.history with
          bindings :=
            if s.runtime.sessionRegistry.get? connectionId = captured.2.sessionRegistry.get?
                connectionId then s.history.bindings
            else ⟨session, connectionId, origin⟩ :: s.history.bindings } })

/-- `_disconnect_route` behind the bearer check, up to its last await. -/
def disconnect (s : State) (task : TaskId) (connectionId : String) :
    Except PyException (Except String ConnectReply × Bool) × State :=
  let connectionExisted :=
    s.runtime.connections.any fun conn => conn.connectionId = connectionId
  let handled := LifecycleRoutes.ensured "handle_disconnect" LifecycleRoutes.disconnectPost
    (LifecycleRoutes.admittedDisconnect s.runtime ⟨connectionId⟩)
  let s := { s with runtime := handled.2 }
  match handled.1 with
  | .error exc => (.error exc, s)
  | .ok (.error error) => (.ok (.error error, false), s)
  | .ok (.ok reply) =>
      if connectionExisted then
        let owed := s.owes task false
        (.ok (.ok reply, owed.1), owed.2)
      else (.ok (.ok reply, false), s)

/-- The reaper settings of the current round of a sweep. -/
def effectiveConfig (s : State) : ReaperPolicyConfig :=
  match s.runtime.config with
  | some config => config.reaper
  | none => s.reaperConfig

/-- The idle limit of a connection has run out. -/
def stale (s : State) (conn : ConnectionContext) (now : Int) : Bool :=
  let ttl := if startsWith conn.connectionId "bridge_" then s.effectiveConfig.bridgeIdleTtl
    else s.effectiveConfig.nativeIdleTtl
  ttl != 0 && decide (now - conn.lastActivity.getD conn.connectedAt > ttl)

/-- The session of a native connection is gone. -/
def sessionGone (s : State) (conn : ConnectionContext) : Bool :=
  startsWith conn.connectionId "conn_" &&
    (s.runtime.getCapturedSession conn.connectionId).isNone

/-- One round of `sweep` up to its await; `conn` is as the sweep found it at its start. -/
def sweepConnection (s : State) (task : TaskId) (conn : ConnectionContext) (now : Int) :
    Bool × State :=
  if s.sessionGone conn || s.stale conn now then
    match s.runtime.cleanupConnectionById conn.connectionId with
    | (.error _, runtime) => (false, { s with runtime := runtime })
    | (.ok _, runtime) => { s with runtime := runtime }.owes task false
  else (false, s)

/-- Resolve a connection; an adoption is noted. -/
def ensureConnection (s : State) (session : UpstreamSession) :
    Except String ConnectionContext × State :=
  let ensured := s.runtime.ensureConnection session s.now
  (ensured.1,
    { s with
      runtime := ensured.2
      history :=
        { s.history with
          bindings :=
            match s.runtime.findConnectionForSession session, ensured.1 with
            | none, .ok candidate =>
                ⟨session, candidate.connectionId, .adopted⟩ :: s.history.bindings
            | _, _ => s.history.bindings } })

def ensureBoundConnection (s : State) (session : UpstreamSession) :
    Except String ConnectionContext × State :=
  let ensured := s.runtime.ensureBoundConnection session s.now
  (ensured.1, { s with runtime := ensured.2 })

/-- `f"conn_{uuid4().hex[:8]}"`. -/
def newConnectionId (s : State) : String × State :=
  ("conn_" ++ s.uuids s.drawn, { s with drawn := s.drawn + 1 })

/-! ## The world -/

def exec (task : TaskId) : (a : Act) → State → a.Val × State
  | .getRuntimeConfig, s => (s.runtime.config, s)
  | .getRuntimeSecrets, s => (s.runtime.secrets, s)
  | .setRuntimeConfig config, s => ((), { s with runtime := { s.runtime with config := config } })
  | .utcNow, s => (s.now, s)
  | .newConnectionId, s => s.newConnectionId
  | .hasBridgeRegistration connectionId, s => (s.runtime.hasBridgeRegistration connectionId, s)
  | .registerBridgeConnection connectionId, s =>
      ((), { s with runtime := (s.runtime.registerBridgeConnection connectionId).2 })
  | .removeRuntimeConnection connectionId, s => s.removeRuntimeConnection task connectionId
  | .addRuntimeConnection ctx, s => s.addRuntimeConnection task ctx
  | .captureSession connectionId session origin, s =>
      s.captureSession connectionId session origin
  | .releaseSession connectionId, s =>
      ((), { s with runtime := s.runtime.releaseSession connectionId })
  | .getCapturedSession connectionId, s => (s.runtime.getCapturedSession connectionId, s)
  | .cleanupConnection connectionId, s =>
      ((), { s with runtime := (s.runtime.cleanupConnectionById connectionId).2 })
  | .disconnect connectionId, s => s.disconnect task connectionId
  | .connections, s => (s.runtime.connections, s)
  | .sweepConnection conn now, s => s.sweepConnection task conn now
  | .ensureConnection session, s => s.ensureConnection session
  | .ensureBoundConnection session, s => s.ensureBoundConnection session
  | .convergeEvent, s => (s.convergeEvent.isSome, s)
  | .converged, s => ((), { s with convergeEvent := s.convergeEvent.map fun _ => true })
  | .enforced _ _, s => ((), s)
  | .installIdleManager shutdownDisabled, s => ((), s.installIdleManager task shutdownDisabled)
  | .increment, s => s.increment task
  | .clearTimer, s => ((), s.clearTimer)
  | .decrement _, s => s.decrement task
  | .releaseIdleLock, s => ((), { s with idleLock := s.idleLock.release })

/-- A free lock is taken, and a set event or an ended timer is passed, without suspending. -/
def enter (task : TaskId) : (w : Wait) → State → Option w.Res × State
  | .idleLock, s =>
      match s.idleLock.arrive task with
      | (true, next) => (some (), { s with idleLock := next })
      | (false, next) => (none, { s with idleLock := next })
  | .converged, s => if s.convergeEvent = some true then (some (), s) else (none, s)
  | .timer id, s => if s.timers id = .ended then (some (), s) else (none, s)
  | .respond, s => (none, s)
  | .receivedRequest, s => (none, s)
  | .sendToolListChanged _, s => (none, s)

/-- How a pending await may end; only messages to clients fail. -/
def wake (task : TaskId) : (w : Wait) → Except PyException w.Res → State → Option State
  | .idleLock, .ok (), s => (s.idleLock.grant task).map fun next => { s with idleLock := next }
  | .idleLock, .error _, _ => none
  | .timer id, .ok (), s =>
      some { s with timers := fun other => if other = id then .ended else s.timers other }
  | .timer _, .error _, _ => none
  | .converged, .ok (), s => if s.convergeEvent = some true then some s else none
  | .converged, .error _, _ => none
  | .respond, .ok (), s => some s
  | .respond, .error exc, s => if exc.isException then some s else none
  | .receivedRequest, .ok (), s => some s
  | .receivedRequest, .error exc, s => if exc.isException then some s else none
  | .sendToolListChanged _, .ok (), s => some s
  | .sendToolListChanged _, .error exc, s => if exc.isException then some s else none

end State

/-- What starts a task. -/
inductive Req
  /-- The clock is read differently from now on. -/
  | clock (now : Int)
  | initializeRequest (session : UpstreamSession) (clientInfo : JsonObject)
  | listTools (session : UpstreamSession)
  | callTool (session : UpstreamSession) (builtin : Bool)
  | connect (connectionId : String)
  | disconnect (connectionId : String)
  | sweep
  | notifyAllConnections
  | installIdleManager (shutdownDisabled : Bool)
  | converged
  | reload (config : TelaConfig)
  /-- The sleep of an idle timer is over. -/
  | timerExpired (id : TimerId)

namespace State

/-- A timer that was not cancelled runs the shutdown callback. -/
def accept (_ : TaskId) : Req → State → Option State
  | .clock now, s => some { s with now := now }
  | .timerExpired id, s =>
      if s.timers id = .sleeping then
        some { s with
          timers := fun other => if other = id then .ended else s.timers other
          history := { s.history with shutdowns := s.history.shutdowns + 1 } }
      else none
  | _, s => some s

end State

end Gateway

end Tela
