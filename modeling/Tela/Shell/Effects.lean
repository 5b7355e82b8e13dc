import Tela.Shell.Disciplined

/-!
# What blocks and awaits leave alone

The writers of each part of the state are listed once. Awaits and requests write
so little that one equation describes each of them.
-/

namespace Tela

open Coop

namespace Act

def writesLocks : Act → Bool
  | release _ => true
  | _ => false

def writesRecoveryLocks : Act → Bool
  | resetForDisconnect => true
  | fetchRecoveryLock _ => true
  | pruneRecoveryLock _ => true
  | _ => false

def writesRegistry : Act → Bool
  | resetForConnect _ => true
  | failStartup _ => true
  | publish _ _ _ _ => true
  | resetForDisconnect => true
  | converge _ _ _ _ => true
  | rollback _ _ => true
  | restoreRegistry _ => true
  | _ => false

def writesClients : Act → Bool
  | takeClients => true
  | publish _ _ _ _ => true
  | dropClient _ => true
  | swapClient _ _ => true
  | _ => false

def writesSessions : Act → Bool
  | openSession _ _ => true
  | beginClose _ => true
  | handlerDone _ => true
  | _ => false

def writesBatches : Act → Bool
  | spawn _ => true
  | report _ _ _ => true
  | _ => false

def writesConfig : Act → Bool
  | setRuntimeConfig _ => true
  | _ => false

def writesAhead : Act → Bool
  | setRuntimeConfig _ => true
  | resetForConnect _ => true
  | restoreRegistry _ => true
  | _ => false

def writesPending : Act → Bool
  | getRuntimeConfig => true
  | release _ => true
  | converge _ _ _ _ => true
  | rollback _ _ => true
  | _ => false

def writesAttempts : Act → Bool
  | newHandle _ _ => true
  | attemptFailed => true
  | _ => false

end Act

namespace State

variable {task : TaskId} {s s' : State}

/-- Publishing writes the registry and the client tables only. -/
theorem publish_frame (servers : Dict String ServerConfig)
    (connected : Dict String ConnectedServerData)
    (allResolved : Dict String (List ResolvedTool))
    (failures : Dict String ProviderStartupFailure) (s : State) :
    ∃ registry clients instructions hints startup,
      s.publish servers connected allResolved failures =
        { s with
          registry := registry, clients := clients, serverInstructions := instructions,
          serverConfigHints := hints, startup := startup } := by
  have loop : ∀ (entries : List (String × ConnectedServerData)) (s : State),
      ∃ registry clients instructions hints,
        entries.foldl (publishServer servers allResolved) s =
          { s with
            registry := registry, clients := clients, serverInstructions := instructions,
            serverConfigHints := hints } := by
    intro entries
    induction entries with
    | nil => exact fun s => ⟨_, _, _, _, rfl⟩
    | cons entry rest ih =>
        intro s
        obtain ⟨registry, clients, instructions, hints, same⟩ :=
          ih (publishServer servers allResolved s entry)
        exact ⟨registry, clients, instructions, hints, same⟩
  obtain ⟨registry, clients, instructions, hints, same⟩ := loop connected.entries s
  refine ⟨registry, clients, instructions, hints, ?_, ?_⟩
  rotate_left
  · unfold publish markStartupFinished
    rw [same]

theorem fetchRecoveryLock_frame (s : State) (serverName : String) :
    ∃ recoveryLocks lockServers, (s.fetchRecoveryLock serverName).2 =
      { s with recoveryLocks := recoveryLocks, lockServers := lockServers } := by
  unfold fetchRecoveryLock
  split
  · exact ⟨_, _, rfl⟩
  · exact ⟨_, _, rfl⟩

theorem pruneRecoveryLock_frame (s : State) (serverName : String) :
    ∃ recoveryLocks, s.pruneRecoveryLock serverName =
      { s with recoveryLocks := recoveryLocks } := by
  unfold pruneRecoveryLock
  split
  · exact ⟨_, rfl⟩
  · split
    · exact ⟨_, rfl⟩
    · split
      · exact ⟨_, rfl⟩
      · exact ⟨_, rfl⟩

theorem getRuntimeConfig_frame (s : State) (task : TaskId) :
    ∃ pending, (s.getRuntimeConfig task).2 =
      { s with history := { s.history with pending := pending } } := by
  unfold getRuntimeConfig
  split
  · dsimp only
    split
    · exact ⟨_, rfl⟩
    · exact ⟨_, rfl⟩
  · exact ⟨_, rfl⟩

theorem releaseLock_frame (s : State) (task : TaskId) (lock : LockName) :
    ∃ locks pending, s.releaseLock task lock =
      { s with locks := locks, history := { s.history with pending := pending } } := by
  cases lock with
  | registry => exact ⟨_, s.history.pending, rfl⟩
  | recovery id => exact ⟨_, _, rfl⟩

/-- The parts of the state that a block does not write are as before. -/
structure Unwritten (a : Act) (s s' : State) : Prop where
  locks : a.writesLocks = false → s'.locks = s.locks
  recoveryLocks : a.writesRecoveryLocks = false → s'.recoveryLocks = s.recoveryLocks
  lockServers : a.writesRecoveryLocks = false → s'.lockServers = s.lockServers
  registry : a.writesRegistry = false → s'.registry = s.registry
  clients : a.writesClients = false → s'.clients = s.clients
  sessions : a.writesSessions = false → s'.sessions = s.sessions
  nextSession : a.writesSessions = false → s'.nextSession = s.nextSession
  batches : a.writesBatches = false → s'.batches = s.batches
  nextBatch : a.writesBatches = false → s'.nextBatch = s.nextBatch
  runtimeConfig : a.writesConfig = false → s'.runtimeConfig = s.runtimeConfig
  ahead : a.writesAhead = false → s'.history.ahead = s.history.ahead
  pending : a.writesPending = false → s'.history.pending = s.history.pending
  attemptAt : a.writesAttempts = false → s'.history.attemptAt = s.history.attemptAt
  nextSerial : a.writesAttempts = false → s'.nextSerial = s.nextSerial
  reported : s'.history.reported = s.history.reported

theorem exec_unwritten (task : TaskId) (a : Act) (s : State) :
    Unwritten a s (exec task a s).2 := by
  cases a with
  | release lock =>
      obtain ⟨_, _, same⟩ := s.releaseLock_frame task lock
      change Unwritten _ s (s.releaseLock task lock)
      rw [same]
      constructor <;> first | rfl | exact fun _ => rfl | exact fun kept => by cases kept
  | publish servers connected allResolved failures =>
      obtain ⟨_, _, _, _, _, same⟩ := publish_frame servers connected allResolved failures s
      change Unwritten _ s (s.publish servers connected allResolved failures)
      rw [same]
      constructor <;> first | rfl | exact fun _ => rfl | exact fun kept => by cases kept
  | fetchRecoveryLock serverName =>
      obtain ⟨_, _, same⟩ := s.fetchRecoveryLock_frame serverName
      change Unwritten _ s (s.fetchRecoveryLock serverName).2
      rw [same]
      constructor <;> first | rfl | exact fun _ => rfl | exact fun kept => by cases kept
  | pruneRecoveryLock serverName =>
      obtain ⟨_, same⟩ := s.pruneRecoveryLock_frame serverName
      change Unwritten _ s (s.pruneRecoveryLock serverName)
      rw [same]
      constructor <;> first | rfl | exact fun _ => rfl | exact fun kept => by cases kept
  | getRuntimeConfig =>
      obtain ⟨_, same⟩ := s.getRuntimeConfig_frame task
      change Unwritten _ s (s.getRuntimeConfig task).2
      rw [same]
      constructor <;> first | rfl | exact fun _ => rfl | exact fun kept => by cases kept
  | _ => constructor <;> first | rfl | exact fun _ => rfl | exact fun kept => by cases kept

/-! ## Awaits and requests -/

/-- An await is over at once when it takes an idle lock or when nothing is pending. -/
theorem enter_passed {w : Wait} {result : w.Res} (entered : enter task w s = (some result, s')) :
    (∃ lock, w = .acquire lock ∧ (s.locks lock).Idle ∧ s' = s.updateLock lock ⟨some task, []⟩) ∨
      ((∀ lock, w ≠ .acquire lock) ∧ s' = s) := by
  cases w with
  | acquire lock =>
      cases taken : (s.locks lock).arrive task with
      | mk now next =>
          simp only [enter, taken] at entered
          cases now with
          | true =>
              obtain ⟨idle, rfl⟩ := FifoLock.arrive_taken taken
              exact .inl ⟨lock, rfl, idle, (Prod.mk.inj entered).2.symm⟩
          | false => cases (Prod.mk.inj entered).1
  | gather batch =>
      simp only [enter] at entered
      split at entered
      · exact .inr ⟨nofun, (Prod.mk.inj entered).2.symm⟩
      · cases (Prod.mk.inj entered).1
  | _ => cases (Prod.mk.inj entered).1

/-- A suspended task waits in the queue of a lock or for something outside. -/
theorem enter_suspended {w : Wait} (entered : enter task w s = (none, s')) :
    (∃ lock, w = .acquire lock ∧
      s' = s.updateLock lock ⟨(s.locks lock).holder, (s.locks lock).waiters ++ [task]⟩) ∨
      ((∀ lock, w ≠ .acquire lock) ∧ s' = s) := by
  cases w with
  | acquire lock =>
      cases queued : (s.locks lock).arrive task with
      | mk now next =>
          simp only [enter, queued] at entered
          cases now with
          | true => cases (Prod.mk.inj entered).1
          | false =>
              obtain rfl := FifoLock.arrive_queued queued
              exact .inl ⟨lock, rfl, (Prod.mk.inj entered).2.symm⟩
  | gather batch =>
      simp only [enter] at entered
      split at entered
      · cases (Prod.mk.inj entered).1
      · exact .inr ⟨nofun, (Prod.mk.inj entered).2.symm⟩
  | _ => exact .inr ⟨nofun, (Prod.mk.inj entered).2.symm⟩

/-- The end of an await touches only locks and the reported lists. -/
theorem wake_frame {w : Wait} {outcome : Except PyException w.Res}
    (ended : wake task w outcome s = some s') :
    ∃ locks reported,
      s' = { s with locks := locks, history := { s.history with reported := reported } } := by
  cases w with
  | acquire lock =>
      cases outcome with
      | ok value =>
          obtain ⟨next, -, rfl⟩ := Option.map_eq_some_iff.mp ended
          exact ⟨_, s.history.reported, rfl⟩
      | error exc =>
          obtain ⟨-, same⟩ := Option.ite_none_right_eq_some.mp ended
          cases same
          exact ⟨_, s.history.reported, rfl⟩
  | listTools session =>
      cases outcome with
      | ok rawTools =>
          obtain ⟨-, same⟩ := Option.ite_none_right_eq_some.mp ended
          cases same
          unfold noteReport
          split
          · exact ⟨s.locks, _, rfl⟩
          · exact ⟨s.locks, s.history.reported, rfl⟩
      | error exc =>
          obtain ⟨-, same⟩ := Option.ite_none_right_eq_some.mp ended
          cases same
          exact ⟨_, s.history.reported, rfl⟩
  | connectTransport serverName =>
      cases ended
      exact ⟨_, s.history.reported, rfl⟩
  | aclose =>
      cases ended
      exact ⟨_, s.history.reported, rfl⟩
  | notify digestInput =>
      cases ended
      exact ⟨_, s.history.reported, rfl⟩
  | auditWrite =>
      cases ended
      exact ⟨_, s.history.reported, rfl⟩
  | _ =>
      cases outcome <;>
        · obtain ⟨-, same⟩ := Option.ite_none_right_eq_some.mp ended
          cases same
          exact ⟨_, s.history.reported, rfl⟩

/-- A woken waiter has the lock, or gives up with an exception. -/
theorem wake_locks {w : Wait} {outcome : Except PyException w.Res}
    (ended : wake task w outcome s = some s') :
    (∃ lock rest, w = .acquire lock ∧ outcome.toOption.isSome = true ∧
      (s.locks lock).holder = none ∧ (s.locks lock).waiters = task :: rest ∧
      s' = s.updateLock lock ⟨some task, rest⟩) ∨
    (∃ lock, w = .acquire lock ∧ outcome.toOption = none ∧ s' = s.leaveQueue task lock) ∨
      ((∀ lock, w ≠ .acquire lock) ∧ s'.locks = s.locks) := by
  cases w with
  | acquire lock =>
      cases outcome with
      | ok value =>
          obtain ⟨next, granted, rfl⟩ := Option.map_eq_some_iff.mp ended
          obtain ⟨free, rest, queue, rfl⟩ := FifoLock.grant_eq_some granted
          exact .inl ⟨lock, rest, rfl, rfl, free, queue, rfl⟩
      | error exc =>
          obtain ⟨-, same⟩ := Option.ite_none_right_eq_some.mp ended
          cases same
          exact .inr (.inl ⟨lock, rfl, rfl, rfl⟩)
  | connectTransport serverName =>
      cases ended
      exact .inr (.inr ⟨nofun, rfl⟩)
  | aclose =>
      cases ended
      exact .inr (.inr ⟨nofun, rfl⟩)
  | notify digestInput =>
      cases ended
      exact .inr (.inr ⟨nofun, rfl⟩)
  | auditWrite =>
      cases ended
      exact .inr (.inr ⟨nofun, rfl⟩)
  | _ =>
      refine .inr (.inr ⟨nofun, ?_⟩)
      cases outcome <;>
        · obtain ⟨-, same⟩ := Option.ite_none_right_eq_some.mp ended
          cases same
          first | rfl | (unfold noteReport; split <;> rfl)

/-- A waiter whose limit has passed leaves the queue. -/
theorem lapse_locks {w : Wait} {limit : Nat} (ended : lapse task w limit s = some s') :
    (∃ lock, w = .acquire lock ∧ s' = s.leaveQueue task lock) ∨
      ((∀ lock, w ≠ .acquire lock) ∧ s' = s) := by
  obtain ⟨-, same⟩ := Option.ite_none_right_eq_some.mp ended
  cases w with
  | acquire lock => exact .inl ⟨lock, rfl, (Option.some.inj same).symm⟩
  | _ => exact .inr ⟨nofun, (Option.some.inj same).symm⟩

/-- Accepting a request touches the clock, a session's handler and a coroutine's task. -/
theorem accept_frame {request : Req} (accepted : accept task request s = some s') :
    ∃ clock sessions batches interruptible,
      s' = { s with
        clock := clock, sessions := sessions, batches := batches,
        interruptible := interruptible } := by
  cases request with
  | deliver session message =>
      obtain ⟨-, same⟩ := Option.ite_none_right_eq_some.mp accepted
      cases same
      exact ⟨s.clock, _, s.batches, _, rfl⟩
  | connectServer batch index =>
      simp only [accept] at accepted
      split at accepted
      · obtain ⟨-, same⟩ := Option.ite_none_right_eq_some.mp accepted
        cases same
        exact ⟨s.clock, s.sessions, _, s.interruptible, rfl⟩
      · cases accepted
  | callTool serverName toolName arguments =>
      cases accepted
      exact ⟨s.clock, s.sessions, s.batches, _, rfl⟩
  | tick milliseconds =>
      cases accepted
      exact ⟨_, s.sessions, s.batches, s.interruptible, rfl⟩
  | _ =>
      cases accepted
      exact ⟨s.clock, s.sessions, s.batches, s.interruptible, rfl⟩

end State

/-! ## Invariants that only blocks can break -/

/-- `Inv` survives blocks and requests, and looks at neither the waits nor the locks. -/
structure KeepsActs (ok : Guard world) (given Inv : Watched world Trace → Prop) : Prop where
  admitted : ∀ v task request state, given v → Inv v → v.traces task = discipline.idle →
    v.waits task = none → ok v.state v.waits (.admitted task request) →
    State.accept task request v.state = some state →
    Inv ⟨assign v.traces task request.begin, v.waits, state⟩
  executed : ∀ v task (a : Act), given v → Inv v →
    (∀ other, other ≠ task → discipline.Stable v other) →
    v.waits task = none → ok v.state v.waits (.executed task a) → a.may (v.traces task) →
    Inv ⟨assign v.traces task (a.after (State.exec task a v.state).1 (v.traces task)), v.waits,
      (State.exec task a v.state).2⟩
  waited : ∀ v task (w : Wait) (r : Option w.Res) waits locks reported, given v → Inv v →
    w.may (v.traces task) →
    Inv ⟨assign v.traces task (w.woken r (v.traces task)), waits,
      { v.state with locks := locks, history := { v.state.history with reported := reported } }⟩
  finished : ∀ v task, given v → Inv v → (v.traces task).Done →
    Inv ⟨assign v.traces task discipline.idle, v.waits, v.state⟩
  /-- A task that suspends changes nothing that `Inv` looks at. -/
  suspended : ∀ v waits locks, Inv v → Inv ⟨v.traces, waits, { v.state with locks := locks }⟩

theorem KeepsActs.keeps {ok : Guard world} {given Inv : Watched world Trace → Prop}
    (acts : KeepsActs ok given Inv) : discipline.Keeps ok given Inv where
  admitted v task request state base holds _ idle running met accepted :=
    acts.admitted v task request state base holds idle running met accepted
  executed v task a base holds stable running met may :=
    acts.executed v task a base holds stable running met may
  passed v task w result state base holds _ _ _ may entered := by
    obtain ⟨_, _, _, rfl⟩ | ⟨_, rfl⟩ := State.enter_passed entered
    · exact acts.waited v task w (some result) v.waits _ v.state.history.reported base holds may
    · exact acts.waited v task w (some result) v.waits _ v.state.history.reported base holds may
  suspended v task w state _ holds _ _ _ _ entered := by
    obtain ⟨_, _, rfl⟩ | ⟨_, rfl⟩ := State.enter_suspended entered
    · exact acts.suspended v _ _ holds
    · exact acts.suspended v _ v.state.locks holds
  woken v task w outcome state base holds _ _ may _ ended := by
    obtain ⟨_, _, rfl⟩ := State.wake_frame ended
    exact acts.waited v task w outcome.toOption _ _ _ base holds may
  lapsed v task w limit state base holds _ _ may _ _ ended := by
    obtain ⟨_, _, rfl⟩ | ⟨_, rfl⟩ := State.lapse_locks ended
    · exact acts.waited v task w none _ _ v.state.history.reported base holds may
    · exact acts.waited v task w none _ _ v.state.history.reported base holds may
  finished v task base holds _ _ _ done := acts.finished v task base holds done

end Tela
