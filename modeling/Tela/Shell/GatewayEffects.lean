import Tela.Shell.GatewayDiscipline

/-!
# What gateway blocks and awaits leave alone

Awaits touch the idle lock and the timers only, requests the clock and the timers.
An invariant over the connections, the sessions and the count is therefore proved
block by block.
-/

namespace Tela

namespace Gateway

open Coop LifecycleRoutes
open Text (startsWith)

variable {platform : Platform}

namespace State

variable {task : TaskId} {s s' : State}

theorem enter_taken (entered : enter task .idleLock s = (some (), s')) :
    ∃ lock, s.idleLock.arrive task = (true, lock) ∧ s' = { s with idleLock := lock } := by
  simp only [enter] at entered
  split at entered
  · rename_i next taken
    exact ⟨next, taken, (Prod.mk.inj entered).2.symm⟩
  · cases entered

theorem enter_queued (entered : enter task .idleLock s = (none, s')) :
    ∃ lock, s.idleLock.arrive task = (false, lock) ∧ s' = { s with idleLock := lock } := by
  simp only [enter] at entered
  split at entered
  · cases entered
  · rename_i next queued
    exact ⟨next, queued, (Prod.mk.inj entered).2.symm⟩

theorem enter_elsewhere {w : Wait} {result : Option w.Res} (elsewhere : w ≠ .idleLock)
    (entered : enter task w s = (result, s')) : s' = s := by
  cases w with
  | idleLock => contradiction
  | timer id =>
      simp only [enter] at entered
      split at entered
      · exact (Prod.mk.inj entered).2.symm
      · exact (Prod.mk.inj entered).2.symm
  | converged =>
      simp only [enter] at entered
      split at entered
      · exact (Prod.mk.inj entered).2.symm
      · exact (Prod.mk.inj entered).2.symm
  | _ => exact (Prod.mk.inj entered).2.symm

theorem enter_frame {w : Wait} {result : Option w.Res} (entered : enter task w s = (result, s')) :
    ∃ idleLock, s' = { s with idleLock := idleLock } := by
  by_cases lock : w = .idleLock
  · subst lock
    cases result with
    | none =>
        obtain ⟨next, -, rfl⟩ := enter_queued entered
        exact ⟨next, rfl⟩
    | some _ =>
        obtain ⟨next, -, rfl⟩ := enter_taken entered
        exact ⟨next, rfl⟩
  · exact ⟨s.idleLock, enter_elsewhere lock entered⟩

theorem wake_elsewhere {w : Wait} {outcome : Except PyException w.Res}
    (elsewhere : w ≠ .idleLock) (ended : wake task w outcome s = some s') :
    ∃ timers, s' = { s with timers := timers } := by
  cases w with
  | idleLock => contradiction
  | timer id =>
      cases outcome with
      | ok _ => exact ⟨_, (Option.some.inj ended).symm⟩
      | error exc => cases ended
  | converged =>
      cases outcome with
      | ok _ =>
          obtain ⟨-, same⟩ := Option.ite_none_right_eq_some.mp ended
          exact ⟨s.timers, (Option.some.inj same).symm⟩
      | error exc => cases ended
  | _ =>
      cases outcome with
      | ok _ => exact ⟨s.timers, (Option.some.inj ended).symm⟩
      | error exc =>
          obtain ⟨-, same⟩ := Option.ite_none_right_eq_some.mp ended
          exact ⟨s.timers, (Option.some.inj same).symm⟩

theorem wake_frame {w : Wait} {outcome : Except PyException w.Res}
    (ended : wake task w outcome s = some s') :
    ∃ idleLock timers, s' = { s with idleLock := idleLock, timers := timers } := by
  by_cases lock : w = .idleLock
  · subst lock
    cases outcome with
    | ok _ =>
        obtain ⟨next, -, rfl⟩ := Option.map_eq_some_iff.mp ended
        exact ⟨_, s.timers, rfl⟩
    | error exc => cases ended
  · obtain ⟨timers, rfl⟩ := wake_elsewhere lock ended
    exact ⟨s.idleLock, timers, rfl⟩

/-- An await that cannot fail does not fail. -/
theorem wake_steady {w : Wait} {outcome : Except PyException w.Res} {g : Trace}
    (ended : wake task w outcome s = some s') :
    (w.woken outcome.toOption g).interrupted = g.interrupted := by
  cases w with
  | idleLock =>
      cases outcome with
      | ok _ => rfl
      | error exc => cases ended
  | timer id =>
      cases outcome with
      | ok _ => rfl
      | error exc => cases ended
  | converged =>
      cases outcome with
      | ok _ => rfl
      | error exc => cases ended
  | _ => rfl

theorem accept_frame {request : Req} (accepted : accept task request s = some s') :
    ∃ now timers shutdowns,
      s' = { s with
        now := now, timers := timers, history := { s.history with shutdowns := shutdowns } } := by
  cases request with
  | timerExpired id =>
      obtain ⟨-, same⟩ := Option.ite_none_right_eq_some.mp accepted
      cases same
      exact ⟨s.now, _, _, rfl⟩
  | clock now =>
      cases accepted
      exact ⟨_, s.timers, s.history.shutdowns, rfl⟩
  | _ =>
      cases accepted
      exact ⟨s.now, s.timers, s.history.shutdowns, rfl⟩

end State

/-! ## Connection identifiers -/

namespace State

/-- The identifiers in the runtime connection list, in order. -/
def connectionIds (s : State) : List String :=
  s.runtime.connections.map ConnectionContext.connectionId

/-- The identifiers after a block. -/
def idsAfter (s : State) : Act → List String
  | .addRuntimeConnection ctx => s.connectionIds ++ [ctx.connectionId]
  | .removeRuntimeConnection connectionId => s.connectionIds.filter (· ≠ connectionId)
  | .cleanupConnection connectionId => s.connectionIds.filter (· ≠ connectionId)
  | .disconnect connectionId =>
      if s.runtime.config.isNone || !s.runtime.running then s.connectionIds
      else s.connectionIds.filter (· ≠ connectionId)
  | .sweepConnection conn now =>
      if s.sessionGone conn || s.stale conn now then
        s.connectionIds.filter (· ≠ conn.connectionId)
      else s.connectionIds
  | _ => s.connectionIds

theorem touchFirst_ids (connectionId : String) (timestamp : Int)
    (connections : List ConnectionContext) :
    (GatewayRuntime.touchFirst connectionId timestamp connections).map
      ConnectionContext.connectionId = connections.map ConnectionContext.connectionId := by
  induction connections with
  | nil => rfl
  | cons conn rest ih =>
      unfold GatewayRuntime.touchFirst
      split
      · rfl
      · simp only [List.map_cons, ih]

theorem filter_ids (connectionId : String) (connections : List ConnectionContext) :
    (connections.filter (·.connectionId ≠ connectionId)).map ConnectionContext.connectionId =
      (connections.map ConnectionContext.connectionId).filter (· ≠ connectionId) := by
  rw [List.filter_map]
  rfl

theorem cleanup_connections (r : GatewayRuntime) (connectionId : String) :
    (r.cleanupConnectionById connectionId).2.connections =
      r.connections.filter (·.connectionId ≠ connectionId) := by
  unfold GatewayRuntime.cleanupConnectionById GatewayRuntime.removeBridgeRegistration
  dsimp only
  split_ifs <;> rfl

theorem capture_connections (r : GatewayRuntime) (connectionId : String)
    (session : UpstreamSession) :
    (r.captureSession connectionId session).2.connections = r.connections := by
  unfold GatewayRuntime.captureSession
  split
  · rfl
  · split
    · split <;> rfl
    · rfl

theorem ensureConnection_ids (r : GatewayRuntime) (session : UpstreamSession) (now : Int) :
    (r.ensureConnection session now).2.connections.map ConnectionContext.connectionId =
      r.connections.map ConnectionContext.connectionId := by
  unfold GatewayRuntime.ensureConnection
  split
  · exact touchFirst_ids ..
  · split
    · simp only [GatewayRuntime.touchConnectionActivity, touchFirst_ids, capture_connections]
    · rfl

theorem ensureBoundConnection_ids (r : GatewayRuntime) (session : UpstreamSession) (now : Int) :
    (r.ensureBoundConnection session now).2.connections.map ConnectionContext.connectionId =
      r.connections.map ConnectionContext.connectionId := by
  unfold GatewayRuntime.ensureBoundConnection
  split
  · exact touchFirst_ids ..
  · rfl

theorem owes_runtime (s : State) (task : TaskId) (added : Bool) :
    (s.owes task added).2.runtime = s.runtime := by
  unfold owes
  split <;> rfl

theorem register_connections (r : GatewayRuntime) (connectionId : String) :
    (r.registerBridgeConnection connectionId).2.connections = r.connections := by
  unfold GatewayRuntime.registerBridgeConnection
  split <;> rfl

theorem increment_runtime (s : State) (task : TaskId) :
    (s.increment task).2.runtime = s.runtime := by
  unfold increment
  split
  · rfl
  · dsimp only
    split <;> rfl

theorem decrement_runtime (s : State) (task : TaskId) :
    (s.decrement task).2.runtime = s.runtime := by
  unfold decrement
  dsimp only
  split
  · rfl
  · split
    · rfl
    · split <;> rfl

theorem installIdleManager_runtime (s : State) (task : TaskId) (shutdownDisabled : Bool) :
    (s.installIdleManager task shutdownDisabled).runtime = s.runtime := by
  unfold installIdleManager
  split
  · rfl
  · dsimp only
    split
    · rfl
    · rw [decrement_runtime, increment_runtime]

theorem ensured_runtime {α : Type} (name : String) (post : Except String α → Bool)
    (outcome : Except PyException (Except String α) × GatewayRuntime) :
    (ensured name post outcome).2 = outcome.2 := by
  rcases outcome with ⟨_ | _, r⟩ <;> rfl

theorem admittedDisconnect_connections (r : GatewayRuntime) (payload : DisconnectRequest) :
    (admittedDisconnect r payload).2.connections =
      if r.config.isNone || !r.running then r.connections
      else r.connections.filter (·.connectionId ≠ payload.connectionId) := by
  unfold admittedDisconnect
  have removed := cleanup_connections r payload.connectionId
  split
  · rfl
  · split
    · rename_i cleaned
      rwa [cleaned] at removed
    · rename_i cleaned
      rw [cleaned] at removed
      split <;> exact removed

theorem disconnect_runtime (s : State) (task : TaskId) (connectionId : String) :
    (s.disconnect task connectionId).2.runtime =
      (admittedDisconnect s.runtime ⟨connectionId⟩).2 := by
  unfold disconnect
  rw [← ensured_runtime "handle_disconnect" disconnectPost]
  dsimp only
  split
  · rfl
  · rfl
  · split
    · exact owes_runtime ..
    · rfl

theorem ids_of_runtime {s s' : State} (same : s'.runtime = s.runtime) :
    s'.connectionIds = s.connectionIds := by
  rw [connectionIds, same, connectionIds]

theorem exec_ids (task : TaskId) (a : Act) (s : State) :
    (exec task a s).2.connectionIds = s.idsAfter a := by
  cases a with
  | addRuntimeConnection ctx =>
      simp only [exec, addRuntimeConnection, connectionIds, owes_runtime, idsAfter,
        GatewayRuntime.addRuntimeConnection, List.map_append, List.map_cons, List.map_nil]
  | removeRuntimeConnection connectionId =>
      simp only [exec, removeRuntimeConnection, connectionIds, idsAfter]
      split
      · rw [owes_runtime]
        exact filter_ids ..
      · exact filter_ids ..
  | cleanupConnection connectionId =>
      simp only [exec, connectionIds, idsAfter, cleanup_connections]
      exact filter_ids ..
  | disconnect connectionId =>
      simp only [exec, connectionIds, idsAfter, disconnect_runtime, admittedDisconnect_connections]
      split
      · rfl
      · exact filter_ids ..
  | sweepConnection conn now =>
      have removed := cleanup_connections s.runtime conn.connectionId
      simp only [exec, sweepConnection, connectionIds, idsAfter]
      split
      · rw [← filter_ids, ← removed]
        split
        · rename_i cleaned
          rw [cleaned]
        · rename_i cleaned
          rw [owes_runtime, cleaned]
      · rfl
  | captureSession connectionId session origin =>
      exact congrArg (List.map _) (capture_connections ..)
  | registerBridgeConnection connectionId =>
      exact congrArg (List.map _) (register_connections ..)
  | ensureConnection session => exact ensureConnection_ids ..
  | ensureBoundConnection session => exact ensureBoundConnection_ids ..
  | installIdleManager shutdownDisabled =>
      exact ids_of_runtime (installIdleManager_runtime ..)
  | increment => exact ids_of_runtime (increment_runtime ..)
  | decrement retired => exact ids_of_runtime (decrement_runtime ..)
  | _ => rfl

end State

/-! ## Session bindings -/

namespace State

/-- The binding that a block adds to the session registry. -/
def newBinding (s : State) : Act → Option (String × UpstreamSession)
  | .captureSession connectionId session _ =>
      if connectionId ≠ "" ∧ s.runtime.sessionRegistry.get? connectionId = none then
        some (connectionId, session)
      else none
  | .ensureConnection session =>
      match s.runtime.findConnectionForSession session with
      | some _ => none
      | none => s.runtime.unboundBridge.map fun candidate => (candidate.connectionId, session)
  | _ => none

/-- The connection whose binding a block takes out of the session registry. -/
def unbinds (s : State) : Act → Option String
  | .releaseSession connectionId => some connectionId
  | .cleanupConnection connectionId =>
      if connectionId = "" then none else some connectionId
  | .disconnect connectionId =>
      if s.runtime.config.isNone || !s.runtime.running || connectionId = "" then none
      else some connectionId
  | .sweepConnection conn now =>
      if (s.sessionGone conn || s.stale conn now) && conn.connectionId ≠ "" then
        some conn.connectionId
      else none
  | _ => none

/-- The session registry after a block. -/
def registryAfter (s : State) (a : Act) : Dict String UpstreamSession :=
  match s.newBinding a, s.unbinds a with
  | some (connectionId, session), _ => s.runtime.sessionRegistry.set connectionId session
  | none, some connectionId => s.runtime.sessionRegistry.erase connectionId
  | none, none => s.runtime.sessionRegistry

theorem capture_registry (r : GatewayRuntime) (connectionId : String)
    (session : UpstreamSession) :
    (r.captureSession connectionId session).2.sessionRegistry =
      if connectionId ≠ "" ∧ r.sessionRegistry.get? connectionId = none then
        r.sessionRegistry.set connectionId session
      else r.sessionRegistry := by
  unfold GatewayRuntime.captureSession
  by_cases empty : connectionId = ""
  · simp [empty]
  · cases bound : r.sessionRegistry.get? connectionId with
    | none => simp [empty]
    | some existing =>
        rw [if_neg empty, if_neg fun fresh => absurd fresh.2 (by rintro ⟨⟩)]
        dsimp only
        split <;> rfl

theorem cleanup_registry (r : GatewayRuntime) (connectionId : String) :
    (r.cleanupConnectionById connectionId).2.sessionRegistry =
      if connectionId = "" then r.sessionRegistry
      else r.sessionRegistry.erase connectionId := by
  unfold GatewayRuntime.cleanupConnectionById GatewayRuntime.removeBridgeRegistration
  dsimp only
  split_ifs <;> rfl

/-- An adopted bridge is listed, named as one, and bound to nobody. -/
theorem unboundBridge_spec {r : GatewayRuntime} {candidate : ConnectionContext}
    (found : r.unboundBridge = some candidate) :
    candidate ∈ r.connections ∧ startsWith candidate.connectionId "bridge_" = true ∧
      r.sessionRegistry.get? candidate.connectionId = none := by
  have accepted := List.find?_some found
  rw [Bool.and_eq_true] at accepted
  exact ⟨List.mem_of_find?_eq_some found, accepted.1,
    Option.isNone_iff_eq_none.mp accepted.2⟩

theorem bridge_ne_empty {connectionId : String}
    (bridge : startsWith connectionId "bridge_" = true) : connectionId ≠ "" := by
  rintro rfl
  exact absurd bridge (by decide)

theorem ensureConnection_registry (s : State) (session : UpstreamSession) :
    (s.ensureConnection session).2.runtime.sessionRegistry =
      s.registryAfter (.ensureConnection session) := by
  simp only [registryAfter, newBinding, unbinds, ensureConnection,
    GatewayRuntime.ensureConnection]
  cases bound : s.runtime.findConnectionForSession session with
  | some conn => rfl
  | none =>
      cases found : s.runtime.unboundBridge with
      | none => rfl
      | some candidate =>
          obtain ⟨-, bridge, free⟩ := unboundBridge_spec found
          exact (capture_registry ..).trans (if_pos ⟨bridge_ne_empty bridge, free⟩)

theorem register_registry (r : GatewayRuntime) (connectionId : String) :
    (r.registerBridgeConnection connectionId).2.sessionRegistry = r.sessionRegistry := by
  unfold GatewayRuntime.registerBridgeConnection
  split <;> rfl

theorem admittedDisconnect_registry (r : GatewayRuntime) (payload : DisconnectRequest) :
    (admittedDisconnect r payload).2.sessionRegistry =
      if r.config.isNone || !r.running || payload.connectionId = "" then r.sessionRegistry
      else r.sessionRegistry.erase payload.connectionId := by
  have erased := cleanup_registry r payload.connectionId
  unfold admittedDisconnect
  cases stopped : r.config.isNone || !r.running with
  | true => rfl
  | false =>
      rw [if_neg Bool.false_ne_true]
      simp only [Bool.false_or, decide_eq_true_eq]
      rw [← erased]
      cases cleaned : r.cleanupConnectionById payload.connectionId with
      | mk outcome runtime =>
          cases outcome with
          | error error => rfl
          | ok outcome =>
              dsimp only
              split <;> rfl

theorem exec_registry (task : TaskId) (a : Act) (s : State) :
    (exec task a s).2.runtime.sessionRegistry = s.registryAfter a := by
  cases a with
  | addRuntimeConnection ctx =>
      simp only [exec, addRuntimeConnection, owes_runtime]
      rfl
  | removeRuntimeConnection connectionId =>
      simp only [exec, removeRuntimeConnection]
      split
      · rw [owes_runtime]
        rfl
      · rfl
  | captureSession connectionId session origin =>
      refine (capture_registry ..).trans ?_
      unfold registryAfter newBinding
      dsimp only
      split <;> rfl
  | cleanupConnection connectionId =>
      refine (cleanup_registry ..).trans ?_
      unfold registryAfter newBinding unbinds
      dsimp only
      split <;> rfl
  | disconnect connectionId =>
      simp only [exec, disconnect_runtime, admittedDisconnect_registry, registryAfter, newBinding,
        unbinds]
      split <;> rfl
  | sweepConnection conn now =>
      have erased := cleanup_registry s.runtime conn.connectionId
      simp only [exec, sweepConnection, registryAfter, newBinding, unbinds]
      cases reaped : s.sessionGone conn || s.stale conn now with
      | false => rfl
      | true =>
          simp only [if_true, Bool.true_and, decide_eq_true_eq, ne_eq, ite_not]
          cases cleaned : s.runtime.cleanupConnectionById conn.connectionId with
          | mk outcome runtime =>
              rw [cleaned] at erased
              cases outcome with
              | error error =>
                  refine erased.trans ?_
                  split <;> rfl
              | ok outcome =>
                  dsimp only
                  rw [owes_runtime]
                  refine erased.trans ?_
                  split <;> rfl
  | ensureConnection session => exact ensureConnection_registry ..
  | ensureBoundConnection session =>
      simp only [exec, ensureBoundConnection, GatewayRuntime.ensureBoundConnection]
      split <;> rfl
  | registerBridgeConnection connectionId => exact register_registry ..
  | installIdleManager shutdownDisabled => exact congrArg _ (installIdleManager_runtime ..)
  | increment => exact congrArg _ (increment_runtime ..)
  | decrement retired => exact congrArg _ (decrement_runtime ..)
  | _ => rfl

end State

/-- What the trace of a task owes is the same after an await. -/
structure Trace.SameDebts (g g' : Trace) : Prop where
  session : g'.session = g.session
  named : g'.named = g.named
  admitted : g'.admitted = g.admitted
  resolved : g'.resolved = g.resolved
  owed : g'.owed = g.owed
  releasing : g'.releasing = g.releasing

theorem sameDebts_woken (w : Wait) (r : Option w.Res) (g : Trace) :
    g.SameDebts (w.woken r g) := by
  unfold Wait.woken
  split <;> exact ⟨rfl, rfl, rfl, rfl, rfl, rfl⟩

theorem interrupted_after (a : Act) (v : a.Val) (g : Trace) :
    (a.after v g).interrupted = g.interrupted := by
  unfold Act.after
  split <;> rfl

/-- No await that cannot fail has failed. -/
def Steady (v : Watched (world platform) Trace) : Prop :=
  ∀ task, (v.traces task).interrupted = false

/-- `Inv` survives every block and request, and looks at no wait, lock or timer. -/
structure KeepsActs (ok : Guard (world platform))
    (given Inv : Watched (world platform) Trace → Prop) : Prop where
  admitted : ∀ v task request now timers shutdowns, given v → Inv v →
    v.traces task = {} →
    Inv ⟨assign v.traces task (Req.begin request), v.waits,
      { v.state with
        now := now, timers := timers
        history := { v.state.history with shutdowns := shutdowns } }⟩
  executed : ∀ v task (a : Act), given v → Inv v → ok v.state v.waits (.executed task a) →
    a.may (v.traces task) →
    Inv ⟨assign v.traces task (a.after (State.exec task a v.state).1 (v.traces task)), v.waits,
      (State.exec task a v.state).2⟩
  rested : ∀ v task g waits idleLock timers, given v → Inv v → (v.traces task).SameDebts g →
    g.interrupted = (v.traces task).interrupted →
    Inv ⟨assign v.traces task g, waits,
      { v.state with idleLock := idleLock, timers := timers }⟩
  finished : ∀ v task, given v → Inv v → (v.traces task).Done →
    Inv ⟨assign v.traces task {}, v.waits, v.state⟩

theorem KeepsActs.keeps {ok : Guard (world platform)}
    {given Inv : Watched (world platform) Trace → Prop} (acts : KeepsActs ok given Inv) :
    (discipline platform).Keeps ok given Inv where
  admitted v task request state base holds _ idle _ _ accepted := by
    obtain ⟨_, _, _, rfl⟩ :=
      State.accept_frame (show State.accept task request v.state = some state from accepted)
    exact acts.admitted v task request _ _ _ base holds idle
  executed v task a base holds _ _ met may := acts.executed v task a base holds met may
  passed v task w result state base holds _ _ _ _ entered := by
    obtain ⟨_, rfl⟩ := State.enter_frame entered
    exact acts.rested v task _ _ _ v.state.timers base holds (sameDebts_woken w (some result) _)
      (by cases w <;> rfl)
  suspended v task w state base holds _ _ _ _ entered := by
    obtain ⟨idleLock, rfl⟩ := State.enter_frame entered
    have same := acts.rested v task (v.traces task) (assign v.waits task (some w)) idleLock
      v.state.timers base holds ⟨rfl, rfl, rfl, rfl, rfl, rfl⟩ rfl
    rwa [assign_eq_self] at same
  woken v task w outcome state base holds _ _ _ _ ended := by
    obtain ⟨_, _, rfl⟩ := State.wake_frame ended
    exact acts.rested v task _ _ _ _ base holds (sameDebts_woken w outcome.toOption _)
      (State.wake_steady ended)
  lapsed v task w limit state _ _ _ _ _ _ _ ended := nomatch ended
  finished v task base holds _ _ _ done := acts.finished v task base holds done

theorem steady_assign {v : Watched (world platform) Trace} {task : TaskId} {g : Trace}
    {waits : TaskId → Option Wait} {state : State} (calm : g.interrupted = false)
    (steady : Steady v) :
    Steady (⟨assign v.traces task g, waits, state⟩ : Watched (world platform) Trace) :=
  fun other => forall_assign (P := fun _ (g : Trace) => g.interrupted = false) calm
    (fun other _ => steady other) other

theorem steady_keeps (ok : Guard (world platform))
    (given : Watched (world platform) Trace → Prop) : KeepsActs ok given Steady where
  admitted v task request _ _ _ _ steady _ :=
    steady_assign (by cases request <;> rfl) steady
  executed v task a _ steady _ _ := steady_assign ((interrupted_after ..).trans (steady task)) steady
  rested v task g _ _ _ _ steady _ kept := steady_assign (kept.trans (steady task)) steady
  finished v task _ steady _ := steady_assign rfl steady

end Gateway

end Tela
