import Tela.Properties.IdleAccounting

/-!
# Sessions and connections

Connection identifiers are distinct, every captured session belongs to a listed
connection, and no session is bound twice, as long as each new binding is made for
a listed connection and a session without one.
-/

namespace Tela

namespace Gateway

open Coop

variable {platform : Platform}

/-- Connections and session registry tell the truth about each other. -/
structure SessionsTrue (r : GatewayRuntime) : Prop where
  distinct : (r.connections.map ConnectionContext.connectionId).Nodup
  listed : ∀ connectionId session, r.sessionRegistry.get? connectionId = some session →
    ∃ conn ∈ r.connections, conn.connectionId = connectionId
  bound : ∀ first second session, r.sessionRegistry.get? first = some session →
    r.sessionRegistry.get? second = some session → first = second

/-- Nobody has a captured connection of the session. -/
def Unbound (s : State) (session : UpstreamSession) : Prop :=
  ∀ connectionId, s.runtime.sessionRegistry.get? connectionId ≠ some session

/--
A new connection has a new identifier; a new binding is for a listed connection and an
unbound session; a bridge is retired only while its removal can be uncounted, or else
without leaving its session bound to nothing.
-/
structure BindsTruly (s : State) (a : Act) : Prop where
  fresh : ∀ ctx, a = .addRuntimeConnection ctx → ctx.connectionId ∉ s.connectionIds
  bindings : ∀ connectionId session, s.newBinding a = some (connectionId, session) →
    connectionId ∈ s.connectionIds ∧ Unbound s session
  retires : ∀ connectionId, a = .decrement (some connectionId) →
    (∀ manager, s.idleManager = some manager → manager.connectionCount = 0) →
      s.runtime.sessionRegistry.get? connectionId = none ∨ connectionId ∈ s.connectionIds

def BindsTrulyAlways : Guard (world platform)
  | s, _, .executed _ a => BindsTruly s a
  | _, _, _ => True

/-- The truth, up to the bridges whose sessions are about to be released. -/
structure Truthful (traces : TaskId → Trace) (s : State) : Prop where
  distinct : s.connectionIds.Nodup
  listed : ∀ connectionId session,
    s.runtime.sessionRegistry.get? connectionId = some session →
      connectionId ∈ s.connectionIds ∨ ∃ task, (traces task).releasing = some connectionId
  bound : ∀ first second session, s.runtime.sessionRegistry.get? first = some session →
    s.runtime.sessionRegistry.get? second = some session → first = second
  nonempty : s.runtime.sessionRegistry.get? "" = none

/-! ## Bindings -/

section Bindings

variable {s : State} {task : TaskId} {a : Act}

theorem newBinding_nonempty {connectionId : String} {session : UpstreamSession}
    (binds : s.newBinding a = some (connectionId, session)) : connectionId ≠ "" := by
  unfold State.newBinding at binds
  split at binds
  · obtain ⟨fresh, same⟩ := Option.ite_none_right_eq_some.mp binds
    exact (Prod.mk.inj (Option.some.inj same)).1 ▸ fresh.1
  · split at binds
    · cases binds
    · obtain ⟨candidate, found, same⟩ := Option.map_eq_some_iff.mp binds
      have bridge := (State.unboundBridge_spec found).2.1
      exact (Prod.mk.inj same).1 ▸ State.bridge_ne_empty bridge
  · cases binds

/-- A block that binds takes nothing out and leaves the identifiers alone. -/
theorem newBinding_plain {binding : String × UpstreamSession}
    (binds : s.newBinding a = some binding) :
    s.unbinds a = none ∧ s.idsAfter a = s.connectionIds := by
  cases a with
  | captureSession connectionId session origin => exact ⟨rfl, rfl⟩
  | ensureConnection session => exact ⟨rfl, rfl⟩
  | _ => cases binds

/-- Every binding after a block was there before or is the new one. -/
theorem registryAfter_cases {connectionId : String} {session : UpstreamSession}
    (found : (s.registryAfter a).get? connectionId = some session) :
    s.newBinding a = some (connectionId, session) ∨
      s.runtime.sessionRegistry.get? connectionId = some session ∧
        s.unbinds a ≠ some connectionId := by
  unfold State.registryAfter at found
  cases binds : s.newBinding a with
  | some binding =>
      obtain ⟨id, owner⟩ := binding
      rw [binds] at found
      dsimp only at found
      rw [Dict.get?_set] at found
      split at found
      · rename_i same
        obtain rfl := Option.some.inj found
        exact .inl (by rw [same])
      · rw [(newBinding_plain binds).1]
        exact .inr ⟨found, by rintro ⟨⟩⟩
  | none =>
      rw [binds] at found
      cases unbinds : s.unbinds a with
      | some id =>
          rw [unbinds] at found
          dsimp only at found
          rw [Dict.get?_erase] at found
          split at found
          · cases found
          · rename_i different
            exact .inr ⟨found, fun same => different (Option.some.inj same).symm⟩
      | none =>
          rw [unbinds] at found
          exact .inr ⟨found, by rintro ⟨⟩⟩

/-- An identifier leaves the list together with its binding, but for a retired bridge. -/
theorem mem_idsAfter_of_kept {connectionId : String} (member : connectionId ∈ s.connectionIds)
    (nonempty : connectionId ≠ "") (kept : s.unbinds a ≠ some connectionId) :
    connectionId ∈ s.idsAfter a ∨ a = .removeRuntimeConnection connectionId := by
  have filtered {removed : String} (different : connectionId ≠ removed) :
      connectionId ∈ s.connectionIds.filter (· ≠ removed) :=
    List.mem_filter.mpr ⟨member, by simpa using different⟩
  cases a with
  | addRuntimeConnection ctx => exact .inl (List.mem_append_left _ member)
  | removeRuntimeConnection removed =>
      by_cases same : connectionId = removed
      · exact .inr (by rw [same])
      · exact .inl (filtered same)
  | cleanupConnection removed =>
      refine .inl (filtered ?_)
      rintro rfl
      exact kept (if_neg nonempty)
  | disconnect removed =>
      simp only [State.idsAfter]
      split
      · exact .inl member
      · rename_i started
        refine .inl (filtered ?_)
        rintro rfl
        refine kept (if_neg ?_)
        simpa [nonempty] using started
  | sweepConnection conn now =>
      simp only [State.idsAfter]
      split
      · rename_i reaped
        refine .inl (filtered ?_)
        rintro rfl
        exact kept (if_pos (by simpa [nonempty] using reaped))
      · exact .inl member
  | _ => exact .inl member

theorem idsAfter_nodup (distinct : s.connectionIds.Nodup)
    (fresh : ∀ ctx, a = .addRuntimeConnection ctx → ctx.connectionId ∉ s.connectionIds) :
    (s.idsAfter a).Nodup := by
  cases a with
  | addRuntimeConnection ctx =>
      refine distinct.append (List.nodup_singleton _) ?_
      rw [List.disjoint_singleton]
      exact fresh ctx rfl
  | removeRuntimeConnection connectionId => exact distinct.filter _
  | cleanupConnection connectionId => exact distinct.filter _
  | disconnect connectionId =>
      simp only [State.idsAfter]
      split
      · exact distinct
      · exact distinct.filter _
  | sweepConnection conn now =>
      simp only [State.idsAfter]
      split
      · exact distinct.filter _
      · exact distinct
  | _ => exact distinct

/-- A decrement that does not count found nothing to count. -/
theorem decrement_underflow (underflow : (s.decrement task).1 = false)
    {manager : IdleShutdownManager} (installed : s.idleManager = some manager) :
    manager.connectionCount = 0 := by
  rw [decrement_counts installed] at underflow
  simpa using underflow

/-- What a task still has to release is released, or has no binding left to release. -/
theorem releasing_kept {traces : TaskId → Trace} {connectionId : String}
    (may : a.may (traces task)) (releasing : (traces task).releasing = some connectionId)
    (kept : s.unbinds a ≠ some connectionId) :
    (a.after (State.exec task a s).1 (traces task)).releasing = some connectionId ∨
      a = .decrement (some connectionId) ∧
        ∀ manager, s.idleManager = some manager → manager.connectionCount = 0 := by
  have plain (same : (a.after (State.exec task a s).1 (traces task)).releasing =
      (traces task).releasing) := Or.inl (b := a = .decrement (some connectionId) ∧
        ∀ manager, s.idleManager = some manager → manager.connectionCount = 0)
      (same.trans releasing)
  cases a with
  | removeRuntimeConnection removed =>
      have none := may.releasing
      rw [releasing] at none
      cases none
  | releaseSession released =>
      rcases may with none | same
      · rw [releasing] at none
        cases none
      · rw [releasing] at same
        exact absurd same.symm kept
  | decrement retired =>
      obtain rfl : retired = some connectionId := may.2.2.symm.trans releasing
      cases counted : (s.decrement task).1 with
      | true =>
          refine .inl ?_
          change (if (s.decrement task).1 then (traces task).releasing else none) = _
          rw [counted]
          exact releasing
      | false => exact .inr ⟨rfl, fun _ => decrement_underflow counted⟩
  | hasBridgeRegistration id =>
      refine plain ?_
      change (Act.after (.hasBridgeRegistration id) (s.runtime.hasBridgeRegistration id)
        (traces task)).releasing = _
      rcases s.runtime.hasBridgeRegistration id with error | _ | _ <;> rfl
  | ensureConnection session =>
      refine plain ?_
      change (Act.after (.ensureConnection session) (s.ensureConnection session).1
        (traces task)).releasing = _
      rcases (s.ensureConnection session).1 with error | conn <;> rfl
  | ensureBoundConnection session =>
      refine plain ?_
      change (Act.after (.ensureBoundConnection session) (s.ensureBoundConnection session).1
        (traces task)).releasing = _
      rcases (s.ensureBoundConnection session).1 with error | conn <;> rfl
  | _ => exact plain rfl

end Bindings

theorem truthful_executed {traces : TaskId → Trace} {s : State} {task : TaskId} {a : Act}
    (truth : Truthful traces s) (met : BindsTruly s a) (may : a.may (traces task)) :
    Truthful (assign traces task (a.after (State.exec task a s).1 (traces task)))
      (State.exec task a s).2 := by
  have ids := State.exec_ids task a s
  have registry := State.exec_registry task a s
  constructor
  case distinct =>
    rw [ids]
    exact idsAfter_nodup truth.distinct met.fresh
  case listed =>
    intro connectionId session found
    rw [registry] at found
    rw [ids]
    rcases registryAfter_cases found with binds | ⟨old, kept⟩
    · rw [(newBinding_plain binds).2]
      exact .inl (met.bindings _ _ binds).1
    · have nonempty : connectionId ≠ "" := by
        rintro rfl
        rw [truth.nonempty] at old
        cases old
      rcases truth.listed _ _ old with member | ⟨other, releasing⟩
      · refine (mem_idsAfter_of_kept member nonempty kept).imp_right ?_
        rintro rfl
        exact ⟨task, by rw [assign_self]; rfl⟩
      · by_cases same : other = task
        · subst same
          rcases releasing_kept may releasing kept with still | ⟨rfl, empty⟩
          · exact .inr ⟨other, by rwa [assign_self]⟩
          · refine .inl ((met.retires connectionId rfl empty).resolve_left ?_)
            rw [old]
            nofun
        · exact .inr ⟨other, by rwa [assign_of_ne _ same]⟩
  case bound =>
    intro first second session here there
    rw [registry] at here there
    rcases registryAfter_cases here with binds | ⟨here, -⟩
    · rcases registryAfter_cases there with same | ⟨there, -⟩
      · rw [binds] at same
        exact (Prod.mk.inj (Option.some.inj same)).1
      · exact absurd there ((met.bindings _ _ binds).2 second)
    · rcases registryAfter_cases there with binds | ⟨there, -⟩
      · exact absurd here ((met.bindings _ _ binds).2 first)
      · exact truth.bound first second session here there
  case nonempty =>
    rw [registry]
    refine Option.eq_none_iff_forall_ne_some.mpr fun session found => ?_
    rcases registryAfter_cases found with binds | ⟨old, -⟩
    · exact newBinding_nonempty binds rfl
    · rw [truth.nonempty] at old
      cases old

/-- A change of one trace that keeps what the task has to release. -/
theorem Truthful.retrace {traces : TaskId → Trace} {s s' : State} {task : TaskId} {g : Trace}
    (truth : Truthful traces s) (runtime : s'.runtime = s.runtime)
    (releasing : g.releasing = (traces task).releasing) :
    Truthful (assign traces task g) s' := by
  have ids := State.ids_of_runtime runtime
  constructor
  case distinct => exact ids ▸ truth.distinct
  case listed =>
    intro connectionId session found
    rw [runtime] at found
    rw [ids]
    refine (truth.listed connectionId session found).imp_right ?_
    rintro ⟨other, still⟩
    refine ⟨other, ?_⟩
    by_cases same : other = task
    · subst same
      rwa [assign_self, releasing]
    · rwa [assign_of_ne _ same]
  case bound => exact runtime ▸ truth.bound
  case nonempty => exact runtime ▸ truth.nonempty

theorem truthful_keeps :
    KeepsActs (BindsTrulyAlways : Guard (world platform)) Steady
      fun v => Truthful v.traces v.state where
  admitted v task request _ _ _ _ truth idle := by
    refine truth.retrace rfl ?_
    rw [idle]
    cases request <;> rfl
  executed _ _ _ _ truth met may := truthful_executed truth met may
  rested _ _ _ _ _ _ _ truth same _ := truth.retrace rfl same.releasing
  finished v task steady truth done := by
    refine truth.retrace rfl ?_
    have paid : (v.traces task).Paid :=
      done.resolve_left (by rw [steady task]; exact Bool.false_ne_true)
    exact paid.releasing.symm

theorem truthful_initial (config : TelaConfig) (uuids : Nat → String) :
    Truthful (fun _ => {}) (State.launch config uuids) :=
  ⟨List.nodup_nil, nofun, nofun, rfl⟩

/-- While connections are fresh and bindings true, so is what is left without tasks. -/
theorem session_truth {config : TelaConfig} {uuids : Nat → String}
    {c : Config (world platform)} (run : Run (State.launch config uuids) BindsTrulyAlways c)
    (quiet : c.Quiescent) : SessionsTrue c.state.runtime := by
  have keeps := (steady_keeps (BindsTrulyAlways : Guard (world platform)) fun _ => True).keeps.and
    (truthful_keeps.keeps.assume fun _ known => known.2)
  obtain ⟨⟨traces, waits, state⟩, tracks, -, truth⟩ := keeps.reached
    ⟨fun _ => rfl, truthful_initial config uuids⟩ run
  obtain rfl : state = c.state := tracks.state
  refine ⟨truth.distinct, fun connectionId session found => ?_, truth.bound⟩
  rcases truth.listed connectionId session found with member | ⟨task, releasing⟩
  · obtain ⟨conn, listed, same⟩ := List.mem_map.mp member
    exact ⟨conn, listed, same⟩
  · have idle : traces task = {} := tracks.traces_of_quiescent quiet task
    change (traces task).releasing = _ at releasing
    rw [idle] at releasing
    cases releasing

/-! ## Two runs -/

def bindsTruly : Check (world unsigned)
  | s, .executed _ a =>
      (match s.newBinding a with
      | some binding =>
          decide (binding.1 ∈ s.connectionIds) &&
            s.runtime.sessionRegistry.values.all fun session => session != binding.2
      | none => true) &&
        match a with
        | .addRuntimeConnection ctx => decide (ctx.connectionId ∉ s.connectionIds)
        | .decrement (some _) =>
            s.idleManager.any fun manager => manager.connectionCount != 0
        | _ => true
  | _, _ => true

theorem bindsTruly_sound : Run.Sound bindsTruly (BindsTrulyAlways : Guard (world unsigned)) := by
  intro state waits event checked
  cases event with
  | executed task a =>
      obtain ⟨binds, checked⟩ := (Bool.and_eq_true _ _).mp checked
      constructor
      · rintro ctx rfl
        exact of_decide_eq_true checked
      · intro connectionId session binding
        rw [binding] at binds
        obtain ⟨listed, free⟩ := (Bool.and_eq_true _ _).mp binds
        refine ⟨of_decide_eq_true listed, fun key found => ?_⟩
        have member := List.mem_map_of_mem (f := Prod.snd) (Dict.get?_eq_some_iff.mp found)
        exact absurd rfl (bne_iff_ne.mp (List.all_eq_true.mp free session member))
      · rintro connectionId rfl empty
        obtain ⟨manager, installed, positive⟩ := (Option.any_eq_true _ _).mp checked
        exact absurd (empty manager installed) (bne_iff_ne.mp positive)
  | _ => trivial

/-- The bridge client that names this registered connection. -/
def bridgeInfo (connectionId : String) : JsonObject :=
  .ofList [(bridgeConnectionIdKey, .str connectionId)]

/-- A bridge initializes again from a new session. -/
def reinitializeBridge : List (Choice (world unsigned)) :=
  [.request (.installIdleManager true), .request (.connect "bridge_1"),
    .request (.initializeRequest 7 (bridgeInfo "bridge_1")), .answer 2 answered,
    .request (.initializeRequest 8 (bridgeInfo "bridge_1")), .answer 3 answered]

/-- A tools request waits for convergence while its connection is disconnected. -/
def recaptureAfterDisconnect : List (Choice (world unsigned)) :=
  [.request (.initializeRequest 7 ∅), .answer 0 answered, .request (.listTools 7),
    .request (.disconnect "conn_0"), .request .converged, .answer 1 answered]

theorem session_truth_after_reinitialize :
    ∃ c : Config (world unsigned),
      Run (State.launch openConfig uuids) BindsTrulyAlways c ∧ c.Quiescent ∧
        c.state.runtime.sessionRegistry.entries = [("bridge_1", 8)] ∧
          SessionsTrue c.state.runtime := by
  obtain ⟨c, run, ended⟩ := Run.exists_of_play bindsTruly_sound (State.launch openConfig uuids)
    80 reinitializeBridge
    (fun c => settledDown c &&
      decide (c.state.runtime.sessionRegistry.entries = [("bridge_1", 8)]))
    (by decide +kernel)
  obtain ⟨settled, bound⟩ := (Bool.and_eq_true _ _).mp ended
  have quiet := quiescent_of_settledDown run.reachable settled
  exact ⟨c, run, quiet, of_decide_eq_true bound, session_truth run quiet⟩

/-- The session is captured again for a connection that is gone. -/
theorem session_truth_violated :
    ∃ c : Config (world unsigned),
      Reachable (State.launch openConfig uuids) c ∧ c.Quiescent ∧
        ¬ SessionsTrue c.state.runtime := by
  obtain ⟨c, run, ended⟩ := Run.exists_of_play (Run.sound_anything (W := world unsigned))
    (State.launch openConfig uuids) 80 recaptureAfterDisconnect
    (fun c => settledDown c &&
      decide (c.state.runtime.sessionRegistry.entries = [("conn_0", 7)] ∧
        c.state.runtime.connections.length = 0))
    (by decide +kernel)
  obtain ⟨settled, ended⟩ := (Bool.and_eq_true _ _).mp ended
  obtain ⟨bound, gone⟩ := of_decide_eq_true ended
  refine ⟨c, run, quiescent_of_settledDown run settled, fun truth => ?_⟩
  obtain ⟨conn, listed, -⟩ := truth.listed "conn_0" 7
    (Dict.get?_eq_some_iff.mpr (by rw [bound]; exact List.mem_singleton_self _))
  rw [List.length_eq_zero_iff.mp gone] at listed
  cases listed

end Gateway

end Tela
