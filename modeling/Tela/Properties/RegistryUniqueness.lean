import Tela.Properties.SingleFlight

/-!
# Uniqueness of exposed names

Every writer of the registry but one checks for conflicts or puts back a state
that had none. The rollback of a failed recovery re-registers a saved list without
a check, so uniqueness holds as long as those lists are still disjoint.
-/

namespace Tela

open Coop

/-! ## The registry while `connect_all` runs -/

/-- A registry that a task has cleared is empty and the task holds its lock. -/
structure ClearedFits (v : Watched world Trace) : Prop where
  held : ∀ task, (v.traces task).cleared = true → (v.traces task).registry = true
  empty : ∀ task, (v.traces task).cleared = true → v.state.registry = {}

theorem registry_of_writes {a : Act} {g : Trace} (writes : a.writesRegistry = true)
    (may : a.may g) : g.registry = true := by
  cases a with
  | resetForConnect serverNames => exact may
  | failStartup failures => exact may.1
  | publish servers connected allResolved failures => exact may.1
  | resetForDisconnect => exact may.1
  | converge trigger serverName serverConfig rawTools => exact may.1
  | rollback serverName previousTools => exact may.1
  | restoreRegistry snap => exact may.1
  | _ => cases writes

/-- A trace stays cleared only while it keeps the registry lock. -/
theorem cleared_after {a : Act} {g : Trace} {v : a.Val} (may : a.may g)
    (now : (a.after v g).cleared = true) :
    (a.after v g).registry = g.registry ∧
      (g.cleared = true ∨ ∃ serverNames, a = .resetForConnect serverNames) := by
  cases a with
  | release lock =>
      cases lock with
      | registry => cases now
      | recovery id => exact ⟨rfl, .inl now⟩
  | resetForConnect serverNames => exact ⟨rfl, .inr ⟨serverNames, rfl⟩⟩
  | publish servers connected allResolved failures => cases now
  | getRuntimeConfig =>
      change Trace.cleared (if g.role = .reload then { g with config := some v } else g) = true
        at now
      change Trace.registry (if g.role = .reload then { g with config := some v } else g) =
        g.registry ∧ _
      split at now
      · exact ⟨by rw [if_pos ‹_›], .inl now⟩
      · exact ⟨by rw [if_neg ‹_›], .inl now⟩
  | _ => exact ⟨rfl, .inl now⟩

theorem woken_cleared (w : Wait) (r : Option w.Res) (g : Trace) :
    (w.woken r g).cleared = g.cleared := by
  unfold Wait.woken
  split <;> rfl

theorem woken_registry (w : Wait) (r : Option w.Res) {g : Trace} (held : g.registry = true) :
    (w.woken r g).registry = true := by
  unfold Wait.woken
  split <;> first | exact held | rfl

/-- One trace changes, and whoever has cleared the registry still sees it empty. -/
theorem ClearedFits.retrace {v : Watched world Trace} (fits : ClearedFits v) {task : TaskId}
    {g : Trace} {waits : TaskId → Option Wait} {state : State}
    (own : g.cleared = true → g.registry = true ∧ state.registry = {})
    (others : ∀ other, other ≠ task → (v.traces other).cleared = true → state.registry = {}) :
    ClearedFits ⟨assign v.traces task g, waits, state⟩ := by
  refine ⟨fun other cleared => ?_, fun other cleared => ?_⟩
  · by_cases same : other = task
    · subst same
      simp only [assign_self] at cleared ⊢
      exact (own cleared).1
    · simp only [assign_of_ne _ same] at cleared ⊢
      exact fits.held other cleared
  · by_cases same : other = task
    · subst same
      simp only [assign_self] at cleared
      exact (own cleared).2
    · simp only [assign_of_ne _ same] at cleared
      exact others other same cleared

theorem clearedFits_keeps (ok : Guard world) :
    KeepsActs ok (fun v => True ∧ LocksFit v) ClearedFits where
  admitted v task request state _ fits _ _ _ accepted := by
    obtain ⟨_, _, _, _, rfl⟩ := State.accept_frame accepted
    refine fits.retrace (fun cleared => ?_) fun other _ cleared => fits.empty other cleared
    cases request <;> cases cleared
  executed v task a given fits _ _ _ may := by
    refine fits.retrace (fun now => ?_) fun other different cleared => ?_
    · obtain ⟨kept, before⟩ := cleared_after may now
      refine ⟨?_, ?_⟩
      · rw [kept]
        obtain before | ⟨serverNames, rfl⟩ := before
        · exact fits.held task before
        · exact may
      · cases writes : a.writesRegistry with
        | false =>
            rw [(State.exec_unwritten task a v.state).registry writes]
            obtain before | ⟨serverNames, rfl⟩ := before
            · exact fits.empty task before
            · cases writes
        | true =>
            cases a with
            | resetForConnect serverNames => rfl
            | failStartup failures => rfl
            | resetForDisconnect => rfl
            | publish servers connected allResolved failures => cases now
            | converge trigger serverName serverConfig rawTools =>
                exact Bool.noConfusion (now.symm.trans may.2.1)
            | rollback serverName previousTools =>
                exact Bool.noConfusion (now.symm.trans may.2.1)
            | restoreRegistry snap => exact Bool.noConfusion (now.symm.trans may.2.2.2)
            | _ => cases writes
    · cases writes : a.writesRegistry with
      | false =>
          rw [(State.exec_unwritten task a v.state).registry writes]
          exact fits.empty other cleared
      | true =>
          refine absurd ?_ different
          exact given.2.unique .registry (fits.held other cleared)
            (registry_of_writes writes may)
  waited v task w r _ _ _ _ fits _ := by
    refine fits.retrace (fun cleared => ?_) fun other _ cleared => fits.empty other cleared
    rw [woken_cleared] at cleared
    exact ⟨woken_registry w r (fits.held task cleared), fits.empty task cleared⟩
  finished v task _ fits _ :=
    fits.retrace (fun cleared => by cases cleared) fun other _ cleared => fits.empty other cleared
  suspended v _ _ fits := ⟨fits.held, fits.empty⟩

theorem clearedFits_initial (config : Option TelaConfig) (notifyCallback : Bool) :
    ClearedFits ⟨fun _ => discipline.idle, fun _ => none, State.launch config notifyCallback⟩ where
  held _ cleared := by cases cleared
  empty _ cleared := by cases cleared

/-! ## What each block does to a consistent registry -/

open DownstreamRegistry

/-- The lists that `connect_all` publishes, registered one after the other. -/
def publishLists (allResolved : Dict String (List ResolvedTool)) (serverNames : List String)
    (registry : DownstreamRegistry) : DownstreamRegistry :=
  serverNames.foldl
    (fun registry serverName => registry.register serverName ((allResolved.get? serverName).getD []))
    registry

theorem registry_publish (s : State) (servers : Dict String ServerConfig)
    (connected : Dict String ConnectedServerData)
    (allResolved : Dict String (List ResolvedTool))
    (failures : Dict String ProviderStartupFailure) :
    (s.publish servers connected allResolved failures).registry =
      publishLists allResolved connected.keys s.registry := by
  have loop : ∀ (entries : List (String × ConnectedServerData)) (s : State),
      (entries.foldl (State.publishServer servers allResolved) s).registry =
        publishLists allResolved (entries.map Prod.fst) s.registry := by
    intro entries
    induction entries with
    | nil => exact fun _ => rfl
    | cons entry rest ih => exact fun s => ih _
  exact loop connected.entries s

theorem tools_publishLists (allResolved : Dict String (List ResolvedTool))
    (serverNames : List String) (registry : DownstreamRegistry) (server : String) :
    (publishLists allResolved serverNames registry).toolsByServer.get? server =
      if server ∈ serverNames then some ((allResolved.get? server).getD [])
      else registry.toolsByServer.get? server := by
  induction serverNames generalizing registry with
  | nil => simp [publishLists]
  | cons serverName rest ih =>
      have step : publishLists allResolved (serverName :: rest) registry =
          publishLists allResolved rest
            (registry.register serverName ((allResolved.get? serverName).getD [])) := rfl
      rw [step, ih, tools_register]
      by_cases same : server = serverName
      · subst same
        simp
      · simp [same]

/-- Lists without a shared name can be published into an empty registry. -/
theorem consistent_publishLists {allResolved : Dict String (List ResolvedTool)}
    (clean : NoSharedName allResolved) (serverNames : List String) :
    (publishLists allResolved serverNames {}).Consistent := by
  induction serverNames using List.reverseRecOn with
  | nil => exact consistent_empty
  | append_singleton rest serverName ih =>
      have step : publishLists allResolved (rest ++ [serverName]) {} =
          (publishLists allResolved rest {}).register serverName
            ((allResolved.get? serverName).getD []) := by
        simp [publishLists]
      rw [step]
      refine ih.register fun other others name different found exposed exposedOther => ?_
      rw [tools_publishLists] at found
      split at found
      · cases found
        cases first : allResolved.get? serverName with
        | none => simp [first, Exposes] at exposed
        | some tools =>
            cases second : allResolved.get? other with
            | none => simp [second, Exposes] at exposedOther
            | some list =>
                rw [first] at exposed
                rw [second] at exposedOther
                exact different (clean other serverName list tools name second first exposedOther
                  exposed)
      · cases found

/-- Convergence keeps a registry consistent, whatever the server reports. -/
theorem consistent_converge {registry : DownstreamRegistry} (consistent : registry.Consistent)
    (serverName : String) (serverConfig : ServerConfig) (rawTools : List RawTool) :
    (registry.converge serverName serverConfig rawTools).2.Consistent := by
  unfold DownstreamRegistry.converge
  split
  · exact consistent
  · dsimp only
    split
    · rename_i clean
      exact consistent.register (disjoint_of_noSharedName (detectConflicts_eq_nil clean).1)
    · exact consistent

/-! ## The condition on steps -/

/-- A rollback puts back a list only while no other server exposes one of its names. -/
def RollsBackDisjoint : Guard world
  | s, _, .executed _ (.rollback serverName previousTools) =>
      previousTools ≠ [] → s.registry.Disjoint serverName previousTools
  | _, _, _ => True

/-- The registry and every snapshot of it are consistent. -/
structure RegistryFits (v : Watched world Trace) : Prop where
  consistent : v.state.registry.Consistent
  snapshot : ∀ task snap, (v.traces task).snapshot = some snap → snap.Consistent

theorem snapshot_after {a : Act} (kept : a ≠ .snapshotRegistry) (v : a.Val) (g : Trace) :
    (a.after v g).snapshot = g.snapshot := by
  cases a with
  | snapshotRegistry => exact absurd rfl kept
  | release lock => cases lock <;> rfl
  | getRuntimeConfig =>
      change Trace.snapshot (if g.role = .reload then { g with config := some v } else g) = _
      split <;> rfl
  | _ => rfl

theorem snapshot_woken (w : Wait) (r : Option w.Res) (g : Trace) :
    (w.woken r g).snapshot = g.snapshot := by
  unfold Wait.woken
  split <;> rfl

/-- Every block under the condition keeps the registry consistent. -/
theorem consistent_exec {s : State} {task : TaskId} {a : Act} {g : Trace}
    {waits : TaskId → Option Wait} (consistent : s.registry.Consistent)
    (snapshot : ∀ snap, g.snapshot = some snap → snap.Consistent)
    (empty : g.cleared = true → s.registry = {})
    (met : RollsBackDisjoint s waits (.executed task a)) (may : a.may g) :
    (State.exec task a s).2.registry.Consistent := by
  cases writes : a.writesRegistry with
  | false =>
      rw [(State.exec_unwritten task a s).registry writes]
      exact consistent
  | true =>
      cases a with
      | resetForConnect serverNames => exact consistent_empty
      | failStartup failures => exact consistent_empty
      | resetForDisconnect => exact consistent_empty
      | publish servers connected allResolved failures =>
          obtain ⟨-, cleared, -, clean, -⟩ := may
          change (s.publish servers connected allResolved failures).registry.Consistent
          rw [registry_publish, empty cleared]
          exact consistent_publishLists (detectConflicts_eq_nil clean).1 _
      | converge trigger serverName serverConfig rawTools =>
          exact consistent_converge consistent serverName serverConfig rawTools
      | rollback serverName previousTools =>
          change DownstreamRegistry.Consistent (if previousTools.isEmpty then _ else _)
          split
          · exact consistent.unregister serverName
          · rename_i saved
            exact consistent.register (met (by simpa using saved))
      | restoreRegistry snap => exact snapshot snap may.2.1
      | _ => cases writes

theorem registryFits_keeps :
    KeepsActs RollsBackDisjoint (fun v => True ∧ LocksFit v ∧ ClearedFits v) RegistryFits where
  admitted v task request state _ fits _ _ _ accepted := by
    obtain ⟨_, _, _, _, rfl⟩ := State.accept_frame accepted
    refine ⟨fits.consistent, fun other snap taken => ?_⟩
    by_cases same : other = task
    · subst same
      simp only [assign_self] at taken
      cases request <;> cases taken
    · simp only [assign_of_ne _ same] at taken
      exact fits.snapshot other snap taken
  executed v task a given fits _ _ met may := by
    refine ⟨?_, fun other snap taken => ?_⟩
    · exact consistent_exec fits.consistent (fits.snapshot task) (given.2.2.empty task) met may
    · by_cases same : other = task
      · subst same
        simp only [assign_self] at taken
        by_cases saves : a = .snapshotRegistry
        · subst saves
          cases taken
          exact fits.consistent
        · rw [snapshot_after saves] at taken
          exact fits.snapshot other snap taken
      · simp only [assign_of_ne _ same] at taken
        exact fits.snapshot other snap taken
  waited v task w r _ _ _ _ fits _ := by
    refine ⟨fits.consistent, fun other snap taken => ?_⟩
    by_cases same : other = task
    · subst same
      simp only [assign_self, snapshot_woken] at taken
      exact fits.snapshot other snap taken
    · simp only [assign_of_ne _ same] at taken
      exact fits.snapshot other snap taken
  finished v task _ fits _ := by
    refine ⟨fits.consistent, fun other snap taken => ?_⟩
    by_cases same : other = task
    · subst same
      simp only [assign_self] at taken
      cases taken
    · simp only [assign_of_ne _ same] at taken
      exact fits.snapshot other snap taken
  suspended v _ _ fits := ⟨fits.consistent, fits.snapshot⟩

/-- While rollbacks stay disjoint, exposed names are unique and the reverse map is right. -/
theorem registry_uniqueness {config : Option TelaConfig} {notifyCallback : Bool}
    {c : Config world} (run : Run (State.launch config notifyCallback) RollsBackDisjoint c) :
    c.state.registry.Consistent := by
  have keeps := ((locksFit_keeps RollsBackDisjoint).and (clearedFits_keeps _).keeps).and
    registryFits_keeps.keeps
  obtain ⟨v, tracks, -, fits⟩ := keeps.reached
    ⟨⟨locksFit_initial fun _ => rfl, clearedFits_initial config notifyCallback⟩,
      consistent_empty, fun _ _ taken => nomatch taken⟩ run
  rw [← tracks.state]
  exact fits.consistent

/-! ## A rollback after a reload -/

theorem disjoint_iff {registry : DownstreamRegistry} {serverName : String}
    {tools : List ResolvedTool} :
    registry.Disjoint serverName tools ↔
      ∀ entry ∈ registry.toolsByServer.entries, entry.1 ≠ serverName →
        ∀ tool ∈ tools, ¬ Exposes entry.2 tool.name := by
  constructor
  · intro disjoint entry member different tool listed
    refine disjoint entry.1 entry.2 tool.name different (Dict.get?_eq_some_iff.mpr member) ?_
    exact List.mem_map_of_mem listed
  · intro apart other others name different found exposed
    obtain ⟨tool, listed, rfl⟩ := List.mem_map.mp exposed
    exact apart (other, others) (Dict.get?_eq_some_iff.mp found) different tool listed

instance (registry : DownstreamRegistry) (serverName : String) (tools : List ResolvedTool) :
    Decidable (registry.Disjoint serverName tools) :=
  decidable_of_iff _ disjoint_iff.symm

def mirrorServer : ServerConfig where
  name := "mirror"
  command := some "mirror-server"
  prefixValid := noPrefix_accepted
  nestedPrefixed := unnested_prefixed

def bothConfig : TelaConfig :=
  { servers := .ofList [("files", filesServer), ("mirror", mirrorServer)] }

def mirrorConfig : TelaConfig := { servers := .ofList [("mirror", mirrorServer)] }

def writeTool : RawTool := { name := "write" }

/--
The recovery of `files` has converged to a new list and notifies while a reload
removes the server and starts `mirror` with these tools; then the recovery gives up
and rolls back.
-/
def rollBackAfterReload (mirrorTools : List RawTool) : List (Choice world) :=
  [.request (.connectAll bothConfig.servers
      (some (.ofList [("files", [readTool]), ("mirror", [])]))),
    .request (.callTool "files" "read" ∅),
    .answer 1 (answering []), .answer 1 (answering []), .answer 1 (answering [writeTool]),
    .request (.configChanged mirrorConfig), .request (.connectServer 0 0),
    .answer 3 (answering []), .answer 3 (answering []), .answer 3 (answering mirrorTools),
    .answer 2 (answering []), .answer 1 (answering []), .answer 1 (answering [])]

/-- The exposed names of a server. -/
def exposedNames (registry : DownstreamRegistry) (serverName : String) : Option (List String) :=
  (registry.toolsByServer.get? serverName).map (List.map ResolvedTool.name)

def rollsBackDisjoint : Check world
  | s, .executed _ (.rollback serverName previousTools) =>
      decide (s.registry.Disjoint serverName previousTools)
  | _, _ => true

theorem rollsBackDisjoint_sound : Run.Sound rollsBackDisjoint RollsBackDisjoint := by
  intro state waits event checked
  cases event with
  | executed task a =>
      cases a with
      | rollback serverName previousTools => exact fun _ => of_decide_eq_true checked
      | _ => trivial
  | _ => trivial

/-- A rollback to a name that nobody has taken meanwhile. -/
theorem registry_uniqueness_after_rollback :
    ∃ c : Config world, Run (State.launch (some bothConfig) true) RollsBackDisjoint c ∧
      exposedNames c.state.registry "files" = some ["read"] ∧
      exposedNames c.state.registry "mirror" = some ["write"] ∧
      c.state.registry.Consistent := by
  obtain ⟨c, run, listed⟩ := Run.exists_of_play rollsBackDisjoint_sound
    (State.launch (some bothConfig) true) 80 (rollBackAfterReload [writeTool])
    (fun c => decide (exposedNames c.state.registry "files" = some ["read"] ∧
      exposedNames c.state.registry "mirror" = some ["write"])) (by decide +kernel)
  obtain ⟨files, mirror⟩ := of_decide_eq_true listed
  exact ⟨c, run, files, mirror, registry_uniqueness run⟩

/-- The rolled back name belongs to another server by then. -/
theorem registry_uniqueness_violated :
    ∃ c : Config world, Reachable (State.launch (some bothConfig) true) c ∧
      (c.state.locks .registry).Idle ∧ ¬ c.state.registry.Consistent := by
  obtain ⟨c, run, listed⟩ := Run.exists_of_play (Run.sound_anything (W := world))
    (State.launch (some bothConfig) true) 80 (rollBackAfterReload [readTool])
    (fun c => decide ((c.state.locks .registry).Idle ∧
      exposedNames c.state.registry "files" = some ["read"] ∧
      exposedNames c.state.registry "mirror" = some ["read"])) (by decide +kernel)
  obtain ⟨idle, files, mirror⟩ := of_decide_eq_true listed
  refine ⟨c, run, idle, fun consistent => ?_⟩
  obtain ⟨tools, foundFiles, namesFiles⟩ := Option.map_eq_some_iff.mp files
  obtain ⟨others, foundMirror, namesMirror⟩ := Option.map_eq_some_iff.mp mirror
  have same : "files" = "mirror" := consistent.unique _ _ tools others "read" foundFiles foundMirror
    (by rw [Exposes, namesFiles]; decide) (by rw [Exposes, namesMirror]; decide)
  exact absurd same (by decide)

end Tela
