import Tela.Library.Solo
import Tela.Shell.Effects

/-!
# Single-server convergence

One update of one server's tool list is all or nothing: it replaces the list and the
reverse map of that server, or it leaves the registry as it was. Which of the two is
decided by the resolved names and by the lists of the other servers.
-/

namespace Tela

open Coop
open Text (startsWith)

/-! ## The update of the registry -/

/-- No exposed name lies in the reserved namespace. -/
def Unreserved (tools : List ResolvedTool) : Prop :=
  ∀ name, Exposes tools name → startsWith name reservedPrefix = false

namespace DownstreamRegistry

variable {registry before after : DownstreamRegistry} {serverName : String}
  {serverConfig : ServerConfig} {rawTools : List RawTool} {resolved : List ResolvedTool}

/-- The reverse map names the server of each listed tool, and nothing else. -/
def Exact (registry : DownstreamRegistry) : Prop :=
  ∀ name server, registry.getToolServer name = some server ↔
    ∃ tools, registry.toolsByServer.get? server = some tools ∧ Exposes tools name

/-- The list collides with no other server, and nobody exposes a reserved name. -/
structure Admissible (registry : DownstreamRegistry) (serverName : String)
    (resolved : List ResolvedTool) : Prop where
  disjoint : registry.Disjoint serverName resolved
  unreserved : Unreserved resolved
  others : ∀ other tools, other ≠ serverName → registry.toolsByServer.get? other = some tools →
    Unreserved tools

/-- The server's list is the resolved one, and all else is as before. -/
structure Replaced (before after : DownstreamRegistry) (serverName : String)
    (resolved : List ResolvedTool) : Prop where
  list : after.toolsByServer.get? serverName = some resolved
  others : ∀ other, other ≠ serverName →
    after.toolsByServer.get? other = before.toolsByServer.get? other
  owners : ∀ name, after.getToolServer name =
    if Exposes resolved name then some serverName
    else if before.getToolServer name = some serverName ∧
        Exposes ((before.toolsByServer.get? serverName).getD []) name then none
    else before.getToolServer name
  exact : before.Exact → after.Exact

/-- The registry before and after an update that was applied or not. -/
structure Settled (before after : DownstreamRegistry) (serverName : String)
    (serverConfig : ServerConfig) (rawTools : List RawTool) (applied : Prop) : Prop where
  atomic : (applied ∧ ∃ resolved, resolveTools serverName serverConfig rawTools = .ok resolved ∧
      Replaced before after serverName resolved) ∨ (¬ applied ∧ after = before)
  decided : applied ↔ ∃ resolved, resolveTools serverName serverConfig rawTools = .ok resolved ∧
    before.Admissible serverName resolved

/-- The check after registration finds nothing exactly if the list is admissible. -/
theorem detectConflicts_register_iff (unique : NoSharedName registry.toolsByServer) :
    detectConflicts (registry.register serverName resolved).getAllTools = [] ↔
      registry.Admissible serverName resolved := by
  rw [detectConflicts_eq_nil_iff]
  change NoSharedName (registry.register serverName resolved).toolsByServer ∧ _ ↔ _
  constructor
  · rintro ⟨clean, unreserved⟩
    refine ⟨disjoint_of_noSharedName clean, fun name exposed => ?_, ?_⟩
    · refine unreserved serverName resolved name ?_ exposed
      exact (tools_register ..).trans (if_pos rfl)
    · intro other tools different found name exposed
      refine unreserved other tools name ?_ exposed
      exact (tools_register ..).trans ((if_neg different).trans found)
  · intro admissible
    constructor
    · intro first second tools others name foundFirst foundSecond exposedFirst exposedSecond
      rw [tools_register] at foundFirst foundSecond
      by_cases ofFirst : first = serverName
      · rw [if_pos ofFirst] at foundFirst
        cases foundFirst
        by_cases ofSecond : second = serverName
        · rw [ofFirst, ofSecond]
        · rw [if_neg ofSecond] at foundSecond
          exact absurd exposedSecond
            (admissible.disjoint _ _ _ ofSecond foundSecond exposedFirst)
      · rw [if_neg ofFirst] at foundFirst
        by_cases ofSecond : second = serverName
        · rw [if_pos ofSecond] at foundSecond
          cases foundSecond
          exact absurd exposedFirst (admissible.disjoint _ _ _ ofFirst foundFirst exposedSecond)
        · rw [if_neg ofSecond] at foundSecond
          exact unique _ _ _ _ _ foundFirst foundSecond exposedFirst exposedSecond
    · intro server tools name found exposed
      change (registry.register serverName resolved).toolsByServer.get? server = _ at found
      rw [tools_register] at found
      by_cases same : server = serverName
      · rw [if_pos same] at found
        cases found
        exact admissible.unreserved name exposed
      · rw [if_neg same] at found
        exact admissible.others server tools same found name exposed

theorem replaced_register (unique : NoSharedName before.toolsByServer)
    (disjoint : before.Disjoint serverName resolved) :
    Replaced before (before.register serverName resolved) serverName resolved where
  list := (tools_register ..).trans (if_pos rfl)
  others other different := (tools_register ..).trans (if_neg different)
  owners name := by rw [getToolServer_register, getToolServer_unregister]
  exact exact := (Consistent.register ⟨unique, exact⟩ disjoint).owner

/-- The three ways in which one update ends. -/
theorem converge_cases (unique : NoSharedName registry.toolsByServer) :
    (∃ exc, resolveTools serverName serverConfig rawTools = .error exc ∧
        registry.converge serverName serverConfig rawTools = (.error exc, registry)) ∨
      ∃ resolved, resolveTools serverName serverConfig rawTools = .ok resolved ∧
        ((registry.Admissible serverName resolved ∧
            registry.converge serverName serverConfig rawTools =
              (.ok (.ok resolved), registry.register serverName resolved)) ∨
          (¬ registry.Admissible serverName resolved ∧
            ∃ conflicts, registry.converge serverName serverConfig rawTools =
              (.ok (.error conflicts), registry))) := by
  unfold converge
  cases resolution : resolveTools serverName serverConfig rawTools with
  | error exc => exact .inl ⟨exc, rfl, rfl⟩
  | ok resolved =>
      refine .inr ⟨resolved, rfl, ?_⟩
      rw [← detectConflicts_register_iff unique]
      cases found : detectConflicts (registry.register serverName resolved).getAllTools with
      | nil => exact .inl ⟨rfl, by simp only [found]⟩
      | cons conflict conflicts =>
          exact .inr ⟨List.cons_ne_nil _ _, conflict :: conflicts, by simp only [found]; rfl⟩

theorem settled_converge (unique : NoSharedName registry.toolsByServer) :
    Settled registry (registry.converge serverName serverConfig rawTools).2 serverName serverConfig
      rawTools (∃ resolved, (registry.converge serverName serverConfig rawTools).1 =
        .ok (.ok resolved)) := by
  rcases converge_cases unique with
    ⟨exc, failed, same⟩ | ⟨resolved, resolution, ⟨admissible, same⟩ | ⟨refused, conflicts, same⟩⟩
  · rw [same]
    refine ⟨.inr ⟨nofun, rfl⟩, ?_⟩
    simp [failed]
  · rw [same]
    constructor
    · exact .inl ⟨⟨resolved, rfl⟩, resolved, resolution,
        replaced_register unique admissible.disjoint⟩
    · exact iff_of_true ⟨resolved, rfl⟩ ⟨resolved, resolution, admissible⟩
  · rw [same]
    refine ⟨.inr ⟨nofun, rfl⟩, iff_of_false nofun ?_⟩
    rintro ⟨others, resolution', admissible⟩
    rw [resolution] at resolution'
    cases resolution'
    exact refused admissible

end DownstreamRegistry

/-! ## The two programs -/

/-- While the task holds the registry lock, nobody else changes the registry. -/
def HoldsRegistry (task : TaskId) (s s' : State) : Prop :=
  (s.locks .registry).holder = some task →
    s'.registry = s.registry ∧ (s'.locks .registry).holder = some task

/-- The program, run as a task among others, ends with an outcome in a state. -/
abbrev Runs {α : Type} (task : TaskId) (x : Prog α) (s : State) (out : Except PyException α)
    (s' : State) : Prop :=
  Solo world (HoldsRegistry task) task x s out s'

/-- The await ends with an outcome in a state. -/
abbrev Awaited (task : TaskId) (w : Wait) (s : State) (outcome : Except PyException w.Res)
    (s' : State) : Prop :=
  Ended world (HoldsRegistry task) task w s outcome s'

variable {task : TaskId} {s s' : State} {α : Type}

/-- The lock is not obtained and nothing happens, or the body runs under it. -/
theorem runs_withLock {lock : LockName} {body : Prog α} {out : Except PyException α}
    (runs : Runs task (withLock lock body) s out s') :
    (∃ exc, out = .error exc ∧ Awaited task (.acquire lock) s (.error exc) s') ∨
      ∃ held s₁, Awaited task (.acquire lock) s (.ok ()) held ∧ Runs task body held out s₁ ∧
        s' = s₁.releaseLock task lock := by
  obtain ⟨outcome, held, waited, rest⟩ := Solo.bind_iff.mp runs
  have acquired := Solo.await_iff.mp waited
  cases outcome with
  | error exc =>
      obtain ⟨rfl, rfl⟩ := rest
      exact .inl ⟨exc, rfl, acquired⟩
  | ok value =>
      obtain ⟨first, s₁, last, run, released, rfl⟩ := Solo.ensure_iff.mp rest
      obtain ⟨rfl, rfl⟩ := released
      exact .inr ⟨held, s₁, acquired, run, rfl⟩

theorem registry_releaseLock (s : State) (task : TaskId) (lock : LockName) :
    (s.releaseLock task lock).registry = s.registry := by
  cases lock <;> rfl

/-- What the kernel reports of an update. -/
def convergenceOutcome (trigger : ConvergenceTrigger) (serverName : String) :
    Except PyException (Except (List ToolConflict) (List ResolvedTool)) →
      Except PyException SingleServerConvergenceResult
  | .error exc => .error exc
  | .ok (.error conflicts) =>
      .ok ⟨.conflict, trigger, serverName, true, [], conflicts.map fun c => (c.toolName, c.servers)⟩
  | .ok (.ok resolved) =>
      .ok ⟨.applied, trigger, serverName, false, resolved.map ResolvedTool.name, []⟩

theorem runs_convergeSingleServerUpdate {serverName : String} {serverConfig : ServerConfig}
    {rawTools : List RawTool} {trigger : ConvergenceTrigger}
    {out : Except PyException SingleServerConvergenceResult}
    (runs : Runs task (convergeSingleServerUpdate serverName serverConfig rawTools trigger) s out
      s') :
    (∃ exc, out = .error exc ∧ Awaited task (.acquire .registry) s (.error exc) s') ∨
      ∃ held, Awaited task (.acquire .registry) s (.ok ()) held ∧
        out = convergenceOutcome trigger serverName
          (held.registry.converge serverName serverConfig rawTools).1 ∧
        s'.registry = (held.registry.converge serverName serverConfig rawTools).2 := by
  rcases runs_withLock runs with refused | ⟨held, s₁, acquired, body, rfl⟩
  · exact .inl refused
  · refine .inr ⟨held, acquired, ?_⟩
    rw [registry_releaseLock]
    change Solo world _ task (match (held.registry.converge serverName serverConfig rawTools).1 with
      | .error exc => _
      | .ok (.error conflicts) => _
      | .ok (.ok resolved) => _) _ out s₁ at body
    cases update : (held.registry.converge serverName serverConfig rawTools).1 with
    | error exc =>
        rw [update] at body
        obtain ⟨rfl, rfl⟩ := body
        exact ⟨rfl, rfl⟩
    | ok verdict =>
        rw [update] at body
        cases verdict with
        | error conflicts =>
            obtain ⟨rfl, rfl⟩ := body
            exact ⟨rfl, rfl⟩
        | ok resolved =>
            obtain ⟨rfl, rfl⟩ := body
            exact ⟨rfl, rfl⟩

/-- A task that has got a lock holds it. -/
theorem holder_of_acquired {lock : LockName} {held : State}
    (acquired : Awaited task (.acquire lock) s (.ok ()) held) :
    (held.locks lock).holder = some task := by
  rcases acquired with ⟨_, -, entered⟩ | ⟨s₁, s₂, -, -, woken⟩
  · have passed : State.enter task (.acquire lock) s = _ := entered
    rcases State.enter_passed passed with ⟨_, same, -, rfl⟩ | ⟨other, -⟩
    · cases same
      simp [State.updateLock]
    · exact absurd rfl (other lock)
  · obtain ⟨next, granted, rfl⟩ := Option.map_eq_some_iff.mp woken
    obtain ⟨-, rest, -, rfl⟩ := FifoLock.grant_eq_some granted
    simp [State.updateLock]

/-- The registry stays as it is while the holder of its lock waits for a list. -/
theorem registry_of_listed {session : SessionId} {outcome : Except PyException (List RawTool)}
    (holds : (s.locks .registry).holder = some task)
    (listed : Awaited task (.listTools session) s outcome s') : s'.registry = s.registry := by
  rcases listed with ⟨_, -, entered⟩ | ⟨s₁, s₂, entered, kept, woken⟩
  · cases (Prod.mk.inj entered).1
  · obtain rfl : s = s₁ := (Prod.mk.inj entered).2
    obtain ⟨locks, reported, rfl⟩ := State.wake_frame woken
    exact (kept holds).1

theorem runs_enumerateTools {session : SessionId}
    {out : Except PyException (Except String (List RawTool))}
    (runs : Runs task (enumerateTools session) s out s') :
    (∃ rawTools, Awaited task (.listTools session) s (.ok rawTools) s' ∧
        out = .ok (.ok rawTools)) ∨
      ∃ exc, Awaited task (.listTools session) s (.error exc) s' ∧
        (out = .error exc ∨ ∃ error, out = .ok (.error error)) := by
  obtain ⟨_, s₁, attempted, rest⟩ := Solo.bind_iff.mp runs
  obtain ⟨outcome, same, waited⟩ := Solo.attempt_iff.mp attempted
  have listed := Solo.await_iff.mp waited
  subst same
  cases outcome with
  | ok rawTools =>
      obtain ⟨rfl, rfl⟩ := rest
      exact .inl ⟨rawTools, listed, rfl⟩
  | error exc =>
      dsimp only at rest
      split at rest
      · obtain ⟨rfl, rfl⟩ := rest
        exact .inr ⟨exc, listed, .inr ⟨_, rfl⟩⟩
      · obtain ⟨rfl, rfl⟩ := rest
        exact .inr ⟨exc, listed, .inl rfl⟩

/-- The server's client, its settings, or the list that its session should give is missing. -/
def Unlisted (task : TaskId) (serverName : String) (held : State) : Prop :=
  held.clients.get? serverName = none ∨
    (held.runtimeConfig.bind fun config => config.servers.get? serverName) = none ∨
    ∃ client exc s₁ s₂, held.clients.get? serverName = some client ∧
      s₁.registry = held.registry ∧ Awaited task (.listTools client.session) s₁ (.error exc) s₂

/-- The session of the server's client gives a list. -/
def Listed (task : TaskId) (serverName : String) (held : State) (serverConfig : ServerConfig)
    (rawTools : List RawTool) : Prop :=
  (held.runtimeConfig.bind fun config => config.servers.get? serverName) = some serverConfig ∧
    ∃ client s₁ s₂, held.clients.get? serverName = some client ∧
      s₁.registry = held.registry ∧ Awaited task (.listTools client.session) s₁ (.ok rawTools) s₂

theorem registry_getRuntimeConfig (s : State) (task : TaskId) :
    (s.getRuntimeConfig task).2.registry = s.registry ∧
      (s.getRuntimeConfig task).2.locks = s.locks := by
  unfold State.getRuntimeConfig
  dsimp only
  split
  · split <;> exact ⟨rfl, rfl⟩
  · exact ⟨rfl, rfl⟩

/-- What the manual re-enumeration hands back for an update. -/
def reEnumerationOutcome :
    Except PyException (Except (List ToolConflict) (List ResolvedTool)) →
      Except PyException (Except String (List ResolvedTool))
  | .error exc => .error exc
  | .ok (.error conflicts) =>
      .ok (.error ("TOOL_CONFLICT: " ++ conflictDescription
        (conflicts.map fun c => (c.toolName, c.servers))))
  | .ok (.ok resolved) => .ok (.ok resolved)

/-- The update at the end of the manual re-enumeration. -/
def updateListed (serverName : String) (serverConfig : ServerConfig) (rawTools : List RawTool) :
    Prog (Except String (List ResolvedTool)) := do
  let outcome : Except PyException (Except (List ToolConflict) (List ResolvedTool)) ←
    act (.converge .manualReenumeration serverName serverConfig rawTools)
  match outcome with
  | .error exc => .raise exc
  | .ok (.error conflicts) =>
      return .error ("TOOL_CONFLICT: " ++ conflictDescription
        (conflicts.map fun c => (c.toolName, c.servers)))
  | .ok (.ok resolved) => return .ok resolved

theorem runs_update {serverName : String} {serverConfig : ServerConfig} {rawTools : List RawTool}
    {out : Except PyException (Except String (List ResolvedTool))}
    (runs : Runs task (updateListed serverName serverConfig rawTools) s out s') :
    out = reEnumerationOutcome (s.registry.converge serverName serverConfig rawTools).1 ∧
      s'.registry = (s.registry.converge serverName serverConfig rawTools).2 := by
  change Solo world _ task (match (s.registry.converge serverName serverConfig rawTools).1 with
    | .error exc => _
    | .ok (.error conflicts) => _
    | .ok (.ok resolved) => _) _ out s' at runs
  cases update : (s.registry.converge serverName serverConfig rawTools).1 with
  | error exc =>
      rw [update] at runs
      obtain ⟨rfl, rfl⟩ := runs
      exact ⟨rfl, rfl⟩
  | ok verdict =>
      rw [update] at runs
      cases verdict with
      | error conflicts =>
          obtain ⟨rfl, rfl⟩ := runs
          exact ⟨rfl, rfl⟩
      | ok resolved =>
          obtain ⟨rfl, rfl⟩ := runs
          exact ⟨rfl, rfl⟩

theorem runs_reEnumerateLocked {serverName : String}
    {out : Except PyException (Except String (List ResolvedTool))}
    (holds : (s.locks .registry).holder = some task)
    (runs : Runs task (reEnumerateLocked serverName) s out s') :
    (Unlisted task serverName s ∧ s'.registry = s.registry ∧
        ∀ resolved, out ≠ .ok (.ok resolved)) ∨
      ∃ serverConfig rawTools, Listed task serverName s serverConfig rawTools ∧
        out = reEnumerationOutcome (s.registry.converge serverName serverConfig rawTools).1 ∧
        s'.registry = (s.registry.converge serverName serverConfig rawTools).2 := by
  unfold reEnumerateLocked Runs at runs
  simp only [act, Coro.bind_eq, Coro.bind, Solo] at runs
  have client : (world.exec task (.readClient serverName) s).1 = s.clients.get? serverName := rfl
  rw [client] at runs
  cases connected : s.clients.get? serverName with
  | none =>
      rw [connected] at runs
      obtain ⟨rfl, rfl⟩ := runs
      exact .inl ⟨.inl connected, rfl, by rintro _ ⟨⟩⟩
  | some client =>
      rw [connected] at runs
      simp only [Solo] at runs
      obtain ⟨same, locks⟩ := registry_getRuntimeConfig s task
      have holds' : ((s.getRuntimeConfig task).2.locks .registry).holder = some task :=
        locks ▸ holds
      have config : (world.exec task .getRuntimeConfig
        (world.exec task (.readClient serverName) s).2).1 = s.runtimeConfig := rfl
      rw [config] at runs
      cases loaded : s.runtimeConfig with
      | none =>
          rw [loaded] at runs
          obtain ⟨rfl, rfl⟩ := runs
          exact .inl ⟨.inr (.inl (by rw [loaded]; rfl)), same, by rintro _ ⟨⟩⟩
      | some config =>
          rw [loaded] at runs
          dsimp only at runs
          cases known : config.servers.get? serverName with
          | none =>
              rw [known] at runs
              obtain ⟨rfl, rfl⟩ := runs
              exact .inl ⟨.inr (.inl (by rw [loaded]; exact known)), same, by rintro _ ⟨⟩⟩
          | some serverConfig =>
              rw [known] at runs
              obtain ⟨outcome, s₁, enumerated, rest⟩ := Solo.bind_iff.mp runs
              rcases runs_enumerateTools enumerated with
                ⟨rawTools, listed, rfl⟩ | ⟨exc, listed, failed⟩
              · have kept := (registry_of_listed holds' listed).trans same
                refine .inr ⟨serverConfig, rawTools,
                  ⟨by rw [loaded]; exact known, client, _, s₁, connected, same, listed⟩, ?_⟩
                rw [← kept]
                exact runs_update rest
              · have kept := (registry_of_listed holds' listed).trans same
                have unlisted : Unlisted task serverName s :=
                  .inr (.inr ⟨client, exc, _, s₁, connected, same, listed⟩)
                rcases failed with rfl | ⟨error, rfl⟩
                · obtain ⟨rfl, rfl⟩ := rest
                  exact .inl ⟨unlisted, kept, by rintro _ ⟨⟩⟩
                · obtain ⟨rfl, rfl⟩ := rest
                  exact .inl ⟨unlisted, kept, by rintro _ ⟨⟩⟩

/-! ## All or nothing -/

/-- The lock is not obtained, so that the task does nothing. -/
def Abandoned {α : Type} (task : TaskId) (s : State) (out : Except PyException α) (s' : State) :
    Prop :=
  ∃ exc, out = .error exc ∧ Awaited task (.acquire .registry) s (.error exc) s'

theorem applied_convergenceOutcome (trigger : ConvergenceTrigger) (serverName : String)
    (update : Except PyException (Except (List ToolConflict) (List ResolvedTool))) :
    (∃ result, convergenceOutcome trigger serverName update = .ok result ∧
        result.disposition = .applied) ↔ ∃ resolved, update = .ok (.ok resolved) := by
  match update with
  | .error exc => simp [convergenceOutcome]
  | .ok (.error conflicts) => simp [convergenceOutcome]
  | .ok (.ok resolved) => simp [convergenceOutcome]

theorem applied_reEnumerationOutcome
    (update : Except PyException (Except (List ToolConflict) (List ResolvedTool))) :
    (∃ resolved, reEnumerationOutcome update = .ok (.ok resolved)) ↔
      ∃ resolved, update = .ok (.ok resolved) := by
  match update with
  | .error exc => simp [reEnumerationOutcome]
  | .ok (.error conflicts) => simp [reEnumerationOutcome]
  | .ok (.ok resolved) => simp [reEnumerationOutcome]

/--
Among any other tasks, both programs replace the list of the server or change nothing,
and its names and those of the other servers decide which.
-/
theorem single_convergence (task : TaskId) (serverName : String) (s s' : State) :
    (∀ serverConfig rawTools trigger out,
      Runs task (convergeSingleServerUpdate serverName serverConfig rawTools trigger) s out s' →
        Abandoned task s out s' ∨
          ∃ held, Awaited task (.acquire .registry) s (.ok ()) held ∧
            (NoSharedName held.registry.toolsByServer →
              held.registry.Settled s'.registry serverName serverConfig rawTools
                (∃ result, out = .ok result ∧ result.disposition = .applied))) ∧
    (∀ out, Runs task (reEnumerate serverName) s out s' →
        Abandoned task s out s' ∨
          ∃ held, Awaited task (.acquire .registry) s (.ok ()) held ∧
            ((Unlisted task serverName held ∧ s'.registry = held.registry ∧
                ∀ resolved, out ≠ .ok (.ok resolved)) ∨
              ∃ serverConfig rawTools, Listed task serverName held serverConfig rawTools ∧
                (NoSharedName held.registry.toolsByServer →
                  held.registry.Settled s'.registry serverName serverConfig rawTools
                    (∃ resolved, out = .ok (.ok resolved))))) := by
  constructor
  · intro serverConfig rawTools trigger out runs
    rcases runs_convergeSingleServerUpdate runs with refused | ⟨held, acquired, rfl, after⟩
    · exact .inl refused
    · refine .inr ⟨held, acquired, fun unique => ?_⟩
      rw [after, applied_convergenceOutcome]
      exact DownstreamRegistry.settled_converge unique
  · intro out runs
    rcases runs_withLock runs with refused | ⟨held, s₁, acquired, body, rfl⟩
    · exact .inl refused
    · refine .inr ⟨held, acquired, ?_⟩
      rw [registry_releaseLock]
      rcases runs_reEnumerateLocked (holder_of_acquired acquired) body with
        early | ⟨serverConfig, rawTools, listed, rfl, after⟩
      · exact .inl early
      · refine .inr ⟨serverConfig, rawTools, listed, fun unique => ?_⟩
        rw [after, applied_reEnumerationOutcome]
        exact DownstreamRegistry.settled_converge unique

/-! ## Registries that the check or the reverse map does not fit -/

def plainServer : ServerConfig := { name := "plain", command := some "plain-server" }

/-- Another server exposes a reserved name. -/
def reservedNeighbour : DownstreamRegistry :=
  ({} : DownstreamRegistry).register "other"
    [{ name := "tela.status", serverName := "other", family := "other" }]

/-- The reverse map names a server for a tool that nobody lists. -/
def staleOwner : DownstreamRegistry where
  toolToServer := .ofList [("ghost", "other")]

/-- The exposed names that resolution gives. -/
def resolvedNames (resolution : Except PyException (List ResolvedTool)) : Option (List String) :=
  match resolution with
  | .ok resolved => some (resolved.map ResolvedTool.name)
  | .error _ => none

theorem exists_of_resolvedNames {resolution : Except PyException (List ResolvedTool)}
    {names : List String} (same : resolvedNames resolution = some names) :
    ∃ resolved, resolution = .ok resolved ∧ resolved.map ResolvedTool.name = names := by
  cases resolution with
  | error exc => cases same
  | ok resolved => exact ⟨resolved, rfl, Option.some.inj same⟩

def appliedBy (update : Except PyException (Except (List ToolConflict) (List ResolvedTool))) :
    Bool :=
  match update with
  | .ok (.ok _) => true
  | _ => false

theorem appliedBy_iff
    {update : Except PyException (Except (List ToolConflict) (List ResolvedTool))} :
    appliedBy update = true ↔ ∃ resolved, update = .ok (.ok resolved) := by
  match update with
  | .error exc => simp [appliedBy]
  | .ok (.error conflicts) => simp [appliedBy]
  | .ok (.ok resolved) => simp [appliedBy]

/--
An update with free and unreserved names is refused for the sake of another server,
and an update that is applied leaves the reverse map wrong.
-/
theorem single_convergence_violated :
    (NoSharedName reservedNeighbour.toolsByServer ∧
      (∃ resolved, resolveTools "plain" plainServer [{ name := "read" }] = .ok resolved ∧
        reservedNeighbour.Disjoint "plain" resolved ∧ Unreserved resolved) ∧
      ¬ ∃ resolved, (reservedNeighbour.converge "plain" plainServer [{ name := "read" }]).1 =
        .ok (.ok resolved)) ∧
    (NoSharedName staleOwner.toolsByServer ∧
      (∃ resolved, (staleOwner.converge "plain" plainServer [{ name := "read" }]).1 =
        .ok (.ok resolved)) ∧
      ¬ (staleOwner.converge "plain" plainServer [{ name := "read" }]).2.Exact) := by
  have lists : reservedNeighbour.toolsByServer.entries = [("other",
      [{ name := "tela.status", serverName := "other", family := "other" }])] := rfl
  have names : resolvedNames (resolveTools "plain" plainServer [{ name := "read" }]) =
      some ["read"] := by decide +kernel
  have refused : appliedBy (reservedNeighbour.converge "plain" plainServer [{ name := "read" }]).1 =
      false := by decide +kernel
  have applied : appliedBy (staleOwner.converge "plain" plainServer [{ name := "read" }]).1 =
      true := by decide +kernel
  refine ⟨⟨?_, ?_, ?_⟩, ?_, ?_, ?_⟩
  · intro first second tools others name foundFirst foundSecond exposedFirst exposedSecond
    rw [Dict.get?_eq_some_iff, lists, List.mem_singleton] at foundFirst foundSecond
    exact (Prod.mk.inj foundFirst).1.trans (Prod.mk.inj foundSecond).1.symm
  · obtain ⟨resolved, resolution, exposed⟩ := exists_of_resolvedNames names
    refine ⟨resolved, resolution, ?_, ?_⟩
    · intro other others name different found listed other'
      rw [Dict.get?_eq_some_iff, lists, List.mem_singleton] at found
      obtain ⟨rfl, rfl⟩ := Prod.mk.inj found
      rw [Exposes, exposed, List.mem_singleton] at listed
      subst listed
      exact absurd other' (by decide)
    · intro name listed
      rw [Exposes, exposed, List.mem_singleton] at listed
      subst listed
      decide
  · rw [← appliedBy_iff, refused]
    exact Bool.false_ne_true
  · intro first second tools others name foundFirst
    cases foundFirst
  · exact appliedBy_iff.mp applied
  · intro exact
    have owner : (staleOwner.converge "plain" plainServer
        [{ name := "read" }]).2.getToolServer "ghost" = some "other" := by decide +kernel
    have absent : ((staleOwner.converge "plain" plainServer
        [{ name := "read" }]).2.toolsByServer.get? "other").isNone = true := by decide +kernel
    obtain ⟨tools, found, -⟩ := (exact "ghost" "other").mp owner
    rw [found] at absent
    cases absent

end Tela
