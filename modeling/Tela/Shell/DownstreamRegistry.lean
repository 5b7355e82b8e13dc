import Tela.Core.Conflict

/-!
# Downstream resolved-tool registry

Resolved tools by server, with a reverse map from exposed names to servers. A
registry is consistent when no exposed name has two servers and the reverse map
names the server of each listed tool; each operation says when it keeps that.
-/

namespace Tela

/-- Resolved tools by server, and the server of each exposed name. -/
structure DownstreamRegistry where
  toolsByServer : Dict String (List ResolvedTool) := ∅
  toolToServer : Dict String String := ∅

namespace DownstreamRegistry

/-- Drop a name when it still belongs to the server. -/
def forgetTool (serverName : String) (names : Dict String String) (tool : ResolvedTool) :
    Dict String String :=
  if names.get? tool.name = some serverName then names.erase tool.name else names

/-- Remove all tools of a server. -/
def unregister (registry : DownstreamRegistry) (serverName : String) : DownstreamRegistry where
  toolsByServer := registry.toolsByServer.erase serverName
  toolToServer := ((registry.toolsByServer.get? serverName).getD []).foldl
    (forgetTool serverName) registry.toolToServer

/-- Register the tools of a server in place of its former ones. -/
def register (registry : DownstreamRegistry) (serverName : String) (tools : List ResolvedTool) :
    DownstreamRegistry :=
  let cleared := registry.unregister serverName
  { toolsByServer := cleared.toolsByServer.set serverName tools
    toolToServer := tools.foldl (fun names tool => names.set tool.name serverName)
      cleared.toolToServer }

def getAllTools (registry : DownstreamRegistry) : Dict String (List ResolvedTool) :=
  registry.toolsByServer

/-- Server that owns an exposed name. -/
def getToolServer (registry : DownstreamRegistry) (toolName : String) : Option String :=
  registry.toolToServer.get? toolName

/-- Resolved tool of an exposed name. -/
def getTool (registry : DownstreamRegistry) (toolName : String) : Option ResolvedTool :=
  match registry.toolToServer.get? toolName with
  | none => none
  | some server =>
      ((registry.toolsByServer.get? server).getD []).find? fun tool => tool.name = toolName

/-- A copy of the full registry state. -/
def snapshot (registry : DownstreamRegistry) : DownstreamRegistry := registry

def restore (_ snap : DownstreamRegistry) : DownstreamRegistry := snap

def clear (_ : DownstreamRegistry) : DownstreamRegistry := {}

/-! ## Lookups after each operation -/

theorem get?_foldl_forgetTool {serverName name : String} {tools : List ResolvedTool}
    {names : Dict String String} :
    (tools.foldl (forgetTool serverName) names).get? name =
      if names.get? name = some serverName ∧ Exposes tools name then none
      else names.get? name := by
  induction tools generalizing names with
  | nil => simp [Exposes]
  | cons tool rest ih =>
      have exposes : Exposes (tool :: rest) name ↔ name = tool.name ∨ Exposes rest name := by
        simp [Exposes]
      rw [List.foldl_cons, ih]
      unfold forgetTool
      by_cases owned : names.get? tool.name = some serverName
      · rw [if_pos owned]
        by_cases same : name = tool.name
        · subst same
          simp [owned, exposes]
        · simp [Dict.get?_erase, same, exposes]
      · rw [if_neg owned]
        by_cases same : name = tool.name
        · subst same
          simp [owned]
        · simp [same, exposes]

theorem get?_foldl_set {serverName name : String} {tools : List ResolvedTool}
    {names : Dict String String} :
    (tools.foldl (fun names tool => names.set tool.name serverName) names).get? name =
      if Exposes tools name then some serverName else names.get? name := by
  induction tools generalizing names with
  | nil => simp [Exposes]
  | cons tool rest ih =>
      have exposes : Exposes (tool :: rest) name ↔ name = tool.name ∨ Exposes rest name := by
        simp [Exposes]
      rw [List.foldl_cons, ih]
      by_cases same : name = tool.name
      · subst same
        simp [exposes]
      · simp [exposes, same, Dict.get?_set_of_ne _ same]

theorem tools_register (registry : DownstreamRegistry) (serverName other : String)
    (tools : List ResolvedTool) :
    (registry.register serverName tools).toolsByServer.get? other =
      if other = serverName then some tools else registry.toolsByServer.get? other := by
  by_cases same : other = serverName
  · subst same
    simp [register]
  · simp [register, unregister, Dict.get?_set_of_ne _ same, Dict.get?_erase, same]

theorem tools_unregister (registry : DownstreamRegistry) (serverName other : String) :
    (registry.unregister serverName).toolsByServer.get? other =
      if other = serverName then none else registry.toolsByServer.get? other :=
  Dict.get?_erase ..

theorem getToolServer_unregister (registry : DownstreamRegistry) (serverName name : String) :
    (registry.unregister serverName).getToolServer name =
      if registry.getToolServer name = some serverName ∧
          Exposes ((registry.toolsByServer.get? serverName).getD []) name then none
      else registry.getToolServer name :=
  get?_foldl_forgetTool

theorem getToolServer_register (registry : DownstreamRegistry) (serverName name : String)
    (tools : List ResolvedTool) :
    (registry.register serverName tools).getToolServer name =
      if Exposes tools name then some serverName
      else (registry.unregister serverName).getToolServer name :=
  get?_foldl_set

/-! ## Consistency -/

/-- Exposed names are unique and the reverse map agrees with the lists. -/
structure Consistent (registry : DownstreamRegistry) : Prop where
  unique : NoSharedName registry.toolsByServer
  owner : ∀ name server, registry.getToolServer name = some server ↔
    ∃ tools, registry.toolsByServer.get? server = some tools ∧ Exposes tools name

/-- No other server exposes a name of the list. -/
def Disjoint (registry : DownstreamRegistry) (serverName : String) (tools : List ResolvedTool) :
    Prop :=
  ∀ other others name, other ≠ serverName → registry.toolsByServer.get? other = some others →
    Exposes tools name → ¬ Exposes others name

theorem consistent_empty : Consistent {} where
  unique := by
    intro first second tools others name found
    cases found
  owner name server := by
    constructor
    · intro found
      cases found
    · rintro ⟨tools, found, -⟩
      cases found

theorem Consistent.unregister {registry : DownstreamRegistry} (consistent : registry.Consistent)
    (serverName : String) : (registry.unregister serverName).Consistent where
  unique := by
    intro first second tools others name foundFirst foundSecond exposedFirst exposedSecond
    rw [tools_unregister] at foundFirst foundSecond
    split at foundFirst
    · cases foundFirst
    · split at foundSecond
      · cases foundSecond
      · exact consistent.unique _ _ _ _ _ foundFirst foundSecond exposedFirst exposedSecond
  owner name server := by
    have before := consistent.owner name
    simp only [tools_unregister]
    rw [getToolServer_unregister]
    by_cases same : server = serverName
    · subst same
      simp only [if_true, reduceCtorEq, false_and, exists_false, iff_false]
      split
      · simp
      · rename_i kept
        intro owned
        obtain ⟨tools, found, exposed⟩ := (before server).mp owned
        exact kept ⟨owned, by simpa [found] using exposed⟩
    · rw [if_neg same, ← before server]
      split
      · rename_i gone
        simp only [reduceCtorEq, false_iff]
        intro owned
        rw [owned] at gone
        exact same (Option.some.inj gone.1)
      · rfl

theorem Consistent.register {registry : DownstreamRegistry} (consistent : registry.Consistent)
    {serverName : String} {tools : List ResolvedTool}
    (disjoint : registry.Disjoint serverName tools) :
    (registry.register serverName tools).Consistent where
  unique := by
    intro first second list others name foundFirst foundSecond exposedFirst exposedSecond
    rw [tools_register] at foundFirst foundSecond
    split at foundFirst
    · rename_i same
      subst same
      obtain rfl := Option.some.inj foundFirst
      split at foundSecond
      · exact Eq.symm ‹_›
      · exact absurd exposedSecond (disjoint _ _ _ ‹_› foundSecond exposedFirst)
    · split at foundSecond
      · rename_i same
        subst same
        obtain rfl := Option.some.inj foundSecond
        exact absurd exposedFirst (disjoint _ _ _ ‹_› foundFirst exposedSecond)
      · exact consistent.unique _ _ _ _ _ foundFirst foundSecond exposedFirst exposedSecond
  owner name server := by
    have before := (consistent.unregister serverName).owner name
    simp only [tools_unregister] at before
    simp only [tools_register]
    rw [getToolServer_register]
    by_cases listed : Exposes tools name
    · rw [if_pos listed]
      constructor
      · intro same
        obtain rfl := Option.some.inj same
        exact ⟨tools, by simp, listed⟩
      · rintro ⟨others, found, exposed⟩
        split at found
        · exact congrArg some (Eq.symm ‹_›)
        · exact absurd exposed (disjoint _ _ _ ‹_› found listed)
    · rw [if_neg listed, before server]
      by_cases same : server = serverName
      · subst same
        simp [listed]
      · simp [same]

/-- A registration after which no conflict is found was disjoint. -/
theorem disjoint_of_noSharedName {registry : DownstreamRegistry} {serverName : String}
    {tools : List ResolvedTool}
    (clean : NoSharedName (registry.register serverName tools).toolsByServer) :
    registry.Disjoint serverName tools := by
  intro other others name different found exposed exposedOther
  refine different (clean other serverName others tools name ?_ ?_ exposedOther exposed)
  · rw [tools_register, if_neg different]
    exact found
  · rw [tools_register, if_pos rfl]

end DownstreamRegistry

end Tela
