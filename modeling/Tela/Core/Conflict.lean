import Tela.Core.Models

/-!
# Tool conflict detection

Detects exposed names claimed by several servers and names inside the reserved
dotted namespace. What to do about a conflict is the caller's decision.
-/

namespace Tela

open Text (startsWith)

inductive ConflictType
  | nameCollision
  | prefixViolation
  deriving DecidableEq, Repr

/-- A tool name conflict across servers. -/
structure ToolConflict where
  toolName : String
  servers : List String
  conflictType : ConflictType := .nameCollision
  deriving DecidableEq, Repr

def reservedPrefix : String := "tela."

/-- Note that `serverName` exposes a tool called `name`. -/
def addOwner (serverName : String) (owners : Dict String (List String)) (name : String) :
    Dict String (List String) :=
  owners.set name ((owners.get? name).getD [] ++ [serverName])

/-- Every exposed name with the servers that expose it, once per tool. -/
def toolOwners (allTools : Dict String (List ResolvedTool)) : Dict String (List String) :=
  allTools.entries.foldl
    (fun owners entry => (entry.2.map ResolvedTool.name).foldl (addOwner entry.1) owners) ∅

/-- The owners in code point order of the names, each server once. -/
def sortedOwners (allTools : Dict String (List ResolvedTool)) : List (String × List String) :=
  ((toolOwners allTools).entries.insertionSort fun first second => first.1 ≤ second.1).map
    fun owner => (owner.1, Text.sorted owner.2.dedup)

/-- Reserved-prefix violations first, then name collisions outside that prefix. -/
def detectConflicts (allTools : Dict String (List ResolvedTool)) : List ToolConflict :=
  let owners := sortedOwners allTools
  let violations := owners.filterMap fun (toolName, uniqueServers) =>
    if startsWith toolName reservedPrefix then
      some ⟨toolName, uniqueServers, .prefixViolation⟩
    else none
  let collisions := owners.filterMap fun (toolName, uniqueServers) =>
    if 1 < uniqueServers.length ∧ startsWith toolName reservedPrefix = false then
      some ⟨toolName, uniqueServers, .nameCollision⟩
    else none
  violations ++ collisions

/-- The text of a `TOOL_CONFLICT` error. -/
def conflictDescription (conflicts : List (String × List String)) : String :=
  Text.join "; " (conflicts.map fun (toolName, servers) =>
    toolName ++ " in [" ++ Text.join ", " servers ++ "]")

/-! ## What an empty report means -/

/-- `name` is exposed by a tool of the list. -/
def Exposes (tools : List ResolvedTool) (name : String) : Prop :=
  name ∈ tools.map ResolvedTool.name

instance (tools : List ResolvedTool) (name : String) : Decidable (Exposes tools name) :=
  inferInstanceAs (Decidable (name ∈ tools.map ResolvedTool.name))

/-- No exposed name occurs in the lists of two different servers. -/
def NoSharedName (allTools : Dict String (List ResolvedTool)) : Prop :=
  ∀ first second tools others name, allTools.get? first = some tools →
    allTools.get? second = some others → Exposes tools name → Exposes others name →
    first = second

theorem mem_owners_addOwner {serverName server name other : String}
    {owners : Dict String (List String)} :
    server ∈ ((addOwner serverName owners name).get? other).getD [] ↔
      server ∈ (owners.get? other).getD [] ∨ (server = serverName ∧ other = name) := by
  unfold addOwner
  by_cases same : other = name
  · subst same
    simp
  · simp [Dict.get?_set_of_ne _ same, same]

theorem mem_owners_foldl_names {serverName server other : String} {names : List String}
    {owners : Dict String (List String)} :
    server ∈ ((names.foldl (addOwner serverName) owners).get? other).getD [] ↔
      server ∈ (owners.get? other).getD [] ∨ (server = serverName ∧ other ∈ names) := by
  induction names generalizing owners with
  | nil => simp
  | cons name rest ih =>
      rw [List.foldl_cons, ih, mem_owners_addOwner, List.mem_cons]
      tauto

theorem mem_owners_foldl_entries {server other : String}
    {entries : List (String × List ResolvedTool)} {owners : Dict String (List String)} :
    server ∈ ((entries.foldl
        (fun owners entry => (entry.2.map ResolvedTool.name).foldl (addOwner entry.1) owners)
        owners).get? other).getD [] ↔
      server ∈ (owners.get? other).getD [] ∨
        ∃ tools, (server, tools) ∈ entries ∧ Exposes tools other := by
  induction entries generalizing owners with
  | nil => simp
  | cons entry rest ih =>
      obtain ⟨serverName, tools⟩ := entry
      rw [List.foldl_cons, ih, mem_owners_foldl_names]
      constructor
      · rintro ((old | ⟨rfl, exposed⟩) | ⟨others, member, exposed⟩)
        · exact .inl old
        · exact .inr ⟨tools, List.mem_cons_self .., exposed⟩
        · exact .inr ⟨others, List.mem_cons_of_mem _ member, exposed⟩
      · rintro (old | ⟨others, member, exposed⟩)
        · exact .inl (.inl old)
        · obtain same | later := List.mem_cons.mp member
          · obtain ⟨rfl, rfl⟩ := Prod.mk.inj same
            exact .inl (.inr ⟨rfl, exposed⟩)
          · exact .inr ⟨others, later, exposed⟩

/-- The owners of a name are the servers whose list exposes it. -/
theorem mem_toolOwners_iff {allTools : Dict String (List ResolvedTool)} {server name : String} :
    server ∈ ((toolOwners allTools).get? name).getD [] ↔
      ∃ tools, allTools.get? server = some tools ∧ Exposes tools name := by
  simp [toolOwners, mem_owners_foldl_entries, Dict.get?_eq_some_iff]

/-- Every name on record has an owner. -/
def Owned (owners : Dict String (List String)) : Prop :=
  ∀ name servers, owners.get? name = some servers → servers ≠ []

theorem owned_addOwner {owners : Dict String (List String)} (owned : Owned owners)
    (serverName name : String) : Owned (addOwner serverName owners name) := by
  intro other servers found
  unfold addOwner at found
  by_cases same : other = name
  · subst same
    rw [Dict.get?_set_self] at found
    cases found
    exact List.append_ne_nil_of_right_ne_nil _ (List.cons_ne_nil _ _)
  · rw [Dict.get?_set_of_ne _ same] at found
    exact owned other servers found

theorem owned_foldl_names {serverName : String} {names : List String}
    {owners : Dict String (List String)} (owned : Owned owners) :
    Owned (names.foldl (addOwner serverName) owners) := by
  induction names generalizing owners with
  | nil => exact owned
  | cons name rest ih => exact ih (owned_addOwner owned serverName name)

theorem owned_toolOwners (allTools : Dict String (List ResolvedTool)) :
    Owned (toolOwners allTools) := by
  have fold (entries : List (String × List ResolvedTool)) (owners : Dict String (List String))
      (owned : Owned owners) :
      Owned (entries.foldl
        (fun owners entry => (entry.2.map ResolvedTool.name).foldl (addOwner entry.1) owners)
        owners) := by
    induction entries generalizing owners with
    | nil => exact owned
    | cons entry rest ih => exact ih _ (owned_foldl_names owned)
  exact fold _ _ fun name servers found => by cases found

/-- An entry of the sorted owners lists the servers whose list exposes the name. -/
theorem mem_sortedOwners {allTools : Dict String (List ResolvedTool)} {name : String}
    {servers : List String} (member : (name, servers) ∈ sortedOwners allTools) :
    servers ≠ [] ∧ servers.Nodup ∧ ∀ server ∈ servers,
      ∃ tools, allTools.get? server = some tools ∧ Exposes tools name := by
  obtain ⟨⟨name', owners⟩, among, same⟩ := List.mem_map.mp member
  obtain ⟨rfl, rfl⟩ := Prod.mk.inj same
  have known : (toolOwners allTools).get? name' = some owners :=
    Dict.get?_eq_some_iff.mpr ((List.perm_insertionSort _ _).mem_iff.mp among)
  refine ⟨?_, ?_, fun server owner => ?_⟩
  · obtain ⟨server, owner⟩ := List.exists_mem_of_ne_nil _ (owned_toolOwners allTools _ _ known)
    exact List.ne_nil_of_mem (Text.mem_sorted.mpr (List.mem_dedup.mpr owner))
  · exact (List.perm_insertionSort _ _).nodup_iff.mpr (List.nodup_dedup owners)
  · have listed := List.mem_dedup.mp (Text.mem_sorted.mp owner)
    rw [← mem_toolOwners_iff, known]
    exact listed

/-- An empty report rules out shared names and names in the reserved namespace. -/
theorem detectConflicts_eq_nil {allTools : Dict String (List ResolvedTool)}
    (clean : detectConflicts allTools = []) :
    NoSharedName allTools ∧
      ∀ server tools name, allTools.get? server = some tools → Exposes tools name →
        startsWith name reservedPrefix = false := by
  obtain ⟨noViolation, noCollision⟩ := List.append_eq_nil_iff.mp clean
  rw [List.filterMap_eq_nil_iff] at noViolation noCollision
  have listed {server name : String} {tools : List ResolvedTool}
      (found : allTools.get? server = some tools) (exposed : Exposes tools name) :
      ∃ owners, (name, Text.sorted owners.dedup) ∈ sortedOwners allTools ∧
        (toolOwners allTools).get? name = some owners := by
    have owner := mem_toolOwners_iff.mpr ⟨tools, found, exposed⟩
    cases known : (toolOwners allTools).get? name with
    | none => simp [known] at owner
    | some owners =>
        refine ⟨owners, ?_, rfl⟩
        refine List.mem_map.mpr ⟨(name, owners), ?_, rfl⟩
        exact (List.perm_insertionSort _ _).mem_iff.mpr (Dict.get?_eq_some_iff.mp known)
  have unreserved {server name : String} {tools : List ResolvedTool}
      (found : allTools.get? server = some tools) (exposed : Exposes tools name) :
      startsWith name reservedPrefix = false := by
    obtain ⟨owners, member, -⟩ := listed found exposed
    have := noViolation _ member
    simpa using this
  refine ⟨?_, fun server tools name found exposed => unreserved found exposed⟩
  intro first second tools others name foundFirst foundSecond exposedFirst exposedSecond
  by_contra different
  obtain ⟨owners, member, known⟩ := listed foundFirst exposedFirst
  have two : 1 < (Text.sorted owners.dedup).length := by
    have inOwners {server : String} {tools : List ResolvedTool}
        (found : allTools.get? server = some tools) (exposed : Exposes tools name) :
        server ∈ Text.sorted owners.dedup := by
      have owner := mem_toolOwners_iff.mpr ⟨tools, found, exposed⟩
      rw [known] at owner
      simpa [Text.mem_sorted] using owner
    have left := inOwners foundFirst exposedFirst
    have right := inOwners foundSecond exposedSecond
    rcases listing : Text.sorted owners.dedup with _ | ⟨only, _ | ⟨_, _⟩⟩
    · simp [listing] at left
    · rw [listing, List.mem_singleton] at left right
      exact absurd (left.trans right.symm) different
    · simp
  have := noCollision _ member
  simp [two, unreserved foundFirst exposedFirst] at this

/-- Without shared and reserved names the report is empty. -/
theorem detectConflicts_of_clean {allTools : Dict String (List ResolvedTool)}
    (unique : NoSharedName allTools)
    (unreserved : ∀ server tools name, allTools.get? server = some tools → Exposes tools name →
      startsWith name reservedPrefix = false) : detectConflicts allTools = [] := by
  refine List.append_eq_nil_iff.mpr ⟨List.filterMap_eq_nil_iff.mpr ?_,
    List.filterMap_eq_nil_iff.mpr ?_⟩
  · rintro ⟨name, servers⟩ member
    obtain ⟨some, -, owner⟩ := mem_sortedOwners member
    obtain ⟨server, among⟩ := List.exists_mem_of_ne_nil _ some
    obtain ⟨tools, found, exposed⟩ := owner server among
    simp [unreserved server tools name found exposed]
  · rintro ⟨name, servers⟩ member
    obtain ⟨-, nodup, owner⟩ := mem_sortedOwners member
    have single : servers.length ≤ 1 := by
      match servers, nodup, owner with
      | [], _, _ => exact Nat.zero_le 1
      | [_], _, _ => exact Nat.le_refl 1
      | first :: second :: _, nodup, owner =>
          obtain ⟨tools, found, exposed⟩ := owner first (by simp)
          obtain ⟨others, found', exposed'⟩ := owner second (by simp)
          have same := unique _ _ _ _ _ found found' exposed exposed'
          simp [same] at nodup
    exact if_neg fun both => absurd both.1 (Nat.not_lt.mpr single)

theorem detectConflicts_eq_nil_iff {allTools : Dict String (List ResolvedTool)} :
    detectConflicts allTools = [] ↔ NoSharedName allTools ∧
      ∀ server tools name, allTools.get? server = some tools → Exposes tools name →
        startsWith name reservedPrefix = false :=
  ⟨detectConflicts_eq_nil, fun clean => detectConflicts_of_clean clean.1 clean.2⟩

end Tela
