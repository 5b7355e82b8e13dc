import Tela.Shell.Surfaces

/-!
# Agreement of the surfaces

Listing, calling, explaining and summarizing traverse the registry each in its own
way. They name the same tools exactly if the lookup by name decides like the lists.
-/

namespace Tela

/-! ## The tools that a profile sees -/

/-- The chain does not raise for the tool. -/
def Named (tool : ResolvedTool) : Prop := tool.routingName ≠ "" ∧ tool.family ≠ ""

/-- The profile permits the tool as one of the server's. -/
def PermitsOf (config : TelaConfig) (profile : ProfileConfig) (serverName : String)
    (tool : ResolvedTool) : Prop :=
  Permits profile (config.defaultPosture serverName) tool.routingName tool

/-- Some server lists a permitted tool under the name. -/
def Sees (config : TelaConfig) (registry : DownstreamRegistry) (profile : ProfileConfig)
    (name : String) : Prop :=
  ∃ serverName tools, registry.toolsByServer.get? serverName = some tools ∧
    ∃ tool ∈ tools, tool.name = name ∧ PermitsOf config profile serverName tool

theorem defaultPosture_serverDefaultPostures (config : TelaConfig) (serverName : String) :
    ((serverDefaultPostures config).get? serverName).getD .none =
      config.defaultPosture serverName := by
  have same := Dict.get?_ofList_map config.servers ServerConfig.defaultPosture serverName
  unfold serverDefaultPostures
  rw [same]
  unfold TelaConfig.defaultPosture
  cases config.servers.get? serverName <;> rfl

/-! ## The filter -/

section Filter

variable {config : TelaConfig} {profile : ProfileConfig}

theorem filterServerTools_named {defaultPosture : Posture} {tools permitted : List ResolvedTool}
    (filtered : filterServerTools profile defaultPosture tools = .ok permitted) :
    ∀ tool ∈ tools, Named tool := by
  induction tools generalizing permitted with
  | nil => nofun
  | cons tool rest ih =>
      obtain ⟨result, decided, filtered⟩ := bind_ok filtered
      obtain ⟨others, later, -⟩ := bind_ok filtered
      exact List.forall_mem_cons.mpr ⟨enforce_ok decided, ih later⟩

theorem filterServerTools_iff {defaultPosture : Posture} {tools : List ResolvedTool}
    (named : ∀ tool ∈ tools, Named tool) :
    ∃ permitted, filterServerTools profile defaultPosture tools = .ok permitted ∧
      ∀ tool, tool ∈ permitted ↔
        tool ∈ tools ∧ Permits profile defaultPosture tool.routingName tool := by
  induction tools with
  | nil => exact ⟨[], rfl, by simp⟩
  | cons tool rest ih =>
      obtain ⟨here, later⟩ := List.forall_mem_cons.mp named
      obtain ⟨result, _, decided, -, permits, -⟩ := enforce_iff profile defaultPosture here.1 here.2
      obtain ⟨others, filtered, members⟩ := ih later
      unfold filterServerTools enforceToolCall
      rw [decided, filtered]
      refine ⟨_, rfl, fun other => ?_⟩
      by_cases allow : result.verdict = .allow
      · rw [if_pos allow, List.mem_cons, List.mem_cons, members]
        constructor
        · rintro (rfl | ⟨among, fits⟩)
          · exact ⟨.inl rfl, permits.mp allow⟩
          · exact ⟨.inr among, fits⟩
        · rintro ⟨rfl | among, fits⟩
          · exact .inl rfl
          · exact .inr ⟨among, fits⟩
      · rw [if_neg allow, List.mem_cons, members]
        constructor
        · rintro ⟨among, fits⟩
          exact ⟨.inr among, fits⟩
        · rintro ⟨rfl | among, fits⟩
          · exact absurd (permits.mpr fits) allow
          · exact ⟨among, fits⟩

theorem filterToolsForProfile_named {postures : Dict String Posture}
    {entries : List (String × List ResolvedTool)} {permitted : List ResolvedTool}
    (filtered : filterToolsForProfile profile postures entries = .ok permitted) :
    ∀ entry ∈ entries, ∀ tool ∈ entry.2, Named tool := by
  induction entries generalizing permitted with
  | nil => nofun
  | cons entry rest ih =>
      obtain ⟨here, first, filtered⟩ := bind_ok filtered
      obtain ⟨others, later, -⟩ := bind_ok filtered
      exact List.forall_mem_cons.mpr ⟨filterServerTools_named first, ih later⟩

theorem filterToolsForProfile_iff {entries : List (String × List ResolvedTool)}
    (named : ∀ entry ∈ entries, ∀ tool ∈ entry.2, Named tool) :
    ∃ permitted, filterToolsForProfile profile (serverDefaultPostures config) entries =
        .ok permitted ∧
      ∀ tool, tool ∈ permitted ↔
        ∃ entry ∈ entries, tool ∈ entry.2 ∧ PermitsOf config profile entry.1 tool := by
  induction entries with
  | nil => exact ⟨[], rfl, by simp⟩
  | cons entry rest ih =>
      obtain ⟨serverName, tools⟩ := entry
      obtain ⟨here, later⟩ := List.forall_mem_cons.mp named
      obtain ⟨permitted, filtered, members⟩ := @filterServerTools_iff profile
        (config.defaultPosture serverName) tools here
      obtain ⟨others, rest', membersRest⟩ := ih later
      unfold filterToolsForProfile
      dsimp only
      rw [defaultPosture_serverDefaultPostures, filtered, rest']
      refine ⟨_, rfl, fun tool => ?_⟩
      rw [List.mem_append, members, membersRest, List.exists_mem_cons_iff]
      rfl

end Filter

/-! ## Listing -/

section Surfaces

variable {config : TelaConfig} {registry : DownstreamRegistry} {profile : ProfileConfig}

def AllNamed (registry : DownstreamRegistry) : Prop :=
  ∀ serverName tools, registry.toolsByServer.get? serverName = some tools →
    ∀ tool ∈ tools, Named tool

theorem AllNamed.entries (named : AllNamed registry) :
    ∀ entry ∈ registry.toolsByServer.entries, ∀ tool ∈ entry.2, Named tool := by
  rintro ⟨serverName, tools⟩ listed
  exact named serverName tools (Dict.get?_eq_some_iff.mpr listed)

theorem sees_iff_entries {name : String} :
    Sees config registry profile name ↔
      ∃ entry ∈ registry.toolsByServer.entries, ∃ tool ∈ entry.2,
        tool.name = name ∧ PermitsOf config profile entry.1 tool := by
  constructor
  · rintro ⟨serverName, tools, found, seen⟩
    exact ⟨(serverName, tools), Dict.get?_eq_some_iff.mp found, seen⟩
  · rintro ⟨⟨serverName, tools⟩, listed, seen⟩
    exact ⟨serverName, tools, Dict.get?_eq_some_iff.mpr listed, seen⟩

theorem invalidSharedToolName_eq_none {name : String} :
    invalidSharedToolName name = none ↔ isSharedToolName name = true := by
  unfold invalidSharedToolName
  split <;> simp_all

/-- A list that succeeds names what the profile sees, all in shared naming. -/
theorem handleToolsList_ok {connection : ConnectionContext} {listings : List ToolListing}
    (succeeds : (handleToolsList (some config) registry connection).2 = .ok (.ok listings)) :
    ∃ profile, config.profiles.get? connection.profileId = some profile ∧ AllNamed registry ∧
      (∀ name, (∃ listing ∈ listings, listing.name = name) ↔ Sees config registry profile name) ∧
      ∀ name, Sees config registry profile name → isSharedToolName name = true := by
  unfold handleToolsList at succeeds
  dsimp only at succeeds
  cases bound : config.profiles.get? connection.profileId with
  | none =>
      rw [bound] at succeeds
      cases succeeds
  | some profile =>
      rw [bound] at succeeds
      obtain ⟨permitted, filtered, succeeds⟩ := bind_ok succeeds
      have named := filterToolsForProfile_named filtered
      obtain ⟨others, again, members⟩ := @filterToolsForProfile_iff config profile _ named
      rw [filtered] at again
      cases again
      have sees (name : String) : (∃ tool ∈ permitted, tool.name = name) ↔
          Sees config registry profile name := by
        rw [sees_iff_entries]
        constructor
        · rintro ⟨tool, among, same⟩
          obtain ⟨entry, listed, held, permits⟩ := (members tool).mp among
          exact ⟨entry, listed, tool, held, same, permits⟩
        · rintro ⟨entry, listed, tool, held, same, permits⟩
          exact ⟨tool, (members tool).mpr ⟨entry, listed, held, permits⟩, same⟩
      split at succeeds
      · cases succeeds
      · rename_i valid
        cases succeeds
        refine ⟨profile, rfl, fun serverName tools found => ?_, fun name => ?_, fun name seen => ?_⟩
        · exact named (serverName, tools) (Dict.get?_eq_some_iff.mp found)
        · rw [← sees name]
          simp only [List.mem_map, List.mem_insertionSort, exists_exists_and_eq_and]
          rfl
        · obtain ⟨tool, among, rfl⟩ := (sees name).mpr seen
          refine invalidSharedToolName_eq_none.mp ?_
          exact List.findSome?_eq_none_iff.mp valid tool ((List.mem_insertionSort _).mpr among)

/-! ## Explaining -/

theorem explainServerTools_iff {defaultPosture : Posture} {tools : List ResolvedTool}
    (named : ∀ tool ∈ tools, Named tool) :
    ∃ explained, explainServerTools profile defaultPosture tools = .ok explained ∧
      ∀ name, (∃ entry ∈ explained, entry.name = name ∧ entry.explanation.visible = true) ↔
        ∃ tool ∈ tools, tool.name = name ∧
          Permits profile defaultPosture tool.routingName tool := by
  induction tools with
  | nil => exact ⟨[], rfl, by simp⟩
  | cons tool rest ih =>
      obtain ⟨here, later⟩ := List.forall_mem_cons.mp named
      obtain ⟨_, explanation, -, explains, -, visible⟩ :=
        enforce_iff profile defaultPosture here.1 here.2
      obtain ⟨others, rest', members⟩ := ih later
      unfold explainServerTools
      rw [explains, rest']
      refine ⟨_, rfl, fun name => ?_⟩
      rw [List.exists_mem_cons_iff, List.exists_mem_cons_iff, members, visible]

theorem explainServers_iff {entries : List (String × List ResolvedTool)}
    (named : ∀ entry ∈ entries, ∀ tool ∈ entry.2, Named tool) :
    ∃ explained, explainServers config profile entries = .ok explained ∧
      ∀ name, (∃ entry ∈ explained, entry.name = name ∧ entry.explanation.visible = true) ↔
        ∃ entry ∈ entries, ∃ tool ∈ entry.2, tool.name = name ∧
          PermitsOf config profile entry.1 tool := by
  induction entries with
  | nil => exact ⟨[], rfl, by simp⟩
  | cons entry rest ih =>
      obtain ⟨here, later⟩ := List.forall_mem_cons.mp named
      obtain ⟨explained, first, members⟩ := @explainServerTools_iff profile
        (config.defaultPosture entry.1) entry.2 here
      obtain ⟨others, rest', membersRest⟩ := ih later
      unfold explainServers
      rw [first, rest']
      refine ⟨_, rfl, fun name => ?_⟩
      have here' : (∃ tool ∈ entry.2, tool.name = name ∧ PermitsOf config profile entry.1 tool) ↔
          _ := (members name).symm
      rw [List.exists_mem_cons_iff, ← membersRest, here']
      simp only [List.mem_append, or_and_right, exists_or]

/-- The explanations show the name to the profile. -/
def Shows (explanations : List ProfileExplanation) (profileId name : String) : Prop :=
  ∃ explanation ∈ explanations, explanation.profileId = profileId ∧
    ∃ tool ∈ explanation.tools, tool.name = name ∧ tool.explanation.visible = true

theorem explainProfiles_iff (named : AllNamed registry) {profileIds : List String}
    (known : ∀ profileId ∈ profileIds, config.profiles.contains profileId = true) :
    ∃ explanations, explainProfiles config registry profileIds = .ok (.ok explanations) ∧
      ∀ profileId profile name, config.profiles.get? profileId = some profile →
        (Shows explanations profileId name ↔
          profileId ∈ profileIds ∧ Sees config registry profile name) := by
  induction profileIds with
  | nil => exact ⟨[], rfl, fun _ _ _ _ => by simp [Shows]⟩
  | cons first rest ih =>
      obtain ⟨here, later⟩ := List.forall_mem_cons.mp known
      obtain ⟨found, bound⟩ := Option.isSome_iff_exists.mp here
      obtain ⟨others, rest', shown⟩ := ih later
      have sorted : ∀ entry ∈ sortedEntries registry.getAllTools, ∀ tool ∈ entry.2, Named tool := by
        intro entry listed
        exact named.entries entry ((List.mem_insertionSort _).mp listed)
      obtain ⟨tools, explained, members⟩ := @explainServers_iff config found _ sorted
      unfold explainProfiles
      rw [bound]
      dsimp only
      rw [explained, rest']
      refine ⟨_, rfl, fun profileId profile name given => ?_⟩
      unfold Shows
      rw [List.exists_mem_cons_iff]
      change _ ∨ Shows others profileId name ↔ _
      rw [shown profileId profile name given, List.mem_cons]
      have seen : (∃ tool ∈ tools, tool.name = name ∧ tool.explanation.visible = true) ↔
          Sees config registry found name := by
        rw [members, sees_iff_entries]
        simp only [sortedEntries, List.mem_insertionSort]
        rfl
      dsimp only
      rw [seen]
      constructor
      · rintro (⟨rfl, sees⟩ | ⟨among, sees⟩)
        · rw [bound] at given
          cases given
          exact ⟨.inl rfl, sees⟩
        · exact ⟨.inr among, sees⟩
      · rintro ⟨rfl | among, sees⟩
        · rw [bound] at given
          cases given
          exact .inl ⟨rfl, sees⟩
        · exact .inr ⟨among, sees⟩

/-! ## Providers -/

theorem raiseIfInvalidNames_ok {names : List String}
    (valid : ∀ name ∈ names, isSharedToolName name = true) : raiseIfInvalidNames names = .ok () := by
  induction names with
  | nil => rfl
  | cons name rest ih =>
      obtain ⟨here, later⟩ := List.forall_mem_cons.mp valid
      unfold raiseIfInvalidNames raiseIfInvalidSharedToolName
      rw [if_pos here]
      exact ih later

theorem providerToolNames_iff (named : AllNamed registry)
    (valid : ∀ name, Sees config registry profile name → isSharedToolName name = true)
    (serverName : String) :
    ∃ toolNames, providerToolNames config registry profile serverName = .ok toolNames ∧
      ∀ name, name ∈ toolNames ↔ ∃ tools, registry.toolsByServer.get? serverName = some tools ∧
        ∃ tool ∈ tools, tool.name = name ∧ PermitsOf config profile serverName tool := by
  unfold providerToolNames
  cases found : registry.getAllTools.get? serverName with
  | none =>
      refine ⟨[], rfl, fun name => ?_⟩
      change registry.toolsByServer.get? serverName = none at found
      simp [found]
  | some tools =>
      change registry.toolsByServer.get? serverName = some tools at found
      obtain ⟨permitted, filtered, members⟩ := @filterToolsForProfile_iff config profile
        [(serverName, tools)] (List.forall_mem_singleton.mpr (named serverName tools found))
      have sees (name : String) : name ∈ Text.sorted (permitted.map ResolvedTool.name) ↔
          ∃ tool ∈ tools, tool.name = name ∧ PermitsOf config profile serverName tool := by
        rw [Text.mem_sorted, List.mem_map]
        constructor
        · rintro ⟨tool, among, same⟩
          obtain ⟨entry, listed, held, permits⟩ := (members tool).mp among
          cases List.mem_singleton.mp listed
          exact ⟨tool, held, same, permits⟩
        · rintro ⟨tool, held, same, permits⟩
          exact ⟨tool, (members tool).mpr ⟨_, List.mem_singleton_self _, held, permits⟩, same⟩
      have names : raiseIfInvalidNames (Text.sorted (permitted.map ResolvedTool.name)) =
          .ok () := by
        refine raiseIfInvalidNames_ok fun name listed => ?_
        obtain ⟨tool, held, same, permits⟩ := (sees name).mp listed
        exact valid name ⟨serverName, tools, found, tool, held, same, permits⟩
      dsimp only
      rw [filtered]
      dsimp only [bind, Except.bind]
      rw [names]
      refine ⟨_, rfl, fun name => ?_⟩
      rw [sees, found]
      simp

theorem listProviders_iff {startup : StartupTracking} {profileId : String}
    (named : AllNamed registry)
    (valid : ∀ name, Sees config registry profile name → isSharedToolName name = true)
    (servers : List (String × ServerConfig)) :
    ∃ providers, listProviders config registry startup profileId profile servers =
        .ok providers ∧
      ∀ name, (∃ provider ∈ providers, name ∈ provider.toolNames) ↔
        ∃ server ∈ servers, ∃ tools, registry.toolsByServer.get? server.1 = some tools ∧
          ∃ tool ∈ tools, tool.name = name ∧ PermitsOf config profile server.1 tool := by
  induction servers with
  | nil => exact ⟨[], rfl, by simp⟩
  | cons server rest ih =>
      obtain ⟨toolNames, here, members⟩ := providerToolNames_iff named valid server.1
      obtain ⟨others, rest', membersRest⟩ := ih
      unfold listProviders
      rw [here, rest']
      refine ⟨_, rfl, fun name => ?_⟩
      rw [List.exists_mem_cons_iff, List.exists_mem_cons_iff, membersRest, members]

/-! ## Calling -/

/-- The call reaches the downstream. -/
def Dispatches (effects : List UpstreamEffect) : Prop :=
  ∃ serverName toolName arguments, .dispatched serverName toolName arguments ∈ effects

theorem forwardToolCall_dispatches (platform : UpstreamPlatform) (config : TelaConfig)
    (connection : ConnectionContext)
    (toolName : String) (tool : ResolvedTool) (strippedArgs : JsonObject) (heldMeta : Option Json) :
    Dispatches (forwardToolCall platform config connection toolName tool strippedArgs
      heldMeta).1 := by
  refine ⟨tool.serverName, tool.routingName, strippedArgs, ?_⟩
  unfold forwardToolCall
  dsimp only
  split <;> simp

theorem not_dispatches_audited (entry : AuditEntry) : ¬ Dispatches [.audited entry] := by
  rintro ⟨_, _, _, listed⟩
  cases List.mem_singleton.mp listed

theorem not_dispatches_touched (connectionId : String) (entry : AuditEntry) :
    ¬ Dispatches [.touched connectionId, .audited entry] := by
  rintro ⟨_, _, _, listed⟩
  rcases List.mem_cons.mp listed with same | listed
  · cases same
  · cases List.mem_singleton.mp listed

/-- A call is dispatched exactly if the tool found by name is permitted. -/
theorem handleToolsCall_dispatches (platform : UpstreamPlatform) {connection : ConnectionContext}
    {name : String} {arguments : JsonObject}
    (bound : config.profiles.get? connection.profileId = some profile)
    (named : ∀ tool, registry.getTool name = some tool → Named tool) :
    Dispatches (handleToolsCall platform (some config) registry (some connection) name
        arguments).1 ↔
      isSharedToolName name = true ∧ ∃ tool, registry.getTool name = some tool ∧
        PermitsOf config profile tool.serverName tool := by
  unfold handleToolsCall
  dsimp only
  cases shared : isSharedToolName name with
  | false =>
      have invalid : invalidSharedToolName name = some name := if_neg (by simp [shared])
      rw [invalid]
      exact iff_of_false (not_dispatches_audited _) (by simp)
  | true =>
      have valid : invalidSharedToolName name = none := if_pos shared
      rw [valid]
      dsimp only
      cases found : registry.getTool name with
      | none => exact iff_of_false (not_dispatches_audited _) (by simp)
      | some tool =>
          dsimp only
          rw [bound]
          dsimp only
          obtain ⟨nonempty, family⟩ := named tool found
          obtain ⟨result, _, decided, -, permits, -⟩ := enforce_iff profile
            (config.defaultPosture tool.serverName) nonempty family
          unfold enforceToolCall
          rw [decided]
          dsimp only
          have target : (true = true ∧ ∃ tool', some tool = some tool' ∧
              PermitsOf config profile tool'.serverName tool') ↔
              Permits profile (config.defaultPosture tool.serverName) tool.routingName tool := by
            simp [PermitsOf]
          rw [target, ← permits]
          by_cases denied : result.verdict = .deny
          · rw [if_pos denied]
            exact iff_of_false (not_dispatches_touched _ _) (by simp [denied])
          · rw [if_neg denied]
            have allow : result.verdict = .allow := by
              cases verdict : result.verdict with
              | allow => rfl
              | deny => exact absurd verdict denied
            refine iff_of_true ?_ allow
            obtain ⟨serverName, toolName, stripped, listed⟩ := forwardToolCall_dispatches
              platform config connection name tool (stripMeta arguments).1
              (stripMeta arguments).2
            exact ⟨serverName, toolName, stripped, List.mem_cons_of_mem _ listed⟩

/-! ## Agreement -/

def Registered (registry : DownstreamRegistry) (name : String) : Prop :=
  ∃ serverName tools, registry.toolsByServer.get? serverName = some tools ∧ Exposes tools name

/-- Listing, calling, explaining and summarizing name the same tools. -/
structure SurfacesAgree (platform : UpstreamPlatform) (config : TelaConfig)
    (registry : DownstreamRegistry) (startup : StartupTracking) (connection : ConnectionContext)
    (arguments : JsonObject) (listings : List ToolListing) : Prop where
  called : ∀ name, (∃ listing ∈ listings, listing.name = name) ↔
    Registered registry name ∧ Dispatches (handleToolsCall platform (some config) registry
      (some connection) name arguments).1
  explained : ∀ requested, requested = none ∨ requested = some connection.profileId →
    ∃ explanations, handleAuthorizationExplain (some config) registry requested =
        .ok (.ok explanations) ∧
      ∀ name, (∃ listing ∈ listings, listing.name = name) ↔
        Shows explanations connection.profileId name
  provided : ∃ providers, handleListProviders (some config) registry startup (some connection) =
      .ok providers ∧
    ∀ name, (∃ listing ∈ listings, listing.name = name) ↔
      ∃ provider ∈ providers, name ∈ provider.toolNames

/-- The lookup of a name leads to the first listing of the server, and this one is permitted. -/
def LooksUp (config : TelaConfig) (registry : DownstreamRegistry) (profile : ProfileConfig)
    (serverName : String) (tools : List ResolvedTool) (name : String) : Prop :=
  isSharedToolName name = true ∧ registry.getToolServer name = some serverName ∧
    ∃ first, tools.find? (fun tool => tool.name = name) = some first ∧
      PermitsOf config profile first.serverName first

/-- For every name, the lookup decides like the listings of its server taken together. -/
def FirstDecides (config : TelaConfig) (registry : DownstreamRegistry)
    (profileId : String) : Prop :=
  ∀ profile, config.profiles.get? profileId = some profile →
    ∀ serverName tools name, registry.toolsByServer.get? serverName = some tools →
      Exposes tools name →
        ((∃ tool ∈ tools, tool.name = name ∧ PermitsOf config profile serverName tool) ↔
          LooksUp config registry profile serverName tools name)

/-- A tool is found under its name, in the list of the server that owns the name. -/
theorem getTool_eq_some {name : String} {tool : ResolvedTool} :
    registry.getTool name = some tool ↔
      ∃ serverName tools, registry.getToolServer name = some serverName ∧
        registry.toolsByServer.get? serverName = some tools ∧
          tools.find? (fun tool => tool.name = name) = some tool := by
  unfold DownstreamRegistry.getTool DownstreamRegistry.getToolServer
  cases owner : registry.toolToServer.get? name with
  | none => simp
  | some serverName =>
      cases found : registry.toolsByServer.get? serverName with
      | none => simp [found]
      | some tools => simp [found]

theorem exposes_of_find? {tools : List ResolvedTool} {name : String} {tool : ResolvedTool}
    (found : tools.find? (fun tool => tool.name = name) = some tool) : Exposes tools name := by
  have named : tool.name = name := by simpa using List.find?_some found
  exact List.mem_map.mpr ⟨tool, List.mem_of_find?_eq_some found, named⟩

theorem called_iff (unique : NoSharedName registry.toolsByServer) {profileId : String}
    (bound : config.profiles.get? profileId = some profile) :
    (∀ name, Sees config registry profile name ↔
        Registered registry name ∧ isSharedToolName name = true ∧
          ∃ tool, registry.getTool name = some tool ∧
            PermitsOf config profile tool.serverName tool) ↔
      FirstDecides config registry profileId := by
  constructor
  · intro agree profile' bound' serverName tools name found exposed
    rw [bound] at bound'
    cases bound'
    constructor
    · rintro ⟨tool, held, same, permits⟩
      obtain ⟨-, shared, first, looked, allowed⟩ :=
        (agree name).mp ⟨serverName, tools, found, tool, held, same, permits⟩
      obtain ⟨owner, others, owned, listed, finds⟩ := getTool_eq_some.mp looked
      obtain rfl := unique _ _ _ _ name listed found (exposes_of_find? finds) exposed
      rw [found] at listed
      cases listed
      exact ⟨shared, owned, first, finds, allowed⟩
    · rintro ⟨shared, owned, first, finds, allowed⟩
      obtain ⟨owner, others, listed, tool, held, same, permits⟩ := (agree name).mpr
        ⟨⟨serverName, tools, found, exposed⟩, shared, first,
          getTool_eq_some.mpr ⟨serverName, tools, owned, found, finds⟩, allowed⟩
      obtain rfl := unique _ _ _ _ name listed found (List.mem_map.mpr ⟨tool, held, same⟩) exposed
      rw [found] at listed
      cases listed
      exact ⟨tool, held, same, permits⟩
  · intro decides name
    constructor
    · rintro ⟨serverName, tools, found, tool, held, same, permits⟩
      have exposed : Exposes tools name := List.mem_map.mpr ⟨tool, held, same⟩
      obtain ⟨shared, owned, first, finds, allowed⟩ :=
        (decides profile bound serverName tools name found exposed).mp ⟨tool, held, same, permits⟩
      exact ⟨⟨serverName, tools, found, exposed⟩, shared, first,
        getTool_eq_some.mpr ⟨serverName, tools, owned, found, finds⟩, allowed⟩
    · rintro ⟨-, shared, first, looked, allowed⟩
      obtain ⟨serverName, tools, owned, found, finds⟩ := getTool_eq_some.mp looked
      obtain ⟨tool, held, same, permits⟩ :=
        (decides profile bound serverName tools name found (exposes_of_find? finds)).mpr
          ⟨shared, owned, first, finds, allowed⟩
      exact ⟨serverName, tools, found, tool, held, same, permits⟩

/--
Every server lists tools of its own, each once, under a name in shared naming that leads to
the server.
-/
def ListsOnce (registry : DownstreamRegistry) : Prop :=
  ∀ entry ∈ registry.toolsByServer.entries, (entry.2.map ResolvedTool.name).Nodup ∧
    ∀ tool ∈ entry.2, tool.serverName = entry.1 ∧ isSharedToolName tool.name = true ∧
      registry.getToolServer tool.name = some entry.1

instance (registry : DownstreamRegistry) : Decidable (ListsOnce registry) :=
  inferInstanceAs (Decidable (∀ entry ∈ registry.toolsByServer.entries, _))

/-- No two servers list one name where every name leads to the server that lists it. -/
theorem noSharedName_of_owned
    (owned : ∀ entry ∈ registry.toolsByServer.entries, ∀ tool ∈ entry.2,
      registry.getToolServer tool.name = some entry.1) :
    NoSharedName registry.toolsByServer := by
  intro first second tools others name found foundOther exposed exposedOther
  obtain ⟨tool, held, rfl⟩ := List.mem_map.mp exposed
  obtain ⟨other, heldOther, same⟩ := List.mem_map.mp exposedOther
  have owner := owned _ (Dict.get?_eq_some_iff.mp found) tool held
  have ownerOther := owned _ (Dict.get?_eq_some_iff.mp foundOther) other heldOther
  rw [same, owner] at ownerOther
  exact Option.some.inj ownerOther

theorem ListsOnce.unique (once : ListsOnce registry) : NoSharedName registry.toolsByServer :=
  noSharedName_of_owned fun entry listed tool held => ((once entry listed).2 tool held).2.2

/-- Where no server lists a name twice, the lookup decides. -/
theorem ListsOnce.firstDecides (once : ListsOnce registry) (profileId : String) :
    FirstDecides config registry profileId := by
  intro profile _ serverName tools name found exposed
  obtain ⟨distinct, each⟩ := once (serverName, tools) (Dict.get?_eq_some_iff.mp found)
  obtain ⟨tool, held, rfl⟩ := List.mem_map.mp exposed
  obtain ⟨own, shared, owner⟩ : tool.serverName = serverName ∧ _ ∧ _ := each tool held
  have looked : tools.find? (fun other => other.name = tool.name) = some tool := by
    have there : (tools.find? fun other => other.name = tool.name).isSome = true :=
      List.find?_isSome.mpr ⟨tool, held, decide_eq_true rfl⟩
    obtain ⟨first, finds⟩ := Option.isSome_iff_exists.mp there
    have same : first.name = tool.name := by simpa using List.find?_some finds
    rw [finds, List.inj_on_of_nodup_map distinct (List.mem_of_find?_eq_some finds) held same]
  constructor
  · rintro ⟨other, among, same, permits⟩
    obtain rfl := List.inj_on_of_nodup_map distinct among held same
    refine ⟨shared, owner, other, looked, ?_⟩
    rwa [own]
  · rintro ⟨-, -, first, finds, permits⟩
    obtain rfl := Option.some.inj (looked.symm.trans finds)
    rw [own] at permits
    exact ⟨tool, held, rfl, permits⟩

end Surfaces

/-- The surfaces agree exactly if the lookup by name decides like the listings. -/
theorem surface_agreement (platform : UpstreamPlatform) (config : TelaConfig)
    (registry : DownstreamRegistry) (startup : StartupTracking) (connection : ConnectionContext)
    (arguments : JsonObject) {listings : List ToolListing}
    (unique : NoSharedName registry.toolsByServer)
    (configured : ∀ serverName ∈ registry.toolsByServer.keys, serverName ∈ config.servers.keys)
    (succeeds : (handleToolsList (some config) registry connection).2 = .ok (.ok listings)) :
    SurfacesAgree platform config registry startup connection arguments listings ↔
      FirstDecides config registry connection.profileId := by
  obtain ⟨profile, bound, named, listed, valid⟩ := handleToolsList_ok succeeds
  have found (name : String) (tool : ResolvedTool) (looked : registry.getTool name = some tool) :
      Named tool := by
    obtain ⟨serverName, tools, -, listed, finds⟩ := getTool_eq_some.mp looked
    exact named serverName tools listed tool (List.mem_of_find?_eq_some finds)
  rw [← called_iff unique bound]
  have dispatches (name : String) :
      Dispatches (handleToolsCall platform (some config) registry (some connection) name
        arguments).1 ↔ _ :=
    handleToolsCall_dispatches platform bound (found name)
  constructor
  · intro agree name
    rw [← listed, agree.called, dispatches]
  · intro called
    refine ⟨fun name => by rw [listed, called, dispatches], fun requested choice => ?_, ?_⟩
    · have explained (profileIds : List String) (among : connection.profileId ∈ profileIds)
          (known : ∀ profileId ∈ profileIds, config.profiles.contains profileId = true) :
          ∃ explanations, explainProfiles config registry profileIds = .ok (.ok explanations) ∧
            ∀ name, (∃ listing ∈ listings, listing.name = name) ↔
              Shows explanations connection.profileId name := by
        obtain ⟨explanations, explains, shows⟩ := explainProfiles_iff named known
        refine ⟨explanations, explains, fun name => ?_⟩
        rw [listed, shows _ profile name bound]
        exact (and_iff_right among).symm
      rcases choice with rfl | rfl
      · refine explained _ (Text.mem_sorted.mpr (Dict.mem_keys_of_get? bound)) fun profileId among => ?_
        exact Dict.mem_keys_iff.mp (Text.mem_sorted.mp among)
      · refine explained _ (List.mem_singleton_self _) fun profileId among => ?_
        cases List.mem_singleton.mp among
        exact Option.isSome_iff_exists.mpr ⟨profile, bound⟩
    · obtain ⟨providers, provides, members⟩ := @listProviders_iff config registry profile startup
        connection.profileId named valid (sortedEntries config.servers)
      refine ⟨providers, ?_, fun name => ?_⟩
      · unfold handleListProviders
        dsimp only
        rw [bound]
        exact provides
      · rw [listed, members]
        constructor
        · rintro ⟨serverName, tools, held, seen⟩
          obtain ⟨server, configures⟩ := Option.isSome_iff_exists.mp
            (Dict.mem_keys_iff.mp (configured serverName (Dict.mem_keys_of_get? held)))
          refine ⟨(serverName, server), ?_, tools, held, seen⟩
          exact (List.mem_insertionSort _).mpr (Dict.get?_eq_some_iff.mp configures)
        · rintro ⟨server, -, tools, held, seen⟩
          exact ⟨server.1, tools, held, seen⟩

/-! ## Two servers -/

theorem fileServer_named : "fs" ≠ "" := by decide

theorem gitServer_named : "git" ≠ "" := by decide

def fileServer : ServerConfig where
  name := "fs"
  named := fileServer_named
  prefixValid := noPrefix_accepted
  nestedPrefixed := unnested_prefixed

def gitServer : ServerConfig where
  name := "git"
  named := gitServer_named
  prefixValid := noPrefix_accepted
  nestedPrefixed := unnested_prefixed

/-- The profile may only read files. -/
def readProfile : ProfileConfig :=
  { name := "dev", capabilities := .ofList [("fs", .readOnly)] }

def fileConfig : TelaConfig :=
  { servers := .ofList [("fs", fileServer)], profiles := .ofList [("dev", readProfile)] }

def sharedConfig : TelaConfig :=
  { fileConfig with servers := .ofList [("fs", fileServer), ("git", gitServer)] }

/-- A tool that a server lists with the given posture. -/
def listedTool (serverName name : String) (posture : Posture) : ResolvedTool :=
  { name, rawName := some name, serverName, family := serverName, posture := some posture }

def readFile (posture : Posture) : ResolvedTool := listedTool "fs" "read_file" posture

def fileRegistry (tools : List ResolvedTool) : DownstreamRegistry :=
  DownstreamRegistry.register {} "fs" tools

/-- Beside the tools of the file server, one of the version control. -/
def sharedRegistry (tools : List ResolvedTool) : DownstreamRegistry :=
  (fileRegistry tools).register "git" [listedTool "git" "git_log" .readOnly]

def devConnection : ConnectionContext :=
  { connectionId := "conn_1", profileId := "dev", connectedAt := 0 }

def silentPlatform : UpstreamPlatform where
  paramHash _ := ""
  callTool _ _ _ := .ok (.ok ∅)
  stamp := ⟨0, 0⟩

/-- The file server lists one tool within the ceiling of the profile and one beyond it. -/
theorem surface_agreement_within_ceiling :
    SurfacesAgree silentPlatform sharedConfig
      (sharedRegistry [readFile .readOnly, listedTool "fs" "remove_file" .destructive]) {}
      devConnection ∅ [(readFile .readOnly).listing] := by
  have once : ListsOnce
      (sharedRegistry [readFile .readOnly, listedTool "fs" "remove_file" .destructive]) := by
    decide +kernel
  exact (surface_agreement silentPlatform sharedConfig _ {} devConnection ∅ once.unique
    (by decide +kernel) rfl).mpr (once.firstDecides "dev")

/-- The first listing is beyond the ceiling of the profile, the second is within. -/
def twiceListed : List ResolvedTool := [readFile .destructive, readFile .readOnly]

def UpstreamEffect.isDispatch : UpstreamEffect → Bool
  | .dispatched .. => true
  | _ => false

theorem any_isDispatch_of_dispatches {effects : List UpstreamEffect}
    (dispatches : Dispatches effects) : effects.any UpstreamEffect.isDispatch = true := by
  obtain ⟨_, _, _, listed⟩ := dispatches
  exact List.any_eq_true.mpr ⟨_, listed, rfl⟩

/-- No two servers share a name, and yet a name is listed for the profile and its call denied. -/
theorem surfaces_disagree :
    NoSharedName (sharedRegistry twiceListed).toolsByServer ∧
      (∀ serverName ∈ (sharedRegistry twiceListed).toolsByServer.keys,
        serverName ∈ sharedConfig.servers.keys) ∧
      (handleToolsList (some sharedConfig) (sharedRegistry twiceListed) devConnection).2 =
        .ok (.ok [(readFile .readOnly).listing]) ∧
      ¬ SurfacesAgree silentPlatform sharedConfig (sharedRegistry twiceListed) {} devConnection ∅
        [(readFile .readOnly).listing] := by
  refine ⟨?_, by decide +kernel, rfl, fun agree => ?_⟩
  · exact noSharedName_of_owned (by decide +kernel)
  · obtain ⟨-, dispatches⟩ := (agree.called "read_file").mp ⟨_, List.mem_singleton_self _, rfl⟩
    exact absurd (any_isDispatch_of_dispatches dispatches) (by decide +kernel)

end Tela
