import Tela.Core.Family
import Tela.Core.Config

/-!
# Tool resolution

What each raw tool becomes, which tools stop the resolution, and what the rewriting of
descriptions replaces.
-/

namespace Tela

/-! ## What a raw tool becomes -/

/-- Raw names that never reach the exposed surface. -/
def excludedTools (serverConfig : ServerConfig) : List String :=
  if serverConfig.nestedGateway then serverConfig.excludeTools ++ childTelaBuiltins
  else serverConfig.excludeTools

def keeps (serverConfig : ServerConfig) (rawTool : RawTool) : Bool :=
  decide (rawTool.name ∉ excludedTools serverConfig)

def exposedName (serverConfig : ServerConfig) (rawName : String) : String :=
  serverConfig.toolPrefix.getD "" ++ rawName

/-- The family of the override, else of the server, else the name of its configuration. -/
def familyOf (serverConfig : ServerConfig) (rawName : String) : String :=
  ((serverConfig.toolOverrides.get? rawName).bind ToolOverride.family).getD
    (serverConfig.family.getD serverConfig.name)

/-- The destructive hint wins over the read-only hint. -/
def hintedPosture (annotations : JsonObject) : Option Posture :=
  match annotations.get? "destructiveHint", annotations.get? "readOnlyHint" with
  | some (.bool true), _ => some .destructive
  | _, some (.bool true) => some .readOnly
  | _, some (.bool false) => some .readWrite
  | _, _ => none

/-- The posture of the override, else of the annotations. -/
def postureOf (serverConfig : ServerConfig) (rawTool : RawTool) : Option Posture :=
  ((serverConfig.toolOverrides.get? rawTool.name).bind ToolOverride.posture).or
    (rawTool.annotations.bind hintedPosture)

/-- The resolved tool before its description is rewritten. -/
def resolvedTool (serverName : String) (serverConfig : ServerConfig) (rawTool : RawTool) :
    ResolvedTool where
  name := exposedName serverConfig rawTool.name
  rawName := some rawTool.name
  serverName := serverName
  family := familyOf serverConfig rawTool.name
  posture := postureOf serverConfig rawTool
  schema := rawTool.inputSchema.getD (.obj [])
  description := rawTool.description.getD ""
  annotations := rawTool.annotations
  title := rawTool.title
  outputSchema := rawTool.outputSchema

/-- The documented `ValueError`: a bare builtin, or a name in the reserved namespace. -/
def Refused (serverConfig : ServerConfig) (rawName : String) : Prop :=
  (rawName ∈ childTelaBuiltins ∧ truthy serverConfig.toolPrefix = false) ∨
    reservedNamespace (exposedName serverConfig rawName) = true

/-- The tool or its family has no name, so that a contract fails. -/
def Nameless (serverConfig : ServerConfig) (rawName : String) : Prop :=
  rawName = "" ∨ familyOf serverConfig rawName = ""

section Resolution

variable {serverName : String} {serverConfig : ServerConfig} {rawTool : RawTool}

/-- How the round of one tool ends. -/
inductive Round (serverName : String) (serverConfig : ServerConfig) (rawTool : RawTool) :
    Except PyException (Option ResolvedTool) → Prop
  | excluded (dropped : keeps serverConfig rawTool = false) :
      Round serverName serverConfig rawTool (.ok none)
  | refused (text : String) (kept : keeps serverConfig rawTool = true)
      (refused : Refused serverConfig rawTool.name) :
      Round serverName serverConfig rawTool (.error (.valueError text))
  | fails (text : String) (kept : keeps serverConfig rawTool = true)
      (passed : ¬ Refused serverConfig rawTool.name)
      (nameless : Nameless serverConfig rawTool.name) :
      Round serverName serverConfig rawTool (.error (.assertionError text))
  | resolves (kept : keeps serverConfig rawTool = true)
      (passed : ¬ Refused serverConfig rawTool.name)
      (named : ¬ Nameless serverConfig rawTool.name) :
      Round serverName serverConfig rawTool
        (.ok (some (resolvedTool serverName serverConfig rawTool)))

theorem toolPrefix_unreserved (serverConfig : ServerConfig) :
    serverConfig.toolPrefix.filter reservedNamespace = none := by
  refine Option.filter_eq_none_iff.mpr fun toolPrefix found reserved => ?_
  have valid := serverConfig.prefixValid
  rw [found, Option.all_some, prefixAccepted, reserved] at valid
  cases valid

/-- A name passes its postcondition unless it is empty. -/
theorem named_family (family : String) :
    (do
      postcondition "resolve_family" (family != "")
      return family : Except PyException String) =
      if family = "" then .error (.assertionError "Postcondition failed for resolve_family")
      else .ok family := by
  by_cases unnamed : family = ""
  · rw [if_pos unnamed, unnamed]
    rfl
  · have passed : postcondition "resolve_family" (family != "") = .ok () :=
      if_pos (bne_iff_ne.mpr unnamed)
    rw [if_neg unnamed, passed]
    rfl

theorem resolveFamily_eq (serverConfig : ServerConfig) {rawName : String} (named : rawName ≠ "") :
    resolveFamily rawName serverConfig =
      if familyOf serverConfig rawName = "" then
        .error (.assertionError "Postcondition failed for resolve_family")
      else .ok (familyOf serverConfig rawName) := by
  unfold resolveFamily familyOf
  rw [precondition_true (bne_iff_ne.mpr named)]
  cases (serverConfig.toolOverrides.get? rawName).bind ToolOverride.family with
  | none => exact named_family _
  | some family => exact named_family family

theorem postureFromAnnotations_eq : postureFromAnnotations = hintedPosture := by
  funext annotations
  unfold postureFromAnnotations hintedPosture
  grind

theorem classifyTool_eq (serverConfig : ServerConfig) (rawTool : RawTool)
    (named : rawTool.name ≠ "") :
    classifyTool rawTool.name serverConfig rawTool.annotations =
      .ok (postureOf serverConfig rawTool) := by
  unfold classifyTool postureOf
  rw [precondition_true (bne_iff_ne.mpr named), postureFromAnnotations_eq]
  dsimp only [bind, Except.bind]
  cases (serverConfig.toolOverrides.get? rawTool.name).bind ToolOverride.posture with
  | none => rfl
  | some posture => rfl

/-- Family and posture of a tool that passed the checks on its name. -/
theorem round_of_passed (kept : keeps serverConfig rawTool = true)
    (passed : ¬ Refused serverConfig rawTool.name) :
    Round serverName serverConfig rawTool (do
      let family ← resolveFamily rawTool.name serverConfig
      let posture ← classifyTool rawTool.name serverConfig rawTool.annotations
      return some
        { name := exposedName serverConfig rawTool.name
          rawName := some rawTool.name
          serverName := serverName
          family := family
          posture := posture
          schema := rawTool.inputSchema.getD (.obj [])
          description := rawTool.description.getD ""
          annotations := rawTool.annotations
          title := rawTool.title
          outputSchema := rawTool.outputSchema }) := by
  by_cases named : rawTool.name = ""
  · have failed : resolveFamily rawTool.name serverConfig =
        .error (.assertionError "Precondition failed for resolve_family") := by
      unfold resolveFamily
      rw [named]
      rfl
    rw [failed]
    exact .fails _ kept passed (.inl named)
  · rw [resolveFamily_eq serverConfig named, classifyTool_eq serverConfig rawTool named]
    by_cases unnamed : familyOf serverConfig rawTool.name = ""
    · rw [if_pos unnamed]
      exact .fails _ kept passed (.inr unnamed)
    · rw [if_neg unnamed]
      exact .resolves kept passed fun nameless => nameless.elim named unnamed

theorem round (serverName : String) (serverConfig : ServerConfig) (rawTool : RawTool) :
    Round serverName serverConfig rawTool
      (resolveTool serverName serverConfig (excludedTools serverConfig) rawTool) := by
  unfold resolveTool
  dsimp only
  by_cases excluded : rawTool.name ∈ excludedTools serverConfig
  · rw [if_pos excluded]
    exact .excluded (by simp [keeps, excluded])
  have kept : keeps serverConfig rawTool = true := decide_eq_true excluded
  rw [if_neg excluded, toolPrefix_unreserved]
  by_cases builtin : rawTool.name ∈ childTelaBuiltins ∧ truthy serverConfig.toolPrefix = false
  · dsimp only [bind, Except.bind, pure, Except.pure]
    rw [if_pos builtin]
    exact .refused _ kept (.inl builtin)
  have reservedOnly (refused : Refused serverConfig rawTool.name) :
      reservedNamespace (exposedName serverConfig rawTool.name) = true :=
    refused.resolve_left builtin
  have exposed : exposedName serverConfig rawTool.name =
      serverConfig.toolPrefix.getD "" ++ rawTool.name := rfl
  cases prefixed : serverConfig.toolPrefix with
  | none =>
      rw [prefixed, Option.getD_none, String.empty_append] at exposed
      rw [prefixed] at builtin
      dsimp only [bind, Except.bind, pure, Except.pure]
      rw [if_neg builtin]
      by_cases reserved : reservedNamespace rawTool.name = true
      · rw [if_pos reserved]
        exact .refused _ kept (.inr (by rw [exposed]; exact reserved))
      · have ends : Round serverName serverConfig rawTool _ :=
          round_of_passed kept fun refused => reserved (exposed ▸ reservedOnly refused)
        rw [exposed] at ends
        rw [if_neg reserved]
        exact ends
  | some toolPrefix =>
      rw [prefixed, Option.getD_some] at exposed
      rw [prefixed] at builtin
      dsimp only [bind, Except.bind, pure, Except.pure]
      rw [if_neg builtin]
      by_cases reserved : reservedNamespace (toolPrefix ++ rawTool.name) = true
      · rw [if_pos reserved]
        exact .refused _ kept (.inr (by rw [exposed]; exact reserved))
      · have ends : Round serverName serverConfig rawTool _ :=
          round_of_passed kept fun refused => reserved (exposed ▸ reservedOnly refused)
        rw [exposed] at ends
        rw [if_neg reserved]
        exact ends

/-! ## The whole list -/

/-- Excluded tools have no influence. -/
theorem resolveEach_filter (toolList : List RawTool) :
    resolveEach serverName serverConfig (excludedTools serverConfig) toolList =
      resolveEach serverName serverConfig (excludedTools serverConfig)
        (toolList.filter (keeps serverConfig)) := by
  induction toolList with
  | nil => rfl
  | cons rawTool rest ih =>
      cases kept : keeps serverConfig rawTool with
      | true => rw [List.filter_cons_of_pos kept, resolveEach, resolveEach, ih]
      | false =>
          rw [List.filter_cons_of_neg (by rw [kept]; rintro ⟨⟩), resolveEach, ← ih]
          generalize ran : resolveTool serverName serverConfig (excludedTools serverConfig) rawTool =
            outcome
          have how := round serverName serverConfig rawTool
          rw [ran] at how
          cases how with
          | excluded dropped =>
              cases resolveEach serverName serverConfig (excludedTools serverConfig) rest with
              | error exc => rfl
              | ok tools => rfl
          | refused text kept' => rw [kept] at kept'; cases kept'
          | fails text kept' => rw [kept] at kept'; cases kept'
          | resolves kept' => rw [kept] at kept'; cases kept'

/-- No tool in the list is refused or nameless. -/
def AllResolve (serverConfig : ServerConfig) (kept : List RawTool) : Prop :=
  ∀ rawTool ∈ kept, ¬ Refused serverConfig rawTool.name ∧ ¬ Nameless serverConfig rawTool.name

/-- Every tool that a contract fails on stands behind one that is refused. -/
def RefusedFirst (serverConfig : ServerConfig) (kept : List RawTool) : Prop :=
  ∀ front rawTool back, kept = front ++ rawTool :: back →
    ¬ Refused serverConfig rawTool.name → Nameless serverConfig rawTool.name →
      ∃ earlier ∈ front, Refused serverConfig earlier.name

theorem refusedFirst_cons {kept : List RawTool} :
    RefusedFirst serverConfig (rawTool :: kept) ↔
      Refused serverConfig rawTool.name ∨
        (¬ Nameless serverConfig rawTool.name ∧ RefusedFirst serverConfig kept) := by
  constructor
  · intro first
    by_cases refused : Refused serverConfig rawTool.name
    · exact .inl refused
    · refine .inr ⟨fun nameless => ?_, fun front other back split passed nameless => ?_⟩
      · obtain ⟨earlier, among, -⟩ := first [] rawTool kept rfl refused nameless
        cases among
      · obtain ⟨earlier, among, refused'⟩ :=
          first (rawTool :: front) other back (by rw [split]; rfl) passed nameless
        rcases List.mem_cons.mp among with rfl | among
        · exact absurd refused' refused
        · exact ⟨earlier, among, refused'⟩
  · rintro (refused | ⟨named, first⟩) front other back split passed nameless
    · cases front with
      | nil =>
          cases split
          exact absurd refused passed
      | cons head front =>
          obtain ⟨rfl, rfl⟩ := List.cons.inj split
          exact ⟨_, List.mem_cons_self .., refused⟩
    · cases front with
      | nil =>
          cases split
          exact absurd nameless named
      | cons head front =>
          obtain ⟨rfl, rfl⟩ := List.cons.inj split
          obtain ⟨earlier, among, refused⟩ := first front other back rfl passed nameless
          exact ⟨earlier, List.mem_cons_of_mem _ among, refused⟩

/-- How the loop ends on tools that are all kept. -/
inductive Rounds (serverName : String) (serverConfig : ServerConfig) (kept : List RawTool) :
    Except PyException (List ResolvedTool) → Prop
  | refused (text : String) (stopped : ¬ AllResolve serverConfig kept)
      (first : RefusedFirst serverConfig kept) :
      Rounds serverName serverConfig kept (.error (.valueError text))
  | fails (text : String) (reached : ¬ RefusedFirst serverConfig kept) :
      Rounds serverName serverConfig kept (.error (.assertionError text))
  | resolves (all : AllResolve serverConfig kept) :
      Rounds serverName serverConfig kept (.ok (kept.map (resolvedTool serverName serverConfig)))

theorem AllResolve.refusedFirst {kept : List RawTool} (all : AllResolve serverConfig kept) :
    RefusedFirst serverConfig kept := by
  rintro front rawTool back rfl passed nameless
  exact absurd nameless (all rawTool (List.mem_append_right _ (List.mem_cons_self ..))).2

theorem rounds (serverName : String) (serverConfig : ServerConfig) {kept : List RawTool}
    (all : ∀ rawTool ∈ kept, keeps serverConfig rawTool = true) :
    Rounds serverName serverConfig kept
      (resolveEach serverName serverConfig (excludedTools serverConfig) kept) := by
  induction kept with
  | nil => exact .resolves nofun
  | cons rawTool rest ih =>
      rw [resolveEach]
      generalize ran : resolveTool serverName serverConfig (excludedTools serverConfig) rawTool =
        outcome
      have how := round serverName serverConfig rawTool
      rw [ran] at how
      cases how with
      | excluded dropped =>
          rw [all rawTool (List.mem_cons_self ..)] at dropped
          cases dropped
      | refused text kept refused =>
          apply Rounds.refused text
          · intro every
            exact (every rawTool (List.mem_cons_self ..)).1 refused
          · exact refusedFirst_cons.mpr (.inl refused)
      | fails text kept passed nameless =>
          refine .fails text fun first => ?_
          exact (refusedFirst_cons.mp first).elim passed fun later => later.1 nameless
      | resolves kept passed named =>
          have later := ih fun other among => all other (List.mem_cons_of_mem _ among)
          dsimp only [bind, Except.bind]
          generalize others : resolveEach serverName serverConfig (excludedTools serverConfig) rest =
            outcomes at later
          cases later with
          | refused text stopped first =>
              apply Rounds.refused text
              · intro every
                exact stopped fun other among => every other (List.mem_cons_of_mem _ among)
              · exact refusedFirst_cons.mpr (.inr ⟨named, first⟩)
          | fails text reached =>
              refine .fails text fun first => ?_
              exact (refusedFirst_cons.mp first).elim passed fun later => reached later.2
          | resolves allRest =>
              refine .resolves fun other among => ?_
              rcases List.mem_cons.mp among with rfl | among
              · exact ⟨passed, named⟩
              · exact allRest other among

theorem effectiveExcludeTools_eq (serverConfig : ServerConfig) :
    effectiveExcludeTools serverConfig =
      if "" ∈ serverConfig.excludeTools then
        .error (.assertionError "Postcondition failed for effective_exclude_tools")
      else .ok (excludedTools serverConfig) := by
  have unnamed : "" ∈ excludedTools serverConfig ↔ "" ∈ serverConfig.excludeTools := by
    unfold excludedTools
    cases serverConfig.nestedGateway with
    | false => rfl
    | true =>
        have builtins : "" ∉ childTelaBuiltins := by decide
        simp only [if_true, List.mem_append, builtins, or_false]
  have excludes : effectiveExcludeTools serverConfig = (do
      postcondition "effective_exclude_tools" ((excludedTools serverConfig).all (· != ""))
      return excludedTools serverConfig) := rfl
  rw [excludes]
  by_cases among : "" ∈ serverConfig.excludeTools
  · have failed : (excludedTools serverConfig).all (· != "") = false :=
      List.all_eq_false.mpr ⟨"", unnamed.mpr among, by decide⟩
    rw [if_pos among, failed]
    rfl
  · have passed : (excludedTools serverConfig).all (· != "") = true := by
      apply List.all_eq_true.mpr
      intro name found
      apply bne_iff_ne.mpr
      rintro rfl
      exact among (unnamed.mp found)
    rw [if_neg among, passed]
    rfl

/-- The second pass over the resolved tools, when it is asked for. -/
def rewritten (serverConfig : ServerConfig) (resolved : List ResolvedTool) : List ResolvedTool :=
  if serverConfig.rewriteDescriptions && serverConfig.toolPrefix.isSome then
    rewriteDescriptions resolved
  else resolved

/-- How the resolution ends; only the tools that are kept decide. -/
inductive ResolutionEnd (serverName : String) (serverConfig : ServerConfig) (kept : List RawTool) :
    Except PyException (List ResolvedTool) → Prop
  | unnamedServer (text : String) (unnamed : serverName = "") :
      ResolutionEnd serverName serverConfig kept (.error (.assertionError text))
  | unnamedExclude (text : String) (among : "" ∈ serverConfig.excludeTools) :
      ResolutionEnd serverName serverConfig kept (.error (.assertionError text))
  | refused (text : String) (named : serverName ≠ "") (none : "" ∉ serverConfig.excludeTools)
      (stopped : ¬ AllResolve serverConfig kept) (first : RefusedFirst serverConfig kept) :
      ResolutionEnd serverName serverConfig kept (.error (.valueError text))
  | fails (text : String) (reached : ¬ RefusedFirst serverConfig kept) :
      ResolutionEnd serverName serverConfig kept (.error (.assertionError text))
  | resolves (named : serverName ≠ "") (none : "" ∉ serverConfig.excludeTools)
      (all : AllResolve serverConfig kept) :
      ResolutionEnd serverName serverConfig kept
        (.ok (rewritten serverConfig (kept.map (resolvedTool serverName serverConfig))))

theorem resolution_ends (serverName : String) (serverConfig : ServerConfig) (toolList : List RawTool) :
    ResolutionEnd serverName serverConfig (toolList.filter (keeps serverConfig))
      (resolveTools serverName serverConfig toolList) := by
  unfold resolveTools
  by_cases named : serverName = ""
  · rw [named]
    exact .unnamedServer _ rfl
  rw [precondition_true (bne_iff_ne.mpr named), effectiveExcludeTools_eq]
  by_cases among : "" ∈ serverConfig.excludeTools
  · rw [if_pos among]
    exact .unnamedExclude _ among
  rw [if_neg among]
  dsimp only [bind, Except.bind]
  rw [resolveEach_filter]
  have all : ∀ rawTool ∈ toolList.filter (keeps serverConfig), keeps serverConfig rawTool = true :=
    fun rawTool found => (List.mem_filter.mp found).2
  have ends := rounds serverName serverConfig all
  generalize resolveEach serverName serverConfig (excludedTools serverConfig)
    (toolList.filter (keeps serverConfig)) = outcome at ends
  cases ends with
  | refused text stopped first => exact .refused text named among stopped first
  | fails text reached => exact .fails text reached
  | resolves all =>
      have ends : ResolutionEnd serverName serverConfig _ _ := .resolves named among all
      unfold rewritten at ends
      generalize (serverConfig.rewriteDescriptions && serverConfig.toolPrefix.isSome) = rewrites
        at ends ⊢
      cases rewrites with
      | false => exact ends
      | true => exact ends

theorem resolveTools_ok_iff {serverName : String} {serverConfig : ServerConfig}
    {toolList : List RawTool} {resolved : List ResolvedTool} :
    resolveTools serverName serverConfig toolList = .ok resolved ↔
      (serverName ≠ "" ∧ "" ∉ serverConfig.excludeTools ∧
        AllResolve serverConfig (toolList.filter (keeps serverConfig))) ∧
      resolved = rewritten serverConfig ((toolList.filter (keeps serverConfig)).map
        (resolvedTool serverName serverConfig)) := by
  have ends := resolution_ends serverName serverConfig toolList
  generalize resolveTools serverName serverConfig toolList = outcome at ends
  cases ends with
  | unnamedServer text unnamed => exact ⟨nofun, fun passed => absurd unnamed passed.1.1⟩
  | unnamedExclude text among => exact ⟨nofun, fun passed => absurd among passed.1.2.1⟩
  | refused text named none stopped first => exact ⟨nofun, fun passed => absurd passed.1.2.2 stopped⟩
  | fails text reached => exact ⟨nofun, fun passed => absurd passed.1.2.2.refusedFirst reached⟩
  | resolves named none all =>
      constructor
      · rintro ⟨⟩
        exact ⟨⟨named, none, all⟩, rfl⟩
      · rintro ⟨-, rfl⟩
        rfl

/-! ## No contract fails -/

/-- The resolution returns or raises its documented error exactly when the server has a name,
no excluded name is empty, and every kept tool without a name or family stands behind a refused
one. -/
theorem resolution_contracts (serverName : String) (serverConfig : ServerConfig)
    (toolList : List RawTool) :
    ((∃ resolved, resolveTools serverName serverConfig toolList = .ok resolved) ∨
        ∃ text, resolveTools serverName serverConfig toolList = .error (.valueError text)) ↔
      serverName ≠ "" ∧ "" ∉ serverConfig.excludeTools ∧
        RefusedFirst serverConfig (toolList.filter (keeps serverConfig)) := by
  have ends := resolution_ends serverName serverConfig toolList
  generalize resolveTools serverName serverConfig toolList = outcome at ends
  cases ends with
  | unnamedServer text unnamed =>
      constructor
      · rintro (⟨resolved, ended⟩ | ⟨text, ended⟩) <;> cases ended
      · rintro ⟨named, -⟩
        exact absurd unnamed named
  | unnamedExclude text among =>
      constructor
      · rintro (⟨resolved, ended⟩ | ⟨text, ended⟩) <;> cases ended
      · rintro ⟨-, none, -⟩
        exact absurd among none
  | refused text named none stopped first => exact ⟨fun _ => ⟨named, none, first⟩, fun _ => .inr ⟨_, rfl⟩⟩
  | fails text reached =>
      constructor
      · rintro (⟨resolved, ended⟩ | ⟨text, ended⟩) <;> cases ended
      · rintro ⟨-, -, first⟩
        exact absurd first reached
  | resolves named none all =>
      exact ⟨fun _ => ⟨named, none, all.refusedFirst⟩, fun _ => .inl ⟨_, rfl⟩⟩

/-- A valid configuration whose only server is `server`. -/
def singleServer (server : ServerConfig) : TelaConfig where
  servers := Dict.ofList [(server.name, server)]
  auth := { mode := .token, secrets := ["secret"] }

theorem resolution_contracts_violated :
    (validateConfig (singleServer { name := "fs", command := some "run", excludeTools := [""] })
        none = .ok [] ∧
      resolveTools "fs" { name := "fs", command := some "run", excludeTools := [""] } [] =
        .error (.assertionError "Postcondition failed for effective_exclude_tools")) ∧
    (validateConfig (singleServer { name := "fs", command := some "run", family := some "" })
        none = .ok [] ∧
      resolveTools "fs" { name := "fs", command := some "run", family := some "" }
          [{ name := "read" }] =
        .error (.assertionError "Postcondition failed for resolve_family")) ∧
    (validateConfig (singleServer { name := "fs", command := some "run" }) none = .ok [] ∧
      resolveTools "fs" { name := "fs", command := some "run" } [{ name := "" }] =
        .error (.assertionError "Precondition failed for resolve_family")) := by
  refine ⟨⟨?_, ?_⟩, ⟨?_, ?_⟩, ?_, ?_⟩ <;> rfl

end Resolution

end Tela
