import Tela.Properties.SurfaceAgreement

/-!
# Mediation of tool calls

A call reaches the downstream only through every check, once and under its raw name,
and each admitted call leaves one entry in the audit log.
-/

namespace Tela

/-! ## What a handler has done -/

/-- One call handed to the downstream. -/
structure Dispatch where
  serverName : String
  toolName : String
  arguments : JsonObject

def UpstreamEffect.dispatch? : UpstreamEffect → Option Dispatch
  | .dispatched serverName toolName arguments => some ⟨serverName, toolName, arguments⟩
  | _ => none

def UpstreamEffect.entry? : UpstreamEffect → Option AuditEntry
  | .audited entry => some entry
  | _ => none

def UpstreamEffect.isCount : UpstreamEffect → Bool
  | .counted => true
  | _ => false

def dispatches (effects : List UpstreamEffect) : List Dispatch :=
  effects.filterMap UpstreamEffect.dispatch?

def entries (effects : List UpstreamEffect) : List AuditEntry :=
  effects.filterMap UpstreamEffect.entry?

def counts (effects : List UpstreamEffect) : Nat := effects.countP UpstreamEffect.isCount

/-- Every check of the chain is passed, for this tool. -/
structure Passes (config : Option TelaConfig) (registry : DownstreamRegistry)
    (connection : Option ConnectionContext) (toolName : String) (tool : ResolvedTool) : Prop where
  shared : isSharedToolName toolName = true
  registered : registry.getTool toolName = some tool
  enforced : ∃ running admitted profile result, config = some running ∧
    connection = some admitted ∧ running.profiles.get? admitted.profileId = some profile ∧
      enforceToolCall tool.routingName tool profile (running.defaultPosture tool.serverName) =
        .ok result ∧ result.verdict = .allow

/-- The entry keeps the metadata and the hash that the split of the arguments gives. -/
structure Records (platform : UpstreamPlatform) (level : AuditLevel) (arguments : JsonObject)
    (entry : AuditEntry) : Prop where
  metadata : entry.metadata = auditMetaField (stripMeta arguments).2
  paramHash : entry.paramHash =
    if level = .L1 then none else some (platform.paramHash (stripMeta arguments).1)

/-- What is said about one call. -/
structure Mediated (platform : UpstreamPlatform) (config : Option TelaConfig)
    (registry : DownstreamRegistry) (connection : Option ConnectionContext) (toolName : String)
    (arguments : JsonObject)
    (outcome : List UpstreamEffect × Except PyException (Except TelaError JsonObject)) : Prop where
  checked : dispatches outcome.1 ≠ [] ↔ ∃ tool, Passes config registry connection toolName tool
  once : dispatches outcome.1 = [] ∨ ∃ owner tool, registry.getToolServer toolName = some owner ∧
    registry.getTool toolName = some tool ∧
      dispatches outcome.1 = [⟨owner, tool.routingName, (stripMeta arguments).1⟩]
  counted : counts outcome.1 = (dispatches outcome.1).length
  audited : ∀ running, config = some running → connection.isSome = true →
    ∃ entry, entries outcome.1 = [entry] ∧ (entry.verdict = .allow ↔ ∃ value,
      outcome.2 = .ok (.ok value)) ∧ Records platform running.audit.level arguments entry

/-! ## When a call is mediated -/

/-- Without the split, an entry would be the same. -/
def MetaHarmless (platform : UpstreamPlatform) (level : AuditLevel) (arguments : JsonObject) :
    Prop :=
  auditMetaField (arguments.get? "_meta") = none ∧
    (level = .L1 ∨ platform.paramHash arguments = platform.paramHash (arguments.erase "_meta"))

/-- No exit of the call misses its entry, its split or the owner of the tool. -/
structure Mediable (platform : UpstreamPlatform) (registry : DownstreamRegistry)
    (running : TelaConfig) (admitted : ConnectionContext) (toolName : String)
    (arguments : JsonObject) : Prop where
  invalid : isSharedToolName toolName = false →
    MetaHarmless platform running.audit.level arguments
  family : ∀ tool profile, isSharedToolName toolName = true →
    registry.getTool toolName = some tool →
      running.profiles.get? admitted.profileId = some profile → tool.family ≠ ""
  owned : ∀ tool, Passes (some running) registry (some admitted) toolName tool →
    registry.getToolServer toolName = some tool.serverName
  returns : ∀ tool, Passes (some running) registry (some admitted) toolName tool →
    ∃ result, platform.callTool tool.serverName tool.routingName (stripMeta arguments).1 =
      .ok result

section Exits

variable {platform : UpstreamPlatform} {running : TelaConfig} {registry : DownstreamRegistry}
  {admitted : ConnectionContext} {toolName : String} {arguments : JsonObject}

/-- An exit that denies the call is mediated exactly if its entry keeps the split. -/
theorem mediated_denied {effects : List UpstreamEffect} {error : TelaError} {entry : AuditEntry}
    (refused : ∀ tool, ¬ Passes (some running) registry (some admitted) toolName tool)
    (silent : dispatches effects = []) (uncounted : counts effects = 0)
    (logged : entries effects = [entry]) (denies : entry.verdict = .deny) :
    Mediated platform (some running) registry (some admitted) toolName arguments
        (effects, .ok (.error error)) ↔
      Records platform running.audit.level arguments entry := by
  constructor
  · intro mediated
    obtain ⟨entry', logged', -, records⟩ := mediated.audited running rfl rfl
    dsimp only at logged'
    rw [logged] at logged'
    cases logged'
    exact records
  · intro records
    refine ⟨?_, .inl silent, ?_, fun config same _ => ⟨entry, logged, ?_, ?_⟩⟩
    · refine iff_of_false (fun dispatched => dispatched silent) ?_
      rintro ⟨tool, passes⟩
      exact refused tool passes
    · dsimp only
      rw [uncounted, silent]
      rfl
    · rw [denies]
      exact iff_of_false nofun (by rintro ⟨_, ⟨⟩⟩)
    · cases same
      exact records

/-- The tool found under a shared name is called under a name. -/
theorem routingName_ne_empty {tool : ResolvedTool} (shared : isSharedToolName toolName = true)
    (found : registry.getTool toolName = some tool) : tool.routingName ≠ "" := by
  obtain ⟨serverName, tools, -, -, finds⟩ := getTool_eq_some.mp found
  have named : tool.name = toolName := by simpa using List.find?_some finds
  have nonempty : toolName ≠ "" := by
    rintro rfl
    cases shared
  unfold ResolvedTool.routingName
  split
  · split
    · rw [named]
      exact nonempty
    · assumption
  · rw [named]
    exact nonempty

/-- The entry of a split call keeps the split. -/
theorem records_split {serverName : String} {result : EnforcementResult}
    {responseContent : Option JsonObject} :
    Records platform running.audit.level arguments
      (buildAuditEntry platform.paramHash running.audit.level admitted toolName serverName result
        platform.stamp (some (stripMeta arguments).1) responseContent
        (auditMetaField (stripMeta arguments).2)) :=
  ⟨rfl, rfl⟩

theorem records_unsplit {serverName : String} {result : EnforcementResult} :
    Records platform running.audit.level arguments
        (buildAuditEntry platform.paramHash running.audit.level admitted toolName serverName result
          platform.stamp (some arguments) none none) ↔
      MetaHarmless platform running.audit.level arguments := by
  constructor
  · intro records
    refine ⟨records.metadata.symm, ?_⟩
    have hashed := records.paramHash
    by_cases first : running.audit.level = .L1
    · exact .inl first
    · change (if _ then none else _) = _ at hashed
      rw [if_neg first, if_neg first] at hashed
      exact .inr (Option.some.inj hashed)
  · rintro ⟨bare, same⟩
    refine ⟨bare.symm, ?_⟩
    change (if _ then none else _) = _
    rcases same with first | same
    · rw [if_pos first, if_pos first]
    · change (if _ then none else some (platform.paramHash arguments)) = _
      rw [same]
      rfl

/-- A call that passes every check is mediated if it returns and goes to the owner. -/
theorem mediated_forwarded {tool : ResolvedTool}
    (passes : Passes (some running) registry (some admitted) toolName tool) :
    Mediated platform (some running) registry (some admitted) toolName arguments
        (.touched admitted.connectionId ::
            (forwardToolCall platform running admitted toolName tool (stripMeta arguments).1
              (stripMeta arguments).2).1,
          (forwardToolCall platform running admitted toolName tool (stripMeta arguments).1
            (stripMeta arguments).2).2) ↔
      registry.getToolServer toolName = some tool.serverName ∧
        ∃ result, platform.callTool tool.serverName tool.routingName (stripMeta arguments).1 =
          .ok result := by
  obtain ⟨owner, tools, owned, -⟩ := getTool_eq_some.mp passes.registered
  have sameOwner : (∃ owner tool', registry.getToolServer toolName = some owner ∧
      registry.getTool toolName = some tool' ∧
        [(⟨tool.serverName, tool.routingName, (stripMeta arguments).1⟩ : Dispatch)] =
          [⟨owner, tool'.routingName, (stripMeta arguments).1⟩]) ↔
      registry.getToolServer toolName = some tool.serverName := by
    constructor
    · rintro ⟨owner', _, owned', -, same⟩
      have names : tool.serverName = owner' := congrArg Dispatch.serverName (List.cons.inj same).1
      rw [names]
      exact owned'
    · intro owned'
      exact ⟨_, tool, owned', passes.registered, rfl⟩
  unfold forwardToolCall
  dsimp only
  cases returned : platform.callTool tool.serverName tool.routingName (stripMeta arguments).1 with
  | error exc =>
      refine iff_of_false (fun mediated => ?_) (by rintro ⟨-, _, ⟨⟩⟩)
      obtain ⟨entry, logged, -⟩ := mediated.audited running rfl rfl
      cases logged
  | ok result =>
      cases result with
      | error error =>
          constructor
          · intro mediated
            rcases mediated.once with none | once
            · cases none
            · exact ⟨sameOwner.mp once, _, rfl⟩
          · rintro ⟨owned', -⟩
            refine ⟨iff_of_true nofun ⟨tool, passes⟩, .inr (sameOwner.mpr owned'), rfl, ?_⟩
            rintro _ ⟨⟩ -
            exact ⟨_, rfl, iff_of_false nofun (by rintro ⟨_, ⟨⟩⟩), records_split⟩
      | ok value =>
          constructor
          · intro mediated
            rcases mediated.once with none | once
            · cases none
            · exact ⟨sameOwner.mp once, _, rfl⟩
          · rintro ⟨owned', -⟩
            refine ⟨iff_of_true nofun ⟨tool, passes⟩, .inr (sameOwner.mpr owned'), rfl, ?_⟩
            rintro _ ⟨⟩ -
            exact ⟨_, rfl, iff_of_true rfl ⟨value, rfl⟩, records_split⟩

/-- A call that is refused after its name was accepted needs a family only. -/
theorem mediable_of_refused (shared : isSharedToolName toolName = true)
    (refused : ∀ tool, ¬ Passes (some running) registry (some admitted) toolName tool)
    (family : ∀ tool profile, registry.getTool toolName = some tool →
      running.profiles.get? admitted.profileId = some profile → tool.family ≠ "") :
    Mediable platform registry running admitted toolName arguments where
  invalid violates := by
    rw [shared] at violates
    cases violates
  family tool profile _ := family tool profile
  owned tool passes := absurd passes (refused tool)
  returns tool passes := absurd passes (refused tool)

end Exits

/-- A call is mediated exactly if none of its exits misses an entry, the split or the owner. -/
theorem mediation (platform : UpstreamPlatform) (config : Option TelaConfig)
    (registry : DownstreamRegistry) (connection : Option ConnectionContext) (toolName : String)
    (arguments : JsonObject) :
    Mediated platform config registry connection toolName arguments
        (handleToolsCall platform config registry connection toolName arguments) ↔
      ∀ running admitted, config = some running → connection = some admitted →
        Mediable platform registry running admitted toolName arguments := by
  have unadmitted {config : Option TelaConfig} {connection : Option ConnectionContext}
      {error : TelaError} (absent : config = none ∨ connection = none) :
      Mediated platform config registry connection toolName arguments ([], .ok (.error error)) := by
    refine ⟨iff_of_false (fun dispatched => dispatched rfl) ?_, .inl rfl, rfl, ?_⟩
    · rintro ⟨tool, -, -, _, _, _, _, rfl, rfl, -⟩
      rcases absent with ⟨⟨⟩⟩ | ⟨⟨⟩⟩
    · rintro running rfl present
      rcases absent with ⟨⟨⟩⟩ | rfl
      cases present
  unfold handleToolsCall
  cases config with
  | none => exact iff_of_true (unadmitted (.inl rfl)) nofun
  | some running =>
    cases connection with
    | none => exact iff_of_true (unadmitted (.inr rfl)) nofun
    | some admitted =>
      have pair : (∀ running' admitted', some running = some running' →
          some admitted = some admitted' →
            Mediable platform registry running' admitted' toolName arguments) ↔
          Mediable platform registry running admitted toolName arguments := by
        constructor
        · intro all
          exact all running admitted rfl rfl
        · rintro mediable _ _ ⟨⟩ ⟨⟩
          exact mediable
      rw [pair]
      dsimp only
      cases shared : isSharedToolName toolName with
      | false =>
          have refused (tool : ResolvedTool) :
              ¬ Passes (some running) registry (some admitted) toolName tool := by
            intro passes
            rw [passes.shared] at shared
            cases shared
          have invalid : invalidSharedToolName toolName = some toolName := if_neg (by simp [shared])
          rw [invalid]
          refine (mediated_denied refused rfl rfl rfl rfl).trans (records_unsplit.trans ?_)
          constructor
          · intro harmless
            refine ⟨fun _ => harmless, fun _ _ valid => ?_, fun tool passes => ?_,
              fun tool passes => ?_⟩
            · rw [shared] at valid
              cases valid
            · exact absurd passes (refused tool)
            · exact absurd passes (refused tool)
          · intro mediable
            exact mediable.invalid shared
      | true =>
          have valid : invalidSharedToolName toolName = none := if_pos shared
          rw [valid]
          dsimp only
          cases found : registry.getTool toolName with
          | none =>
              have refused (tool : ResolvedTool) :
                  ¬ Passes (some running) registry (some admitted) toolName tool := by
                intro passes
                rw [passes.registered] at found
                cases found
              refine (mediated_denied refused rfl rfl rfl rfl).trans (iff_of_true records_split ?_)
              refine mediable_of_refused shared refused fun tool _ looked => ?_
              rw [found] at looked
              cases looked
          | some tool =>
              dsimp only
              cases bound : running.profiles.get? admitted.profileId with
              | none =>
                  have refused (tool : ResolvedTool) :
                      ¬ Passes (some running) registry (some admitted) toolName tool := by
                    intro passes
                    obtain ⟨_, _, profile, _, ⟨⟩, ⟨⟩, known, -⟩ := passes.enforced
                    rw [bound] at known
                    cases known
                  refine (mediated_denied refused rfl rfl rfl rfl).trans
                    (iff_of_true records_split ?_)
                  refine mediable_of_refused shared refused fun _ profile _ known => ?_
                  rw [bound] at known
                  cases known
              | some profile =>
                  dsimp only
                  have decides {tool' : ResolvedTool}
                      (passes : Passes (some running) registry (some admitted) toolName tool') :
                      tool' = tool ∧ ∃ result, enforceToolCall tool.routingName tool profile
                        (running.defaultPosture tool.serverName) = .ok result ∧
                          result.verdict = .allow := by
                    obtain rfl := Option.some.inj (passes.registered.symm.trans found)
                    obtain ⟨_, _, profile', result, ⟨⟩, ⟨⟩, known, decision⟩ := passes.enforced
                    rw [bound] at known
                    cases known
                    exact ⟨rfl, result, decision⟩
                  cases decided : enforceToolCall tool.routingName tool profile
                    (running.defaultPosture tool.serverName) with
                  | error exc =>
                      refine iff_of_false (fun mediated => ?_) fun mediable => ?_
                      · obtain ⟨entry, logged, -⟩ := mediated.audited running rfl rfl
                        cases logged
                      · obtain ⟨result, _, decided', -⟩ := enforce_iff profile
                          (running.defaultPosture tool.serverName)
                          (routingName_ne_empty shared found)
                          (mediable.family tool profile shared found bound)
                        unfold enforceToolCall at decided
                        rw [decided] at decided'
                        cases decided'
                  | ok result =>
                      have family : tool.family ≠ "" := (enforce_ok decided).2
                      have families (tool' : ResolvedTool) (profile' : ProfileConfig)
                          (looked : registry.getTool toolName = some tool')
                          (_ : running.profiles.get? admitted.profileId = some profile') :
                          tool'.family ≠ "" := by
                        obtain rfl := Option.some.inj (looked.symm.trans found)
                        exact family
                      dsimp only
                      by_cases denied : result.verdict = .deny
                      · rw [if_pos denied]
                        have refused (tool' : ResolvedTool) :
                            ¬ Passes (some running) registry (some admitted) toolName tool' := by
                          intro passes
                          obtain ⟨rfl, result', again, allows⟩ := decides passes
                          rw [decided] at again
                          cases again
                          rw [denied] at allows
                          cases allows
                        refine (mediated_denied refused rfl rfl rfl denied).trans
                          (iff_of_true records_split ?_)
                        exact mediable_of_refused shared refused families
                      · rw [if_neg denied]
                        have allows : result.verdict = .allow := by
                          cases verdict : result.verdict with
                          | allow => rfl
                          | deny => exact absurd verdict denied
                        have passes : Passes (some running) registry (some admitted) toolName tool :=
                          ⟨shared, found, running, admitted, profile, result, rfl, rfl, bound,
                            decided, allows⟩
                        refine (mediated_forwarded passes).trans ?_
                        constructor
                        · rintro ⟨owned, returns⟩
                          refine ⟨fun violates => ?_, fun tool' profile' _ => families tool' profile',
                            fun tool' passes' => ?_, fun tool' passes' => ?_⟩
                          · rw [shared] at violates
                            cases violates
                          · rw [(decides passes').1]
                            exact owned
                          · rw [(decides passes').1]
                            exact returns
                        · intro mediable
                          exact ⟨mediable.owned tool passes, mediable.returns tool passes⟩

/-! ## Calls that are not mediated -/

/-- Arguments with tracing metadata. -/
def tracedArguments : JsonObject :=
  .ofList [("path", .str "a.txt"), ("_meta", .obj [("trace_id", .str "t1")])]

/-- A downstream whose call is cancelled. -/
def cancelledPlatform : UpstreamPlatform :=
  { silentPlatform with callTool := fun _ _ _ => .error .cancelledError }

/-- An invalid name loses the metadata, and a call that raises leaves no entry. -/
theorem mediation_violated :
    ¬ Mediated silentPlatform (some fileConfig) (fileRegistry [readFile .readOnly])
      (some devConnection) "Read-File" tracedArguments
      (handleToolsCall silentPlatform (some fileConfig) (fileRegistry [readFile .readOnly])
        (some devConnection) "Read-File" tracedArguments) ∧
    ¬ Mediated cancelledPlatform (some fileConfig) (fileRegistry [readFile .readOnly])
      (some devConnection) "read_file" tracedArguments
      (handleToolsCall cancelledPlatform (some fileConfig) (fileRegistry [readFile .readOnly])
        (some devConnection) "read_file" tracedArguments) := by
  constructor
  · intro mediated
    obtain ⟨entry, logged, -, records⟩ := mediated.audited fileConfig rfl rfl
    cases logged
    exact absurd records.metadata (by decide +kernel)
  · intro mediated
    obtain ⟨entry, logged, -⟩ := mediated.audited fileConfig rfl rfl
    cases logged

end Tela
