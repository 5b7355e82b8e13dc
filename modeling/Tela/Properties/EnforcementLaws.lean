import Tela.Core.Enforcement

/-!
# Laws of enforcement

When the chain lets a call through, how the verdict follows changes of the profile, and
that the explanation tells the same story.
-/

namespace Tela

variable {toolName : String} {tool : ResolvedTool} {profile profile' : ProfileConfig}
  {tokenResult : EnforcementResult} {defaultPosture : Posture}

/-! ## The posture that counts -/

/-- The classified posture, or a default that is not `NONE`. -/
def effectivePosture (tool : ResolvedTool) (defaultPosture : Posture) : Option Posture :=
  tool.posture.or (if defaultPosture = .none then none else some defaultPosture)

theorem checkPosture_allow_iff (posture : Option Posture) (ceiling defaultPosture : Posture) :
    (checkPosture posture ceiling defaultPosture).verdict = .allow ↔
      ∃ effective, posture.or (if defaultPosture = .none then none else some defaultPosture) =
        some effective ∧ postureLe effective ceiling = true := by
  cases posture with
  | some classified =>
      by_cases within : postureLe classified ceiling = true
      · simp [checkPosture, within, allowed]
      · simp [checkPosture, within]
  | none =>
      by_cases unset : defaultPosture = .none
      · simp [checkPosture, unset]
      · by_cases within : postureLe defaultPosture ceiling = true
        · simp [checkPosture, unset, within, allowed]
        · simp [checkPosture, unset, within]

/-! ## The decision -/

/-- The verdict of the profile for the family and the routing name. -/
def ProfileConfig.override (profile : ProfileConfig) (family toolName : String) :
    Option EnforcementVerdict :=
  (profile.toolOverrides.get? family).bind (·.overrides.get? toolName)

/-- The family is admitted, no override denies, and the posture is within the ceiling. -/
structure Admits (profile : ProfileConfig) (defaultPosture : Posture) (toolName : String)
    (tool : ResolvedTool) : Prop where
  undenied : profile.override tool.family toolName ≠ some .deny
  within : ∃ ceiling effective, profile.capabilities.get? tool.family = some ceiling ∧
    effectivePosture tool defaultPosture = some effective ∧ postureLe effective ceiling = true

theorem admits_iff_permits :
    Admits profile defaultPosture toolName tool ↔
      Permits profile defaultPosture toolName tool := by
  constructor
  · rintro ⟨undenied, ceiling, effective, admitted, known, below⟩
    refine ⟨?_, undenied, ?_⟩
    · rw [Dict.contains, admitted]
      rfl
    · rw [checkPosture_allow_iff, ProfileConfig.ceiling, admitted]
      exact ⟨effective, known, below⟩
  · rintro ⟨admitted, undenied, within⟩
    obtain ⟨ceiling, found⟩ := Option.isSome_iff_exists.mp admitted
    rw [checkPosture_allow_iff, ProfileConfig.ceiling, found] at within
    obtain ⟨effective, known, below⟩ := within
    exact ⟨undenied, ceiling, effective, found, known, below⟩

/-- The chain returns a result that lets the call through. -/
def Allows (ran : Except PyException EnforcementResult) : Prop :=
  ∃ result, ran = .ok result ∧ result.verdict = .allow

/-- The chain returns a result that refuses the call. -/
def Denies (ran : Except PyException EnforcementResult) : Prop :=
  ∃ result, ran = .ok result ∧ result.verdict = .deny

/-- Of a token result only its verdict counts. -/
theorem enforce_token (token : tokenResult.verdict = .allow) :
    enforce toolName tool profile tokenResult defaultPosture =
      enforce toolName tool profile allowed defaultPosture := by
  unfold enforce
  rw [token]
  rfl

theorem explainAuthorization_token (token : tokenResult.verdict = .allow) :
    explainAuthorization toolName tool profile tokenResult defaultPosture =
      explainAuthorization toolName tool profile allowed defaultPosture := by
  unfold explainAuthorization
  have passes : ¬ tokenResult.verdict = .deny := by
    rw [token]
    nofun
  have passes' : ¬ allowed.verdict = .deny := nofun
  rw [if_neg passes, if_neg passes']

theorem allows_iff (token : tokenResult.verdict = .allow) :
    Allows (enforce toolName tool profile tokenResult defaultPosture) ↔
      toolName ≠ "" ∧ tool.family ≠ "" ∧ Admits profile defaultPosture toolName tool := by
  rw [enforce_token token, admits_iff_permits]
  constructor
  · rintro ⟨result, ran, verdict⟩
    obtain ⟨named, family⟩ := enforce_ok ran
    obtain ⟨result', -, ran', -, exact', -⟩ := enforce_iff profile defaultPosture named family
    rw [ran] at ran'
    cases ran'
    exact ⟨named, family, exact'.mp verdict⟩
  · rintro ⟨named, family, permits⟩
    obtain ⟨result, -, ran, -, exact', -⟩ := enforce_iff profile defaultPosture named family
    exact ⟨result, ran, exact'.mpr permits⟩

/-- The chain returns a result exactly if the routing name and the family are not empty. -/
theorem returns_iff (token : tokenResult.verdict = .allow) :
    (∃ result, enforce toolName tool profile tokenResult defaultPosture = .ok result) ↔
      toolName ≠ "" ∧ tool.family ≠ "" := by
  rw [enforce_token token]
  constructor
  · rintro ⟨result, ran⟩
    exact enforce_ok ran
  · rintro ⟨named, family⟩
    obtain ⟨result, -, ran, -⟩ := enforce_iff profile defaultPosture named family
    exact ⟨result, ran⟩

/-! ## Changes of a profile -/

/-- The second profile admits as much as the first: higher ceilings, fewer denials. -/
structure Looser (profile profile' : ProfileConfig) : Prop where
  ceilings : ∀ family ceiling, profile.capabilities.get? family = some ceiling →
    ∃ ceiling', profile'.capabilities.get? family = some ceiling' ∧
      postureLe ceiling ceiling' = true
  denials : ∀ family toolName, profile'.override family toolName = some .deny →
    profile.override family toolName = some .deny

theorem postureLe_refl (posture : Posture) : postureLe posture posture = true :=
  decide_eq_true (Nat.le_refl _)

theorem postureLe_trans {first second third : Posture} (left : postureLe first second = true)
    (right : postureLe second third = true) : postureLe first third = true :=
  decide_eq_true (Nat.le_trans (of_decide_eq_true left) (of_decide_eq_true right))

theorem Admits.loosen (looser : Looser profile profile')
    (admits : Admits profile defaultPosture toolName tool) :
    Admits profile' defaultPosture toolName tool := by
  obtain ⟨undenied, ceiling, effective, admitted, known, below⟩ := admits
  obtain ⟨ceiling', admitted', higher⟩ := looser.ceilings _ _ admitted
  refine ⟨fun denied => undenied (looser.denials _ _ denied), ceiling', effective, admitted',
    known, postureLe_trans below higher⟩

namespace ProfileConfig

/-- The profile with a ceiling for one family. -/
def setCeiling (profile : ProfileConfig) (family : String) (ceiling : Posture) : ProfileConfig :=
  { profile with capabilities := profile.capabilities.set family ceiling }

/-- The profile with an override for one tool of a family. -/
def setOverride (profile : ProfileConfig) (family toolName : String)
    (verdict : EnforcementVerdict) : ProfileConfig :=
  let familyOverrides := (profile.toolOverrides.get? family).getD {}
  let changed : ProfileToolOverrides := ⟨familyOverrides.overrides.set toolName verdict⟩
  { profile with toolOverrides := profile.toolOverrides.set family changed }

/-- The profile without an override for one tool of a family. -/
def eraseOverride (profile : ProfileConfig) (family toolName : String) : ProfileConfig :=
  match profile.toolOverrides.get? family with
  | none => profile
  | some familyOverrides =>
      let changed : ProfileToolOverrides := ⟨familyOverrides.overrides.erase toolName⟩
      { profile with toolOverrides := profile.toolOverrides.set family changed }

theorem override_setOverride (profile : ProfileConfig) (family toolName : String)
    (verdict : EnforcementVerdict) (other name : String) :
    (profile.setOverride family toolName verdict).override other name =
      if other = family ∧ name = toolName then some verdict else profile.override other name := by
  unfold override setOverride
  rw [Dict.get?_set]
  by_cases same : other = family
  · subst same
    rw [if_pos rfl, Option.bind_some, Dict.get?_set]
    by_cases sameName : name = toolName
    · rw [if_pos sameName, if_pos ⟨rfl, sameName⟩]
    · rw [if_neg sameName, if_neg fun both => sameName both.2]
      cases profile.toolOverrides.get? other with
      | none => rfl
      | some familyOverrides => rfl
  · rw [if_neg same, if_neg fun both => same both.1]

theorem override_eraseOverride (profile : ProfileConfig) (family toolName other name : String) :
    (profile.eraseOverride family toolName).override other name =
      if other = family ∧ name = toolName then none else profile.override other name := by
  unfold eraseOverride
  cases found : profile.toolOverrides.get? family with
  | none =>
      dsimp only
      by_cases same : other = family ∧ name = toolName
      · rw [if_pos same, override, same.1, found]
        rfl
      · rw [if_neg same]
  | some familyOverrides =>
      dsimp only
      unfold override
      rw [Dict.get?_set]
      by_cases same : other = family
      · subst same
        rw [if_pos rfl, Option.bind_some, Dict.get?_erase, found, Option.bind_some]
        by_cases sameName : name = toolName
        · rw [if_pos sameName, if_pos ⟨rfl, sameName⟩]
        · rw [if_neg sameName, if_neg fun both => sameName both.2]
      · rw [if_neg same, if_neg fun both => same both.1]

end ProfileConfig

/-- One change of a profile that loosens it. -/
inductive Loosens (profile : ProfileConfig) : ProfileConfig → Prop
  | addFamily (family : String) (ceiling : Posture)
      (absent : profile.capabilities.get? family = none) :
      Loosens profile (profile.setCeiling family ceiling)
  | raiseCeiling (family : String) {ceiling : Posture} (raised : Posture)
      (present : profile.capabilities.get? family = some ceiling)
      (higher : postureLe ceiling raised = true) :
      Loosens profile (profile.setCeiling family raised)
  | addAllow (family toolName : String) :
      Loosens profile (profile.setOverride family toolName .allow)
  | removeDeny (family toolName : String)
      (denied : profile.override family toolName = some .deny) :
      Loosens profile (profile.eraseOverride family toolName)

/-- A ceiling no lower than the one before, if there was one. -/
theorem looser_setCeiling (family : String) (raised : Posture)
    (higher : ∀ ceiling, profile.capabilities.get? family = some ceiling →
      postureLe ceiling raised = true) : Looser profile (profile.setCeiling family raised) where
  ceilings other ceiling admitted := by
    unfold ProfileConfig.setCeiling
    rw [Dict.get?_set]
    by_cases same : other = family
    · subst same
      rw [if_pos rfl]
      exact ⟨raised, rfl, higher ceiling admitted⟩
    · rw [if_neg same]
      exact ⟨ceiling, admitted, postureLe_refl ceiling⟩
  denials _ _ denied := denied

theorem eraseOverride_capabilities (profile : ProfileConfig) (family toolName : String) :
    (profile.eraseOverride family toolName).capabilities = profile.capabilities := by
  unfold ProfileConfig.eraseOverride
  cases profile.toolOverrides.get? family with
  | none => rfl
  | some familyOverrides => rfl

theorem looser_of_loosens (loosens : Loosens profile profile') : Looser profile profile' := by
  cases loosens with
  | addFamily family ceiling absent =>
      apply looser_setCeiling
      intro other present
      rw [absent] at present
      cases present
  | raiseCeiling family raised present higher =>
      apply looser_setCeiling
      intro other present'
      rw [present] at present'
      cases present'
      exact higher
  | addAllow family name =>
      refine ⟨fun other ceiling admitted => ⟨ceiling, admitted, postureLe_refl ceiling⟩,
        fun other toolName denied => ?_⟩
      rw [ProfileConfig.override_setOverride] at denied
      split at denied
      · cases denied
      · exact denied
  | removeDeny family name denied =>
      refine ⟨fun other ceiling admitted => ⟨ceiling, ?_, postureLe_refl ceiling⟩,
        fun other toolName denied => ?_⟩
      · rw [eraseOverride_capabilities]
        exact admitted
      · rw [ProfileConfig.override_eraseOverride] at denied
        split at denied
        · cases denied
        · exact denied

/-- An added ALLOW override matters only where it replaces a DENY. -/
theorem Admits.of_addAllow {family name : String}
    (undenied : profile.override family name ≠ some .deny)
    (admits : Admits (profile.setOverride family name .allow) defaultPosture toolName tool) :
    Admits profile defaultPosture toolName tool := by
  refine ⟨fun denied => ?_, admits.within⟩
  have changed := admits.undenied
  rw [ProfileConfig.override_setOverride] at changed
  by_cases same : tool.family = family ∧ toolName = name
  · rw [← same.1, ← same.2] at undenied
    exact undenied denied
  · rw [if_neg same] at changed
    exact changed denied

/-! ## The explanation -/

/-- The explanation reports what the chain decides, and at which step it refuses. -/
structure Explains (result : EnforcementResult) (explanation : AuthorizationExplanation) :
    Prop where
  allowed : explanation.allowed = true ↔ result.verdict = .allow
  denied : explanation.denied = true ↔ result.verdict = .deny
  stage : explanation.stage = result.deniedBy.getD "allowed"
  deniedBy : explanation.deniedBy = result.deniedBy
  errorCode : explanation.errorCode = result.errorCode

theorem explains_denied {result : EnforcementResult} {stage : String}
    (verdict : result.verdict = .deny) (step : result.deniedBy = some stage) :
    Explains result (authorizationExplainDenied result stage) := by
  refine ⟨?_, ?_, ?_, rfl, rfl⟩
  · rw [verdict]
    exact iff_of_false nofun nofun
  · exact iff_of_true rfl verdict
  · rw [step]
    rfl

theorem explains_allowed :
    Explains allowed ⟨true, false, true, false, "allowed", "authorized", none, none⟩ :=
  ⟨iff_of_true rfl rfl, iff_of_false nofun nofun, rfl, rfl, rfl⟩

theorem checkFamilyAdmission_deniedBy {family : String} {result : EnforcementResult}
    (ran : checkFamilyAdmission family profile = .ok result) (verdict : result.verdict = .deny) :
    result.deniedBy = some "family_admission" := by
  obtain ⟨_, _, ran⟩ := bind_ok ran
  split at ran
  · cases ran
    cases verdict
  · cases ran
    rfl

theorem checkToolOverride_deniedBy {family : String} {result : EnforcementResult}
    (ran : checkToolOverride toolName family profile = .ok (some result))
    (verdict : result.verdict = .deny) : result.deniedBy = some "tool_override" := by
  obtain ⟨_, _, ran⟩ := bind_ok ran
  split at ran
  · cases ran
  · cases ran
    cases verdict
  · cases ran
    rfl

theorem checkPosture_deniedBy {posture : Option Posture} {ceiling defaultPosture : Posture}
    (verdict : (checkPosture posture ceiling defaultPosture).verdict = .deny) :
    (checkPosture posture ceiling defaultPosture).deniedBy = some "posture_ceiling" := by
  unfold checkPosture at verdict ⊢
  dsimp only at verdict ⊢
  split
  · rfl
  · split
    · rename_i classified within
      rw [if_neg classified, if_pos within] at verdict
      cases verdict
    · rfl

/-- Both chains return, or both raise; what they return agrees. -/
inductive Agree : Except PyException EnforcementResult →
    Except PyException AuthorizationExplanation → Prop
  | raised (exc exc' : PyException) : Agree (.error exc) (.error exc')
  | returned {result : EnforcementResult} {explanation : AuthorizationExplanation}
      (explains : Explains result explanation) : Agree (.ok result) (.ok explanation)

theorem agree_allowed :
    Agree (enforce toolName tool profile allowed defaultPosture)
      (explainAuthorization toolName tool profile allowed defaultPosture) := by
  unfold enforce explainAuthorization
  by_cases named : toolName = ""
  · subst named
    exact .raised _ _
  rw [precondition_true (by simp [named, allowed]), precondition_true (by simp [named])]
  dsimp only [bind, Except.bind]
  have token : ¬ allowed.verdict = .deny := by rintro ⟨⟩
  rw [if_neg token]
  cases admission : checkFamilyAdmission tool.family profile with
  | error exc => exact .raised _ _
  | ok familyResult =>
      dsimp only
      by_cases rejected : familyResult.verdict = .deny
      · rw [if_pos rejected, if_pos rejected]
        exact .returned (explains_denied rejected (checkFamilyAdmission_deniedBy admission rejected))
      rw [if_neg rejected, if_neg rejected]
      cases override : checkToolOverride toolName tool.family profile with
      | error exc => exact .raised _ _
      | ok overrideResult =>
          dsimp only
          cases denial : overrideResult.filter (·.verdict = .deny) with
          | some denied =>
              obtain ⟨same, verdict⟩ := Option.filter_eq_some_iff.mp denial
              rw [same] at override
              have refused : denied.verdict = .deny := of_decide_eq_true verdict
              exact .returned
                (explains_denied refused (checkToolOverride_deniedBy override refused))
          | none =>
              dsimp only
              by_cases beyond : (checkPosture tool.posture (profile.ceiling tool.family)
                defaultPosture).verdict = .deny
              · rw [if_pos beyond, if_pos beyond]
                exact .returned (explains_denied beyond (checkPosture_deniedBy beyond))
              · rw [if_neg beyond, if_neg beyond]
                exact .returned explains_allowed

/-! ## The laws -/

/--
The chain lets a call through exactly if the routing name and the family of the tool are
not empty, the profile admits the family, no override denies the routing name, and the
effective posture is within the ceiling. A looser profile refuses no more, an ALLOW
override that replaces no DENY admits no more, and the explanation agrees.
-/
theorem enforcement_laws (toolName : String) (tool : ResolvedTool) (profile : ProfileConfig)
    (tokenResult : EnforcementResult) (defaultPosture : Posture)
    (token : tokenResult.verdict = .allow) :
    (Allows (enforce toolName tool profile tokenResult defaultPosture) ↔
      toolName ≠ "" ∧ tool.family ≠ "" ∧ Admits profile defaultPosture toolName tool) ∧
    ((∃ result, enforce toolName tool profile tokenResult defaultPosture = .ok result) ↔
      toolName ≠ "" ∧ tool.family ≠ "") ∧
    (∀ profile', Loosens profile profile' →
      Allows (enforce toolName tool profile tokenResult defaultPosture) →
      Allows (enforce toolName tool profile' tokenResult defaultPosture)) ∧
    (∀ family name, profile.override family name ≠ some .deny →
      Denies (enforce toolName tool profile tokenResult defaultPosture) →
      Denies (enforce toolName tool (profile.setOverride family name .allow) tokenResult
        defaultPosture)) ∧
    Agree (enforce toolName tool profile tokenResult defaultPosture)
      (explainAuthorization toolName tool profile tokenResult defaultPosture) := by
  refine ⟨allows_iff token, returns_iff token, ?loosened, ?replaced, ?explained⟩
  case loosened =>
    intro profile' loosens allows
    obtain ⟨named, family, admits⟩ := (allows_iff token).mp allows
    exact (allows_iff token).mpr ⟨named, family, admits.loosen (looser_of_loosens loosens)⟩
  case replaced =>
    rintro family name undenied ⟨result, ran, verdict⟩
    obtain ⟨named, familyNamed⟩ := (returns_iff token).mp ⟨result, ran⟩
    obtain ⟨result', ran'⟩ : ∃ result', enforce toolName tool
        (profile.setOverride family name .allow) tokenResult defaultPosture = .ok result' :=
      (returns_iff token).mpr ⟨named, familyNamed⟩
    refine ⟨result', ran', ?_⟩
    cases verdict' : result'.verdict with
    | deny => rfl
    | allow =>
        obtain ⟨-, -, admits⟩ := (allows_iff token).mp ⟨result', ran', verdict'⟩
        obtain ⟨same, ran'', allows⟩ :=
          (allows_iff token).mpr ⟨named, familyNamed, admits.of_addAllow undenied⟩
        rw [ran] at ran''
        cases ran''
        rw [verdict] at allows
        cases allows
  case explained =>
    rw [enforce_token token, explainAuthorization_token token]
    exact agree_allowed

theorem enforcement_laws_read :
    Allows (enforce "read" ⟨"fs_read", some "read", "fs", "fs", some .readOnly, .obj [], "", none,
      none, none⟩ { name := "dev", capabilities := .ofList [("fs", .readWrite)] } allowed .none) :=
  (enforcement_laws "read" _ _ allowed .none rfl).1.mpr ⟨by decide, by decide, by decide,
    .readWrite, .readOnly, by decide, rfl, rfl⟩

/--
A tool without a family is refused by a failed contract although its profile admits it,
and an override for the raw name is not looked up for a call under another name.
-/
theorem enforcement_by_name :
    (∃ (toolName : String) (tool : ResolvedTool) (profile : ProfileConfig),
      toolName ≠ "" ∧ Admits profile .none toolName tool ∧
        ¬ Allows (enforce toolName tool profile allowed .none)) ∧
    ∃ (toolName rawName : String) (tool : ResolvedTool) (profile : ProfileConfig),
      tool.rawName = some rawName ∧ profile.override tool.family rawName = some .deny ∧
        Allows (enforce toolName tool profile allowed .none) := by
  constructor
  · refine ⟨"read", ⟨"read", some "read", "fs", "", some .readOnly, .obj [], "", none, none, none⟩,
      { name := "dev", capabilities := .ofList [("", .readWrite)] }, by decide,
      ⟨by decide, .readWrite, .readOnly, by decide, rfl, rfl⟩, ?_⟩
    intro allows
    exact ((allows_iff rfl).mp allows).2.1 rfl
  · refine ⟨"fs_read", "read",
      ⟨"fs_read", some "read", "fs", "fs", some .readOnly, .obj [], "", none, none, none⟩,
      { name := "dev"
        capabilities := .ofList [("fs", .readWrite)]
        toolOverrides := .ofList [("fs", ⟨.ofList [("read", .deny)]⟩)] }, rfl, by decide, ?_⟩
    exact (allows_iff rfl).mpr ⟨by decide, by decide, by decide, .readWrite, .readOnly, by decide,
      rfl, rfl⟩

end Tela
