import Tela.Core.Models

/-!
# Enforcement chain

Family admission, profile override and posture ceiling decide on a tool call. The
explanation of a decision walks the same steps.
-/

namespace Tela

/-! ## Postures -/

def Posture.order : Posture → Nat
  | .none => 0
  | .readOnly => 1
  | .readWrite => 2
  | .destructive => 3

/-- The value of the posture on the wire. -/
def Posture.value : Posture → String
  | .none => "none"
  | .readOnly => "read_only"
  | .readWrite => "read_write"
  | .destructive => "destructive"

/-- Compare postures along `NONE < READ_ONLY < READ_WRITE < DESTRUCTIVE`. -/
def postureLe (a b : Posture) : Bool := a.order ≤ b.order

/-! ## The steps -/

/-- The result that lets a call through. -/
def allowed : EnforcementResult := ⟨.allow, none, none, none⟩

/-- Check if the family of a tool is admitted by the profile. -/
def checkFamilyAdmission (family : String) (profile : ProfileConfig) :
    Except PyException EnforcementResult := do
  precondition "check_family_admission" (family != "")
  if profile.capabilities.contains family then return allowed
  else return ⟨.deny, some "family_admission", some "AUTHZ_DENY",
    some s!"Family '{family}' is not admitted by profile_id '{profile.name}'"⟩

/-- The override of the profile for the tool, if there is one. -/
def checkToolOverride (toolName family : String) (profile : ProfileConfig) :
    Except PyException (Option EnforcementResult) := do
  precondition "check_tool_override" (toolName != "" && family != "")
  match (profile.toolOverrides.get? family).bind fun familyOverrides =>
      familyOverrides.overrides.get? toolName with
  | none => return none
  | some .allow => return some allowed
  | some .deny => return some ⟨.deny, some "tool_override", some "AUTHZ_DENY",
      some s!"Tool '{toolName}' explicitly denied by profile override"⟩

/-- Check if the posture of a tool is within the family ceiling. -/
def checkPosture (toolPosture : Option Posture) (familyCeiling defaultPosture : Posture) :
    EnforcementResult :=
  let effective := toolPosture.getD defaultPosture
  if effective = .none && toolPosture.isNone then
    ⟨.deny, some "posture_ceiling", some "TOOL_UNCLASSIFIED",
      some "Tool is unclassified and server default_posture is NONE"⟩
  else if postureLe effective familyCeiling then allowed
  else
    ⟨.deny, some "posture_ceiling", some "AUTHZ_DENY",
      some s!"Tool posture {effective.value} exceeds ceiling {familyCeiling.value}"⟩

/-- The ceiling of an admitted family. -/
def ProfileConfig.ceiling (profile : ProfileConfig) (family : String) : Posture :=
  (profile.capabilities.get? family).getD .none

/-! ## Decision and explanation -/

/-- Run the enforcement chain for a tool call. -/
def enforce (toolName : String) (tool : ResolvedTool) (profile : ProfileConfig)
    (tokenResult : EnforcementResult) (defaultPosture : Posture) :
    Except PyException EnforcementResult := do
  precondition "enforce" (toolName != "" && tokenResult.verdict = .allow)
  let familyResult ← checkFamilyAdmission tool.family profile
  if familyResult.verdict = .deny then return familyResult
  let overrideResult ← checkToolOverride toolName tool.family profile
  match overrideResult.filter (·.verdict = .deny) with
  | some denied => return denied
  | none =>
      let postureResult := checkPosture tool.posture (profile.ceiling tool.family) defaultPosture
      if postureResult.verdict = .deny then return postureResult
      return allowed

/-- The diagnostic mapping of one tool. -/
structure AuthorizationExplanation where
  visible : Bool
  hidden : Bool
  allowed : Bool
  denied : Bool
  stage : String
  reason : String
  errorCode : Option String := none
  deniedBy : Option String := none

/-- The explanation of a denial; its detail is the first text that the denial gives. -/
def authorizationExplainDenied (result : EnforcementResult) (stage : String) :
    AuthorizationExplanation :=
  let detail := (((result.errorMessage.filter (· ≠ "")).or (result.errorCode.filter (· ≠ ""))).or
    (result.deniedBy.filter (· ≠ ""))).getD stage
  ⟨false, true, false, true, stage, s!"{stage}: {detail}", result.errorCode, result.deniedBy⟩

/-- Explain the visibility and the call authorization of one tool. -/
def explainAuthorization (toolName : String) (tool : ResolvedTool) (profile : ProfileConfig)
    (tokenResult : EnforcementResult) (defaultPosture : Posture) :
    Except PyException AuthorizationExplanation := do
  precondition "explain_authorization" (toolName != "")
  if tokenResult.verdict = .deny then
    return authorizationExplainDenied tokenResult "token_validation"
  let familyResult ← checkFamilyAdmission tool.family profile
  if familyResult.verdict = .deny then
    return authorizationExplainDenied familyResult "family_admission"
  let overrideResult ← checkToolOverride toolName tool.family profile
  match overrideResult.filter (·.verdict = .deny) with
  | some denied => return authorizationExplainDenied denied "tool_override"
  | none =>
      let postureResult := checkPosture tool.posture (profile.ceiling tool.family) defaultPosture
      if postureResult.verdict = .deny then
        return authorizationExplainDenied postureResult "posture_ceiling"
      return ⟨true, false, true, false, "allowed", "authorized", none, none⟩

/-! ## What the chain decides -/

/-- The profile lets a tool through under the default posture of its server. -/
structure Permits (profile : ProfileConfig) (defaultPosture : Posture) (toolName : String)
    (tool : ResolvedTool) : Prop where
  admitted : profile.capabilities.contains tool.family = true
  undenied : (profile.toolOverrides.get? tool.family).bind (·.overrides.get? toolName) ≠ some .deny
  within : (checkPosture tool.posture (profile.ceiling tool.family) defaultPosture).verdict = .allow

theorem checkFamilyAdmission_verdict (profile : ProfileConfig) {family : String}
    (named : family ≠ "") :
    ∃ result, checkFamilyAdmission family profile = .ok result ∧
      (result.verdict = .deny ↔ profile.capabilities.contains family = false) := by
  unfold checkFamilyAdmission
  rw [precondition_true (bne_iff_ne.mpr named)]
  cases contained : profile.capabilities.contains family with
  | true => exact ⟨allowed, rfl, by simp [allowed]⟩
  | false => exact ⟨_, rfl, by simp⟩

theorem checkToolOverride_verdict (profile : ProfileConfig) {toolName family : String}
    (toolNamed : toolName ≠ "") (named : family ≠ "") :
    ∃ result, checkToolOverride toolName family profile = .ok result ∧
      (result.filter (·.verdict = .deny) = none ↔
        (profile.toolOverrides.get? family).bind (·.overrides.get? toolName) ≠ some .deny) := by
  unfold checkToolOverride
  rw [precondition_true (by simp [toolNamed, named])]
  dsimp only [bind, Except.bind]
  cases (profile.toolOverrides.get? family).bind (·.overrides.get? toolName) with
  | none => exact ⟨none, rfl, by simp⟩
  | some verdict =>
      cases verdict with
      | allow => exact ⟨some allowed, rfl, by simp [allowed]⟩
      | deny => exact ⟨_, rfl, by simp⟩

/-- The chain raises on an empty name or family only. -/
theorem enforce_ok {toolName : String} {tool : ResolvedTool} {profile : ProfileConfig}
    {defaultPosture : Posture} {result : EnforcementResult}
    (ran : enforce toolName tool profile allowed defaultPosture = .ok result) :
    toolName ≠ "" ∧ tool.family ≠ "" := by
  unfold enforce at ran
  obtain ⟨_, named, ran⟩ := bind_ok ran
  obtain ⟨_, family, -⟩ := bind_ok ran
  unfold checkFamilyAdmission at family
  obtain ⟨_, familyNamed, -⟩ := bind_ok family
  have toolNamed := ((Bool.and_eq_true _ _).mp (precondition_ok named)).1
  exact ⟨bne_iff_ne.mp toolNamed, bne_iff_ne.mp (precondition_ok familyNamed)⟩

/-- The decision and its explanation let a tool through exactly if the profile permits it. -/
theorem enforce_iff (profile : ProfileConfig) (defaultPosture : Posture) {toolName : String}
    {tool : ResolvedTool} (named : toolName ≠ "") (family : tool.family ≠ "") :
    ∃ result explanation,
      enforce toolName tool profile allowed defaultPosture = .ok result ∧
      explainAuthorization toolName tool profile allowed defaultPosture = .ok explanation ∧
      (result.verdict = .allow ↔ Permits profile defaultPosture toolName tool) ∧
      (explanation.visible = true ↔ Permits profile defaultPosture toolName tool) := by
  obtain ⟨familyResult, admission, admitted⟩ := checkFamilyAdmission_verdict profile family
  obtain ⟨overrideResult, override, undenied⟩ := checkToolOverride_verdict profile named family
  unfold enforce explainAuthorization
  rw [precondition_true (by simp [named, allowed]), precondition_true (by simp [named]), admission]
  dsimp only [bind, Except.bind]
  have token : ¬ allowed.verdict = .deny := nofun
  rw [if_neg token]
  by_cases rejected : familyResult.verdict = .deny
  · rw [if_pos rejected, if_pos rejected]
    have refused : ¬ Permits profile defaultPosture toolName tool := by
      intro permits
      have contained := permits.admitted
      rw [admitted.mp rejected] at contained
      cases contained
    exact ⟨familyResult, _, rfl, rfl, iff_of_false (by rw [rejected]; nofun) refused,
      iff_of_false nofun refused⟩
  · rw [if_neg rejected, if_neg rejected, override]
    dsimp only
    cases denial : overrideResult.filter (·.verdict = .deny) with
    | some denied =>
        have refused : ¬ Permits profile defaultPosture toolName tool := by
          intro permits
          have none := undenied.mpr permits.undenied
          rw [denial] at none
          cases none
        have verdict : denied.verdict = .deny :=
          of_decide_eq_true (Option.filter_eq_some_iff.mp denial).2
        exact ⟨denied, _, rfl, rfl, iff_of_false (by rw [verdict]; nofun) refused,
          iff_of_false nofun refused⟩
    | none =>
        dsimp only
        by_cases beyond : (checkPosture tool.posture (profile.ceiling tool.family)
          defaultPosture).verdict = .deny
        · rw [if_pos beyond, if_pos beyond]
          have refused : ¬ Permits profile defaultPosture toolName tool := by
            intro permits
            have within := permits.within
            rw [beyond] at within
            cases within
          exact ⟨_, _, rfl, rfl, iff_of_false (by rw [beyond]; nofun) refused,
            iff_of_false nofun refused⟩
        · rw [if_neg beyond, if_neg beyond]
          have permits : Permits profile defaultPosture toolName tool := by
            constructor
            · cases contained : profile.capabilities.contains tool.family with
              | true => rfl
              | false => exact absurd (admitted.mpr contained) rejected
            · exact undenied.mp denial
            · cases verdict : (checkPosture tool.posture (profile.ceiling tool.family)
                defaultPosture).verdict with
              | allow => rfl
              | deny => exact absurd verdict beyond
          exact ⟨_, _, rfl, rfl, iff_of_true rfl permits, iff_of_true rfl permits⟩

end Tela
