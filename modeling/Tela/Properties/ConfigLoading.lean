import Tela.Properties.EnvironmentExpansion
import Tela.Shell.ConfigLoader

/-!
# Loading a configuration

Which files make the loading raise, and what holds of every configuration it returns.
-/

namespace Tela

/-! ## Default profiles -/

section Defaults

variable {profiles : Dict String ProfileConfig} {cliDefaultProfile : Option String} {name : String}

theorem absentOrNamed_iff : absentOrNamed cliDefaultProfile = true ↔ cliDefaultProfile ≠ some "" := by
  cases cliDefaultProfile with
  | none => exact iff_of_true rfl nofun
  | some name => simp [absentOrNamed]

/-- No name can be resolved as default profile without failing a contract. -/
def Undecidable (profiles : Dict String ProfileConfig) (cliDefaultProfile : Option String) : Prop :=
  cliDefaultProfile = some "" ∨ (cliDefaultProfile = none ∧ defaultProfiles profiles = [""])

/-- The name that the rules choose. -/
structure Chosen (profiles : Dict String ProfileConfig) (cliDefaultProfile : Option String)
    (name : String) : Prop where
  listed : profiles.contains name = true
  cli : ∀ other, cliDefaultProfile = some other → name = other
  unique : cliDefaultProfile = none → defaultProfiles profiles = [name]

theorem contains_of_default (unique : defaultProfiles profiles = [name]) :
    profiles.contains name = true := by
  have among : name ∈ defaultProfiles profiles := by
    rw [unique]
    exact List.mem_singleton_self _
  obtain ⟨entry, filtered, rfl⟩ := List.mem_map.mp among
  rw [Dict.contains]
  exact Dict.mem_keys_iff.mp (List.mem_map_of_mem (List.mem_of_mem_filter filtered))

theorem chooseDefaultProfile_ok
    (chose : chooseDefaultProfile profiles cliDefaultProfile = .ok name) :
    Chosen profiles cliDefaultProfile name := by
  unfold chooseDefaultProfile at chose
  split at chose
  · split at chose
    · rename_i listed
      cases chose
      exact ⟨listed, fun other same => Option.some.inj same, nofun⟩
    · cases chose
  · split at chose
    · rename_i unique
      cases chose
      exact ⟨contains_of_default unique, nofun, fun _ => unique⟩
    · cases chose
    · cases chose

theorem chooseDefaultProfile_error {failure : ConfigFailure}
    (failed : chooseDefaultProfile profiles cliDefaultProfile = .error failure) :
    ∃ code message, failure = .contract code message := by
  unfold chooseDefaultProfile at failed
  split at failed
  · split at failed
    · cases failed
    · cases failed
      exact ⟨_, _, rfl⟩
  · split at failed
    · cases failed
    · cases failed
      exact ⟨_, _, rfl⟩
    · cases failed
      exact ⟨_, _, rfl⟩

/-- How a resolution ends. -/
inductive Resolution (profiles : Dict String ProfileConfig) (cliDefaultProfile : Option String) :
    Except ConfigFailure String → Prop
  | raises (exc : PyException) (undecidable : Undecidable profiles cliDefaultProfile) :
      Resolution profiles cliDefaultProfile (.error (.raised exc))
  | reports (code message : String) (decidable : ¬ Undecidable profiles cliDefaultProfile) :
      Resolution profiles cliDefaultProfile (.error (.contract code message))
  | chooses (name : String) (decidable : ¬ Undecidable profiles cliDefaultProfile)
      (chosen : Chosen profiles cliDefaultProfile name) :
      Resolution profiles cliDefaultProfile (.ok name)

theorem resolution (profiles : Dict String ProfileConfig) (cliDefaultProfile : Option String) :
    Resolution profiles cliDefaultProfile
      (resolveOpenModeDefaultProfile profiles cliDefaultProfile) := by
  unfold resolveOpenModeDefaultProfile
  by_cases empty : cliDefaultProfile = some ""
  · subst empty
    exact .raises _ (.inl rfl)
  rw [precondition_true (absentOrNamed_iff.mpr empty)]
  dsimp only [ConfigFailure.ofException, bind, Except.bind]
  cases chose : chooseDefaultProfile profiles cliDefaultProfile with
  | error failure =>
      obtain ⟨code, message, rfl⟩ := chooseDefaultProfile_error chose
      refine .reports code message ?_
      rintro (same | ⟨rfl, unnamed⟩)
      · exact empty same
      · rw [chooseDefaultProfile, unnamed] at chose
        cases chose
  | ok name =>
      have chosen := chooseDefaultProfile_ok chose
      by_cases unnamed : name = ""
      · subst unnamed
        refine .raises _ (.inr ?_)
        cases cliDefaultProfile with
        | none => exact ⟨rfl, chosen.unique rfl⟩
        | some cli => exact absurd (congrArg some (chosen.cli cli rfl)).symm empty
      · have passed : postcondition "resolve_open_mode_default_profile" (name != "") = .ok () :=
          if_pos (bne_iff_ne.mpr unnamed)
        dsimp only
        rw [passed]
        refine .chooses name ?_ chosen
        rintro (same | ⟨absent, only⟩)
        · exact empty same
        · rw [chosen.unique absent] at only
          exact unnamed (List.head_eq_of_cons_eq only)

end Defaults

/-! ## Validation -/

section Validation

variable {config : TelaConfig} {defaultProfile : Option String}

/-- The validation of the configuration fails a contract. -/
def Unvalidatable (config : TelaConfig) (defaultProfile : Option String) : Prop :=
  defaultProfile = some "" ∨ (config.auth.mode = .open ∧ Undecidable config.profiles defaultProfile)

/-- How a validation ends, and what an empty list of errors says. -/
inductive Validation (config : TelaConfig) (defaultProfile : Option String) :
    Except PyException (List String) → Prop
  | raises (exc : PyException) (stuck : Unvalidatable config defaultProfile) :
      Validation config defaultProfile (.error exc)
  | reports (errors : List String) (sound : ¬ Unvalidatable config defaultProfile)
      (secrets : errors = [] → config.auth.mode = .token → config.auth.secrets ≠ []) :
      Validation config defaultProfile (.ok errors)

theorem secrets_of_no_errors {front back : List String}
    (none' : front ++ (if config.auth.mode = .token ∧ config.auth.secrets = [] then
      ["TOKEN_MODE_SECRETS_MISSING: token mode requires at least one secret."] else []) ++ back = [])
    (token : config.auth.mode = .token) : config.auth.secrets ≠ [] := by
  intro missing
  rw [if_pos ⟨token, missing⟩] at none'
  simp at none'

theorem validation (config : TelaConfig) (defaultProfile : Option String) :
    Validation config defaultProfile (validateConfig config defaultProfile) := by
  unfold validateConfig
  by_cases empty : defaultProfile = some ""
  · subst empty
    exact .raises _ (.inl rfl)
  rw [precondition_true (absentOrNamed_iff.mpr empty)]
  dsimp only [bind, Except.bind]
  by_cases opened : config.auth.mode = .open
  · have required : requiresOpenModeDefaultResolution config.auth.mode = true :=
      decide_eq_true opened
    have closed : ¬ config.auth.mode = .token := by
      rw [opened]
      nofun
    rw [if_pos required]
    generalize outcome : resolveOpenModeDefaultProfile config.profiles defaultProfile = resolved
    have how := resolution config.profiles defaultProfile
    rw [outcome] at how
    cases how with
    | raises exc undecidable => exact .raises exc (.inr ⟨opened, undecidable⟩)
    | reports code message decidable =>
        refine .reports _ ?_ fun none' token => absurd token closed
        rintro (same | ⟨-, undecidable⟩)
        · exact empty same
        · exact decidable undecidable
    | chooses name decidable chosen =>
        refine .reports _ ?_ fun none' token => absurd token closed
        rintro (same | ⟨-, undecidable⟩)
        · exact empty same
        · exact decidable undecidable
  · have required : ¬ requiresOpenModeDefaultResolution config.auth.mode = true :=
      fun required => opened (of_decide_eq_true required)
    rw [if_neg required]
    refine .reports _ ?_ fun none' token => secrets_of_no_errors none' token
    rintro (same | ⟨opened', -⟩)
    · exact empty same
    · exact opened opened'

/-- What holds of a configuration that was loaded. -/
structure Admissible (config : TelaConfig) (defaultProfile : Option String) : Prop where
  valid : validateConfig config defaultProfile = .ok []
  resolved : config.auth.mode = .open → ∃ name, config.resolvedDefaultProfile = some name ∧
    Chosen config.profiles defaultProfile name
  secrets : config.auth.mode = .token → config.auth.secrets ≠ []

/-- The stored default profile plays no part in the validation. -/
theorem validateConfig_resolved (name : Option String) :
    validateConfig { config with resolvedDefaultProfile := name } defaultProfile =
      validateConfig config defaultProfile := rfl

/-- How the checks after parsing end. -/
inductive Checked (config : TelaConfig) (defaultProfile : Option String) :
    Except PyException (Except String TelaConfig) → Prop
  | raises (exc : PyException) (stuck : Unvalidatable config defaultProfile) :
      Checked config defaultProfile (.error exc)
  | reports (error : String) (sound : ¬ Unvalidatable config defaultProfile) :
      Checked config defaultProfile (.ok (.error error))
  | accepts (resolved : TelaConfig) (sound : ¬ Unvalidatable config defaultProfile)
      (admissible : Admissible resolved defaultProfile) :
      Checked config defaultProfile (.ok (.ok resolved))

theorem checked (config : TelaConfig) (defaultProfile : Option String) :
    Checked config defaultProfile (resolveConfig config defaultProfile) := by
  unfold resolveConfig
  generalize validated : validateConfig config defaultProfile = outcome
  have how := validation config defaultProfile
  rw [validated] at how
  cases how with
  | raises exc stuck => exact .raises exc stuck
  | reports errors sound secrets =>
      dsimp only [bind, Except.bind]
      by_cases clean : errors = []
      · rw [if_neg (not_not.mpr clean)]
        rw [clean] at validated
        by_cases opened : config.auth.mode = .open
        · have required : requiresOpenModeDefaultResolution config.auth.mode = true :=
            decide_eq_true opened
          rw [if_pos required]
          generalize resolve : resolveOpenModeDefaultProfile config.profiles defaultProfile =
            resolved
          have chosen := resolution config.profiles defaultProfile
          rw [resolve] at chosen
          cases chosen with
          | raises exc undecidable => exact absurd (.inr ⟨opened, undecidable⟩) sound
          | reports code message decidable => exact .reports _ sound
          | chooses name decidable chosen =>
              refine .accepts _ sound ⟨?_, fun _ => ⟨name, rfl, chosen⟩, secrets clean⟩
              rw [validateConfig_resolved]
              exact validated
        · have required : ¬ requiresOpenModeDefaultResolution config.auth.mode = true :=
            fun required => opened (of_decide_eq_true required)
          rw [if_neg required]
          exact .accepts config sound ⟨validated, fun opened' => absurd opened' opened,
            secrets clean⟩
      · rw [if_pos clean]
        exact .reports _ sound

end Validation

/-! ## Parsing -/

section Parsing

variable {platform : ConfigPlatform} {environ : Dict String String}
  {reading : String → List EnvToken}

/-- The configuration that the model validation makes of a document. -/
def Models (platform : ConfigPlatform) (environ : Dict String String)
    (reading : String → List EnvToken) (raw : List (YamlScalar × Yaml)) (config : TelaConfig) :
    Prop :=
  ∃ expanded, (Yaml.map raw).traverse (expandedLeaf environ reading) = .ok (.map expanded) ∧
    platform.modelValidate (injectNames expanded) = .ok config

theorem Models.unique {raw : List (YamlScalar × Yaml)} {config config' : TelaConfig}
    (models : Models platform environ reading raw config)
    (models' : Models platform environ reading raw config') : config = config' := by
  obtain ⟨expanded, done, accepted⟩ := models
  obtain ⟨expanded', done', accepted'⟩ := models'
  rw [done] at done'
  cases done'
  rw [accepted] at accepted'
  exact Except.ok.inj accepted'

/-- Builtin profiles in place of none. -/
def withBuiltins (config : TelaConfig) : TelaConfig :=
  if config.profiles.entries = [] then
    { config with profiles := mergeWithBuiltins config.profiles }
  else config

/-- The document can be expanded, and its keys are strings. -/
def Parsable (environ : Dict String String) (reading : String → List EnvToken)
    (raw : List (YamlScalar × Yaml)) : Prop :=
  (∀ entry ∈ raw, entry.1.isStr = true) ∧ Expandable environ reading (.map raw)

/-- How parsing ends. -/
inductive Parsed (platform : ConfigPlatform) (environ : Dict String String)
    (reading : String → List EnvToken) (raw : List (YamlScalar × Yaml)) :
    Except ConfigFailure TelaConfig → Prop
  | raises (exc : PyException) (stuck : ¬ Parsable environ reading raw) :
      Parsed platform environ reading raw (.error (.raised exc))
  | reports (code message : String) (parsable : Parsable environ reading raw)
      (unmodelled : ∀ config, ¬ Models platform environ reading raw config) :
      Parsed platform environ reading raw (.error (.contract code message))
  | yields (config : TelaConfig) (parsable : Parsable environ reading raw)
      (models : Models platform environ reading raw config) :
      Parsed platform environ reading raw (.ok (withBuiltins config))

theorem traverse_map {ε : Type} {change : YamlScalar → Except ε YamlScalar}
    {raw : List (YamlScalar × Yaml)} {value : Yaml}
    (done : (Yaml.map raw).traverse change = .ok value) : ∃ expanded, value = .map expanded := by
  rw [Yaml.traverse] at done
  obtain ⟨expanded, -, done⟩ := bind_ok done
  exact ⟨expanded, (Except.ok.inj done).symm⟩

theorem parsed (reads : ∀ text, Tokens platform.wide text.toList (reading text))
    (raw : List (YamlScalar × Yaml)) :
    Parsed platform environ reading raw
      (parseConfig platform.wide platform.modelValidate environ raw) := by
  unfold parseConfig
  by_cases keys : ∀ entry ∈ raw, entry.1.isStr = true
  · rw [precondition_true (List.all_eq_true.mpr keys)]
    dsimp only [ConfigFailure.ofException, bind, Except.bind]
    by_cases expandable : Expandable environ reading (.map raw)
    · rw [(expandEnvInObject_iff reads _).mpr expandable]
      cases expanded : (Yaml.map raw).traverse (expandedLeaf environ reading) with
      | error failure =>
          obtain ⟨message, rfl⟩ := traverse_expandedLeaf_error expanded
          refine .reports _ _ ⟨keys, expandable⟩ ?_
          rintro config ⟨entries, done, -⟩
          rw [expanded] at done
          cases done
      | ok value =>
          obtain ⟨entries, rfl⟩ := traverse_map expanded
          dsimp only
          cases modelled : platform.modelValidate (injectNames entries) with
          | error errors =>
              refine .reports _ _ ⟨keys, expandable⟩ ?_
              rintro config ⟨entries', done, accepted⟩
              rw [expanded] at done
              cases done
              rw [modelled] at accepted
              cases accepted
          | ok config =>
              have models : Models platform environ reading raw config :=
                ⟨entries, expanded, modelled⟩
              have yields := Parsed.yields config ⟨keys, expandable⟩ models
              unfold withBuiltins at yields
              dsimp only
              split at yields
              · rename_i none'
                rw [if_pos none']
                exact yields
              · rename_i some'
                rw [if_neg some']
                exact yields
    · obtain ⟨exc, failed⟩ := expandEnvInObject_raises reads expandable
      rw [failed]
      exact .raises exc fun parsable => expandable parsable.2
  · have failed : precondition "parse_config" (raw.all (·.1.isStr)) = .error _ :=
      if_neg fun all => keys (List.all_eq_true.mp all)
    rw [failed]
    exact .raises _ fun parsable => keys parsable.1

/-- No builtin profile is a default, so they leave the choice as it is. -/
theorem undecidable_withBuiltins (config : TelaConfig) (defaultProfile : Option String) :
    Unvalidatable (withBuiltins config) defaultProfile ↔ Unvalidatable config defaultProfile := by
  unfold withBuiltins
  split
  · rename_i none'
    have merged : defaultProfiles (mergeWithBuiltins config.profiles) = [] := by
      rw [mergeWithBuiltins, none']
      decide +kernel
    have bare : defaultProfiles config.profiles = [] := by
      rw [defaultProfiles, none']
      rfl
    unfold Unvalidatable Undecidable
    dsimp only
    rw [merged, bare]
  · exact Iff.rfl

/--
The loading returns: the file is missing, cannot be read or is UTF-8 text on which the YAML
loader raises nothing but its own errors; a mapping in it has string keys and expands; and no
contract of the validation fails on the configuration it models.
-/
def Loadable (platform : ConfigPlatform) (environ : Dict String String)
    (reading : String → List EnvToken) (file : ConfigFile) (defaultProfile : Option String) : Prop :=
  ∀ bytes, file = .content bytes → ∃ rawText, Text.readText bytes = some rawText ∧
    (∀ exc, platform.safeLoad rawText ≠ .fails exc) ∧
    ∀ value raw, platform.safeLoad rawText = .document value → topLevel value = some raw →
      Parsable environ reading raw ∧
      ∀ config, Models platform environ reading raw config → ¬ Unvalidatable config defaultProfile

/-- How the loading ends. -/
inductive Loaded (platform : ConfigPlatform) (environ : Dict String String)
    (reading : String → List EnvToken) (file : ConfigFile) (defaultProfile : Option String) :
    Except PyException (Except String TelaConfig) → Prop
  | raises (exc : PyException) (stuck : ¬ Loadable platform environ reading file defaultProfile) :
      Loaded platform environ reading file defaultProfile (.error exc)
  | reports (error : String) (loadable : Loadable platform environ reading file defaultProfile) :
      Loaded platform environ reading file defaultProfile (.ok (.error error))
  | accepts (config : TelaConfig) (loadable : Loadable platform environ reading file defaultProfile)
      (admissible : Admissible config defaultProfile) :
      Loaded platform environ reading file defaultProfile (.ok (.ok config))

theorem loaded (reads : ∀ text, Tokens platform.wide text.toList (reading text))
    (configPath : String) (file : ConfigFile) (defaultProfile : Option String) :
    Loaded platform environ reading file defaultProfile
      (loadConfig platform configPath file environ defaultProfile) := by
  cases file with
  | missing => exact .reports _ nofun
  | unreadable error => exact .reports _ nofun
  | content bytes =>
      unfold loadConfig
      dsimp only
      cases text : Text.readText bytes with
      | none =>
          refine .raises _ fun loadable => ?_
          obtain ⟨rawText, readable, -⟩ := loadable bytes rfl
          rw [text] at readable
          cases readable
      | some rawText =>
          -- what the condition says once the text is known
          have loadable_iff : Loadable platform environ reading (.content bytes) defaultProfile ↔
              (∀ exc, platform.safeLoad rawText ≠ .fails exc) ∧
              ∀ value raw, platform.safeLoad rawText = .document value → topLevel value = some raw →
                Parsable environ reading raw ∧ ∀ config,
                  Models platform environ reading raw config →
                    ¬ Unvalidatable config defaultProfile := by
            constructor
            · intro loadable
              obtain ⟨rawText', readable, conditions⟩ := loadable bytes rfl
              rw [text] at readable
              cases readable
              exact conditions
            · rintro conditions _ ⟨⟩
              exact ⟨rawText, text, conditions⟩
          dsimp only
          cases document : platform.safeLoad rawText with
          | fails exc =>
              exact .raises exc fun loadable => (loadable_iff.mp loadable).1 exc document
          | invalid error =>
              refine .reports _ (loadable_iff.mpr ⟨?_, ?_⟩)
              · rw [document]
                nofun
              · rw [document]
                nofun
          | document value =>
              have calm (exc : PyException) : platform.safeLoad rawText ≠ .fails exc := by
                rw [document]
                nofun
              dsimp only
              cases top : topLevel value with
              | none =>
                  refine .reports _ (loadable_iff.mpr ⟨calm, ?_⟩)
                  intro value' raw same top'
                  rw [document] at same
                  cases same
                  rw [top] at top'
                  cases top'
              | some raw =>
                  have loadable_iff' : Loadable platform environ reading (.content bytes)
                      defaultProfile ↔ Parsable environ reading raw ∧ ∀ config,
                        Models platform environ reading raw config →
                          ¬ Unvalidatable config defaultProfile := by
                    rw [loadable_iff]
                    constructor
                    · exact fun conditions => conditions.2 value raw document top
                    · rintro conditions
                      refine ⟨calm, fun value' raw' same top' => ?_⟩
                      rw [document] at same
                      cases same
                      rw [top] at top'
                      cases top'
                      exact conditions
                  dsimp only
                  generalize parse : parseConfig platform.wide platform.modelValidate environ raw =
                    outcome
                  have how : Parsed platform environ reading raw _ := parsed reads raw
                  rw [parse] at how
                  cases how with
                  | raises exc stuck =>
                      exact .raises exc fun loadable => stuck (loadable_iff'.mp loadable).1
                  | reports code message parsable unmodelled =>
                      exact .reports _ (loadable_iff'.mpr
                        ⟨parsable, fun config models => absurd models (unmodelled config)⟩)
                  | yields config parsable models =>
                      have sound_iff : Loadable platform environ reading (.content bytes)
                          defaultProfile ↔
                            ¬ Unvalidatable (withBuiltins config) defaultProfile := by
                        rw [loadable_iff', undecidable_withBuiltins]
                        constructor
                        · exact fun conditions => conditions.2 config models
                        · intro sound
                          refine ⟨parsable, fun config' models' => ?_⟩
                          rw [models'.unique models]
                          exact sound
                      dsimp only
                      generalize resolve : resolveConfig (withBuiltins config) defaultProfile =
                        result
                      have ends := checked (withBuiltins config) defaultProfile
                      rw [resolve] at ends
                      cases ends with
                      | raises exc stuck =>
                          exact .raises exc fun loadable => sound_iff.mp loadable stuck
                      | reports error sound => exact .reports error (sound_iff.mpr sound)
                      | accepts resolved sound admissible =>
                          exact .accepts resolved (sound_iff.mpr sound) admissible

end Parsing

/--
Loading returns a result, and only admissible configurations, exactly if the file can be
loaded. Whatever it returns as a configuration is admissible.
-/
theorem config_loading (platform : ConfigPlatform) (configPath : String) (file : ConfigFile)
    (environ : Dict String String) (defaultProfile : Option String) :
    (∃ reading : String → List EnvToken, ∀ text, Tokens platform.wide text.toList (reading text)) ∧
    (∀ reading : String → List EnvToken,
      (∀ text, Tokens platform.wide text.toList (reading text)) →
      (((∃ result, loadConfig platform configPath file environ defaultProfile = .ok result) ∧
        ∀ config, loadConfig platform configPath file environ defaultProfile = .ok (.ok config) →
          Admissible config defaultProfile) ↔
        Loadable platform environ reading file defaultProfile)) ∧
    ∀ config, loadConfig platform configPath file environ defaultProfile = .ok (.ok config) →
      Admissible config defaultProfile := by
  have readable : ∃ reading : String → List EnvToken,
      ∀ text, Tokens platform.wide text.toList (reading text) := by
    have tokens (text : String) : ∃ tokens, Tokens platform.wide text.toList tokens :=
      exists_tokens text.toList
    choose reading reads using tokens
    exact ⟨reading, reads⟩
  have admissible (config : TelaConfig)
      (done : loadConfig platform configPath file environ defaultProfile = .ok (.ok config)) :
      Admissible config defaultProfile := by
    obtain ⟨reading, reads⟩ := readable
    have ends : Loaded platform environ reading file defaultProfile _ :=
      loaded reads configPath file defaultProfile
    rw [done] at ends
    cases ends with
    | accepts config loadable admissible => exact admissible
  refine ⟨readable, fun reading reads => ?_, admissible⟩
  generalize load : loadConfig platform configPath file environ defaultProfile = outcome
    at admissible
  have ends : Loaded platform environ reading file defaultProfile _ :=
    loaded reads configPath file defaultProfile
  rw [load] at ends
  cases ends with
  | raises exc stuck => exact iff_of_false (fun given => by cases given.1; contradiction) stuck
  | reports error loadable => exact iff_of_true ⟨⟨_, rfl⟩, admissible⟩ loadable
  | accepts config loadable _ => exact iff_of_true ⟨⟨_, rfl⟩, admissible⟩ loadable

/-- A date in the document makes the loading raise. -/
theorem config_loading_violated :
    ¬ ∀ (platform : ConfigPlatform) (configPath : String) (file : ConfigFile)
      (environ : Dict String String) (defaultProfile : Option String),
      ∃ result, loadConfig platform configPath file environ defaultProfile = .ok result := by
  intro law
  let platform : ConfigPlatform := {
    safeLoad := fun _ => .document (.map [(.str "since", .scalar (.date "2026-01-01"))])
    modelValidate := fun _ => .ok {}
    wide := fun _ => false }
  obtain ⟨result, done⟩ := law platform "tela.yaml" (.content (Text.utf8 "since: 2026-01-01")) ∅ none
  have text : Text.readText (Text.utf8 "since: 2026-01-01") = some "since: 2026-01-01" :=
    Text.readText_utf8 (by decide)
  unfold loadConfig at done
  dsimp only at done
  rw [text] at done
  cases done

end Tela
