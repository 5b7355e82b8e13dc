import Tela.Core.Config

/-!
# Loading of the configuration file

The file is read and parsed as YAML; the core turns the document into a configuration and
checks it. Every failure that is caught becomes an error text.
-/

namespace Tela

/-- What reading the configuration file comes to. -/
inductive ConfigFile
  | missing
  /-- An `OSError`, with its text. -/
  | unreadable (error : String)
  | content (bytes : List UInt8)

/-- What `yaml.safe_load` does with a text. -/
inductive YamlLoaded
  | document (value : Yaml)
  /-- A `YAMLError`, with its text. -/
  | invalid (error : String)
  | fails (exc : PyException)

/-- What loading takes from outside: the YAML loader, the model validation, the alphabet. -/
structure ConfigPlatform where
  safeLoad : String → YamlLoaded
  modelValidate : List (YamlScalar × Yaml) → Except ValidationErrors TelaConfig
  wide : Char → Bool

/-- The mapping at the top level; an empty document counts as one. -/
def topLevel : Yaml → Option (List (YamlScalar × Yaml))
  | .scalar .null => some []
  | .map entries => some entries
  | _ => none

/-- The checks on a parsed configuration, and its default profile in open mode. -/
def resolveConfig (config : TelaConfig) (defaultProfile : Option String) :
    Except PyException (Except String TelaConfig) := do
  let errors ← validateConfig config defaultProfile
  if errors ≠ [] then return .error (Text.join "; " errors)
  if requiresOpenModeDefaultResolution config.auth.mode then
    match resolveOpenModeDefaultProfile config.profiles defaultProfile with
    | .error (.contract code message) => return .error (code ++ ": " ++ message)
    | .error (.raised exc) => .error exc
    | .ok name => return .ok { config with resolvedDefaultProfile := some name }
  else return .ok config

/-- Load the local configuration from disk and environment. -/
def loadConfig (platform : ConfigPlatform) (configPath : String) (file : ConfigFile)
    (environ : Dict String String) (defaultProfile : Option String) :
    Except PyException (Except String TelaConfig) :=
  match file with
  | .missing =>
      .ok (.error s!"CONFIG_FILE_MISSING: configuration file not found at {configPath}")
  | .unreadable error => .ok (.error ("CONFIG_FILE_READ_ERROR: " ++ error))
  | .content bytes =>
      match Text.readText bytes with
      | none => .error unicodeDecodeError
      | some rawText =>
          match platform.safeLoad rawText with
          | .fails exc => .error exc
          | .invalid error => .ok (.error ("CONFIG_PARSE_ERROR: invalid YAML: " ++ error))
          | .document value =>
              match topLevel value with
              | none =>
                  .ok (.error "CONFIG_PARSE_ERROR: top-level YAML document must be a mapping")
              | some raw =>
                  match parseConfig platform.wide platform.modelValidate environ raw with
                  | .error (.contract code message) => .ok (.error (code ++ ": " ++ message))
                  | .error (.raised exc) => .error exc
                  | .ok config => resolveConfig config defaultProfile

end Tela
