import Tela.Core.Models

/-!
# Parsing and validation of the configuration

The document that the YAML loader yields, the expansion of environment references in it,
and the checks on the configuration it is read as.
-/

namespace Tela

/-- How a configuration step fails: `ConfigContractError`, or any other exception. -/
inductive ConfigFailure
  | contract (code message : String)
  | raised (exc : PyException)
  deriving DecidableEq, Repr

def ConfigFailure.ofException {α : Type} : Except PyException α → Except ConfigFailure α
  | .ok value => .ok value
  | .error exc => .error (.raised exc)

/-! ## YAML documents -/

/-- The values of a document that hold no others; keys are among them. -/
inductive YamlScalar
  | null
  | bool (flag : Bool)
  | int (value : Int)
  | float (text : String)
  | str (text : String)
  /-- A date or a date-time. -/
  | date (text : String)
  deriving DecidableEq, Repr

/-- A document; the keys of a mapping need not be strings. -/
inductive Yaml
  | scalar (value : YamlScalar)
  | list (items : List Yaml)
  | map (entries : List (YamlScalar × Yaml))

def YamlScalar.isStr : YamlScalar → Bool
  | .str _ => true
  | _ => false

/-! ## Environment references -/

section Expansion

variable (wide : Char → Bool) (env : Dict String String)

/-- `isalnum` or an underscore; `wide` tells which characters beyond ASCII are alphanumeric. -/
def isNameChar (c : Char) : Bool :=
  c.isAlphanum || c = '_' || (decide (128 ≤ c.toNat) && wide c)

/-- The value of a reference. -/
def environmentValue (name : List Char) : Except ConfigFailure (List Char) :=
  match env.get? (String.ofList name) with
  | some replacement => .ok replacement.toList
  | none => .error (.contract "CONFIG_ENV_UNSET"
      s!"Environment variable '{String.ofList name}' is not set. Unset variables cause a startup error.")

/-- The scan of `_expand_env_token` from some index on. -/
def scanEnv : List Char → Except ConfigFailure (List Char)
  | [] => .ok []
  | '$' :: '{' :: after =>
      match _closing : after.dropWhile (· != '}') with
      | [] => do return '$' :: (← scanEnv ('{' :: after))
      | _ :: rest => do
          let replacement ← environmentValue env (after.takeWhile (· != '}'))
          return replacement ++ (← scanEnv rest)
  | '$' :: after =>
      match after.takeWhile (isNameChar wide) with
      | [] => do return '$' :: (← scanEnv after)
      | name => do
          let replacement ← environmentValue env name
          return replacement ++ (← scanEnv (after.dropWhile (isNameChar wide)))
  | c :: rest => do return c :: (← scanEnv rest)
termination_by text => text.length
decreasing_by
  · simp
  · have shorter := (List.dropWhile_sublist (p := (· != '}')) (l := after)).length_le
    rw [_closing] at shorter
    simp only [List.length_cons] at shorter ⊢
    omega
  · simp
  · have shorter := (List.dropWhile_sublist (p := isNameChar wide) (l := after)).length_le
    simp only [List.length_cons]
    omega
  · simp

/-- Expand `$VAR` and `${VAR}` in one string. -/
def expandEnvToken (value : String) : Except ConfigFailure String := do
  let result ← scanEnv wide env value.toList
  ConfigFailure.ofException (postcondition "_expand_env_token" (!Text.occursIn ['$', '\x00'] result))
  return String.ofList result

/-- The types that the contract of the recursive expansion takes. -/
def Yaml.isExpandable : Yaml → Bool
  | .scalar (.date _) => false
  | _ => true

mutual

/-- Expand the references in all string leaves. -/
def expandEnvInObject (value : Yaml) : Except ConfigFailure Yaml :=
  match value with
  | .scalar (.str text) => do return .scalar (.str (← expandEnvToken wide env text))
  | .scalar value => do
      ConfigFailure.ofException (precondition "_expand_env_in_object" (Yaml.scalar value).isExpandable)
      return .scalar value
  | .list items => do return .list (← expandEnvInItems items)
  | .map entries => do return .map (← expandEnvInEntries entries)

def expandEnvInItems : List Yaml → Except ConfigFailure (List Yaml)
  | [] => .ok []
  | item :: rest => do
      let expanded ← expandEnvInObject item
      return expanded :: (← expandEnvInItems rest)

def expandEnvInEntries : List (YamlScalar × Yaml) → Except ConfigFailure (List (YamlScalar × Yaml))
  | [] => .ok []
  | (key, item) :: rest => do
      let expanded ← expandEnvInObject item
      return (key, expanded) :: (← expandEnvInEntries rest)

end

end Expansion

/-! ## Parsing -/

/-- Builtin profiles; none of them is a default. -/
def builtinProfiles : Dict String ProfileConfig :=
  .ofList (List.map (fun profile : ProfileConfig => (profile.name, profile)) [
    { name := "read_only", capabilities := .ofList [("filesystem", .readOnly)] },
    { name := "fetch_external"
      capabilities := .ofList [("filesystem", .readOnly), ("network", .readOnly)] },
    { name := "modify_local", capabilities := .ofList [("filesystem", .readWrite)] },
    { name := "send_external"
      capabilities := .ofList [("filesystem", .readOnly), ("network", .readWrite)] },
    { name := "orchestrate"
      capabilities := .ofList [("filesystem", .readOnly), ("network", .readOnly),
        ("orchestration", .readWrite)] },
    { name := "execute_safe"
      capabilities := .ofList [("filesystem", .readWrite), ("network", .readWrite),
        ("orchestration", .readWrite), ("execution", .readWrite)] },
    { name := "execute_full"
      capabilities := .ofList [("filesystem", .destructive), ("network", .destructive),
        ("orchestration", .destructive), ("execution", .destructive)] }])

/-- Merge user profiles with the builtin ones; the user's take precedence. -/
def mergeWithBuiltins (userProfiles : Dict String ProfileConfig) : Dict String ProfileConfig :=
  builtinProfiles.setAll userProfiles.entries

/-- `value["name"] = key` where the value is a mapping without a name. -/
def injectName (key : YamlScalar) : Yaml → Yaml
  | .map entries =>
      if entries.any (·.1 = .str "name") then .map entries
      else .map (entries ++ [(.str "name", .scalar key)])
  | value => value

/-- The name of a server or profile is its key in the section. -/
def injectNames (expanded : List (YamlScalar × Yaml)) : List (YamlScalar × Yaml) :=
  expanded.map fun (key, value) =>
    if key = .str "servers" ∨ key = .str "profiles" then
      match value with
      | .map entries => (key, .map (entries.map fun (name, item) => (name, injectName name item)))
      | value => (key, value)
    else (key, value)

/-- The errors of a model validation, each with its location. -/
abbrev ValidationErrors := List (List String × String)

/-- Parse a raw document; `modelValidate` builds the model or reports what is wrong with it. -/
def parseConfig (wide : Char → Bool)
    (modelValidate : List (YamlScalar × Yaml) → Except ValidationErrors TelaConfig)
    (env : Dict String String) (raw : List (YamlScalar × Yaml)) :
    Except ConfigFailure TelaConfig := do
  ConfigFailure.ofException (precondition "parse_config" (raw.all (·.1.isStr)))
  match ← expandEnvInObject wide env (.map raw) with
  | .map expanded =>
      match modelValidate (injectNames expanded) with
      | .error errors =>
          .error (.contract "CONFIG_PARSE_ERROR" ("Configuration parse failed: " ++
            Text.join "; " (errors.map fun (loc, msg) => Text.join "." loc ++ ": " ++ msg)))
      | .ok config =>
          if config.profiles.entries = [] then
            return { config with profiles := mergeWithBuiltins config.profiles }
          else return config
  | _ => .error (.contract "CONFIG_PARSE_ERROR" "Top-level configuration must be a mapping.")

/-! ## Validation -/

def requiresOpenModeDefaultResolution (authMode : AuthMode) : Bool := authMode = .open

/-- An optional name is absent or not empty. -/
def absentOrNamed (name : Option String) : Bool := name.all (· != "")

/-- The names of the profiles marked as default. -/
def defaultProfiles (profiles : Dict String ProfileConfig) : List String :=
  (profiles.entries.filter (·.2.default)).map Prod.fst

/-- The CLI profile if there is one, else the only profile marked as default. -/
def chooseDefaultProfile (profiles : Dict String ProfileConfig) :
    Option String → Except ConfigFailure String
  | some name =>
      if profiles.contains name then .ok name
      else .error (.contract "PROFILE_NOT_FOUND"
        s!"CLI default profile '{name}' was not found in local configuration profiles.")
  | none =>
      match defaultProfiles profiles with
      | [name] => .ok name
      | [] => .error (.contract "OPEN_MODE_DEFAULT_PROFILE_MISSING"
          ("Open mode requires either CLI --default-profile or exactly one " ++
            "profile with default=true."))
      | defaults => .error (.contract "OPEN_MODE_DEFAULT_PROFILE_AMBIGUOUS"
          ("Open mode has multiple default profiles marked true: " ++
            Text.join ", " (Text.sorted defaults) ++ "."))

/-- Resolve the profile that open mode binds connections to. -/
def resolveOpenModeDefaultProfile (profiles : Dict String ProfileConfig)
    (cliDefaultProfile : Option String) : Except ConfigFailure String := do
  ConfigFailure.ofException
    (precondition "resolve_open_mode_default_profile" (absentOrNamed cliDefaultProfile))
  let name ← chooseDefaultProfile profiles cliDefaultProfile
  ConfigFailure.ofException (postcondition "resolve_open_mode_default_profile" (name != ""))
  return name

/-- The errors of one server. -/
def serverErrors (name : String) (server : ServerConfig) : List String :=
  let hasCommand := server.command.isSome
  let hasUrl := server.url.isSome
  (if !hasCommand && !hasUrl then
    [s!"SERVER_MISSING_TRANSPORT: server '{name}' must define either 'command' or 'url'."]
  else if hasCommand && hasUrl then
    [s!"SERVER_AMBIGUOUS_TRANSPORT: server '{name}' must define either 'command' or 'url', not both."]
  else if hasCommand && !server.headers.entries.isEmpty then
    [s!"SERVER_HEADERS_WITH_STDIO: server '{name}' uses 'command' transport, but 'headers' are configured. Headers are only supported for 'url' HTTP/SSE transports."]
  else []) ++
  (match server.toolPrefix with
  | none => []
  | some toolPrefix =>
      (if reservedNamespace toolPrefix then
        [s!"SERVER_RESERVED_PREFIX: server '{name}' tool_prefix '{toolPrefix}' uses reserved 'tela_' or 'tela.' namespace."]
      else []) ++
      (if toolPrefix.toList.contains '.' then
        [s!"SERVER_INVALID_PREFIX: server '{name}' tool_prefix '{toolPrefix}' contains invalid dotted syntax; use snake_case."]
      else [])) ++
  (if server.nestedGateway && !truthy server.toolPrefix then
    [s!"NESTED_TELA_PREFIX_REQUIRED: server '{name}' explicitly set nested_gateway but omitted tool_prefix."]
  else [])

/-- Cross-field errors of a configuration; an empty list means valid. -/
def validateConfig (config : TelaConfig) (cliDefaultProfile : Option String) :
    Except PyException (List String) := do
  precondition "validate_config" (absentOrNamed cliDefaultProfile)
  let openErrors ←
    if requiresOpenModeDefaultResolution config.auth.mode then
      match resolveOpenModeDefaultProfile config.profiles cliDefaultProfile with
      | .ok _ => .ok []
      | .error (.contract code message) => .ok [code ++ ": " ++ message]
      | .error (.raised exc) => .error exc
    else .ok []
  let tokenErrors :=
    if config.auth.mode = .token ∧ config.auth.secrets = [] then
      ["TOKEN_MODE_SECRETS_MISSING: token mode requires at least one secret."]
    else []
  return openErrors ++ tokenErrors ++
    config.servers.entries.flatMap fun (name, server) => serverErrors name server

end Tela
