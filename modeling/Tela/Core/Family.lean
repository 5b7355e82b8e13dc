import Tela.Core.Classification

/-!
# Family mapping and tool resolution

`resolveTools` turns the raw list of a server into exposed tools. It is the only
place where prefixes, exclusions, families and postures are applied.
-/

namespace Tela

/-- Built-ins of a downstream tela that must not leak under their own names. -/
def childTelaBuiltins : List String := ["tela_list_providers", "tela_list_profiles"]

/-- Family of a tool: per-tool override, then server override, then server name. -/
def resolveFamily (toolName : String) (serverConfig : ServerConfig) :
    Except PyException String := do
  precondition "resolve_family" (toolName != "")
  let family :=
    match (serverConfig.toolOverrides.get? toolName).bind ToolOverride.family with
    | some family => family
    | none => serverConfig.family.getD serverConfig.name
  postcondition "resolve_family" (family != "")
  return family

/-- One left-to-right pass that replaces backtick-quoted raw names. -/
def rewriteQuoted (rawNamesToExposed : Dict String String) : Nat → List Char → List Char
  | 0, text => text
  | _, [] => []
  | fuel + 1, c :: rest =>
      if c = '\x60' then
        let quoted := rest.takeWhile (· ≠ '\x60')
        match quoted, rest.drop quoted.length with
        | _ :: _, _ :: after =>
            let name := (rawNamesToExposed.get? (String.ofList quoted)).getD (String.ofList quoted)
            '\x60' :: name.toList ++ '\x60' :: rewriteQuoted rawNamesToExposed fuel after
        | _, _ => c :: rewriteQuoted rawNamesToExposed fuel rest
      else c :: rewriteQuoted rawNamesToExposed fuel rest

/-- Replace backtick-quoted raw tool names with their exposed names. -/
def rewriteToolDescription (description : String)
    (rawNamesToExposed : Dict String String) : String :=
  String.ofList (rewriteQuoted rawNamesToExposed description.toList.length description.toList)

/-- Raw names filtered before resolution. -/
def effectiveExcludeTools (serverConfig : ServerConfig) : Except PyException (List String) := do
  let excludes :=
    if serverConfig.nestedGateway then serverConfig.excludeTools ++ childTelaBuiltins
    else serverConfig.excludeTools
  postcondition "effective_exclude_tools" (excludes.all (· != ""))
  return excludes

/-- One round of the resolution loop; an excluded tool yields nothing. -/
def resolveTool (serverName : String) (serverConfig : ServerConfig) (effectiveExcludes : List String)
    (rawTool : RawTool) : Except PyException (Option ResolvedTool) := do
  let rawName := rawTool.name
  if rawName ∈ effectiveExcludes then return none
  let toolPrefix := serverConfig.toolPrefix
  match toolPrefix.filter reservedNamespace with
  | some reserved =>
      throw (.valueError s!"ServerConfig.tool_prefix '{reserved}' uses reserved namespace")
  | none => pure ()
  if rawName ∈ childTelaBuiltins ∧ truthy toolPrefix = false then
    throw (.valueError (s!"NESTED_TELA_PREFIX_REQUIRED: downstream child Tela built-in "
      ++ s!"'{rawName}' requires a non-empty tool_prefix unless filtered"))
  let exposedName :=
    match toolPrefix with
    | none => rawName
    | some toolPrefix => toolPrefix ++ rawName
  if reservedNamespace exposedName then
    throw (.valueError s!"Resolved tool name '{exposedName}' enters reserved namespace")
  let family ← resolveFamily rawName serverConfig
  let posture ← classifyTool rawName serverConfig rawTool.annotations
  return some
    { name := exposedName
      rawName := some rawName
      serverName := serverName
      family := family
      posture := posture
      schema := rawTool.inputSchema.getD (.obj [])
      description := rawTool.description.getD ""
      annotations := rawTool.annotations
      title := rawTool.title
      outputSchema := rawTool.outputSchema }

/-- Resolve the remaining tools in order; the first failure wins. -/
def resolveEach (serverName : String) (serverConfig : ServerConfig)
    (effectiveExcludes : List String) :
    List RawTool → Except PyException (List ResolvedTool)
  | [] => .ok []
  | rawTool :: rest => do
      let tool ← resolveTool serverName serverConfig effectiveExcludes rawTool
      let tools ← resolveEach serverName serverConfig effectiveExcludes rest
      return tool.toList ++ tools

/-- Rewrite every description under the exposed names of the same server. -/
def rewriteDescriptions (resolved : List ResolvedTool) : List ResolvedTool :=
  let rawToExposed := Dict.ofList (resolved.filterMap fun tool =>
    tool.rawName.map fun rawName => (rawName, tool.name))
  resolved.map fun tool =>
    if tool.description = "" then tool
    else { tool with description := rewriteToolDescription tool.description rawToExposed }

/-- Map the raw tool list of a server to resolved tools with family and posture. -/
def resolveTools (serverName : String) (serverConfig : ServerConfig) (toolList : List RawTool) :
    Except PyException (List ResolvedTool) := do
  precondition "resolve_tools" (serverName != "")
  let effectiveExcludes ← effectiveExcludeTools serverConfig
  let resolved ← resolveEach serverName serverConfig effectiveExcludes toolList
  if serverConfig.rewriteDescriptions && serverConfig.toolPrefix.isSome then
    return rewriteDescriptions resolved
  return resolved

end Tela
