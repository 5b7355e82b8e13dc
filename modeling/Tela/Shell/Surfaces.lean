import Tela.Shell.Upstream
import Tela.Shell.DownstreamState

/-!
# Diagnostic surfaces

The explanation of what each profile sees, and the summary of the providers of a
connection.
-/

namespace Tela

/-! ## Authorization explain -/

/-- One tool of one profile, explained. -/
structure ToolExplanation where
  name : String
  serverName : String
  family : String
  posture : Option String
  defaultPosture : String
  explanation : AuthorizationExplanation

structure ProfileExplanation where
  profileId : String
  capabilities : List (String × String)
  tools : List ToolExplanation

/-- Explain the tools of one server to a profile. -/
def explainServerTools (profile : ProfileConfig) (defaultPosture : Posture) :
    List ResolvedTool → Except PyException (List ToolExplanation)
  | [] => .ok []
  | tool :: rest => do
      let explanation ← explainAuthorization tool.routingName tool profile allowed defaultPosture
      let others ← explainServerTools profile defaultPosture rest
      return ⟨tool.name, tool.serverName, tool.family, tool.posture.map Posture.value,
        defaultPosture.value, explanation⟩ :: others

def explainServers (config : TelaConfig) (profile : ProfileConfig) :
    List (String × List ResolvedTool) → Except PyException (List ToolExplanation)
  | [] => .ok []
  | (serverName, tools) :: rest => do
      let explained ← explainServerTools profile (config.defaultPosture serverName) tools
      let others ← explainServers config profile rest
      return explained ++ others

/-- The entries of a dictionary in code point order of their keys. -/
def sortedEntries {ν : Type} (dict : Dict String ν) : List (String × ν) :=
  dict.entries.insertionSort fun first second => first.1 ≤ second.1

def explainProfiles (config : TelaConfig) (registry : DownstreamRegistry) :
    List String → Except PyException (Except String (List ProfileExplanation))
  | [] => .ok (.ok [])
  | profileId :: rest =>
      match config.profiles.get? profileId with
      | none => .ok (.error s!"PROFILE_NOT_FOUND: profile '{profileId}' not found")
      | some profile => do
          let tools ← explainServers config profile (sortedEntries registry.getAllTools)
          match ← explainProfiles config registry rest with
          | .error error => return .error error
          | .ok others =>
              return .ok (⟨profileId, (sortedEntries profile.capabilities).map fun (family, posture) =>
                (family, posture.value), tools⟩ :: others)

/-- Authorization visibility diagnostics, for one profile or for all. -/
def handleAuthorizationExplain (config : Option TelaConfig) (registry : DownstreamRegistry)
    (profileId : Option String) : Except PyException (Except String (List ProfileExplanation)) :=
  match config with
  | none => .ok (.error gatewayNotStarted)
  | some config =>
      explainProfiles config registry
        (match profileId with
        | some profileId => [profileId]
        | none => Text.sorted config.profiles.keys)

/-! ## Providers -/

structure ProviderInfo where
  providerName : String
  profileId : String
  status : String
  toolPrefix : Option String
  toolCount : Nat
  toolNames : List String

def runtimeError (text : String) : PyException := ⟨.runtimeError, "RuntimeError", text⟩

/-- Reject a non-canonical tool name on an emitted surface. -/
def raiseIfInvalidSharedToolName (toolName : String) : Except PyException Unit :=
  if isSharedToolName toolName then .ok ()
  else .error (runtimeError
    s!"INVALID_TOOL_NAME: shared MCP tool names must be snake_case; got '{toolName}'")

def raiseIfInvalidNames : List String → Except PyException Unit
  | [] => .ok ()
  | toolName :: rest => do
      raiseIfInvalidSharedToolName toolName
      raiseIfInvalidNames rest

/-- The sorted names of the tools of one server that the profile permits. -/
def providerToolNames (config : TelaConfig) (registry : DownstreamRegistry)
    (profile : ProfileConfig) (serverName : String) : Except PyException (List String) :=
  match registry.getAllTools.get? serverName with
  | none => .ok []
  | some serverTools => do
      let filtered ← filterToolsForProfile profile (serverDefaultPostures config)
        [(serverName, serverTools)]
      let toolNames := Text.sorted (filtered.map ResolvedTool.name)
      raiseIfInvalidNames toolNames
      return toolNames

def listProviders (config : TelaConfig) (registry : DownstreamRegistry) (startup : StartupTracking)
    (profileId : String) (profile : ProfileConfig) :
    List (String × ServerConfig) → Except PyException (List ProviderInfo)
  | [] => .ok []
  | (serverName, serverConfig) :: rest => do
      let status :=
        if serverName ∈ startup.successful then "connected"
        else if serverName ∈ startup.attempted then "failed"
        else "disconnected"
      let toolNames ← providerToolNames config registry profile serverName
      let others ← listProviders config registry startup profileId profile rest
      return ⟨serverName, profileId, status, serverConfig.toolPrefix, toolNames.length, toolNames⟩ ::
        others

/-- Per-provider summary for an admitted connection. -/
def handleListProviders (config : Option TelaConfig) (registry : DownstreamRegistry)
    (startup : StartupTracking) (connection : Option ConnectionContext) :
    Except PyException (List ProviderInfo) :=
  match config, connection with
  | none, _ => .error (runtimeError
      s!"handle_list_providers requires a valid runtime config: '{gatewayNotStarted}'")
  | some _, none => .error (runtimeError
      "missing_bound_profile: tela_list_providers requires an admitted connection")
  | some config, some connection =>
      match config.profiles.get? connection.profileId with
      | none => .error (runtimeError
          s!"missing_bound_profile: profile '{connection.profileId}' is not configured")
      | some profile =>
          listProviders config registry startup connection.profileId profile
            (sortedEntries config.servers)

end Tela
