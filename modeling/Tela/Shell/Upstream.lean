import Tela.Shell.Audit
import Tela.Shell.DownstreamRegistry
import Tela.Shell.GatewayRuntime

/-!
# Upstream handlers

The list of tools that a connection sees, and one call of a tool. A handler returns
what it has done besides its result; what the downstream does with a call is told.
-/

namespace Tela

/-! ## Shared tool names -/

def isLowerLetter (c : Char) : Bool := 'a' ≤ c && c ≤ 'z'

/-- `[a-z][a-z0-9_]*` -/
def isSharedToolName (toolName : String) : Bool :=
  match toolName.toList with
  | [] => false
  | first :: rest =>
      isLowerLetter first &&
        rest.all fun c => isLowerLetter c || ('0' ≤ c && c ≤ '9') || c = '_'

/-- The tool name when it violates shared naming. -/
def invalidSharedToolName (toolName : String) : Option String :=
  if isSharedToolName toolName then none else some toolName

/-! ## Filtering and routing -/

/-- The name under which the downstream server knows a tool. -/
def ResolvedTool.routingName (tool : ResolvedTool) : String :=
  match tool.rawName with
  | some rawName => if rawName = "" then tool.name else rawName
  | none => tool.name

/-- Run the enforcement chain for a tool call in open mode. -/
def enforceToolCall (toolName : String) (tool : ResolvedTool) (profile : ProfileConfig)
    (defaultPosture : Posture) : Except PyException EnforcementResult :=
  enforce toolName tool profile allowed defaultPosture

/-- The tools of one server that a profile permits. -/
def filterServerTools (profile : ProfileConfig) (defaultPosture : Posture) :
    List ResolvedTool → Except PyException (List ResolvedTool)
  | [] => .ok []
  | tool :: rest => do
      let result ← enforceToolCall tool.routingName tool profile defaultPosture
      let permitted ← filterServerTools profile defaultPosture rest
      return if result.verdict = .allow then tool :: permitted else permitted

/-- Filter resolved tools to those permitted by a profile, server by server. -/
def filterToolsForProfile (profile : ProfileConfig) (serverDefaultPostures : Dict String Posture) :
    List (String × List ResolvedTool) → Except PyException (List ResolvedTool)
  | [] => .ok []
  | (serverName, tools) :: rest => do
      let defaultPosture := (serverDefaultPostures.get? serverName).getD .none
      let permitted ← filterServerTools profile defaultPosture tools
      let others ← filterToolsForProfile profile serverDefaultPostures rest
      return permitted ++ others

/-- The default posture of every configured server. -/
def serverDefaultPostures (config : TelaConfig) : Dict String Posture :=
  .ofList (config.servers.entries.map fun (name, server) => (name, server.defaultPosture))

/-- The default posture for the tools of a server; a server without configuration has none. -/
def TelaConfig.defaultPosture (config : TelaConfig) (serverName : String) : Posture :=
  match config.servers.get? serverName with
  | some server => server.defaultPosture
  | none => .none

/-- The arguments without `_meta`, and what was held under it. -/
def stripMeta (arguments : JsonObject) : JsonObject × Option Json :=
  (arguments.erase "_meta", arguments.get? "_meta")

/-! ## Effects -/

/-- What a handler does besides its result. -/
inductive UpstreamEffect
  /-- The activity of the connection is recorded. -/
  | touched (connectionId : String)
  /-- The counter of tool calls is incremented. -/
  | counted
  /-- The call is handed to the downstream. -/
  | dispatched (serverName toolName : String) (arguments : JsonObject)
  | audited (entry : AuditEntry)

/-! ## Listing -/

/-- One tool as `tools/list` returns it. -/
structure ToolListing where
  name : String
  inputSchema : Json
  description : String
  annotations : Option JsonObject
  title : Option String
  outputSchema : Option Json

def ResolvedTool.listing (tool : ResolvedTool) : ToolListing :=
  ⟨tool.name, tool.schema, tool.description, tool.annotations, tool.title, tool.outputSchema⟩

def gatewayNotStarted : String := "GATEWAY_NOT_STARTED: gateway has not been started"

/-- Return the tools of the bound profile. -/
def handleToolsList (config : Option TelaConfig) (registry : DownstreamRegistry)
    (connection : ConnectionContext) :
    List UpstreamEffect × Except PyException (Except String (List ToolListing)) :=
  match config with
  | none => ([], .ok (.error gatewayNotStarted))
  | some config =>
      match config.profiles.get? connection.profileId with
      | none => ([], .ok (.error s!"PROFILE_NOT_FOUND: profile '{connection.profileId}' not found"))
      | some profile =>
          ([.touched connection.connectionId], do
            let permitted ← filterToolsForProfile profile (serverDefaultPostures config)
              registry.getAllTools.entries
            let permitted := permitted.insertionSort fun first second => first.name ≤ second.name
            match permitted.findSome? fun tool => invalidSharedToolName tool.name with
            | some invalidName =>
                return .error ("INVALID_TOOL_NAME: shared MCP tool names must be snake_case; " ++
                  s!"got '{invalidName}'")
            | none => return .ok (permitted.map ResolvedTool.listing))

/-! ## Calling -/

/-- What the downstream makes of a call. -/
abbrev CallTool := String → String → JsonObject → Except PyException (Except TelaError JsonObject)

/-- The platform of the handlers. -/
structure UpstreamPlatform where
  paramHash : ParamHash
  callTool : CallTool
  stamp : AuditStamp

variable (platform : UpstreamPlatform)

/-- Write an audit entry for a call. -/
def auditToolCall (config : TelaConfig) (connection : ConnectionContext)
    (toolName serverName : String) (result : EnforcementResult) (arguments : JsonObject)
    (heldMeta : Option Json) (responseContent : Option JsonObject := none) : UpstreamEffect :=
  .audited (buildAuditEntry platform.paramHash config.audit.level connection toolName serverName
    result platform.stamp (some arguments) responseContent (auditMetaField heldMeta))

/-- The call passed the enforcement chain. -/
def forwardToolCall (config : TelaConfig) (connection : ConnectionContext) (toolName : String)
    (tool : ResolvedTool) (strippedArgs : JsonObject) (heldMeta : Option Json) :
    List UpstreamEffect × Except PyException (Except TelaError JsonObject) :=
  let dispatched : List UpstreamEffect :=
    [.counted, .dispatched tool.serverName tool.routingName strippedArgs]
  let audit (result : EnforcementResult) (responseContent : Option JsonObject) :=
    auditToolCall platform config connection toolName tool.serverName result strippedArgs heldMeta
      responseContent
  match platform.callTool tool.serverName tool.routingName strippedArgs with
  | .error exc => (dispatched, .error exc)
  | .ok (.error error) =>
      (dispatched ++ [audit ⟨.deny, some "downstream_call", some error.code, some error.message⟩
        none], .ok (.error error))
  | .ok (.ok value) =>
      let applicationError := (value.get? "isError").any Json.isTrue
      (dispatched ++ [audit allowed
        (if applicationError then some (.ofList [("isError", .bool true)]) else none)],
        .ok (.ok value))

/-- An error without details. -/
def plainError (code message : String) : TelaError := { code := code, message := message }

/-- Handle a `tools/call` request; without a connection the caller was not admitted. -/
def handleToolsCall (config : Option TelaConfig) (registry : DownstreamRegistry)
    (connection : Option ConnectionContext) (toolName : String) (arguments : JsonObject) :
    List UpstreamEffect × Except PyException (Except TelaError JsonObject) :=
  match config, connection with
  | none, _ =>
      ([], .ok (.error (plainError "GATEWAY_NOT_STARTED" "Gateway has not been started")))
  | some _, none =>
      ([], .ok (.error
        (plainError "missing_bound_connection" "tools/call requires an admitted connection")))
  | some config, some connection =>
      let deny (serverName : String) (denial : EnforcementResult) (arguments : JsonObject)
          (heldMeta : Option Json) (code message : String) :
          List UpstreamEffect × Except PyException (Except TelaError JsonObject) :=
        ([auditToolCall platform config connection toolName serverName denial arguments heldMeta],
          .ok (.error (plainError code message)))
      match invalidSharedToolName toolName with
      | some invalidToolName =>
          let message := s!"shared MCP tool names must be snake_case; got '{invalidToolName}'"
          deny "unknown" ⟨.deny, some "shared_surface_validation", some "invalid_tool_name",
            some message⟩ arguments none "invalid_tool_name" message
      | none =>
          let (strippedArgs, heldMeta) := stripMeta arguments
          match registry.getTool toolName with
          | none =>
              let message := s!"Tool '{toolName}' not found"
              deny "unknown" ⟨.deny, some "registry_lookup", some "TOOL_NOT_FOUND", some message⟩
                strippedArgs heldMeta "TOOL_NOT_FOUND" message
          | some tool =>
              match config.profiles.get? connection.profileId with
              | none =>
                  let message := s!"Profile '{connection.profileId}' not found"
                  deny tool.serverName
                    ⟨.deny, some "profile_lookup", some "PROFILE_NOT_FOUND", some message⟩
                    strippedArgs heldMeta "PROFILE_NOT_FOUND" message
              | some profile =>
                  let touched := UpstreamEffect.touched connection.connectionId
                  match enforceToolCall tool.routingName tool profile
                      (config.defaultPosture tool.serverName) with
                  | .error exc => ([touched], .error exc)
                  | .ok enforcement =>
                      if enforcement.verdict = .deny then
                        let (effects, result) := deny tool.serverName enforcement strippedArgs
                          heldMeta
                          ((enforcement.errorCode.filter (· ≠ "")).getD "AUTHZ_DENY")
                          ((enforcement.errorMessage.filter (· ≠ "")).getD "Tool call denied")
                        (touched :: effects, result)
                      else
                        let (effects, result) := forwardToolCall platform config connection toolName
                          tool strippedArgs heldMeta
                        (touched :: effects, result)

end Tela
