import Tela.Core.Models

/-!
# Tool posture classification
-/

namespace Tela

/-- Posture from MCP annotations; the most restrictive hint wins. -/
def postureFromAnnotations (annotations : JsonObject) : Option Posture :=
  let readOnly := annotations.get? "readOnlyHint"
  let destructive := annotations.get? "destructiveHint"
  match readOnly, destructive with
  | none, none => none
  | some .null, none => none
  | none, some .null => none
  | some .null, some .null => none
  | _, some (.bool true) => some .destructive
  | some (.bool true), _ => some .readOnly
  | some (.bool false), _ => some .readWrite
  | _, _ => none

/-- Posture of a tool: per-tool override, then annotations, then unclassified. -/
def classifyTool (toolName : String) (serverConfig : ServerConfig)
    (mcpAnnotations : Option JsonObject) : Except PyException (Option Posture) := do
  precondition "classify_tool" (toolName != "")
  match (serverConfig.toolOverrides.get? toolName).bind ToolOverride.posture with
  | some posture => return some posture
  | none => return mcpAnnotations.bind postureFromAnnotations

end Tela
