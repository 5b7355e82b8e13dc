import Tela.Library.Json
import Tela.Library.Text

/-!
# Configuration and runtime models

The data shared by the core functions and the shell. A `ServerConfig` carries the
facts its validators check, so a rejected configuration cannot be built.
-/

namespace Tela

open Text (startsWith)

/-! ## Exceptions and results -/

/-- The exception classes that some handler of the program tells apart. -/
inductive ExcKind
  | timeoutError
  | brokenPipeError
  | connectionResetError
  | runtimeError
  | valueError
  | assertionError
  | cancelledError
  | other
  deriving DecidableEq, Repr

/-- A raised exception: its nearest class above, its type name and its text. -/
structure PyException where
  kind : ExcKind
  typeName : String
  text : String
  deriving DecidableEq, Repr

namespace PyException

def valueError (text : String) : PyException := ⟨.valueError, "ValueError", text⟩

def assertionError (text : String) : PyException := ⟨.assertionError, "AssertionError", text⟩

def timeoutError : PyException := ⟨.timeoutError, "TimeoutError", ""⟩

def cancelledError : PyException := ⟨.cancelledError, "CancelledError", ""⟩

/-- Caught by `except Exception`; cancellation is not. -/
def isException (exc : PyException) : Bool := exc.kind != .cancelledError

def isTimeout (exc : PyException) : Bool := exc.kind == .timeoutError

def isCancelled (exc : PyException) : Bool := exc.kind == .cancelledError

end PyException

def unicodeDecodeError : PyException :=
  ⟨.valueError, "UnicodeDecodeError", "'utf-8' codec can't decode byte"⟩

/-- What a contract decorator raises when its predicate fails. -/
def precondition (name : String) (holds : Bool) : Except PyException Unit :=
  if holds then .ok () else .error (.assertionError s!"Precondition failed for {name}")

def postcondition (name : String) (holds : Bool) : Except PyException Unit :=
  if holds then .ok () else .error (.assertionError s!"Postcondition failed for {name}")

/-- Two steps succeed only if each of them does. -/
theorem bind_ok {ε α β : Type} {first : Except ε α} {rest : α → Except ε β} {value : β}
    (ran : (first >>= rest) = .ok value) :
    ∃ middle, first = .ok middle ∧ rest middle = .ok value := by
  cases first with
  | error exc => cases ran
  | ok middle => exact ⟨middle, rfl, ran⟩

theorem precondition_ok {name : String} {holds : Bool} {outcome : Unit}
    (passed : precondition name holds = .ok outcome) : holds = true := by
  unfold precondition at passed
  split at passed
  · assumption
  · cases passed

theorem precondition_true {name : String} {holds : Bool} (true' : holds = true) :
    precondition name holds = .ok () := if_pos true'

/-! ## Enumerations -/

/-- Tool posture levels used by profile ceilings. -/
inductive Posture
  | none
  | readOnly
  | readWrite
  | destructive
  deriving DecidableEq, Repr

/-- Downstream URL transports. -/
inductive UrlTransport
  | http
  | sse
  deriving DecidableEq, Repr

inductive EnforcementVerdict
  | allow
  | deny
  deriving DecidableEq, Repr

inductive AuditLevel
  | L1
  | L2
  | L3
  deriving DecidableEq, Repr

inductive AuthMode
  | token
  | open
  deriving DecidableEq, Repr

/-! ## Server configuration -/

structure ToolOverride where
  family : Option String := none
  posture : Option Posture := none
  deriving DecidableEq, Repr

/-- The `instructions` switch of a server: a flag or a replacement text. -/
inductive InstructionSetting
  | flag (enabled : Bool)
  | text (content : String)
  deriving DecidableEq, Repr

/-- A non-empty optional string, as a condition reads it. -/
def truthy (text : Option String) : Bool := text.any fun content => content != ""

/-- The namespaces kept for tela's own surfaces. -/
def reservedNamespace (name : String) : Bool := startsWith name "tela." || startsWith name "tela_"

def prefixAccepted (text : String) : Bool :=
  !reservedNamespace text && !text.toList.contains '.'

theorem noPrefix_accepted : (none : Option String).all prefixAccepted = true := rfl
theorem unnested_prefixed : (!false || truthy none) = true := rfl

/-- Configuration of one downstream server, as its validators leave it. -/
structure ServerConfig where
  name : String
  command : Option String := none
  args : List String := []
  url : Option String := none
  transport : Option UrlTransport := none
  env : Dict String String := ∅
  headers : Dict String String := ∅
  family : Option String := none
  toolPrefix : Option String := none
  excludeTools : List String := []
  nestedGateway : Bool := false
  toolOverrides : Dict String ToolOverride := ∅
  rewriteDescriptions : Bool := false
  defaultPosture : Posture := .none
  instructions : Option InstructionSetting := none
  named : name ≠ "" := by decide
  prefixValid : (toolPrefix.all prefixAccepted) = true := by decide
  nestedPrefixed : (!nestedGateway || truthy toolPrefix) = true := by decide

/-- Field-wise equality; dictionaries compare without regard to order. -/
structure ServerConfig.Same (first second : ServerConfig) : Prop where
  name : first.name = second.name
  command : first.command = second.command
  args : first.args = second.args
  url : first.url = second.url
  transport : first.transport = second.transport
  env : first.env.Same second.env
  headers : first.headers.Same second.headers
  family : first.family = second.family
  toolPrefix : first.toolPrefix = second.toolPrefix
  excludeTools : first.excludeTools = second.excludeTools
  nestedGateway : first.nestedGateway = second.nestedGateway
  toolOverrides : first.toolOverrides.Same second.toolOverrides
  rewriteDescriptions : first.rewriteDescriptions = second.rewriteDescriptions
  defaultPosture : first.defaultPosture = second.defaultPosture
  instructions : first.instructions = second.instructions

namespace ServerConfig.Same

instance (first second : ServerConfig) : Decidable (first.Same second) :=
  decidable_of_iff
    (first.name = second.name ∧ first.command = second.command ∧ first.args = second.args ∧
      first.url = second.url ∧ first.transport = second.transport ∧
      first.env.Same second.env ∧ first.headers.Same second.headers ∧
      first.family = second.family ∧ first.toolPrefix = second.toolPrefix ∧
      first.excludeTools = second.excludeTools ∧ first.nestedGateway = second.nestedGateway ∧
      first.toolOverrides.Same second.toolOverrides ∧
      first.rewriteDescriptions = second.rewriteDescriptions ∧
      first.defaultPosture = second.defaultPosture ∧
      first.instructions = second.instructions)
    ⟨fun ⟨h1, h2, h3, h4, h5, h6, h7, h8, h9, h10, h11, h12, h13, h14, h15⟩ =>
        ⟨h1, h2, h3, h4, h5, h6, h7, h8, h9, h10, h11, h12, h13, h14, h15⟩,
      fun ⟨h1, h2, h3, h4, h5, h6, h7, h8, h9, h10, h11, h12, h13, h14, h15⟩ =>
        ⟨h1, h2, h3, h4, h5, h6, h7, h8, h9, h10, h11, h12, h13, h14, h15⟩⟩

end ServerConfig.Same

/-! ## Profiles and the top-level configuration -/

/-- Per-tool overrides within a profile, for one family. -/
structure ProfileToolOverrides where
  overrides : Dict String EnforcementVerdict := ∅

structure ProfileConfig where
  name : String
  capabilities : Dict String Posture := ∅
  toolOverrides : Dict String ProfileToolOverrides := ∅
  default : Bool := false

structure AuditConfig where
  level : AuditLevel := .L2
  output : String := "~/.tela/audit.jsonl"

structure AuthConfig where
  mode : AuthMode := .token
  secrets : List String := []

/-- Idle limits of the connection reaper in microseconds; zero turns a limit off. -/
structure ReaperPolicyConfig where
  nativeIdleTtl : Nat := 0
  bridgeIdleTtl : Nat := 900000000

/-- The configuration the gateway runs under. -/
structure TelaConfig where
  servers : Dict String ServerConfig := ∅
  profiles : Dict String ProfileConfig := ∅
  auth : AuthConfig := {}
  audit : AuditConfig := {}
  reaper : ReaperPolicyConfig := {}
  resolvedDefaultProfile : Option String := none

/-! ## Runtime types -/

/-- One tool as a downstream server lists it. -/
structure RawTool where
  name : String
  title : Option String := none
  description : Option String := none
  inputSchema : Option Json := none
  outputSchema : Option Json := none
  annotations : Option JsonObject := none

/-- A tool after family mapping, name exposure and classification. -/
structure ResolvedTool where
  name : String
  rawName : Option String := none
  serverName : String
  family : String
  posture : Option Posture := none
  schema : Json := .obj []
  description : String := ""
  annotations : Option JsonObject := none
  title : Option String := none
  outputSchema : Option Json := none

/-- State of one upstream client; points in time are microseconds. -/
structure ConnectionContext where
  connectionId : String
  profileId : String
  connectedAt : Int
  lastActivity : Option Int := none
  initMode : Option AuthMode := none
  clientInfoSnapshot : Option (Dict String String) := none
  bridgeConnectionId : Option String := none

/-- Result of the enforcement chain for one tool call. -/
structure EnforcementResult where
  verdict : EnforcementVerdict
  deniedBy : Option String := none
  errorCode : Option String := none
  errorMessage : Option String := none
  deriving DecidableEq, Repr

/-- Structured error response. -/
structure TelaError where
  code : String
  message : String
  details : JsonObject := ∅

end Tela
