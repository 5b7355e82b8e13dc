import Tela.Core.Attachments
import Tela.Library.Processes

/-!
# The attachment registry file

One upsert, system call by system call. Processes share the registry file and the
sidecar that its lock is on; each call may fail, and each process may be killed.
-/

namespace Tela

open Coop (Coro TaskId assign)

/-- What a system call raises: an `OSError` with its text, or some other exception. -/
inductive SystemException
  | osError (text : String)
  | raised (exc : PyException)
  deriving DecidableEq

/-- How a registry is written as JSON text, and how such a text is read. -/
structure RegistryCodec (Content : Type) where
  modelDumpJson : AttachmentRegistry → Content
  modelValidateJson : Content → Except String AttachmentRegistry

/-- What was written is read as it was. -/
def RegistryCodec.RoundTrips {Content : Type} (codec : RegistryCodec Content) : Prop :=
  ∀ registry, codec.modelValidateJson (codec.modelDumpJson registry) = .ok registry

def attachmentTerminalTtl : Int := 14 * 86400000000

def attachmentTerminalLimit : Nat := 500

namespace AttachmentRegistry

/-! ## The JSON of a registry -/

def nameOf {α : Type} [DecidableEq α] (names : List (α × String)) (value : α) : String :=
  (names.lookup value).getD ""

def named? {α : Type} (names : List (α × String)) (name : String) : Option α :=
  (names.find? fun entry => entry.2 = name).map Prod.fst

def displayStateNames : List (AttachmentDisplayState × String) :=
  [ (.unknown, "unknown"), (.started, "started"), (.healthy, "healthy"), (.degraded, "degraded")
  , (.staleCandidate, "stale_candidate"), (.recovering, "recovering"), (.exited, "exited") ]

def runtimeStateNames : List (RuntimeState × String) :=
  [ (.unknown, "unknown"), (.initializing, "initializing"), (.active, "active"), (.idle, "idle")
  , (.recovering, "recovering"), (.exited, "exited") ]

def recoverabilityNames : List (Recoverability × String) :=
  [ (.unknown, "unknown"), (.recoverable, "recoverable"), (.notRecoverable, "not_recoverable")
  , (.stale, "stale") ]

def attachmentKeys : List String :=
  [ "client_id", "client_kind", "display_state", "runtime_state", "recoverability"
  , "connected_at", "last_heartbeat", "stale_candidate", "unknown_state" ]

def attachmentJson (attachment : ClientAttachment) : Json :=
  .obj (attachmentKeys.zip
    [ .str attachment.clientId
    , .str attachment.clientKind
    , .str (nameOf displayStateNames attachment.displayState)
    , .str (nameOf runtimeStateNames attachment.runtimeState)
    , .str (nameOf recoverabilityNames attachment.recoverability)
    , .str attachment.connectedAt
    , .str attachment.lastHeartbeat
    , .bool attachment.staleCandidate
    , .bool attachment.unknownState ])

def attachmentOfValues : List Json → Option ClientAttachment
  | [ .str clientId, .str clientKind, .str displayState, .str runtimeState, .str recoverability
    , .str connectedAt, .str lastHeartbeat, .bool staleCandidate, .bool unknownState ] => do
      let displayState ← named? displayStateNames displayState
      let runtimeState ← named? runtimeStateNames runtimeState
      let recoverability ← named? recoverabilityNames recoverability
      if texts : clientId ≠ "" ∧ clientKind ≠ "" ∧ connectedAt ≠ "" ∧ lastHeartbeat ≠ "" then
        some
          { clientId, clientKind, displayState, runtimeState, recoverability, connectedAt
            lastHeartbeat, staleCandidate, unknownState
            identified := texts.1
            kindNamed := texts.2.1
            connected := texts.2.2.1
            beaten := texts.2.2.2 }
      else none
  | _ => none

def attachmentOfJson? : Json → Option ClientAttachment
  | .obj fields =>
      if fields.map Prod.fst = attachmentKeys then attachmentOfValues (fields.map Prod.snd) else none
  | _ => none

/-- JSON documents; a document is read where it is laid out as it is written. -/
def jsonCodec : RegistryCodec Json where
  modelDumpJson registry := .obj [("attachments", .arr (registry.attachments.map attachmentJson))]
  modelValidateJson
    | .obj [(key, .arr items)] =>
        match key == "attachments", items.mapM attachmentOfJson? with
        | true, some attachments => .ok ⟨attachments⟩
        | _, _ => .error "validation error for AttachmentRegistry"
    | _ => .error "validation error for AttachmentRegistry"

theorem attachmentOfJson_attachmentJson (attachment : ClientAttachment) :
    attachmentOfJson? (attachmentJson attachment) = some attachment := by
  have display : named? displayStateNames (nameOf displayStateNames attachment.displayState) =
      some attachment.displayState := by cases attachment.displayState <;> rfl
  have runtime : named? runtimeStateNames (nameOf runtimeStateNames attachment.runtimeState) =
      some attachment.runtimeState := by cases attachment.runtimeState <;> rfl
  have recover : named? recoverabilityNames
      (nameOf recoverabilityNames attachment.recoverability) =
        some attachment.recoverability := by cases attachment.recoverability <;> rfl
  change attachmentOfValues
    [ .str attachment.clientId, .str attachment.clientKind
    , .str (nameOf displayStateNames attachment.displayState)
    , .str (nameOf runtimeStateNames attachment.runtimeState)
    , .str (nameOf recoverabilityNames attachment.recoverability)
    , .str attachment.connectedAt, .str attachment.lastHeartbeat
    , .bool attachment.staleCandidate, .bool attachment.unknownState ] = _
  rw [attachmentOfValues, display, runtime, recover]
  exact dif_pos ⟨attachment.identified, attachment.kindNamed, attachment.connected,
    attachment.beaten⟩

theorem jsonCodec_roundTrips : jsonCodec.RoundTrips := by
  intro registry
  have items : (registry.attachments.map attachmentJson).mapM attachmentOfJson? =
      some registry.attachments := by
    induction registry.attachments with
    | nil => rfl
    | cons attachment rest ih =>
        rw [List.map_cons, List.mapM_cons, attachmentOfJson_attachmentJson, ih]
        rfl
  change (match "attachments" == "attachments", (registry.attachments.map attachmentJson).mapM
    attachmentOfJson? with
      | true, some attachments => Except.ok (AttachmentRegistry.mk attachments)
      | _, _ => .error "validation error for AttachmentRegistry") = _
  rw [items]
  rfl

/-! ## System calls -/

inductive Call (Content : Type)
  /-- `mkdir` and `chmod` of the directory. -/
  | ensureDirectory
  /-- `open` and `chmod` of the sidecar. -/
  | openSidecar
  | lockExclusive
  | unlock
  /-- The text of the registry file; no text when there is no file. -/
  | readText
  | now
  | createTemp
  /-- `write`, `flush`, `fsync` and `close`. -/
  | writeTemp (payload : Content)
  | protectTemp
  | replaceFile
  | protectFile
  | removeTemp

abbrev Call.Result {Content : Type} : Call Content → Type
  | readText => Option Content
  | now => Int
  | createTemp => String
  | _ => Unit

abbrev sig (Content : Type) : Coop.Sig where
  Act := Empty
  Val := nofun
  Wait := Call Content
  Res := Call.Result

abbrev Prog (Content α : Type) := Coro (sig Content) SystemException α

variable {Content : Type}

def sys (call : Call Content) : Prog Content call.Result := Coro.await (S := sig Content) call

/-- `except OSError`. -/
def exceptOsError {α : Type} (body : Prog Content α) (handler : String → Prog Content α) :
    Prog Content α := do
  match ← body.attempt with
  | .ok value => return value
  | .error (.osError text) => handler text
  | .error exc => .raise exc

/-! ## The upsert -/

def removeTempFile (tempPath : String) : Prog Content Unit :=
  exceptOsError (sys .removeTemp) fun text =>
    .raise (.osError s!"failed to remove temporary registry file {tempPath}: {text}")

def writeError (text : String) : String := s!"ATTACHMENT_REGISTRY_WRITE_ERROR: {text}"

/-- `_replace_attachment_registry_under_lock`. -/
def replaceAttachmentRegistryUnderLock (codec : RegistryCodec Content)
    (registry : AttachmentRegistry) : Prog Content (Except String Unit) := do
  let payload := codec.modelDumpJson registry
  -- Until the temporary file has a name there is nothing to remove.
  match ← (sys .createTemp).attempt with
  | .error (.osError text) => return .error (writeError text)
  | .error exc => .raise exc
  | .ok tempPath =>
      exceptOsError
        (do
          sys (.writeTemp payload)
          sys .protectTemp
          sys .replaceFile
          sys .protectFile
          return .ok ())
        fun text => do
          removeTempFile tempPath
          return .error (writeError text)

/-- `with _attachment_registry_lock(path, LOCK_EX)`. -/
def withAttachmentRegistryLock {α : Type} (body : Prog Content α) : Prog Content α := do
  sys .openSidecar
  sys .lockExclusive
  body.ensure (sys .unlock)

def decodeAttachmentRegistry (codec : RegistryCodec Content) (raw : Content) :
    Except String AttachmentRegistry :=
  (codec.modelValidateJson raw).mapError fun text => s!"ATTACHMENT_REGISTRY_PARSE_ERROR: {text}"

/-- The registry that a read finds: none is there before the first upsert. -/
def registryOf (codec : RegistryCodec Content) : Option Content → Except String AttachmentRegistry
  | none => .ok ⟨[]⟩
  | some raw => decodeAttachmentRegistry codec raw

/-- The record replaces the one with its client id and becomes the last one. -/
def replaced (registry : AttachmentRegistry) (attachment : ClientAttachment) :
    AttachmentRegistry :=
  ⟨(registry.attachments.filter fun item => item.clientId != attachment.clientId) ++ [attachment]⟩

variable (codec : RegistryCodec Content) (fromIsoFormat : String → Option IsoDatetime)

/-- `upsert_attachment_registry`. -/
def upsertAttachmentRegistry (attachment : ClientAttachment) :
    Prog Content (Except String AttachmentRegistry) :=
  exceptOsError
    (do
      sys .ensureDirectory
      withAttachmentRegistryLock do
        let raw ← sys .readText
        match registryOf codec raw with
        | .error text => return .error text
        | .ok registry =>
            let now ← sys .now
            match compactAttachmentRegistry fromIsoFormat (replaced registry attachment) now
                attachmentTerminalTtl attachmentTerminalLimit with
            | .error exc => .raise (.raised exc)
            | .ok nextRegistry =>
                match ← replaceAttachmentRegistryUnderLock codec nextRegistry with
                | .error text => return .error text
                | .ok () => return .ok nextRegistry)
    fun text => return .error (writeError text)

/-! ## Processes over the file -/

/-- The registry file, who holds the lock, and the temporary file of each process. -/
structure Files (Content : Type) where
  file : Option Content
  holder : Option TaskId := none
  temp : TaskId → Option Content := fun _ => none

/-- No process holds the lock. -/
def Files.initial (file : Option Content) : Files Content := { file := file }

def Files.giveBack (s : Files Content) (p : TaskId) : Files Content :=
  { s with holder := if s.holder = some p then none else s.holder }

/-- What a call may answer and leave behind; every call may fail. -/
def call (p : TaskId) : (w : Call Content) → Files Content →
    Except SystemException w.Result → Files Content → Prop
  | .lockExclusive, s, .ok _, s' => s.holder = none ∧ s' = { s with holder := some p }
  -- The lock goes with the file, which is closed in every case.
  | .unlock, s, _, s' => s' = s.giveBack p
  | .readText, s, .ok raw, s' => raw = s.file ∧ s' = s
  | .createTemp, s, .ok _, s' =>
      ∃ blank, s' = { s with temp := assign s.temp p (some blank) }
  | .writeTemp payload, s, .ok _, s' =>
      s' = { s with temp := assign s.temp p (some payload) }
  | .writeTemp _, s, .error _, s' =>
      ∃ part, s' = { s with temp := assign s.temp p (some part) }
  | .replaceFile, s, .ok _, s' =>
      ∃ content, s.temp p = some content ∧
        s' = { s with file := some content, temp := assign s.temp p none }
  | .removeTemp, s, .ok _, s' => s' = { s with temp := assign s.temp p none }
  | _, s, _, s' => s' = s

/-- Processes that each run one upsert. -/
abbrev host : Coop.Host (sig Content) SystemException where
  State := Files Content
  Cmd := ClientAttachment
  Out := Except String AttachmentRegistry
  program _ attachment := upsertAttachmentRegistry codec fromIsoFormat attachment
  exec _ a _ := nomatch a
  call := call
  launch _ _ s := s
  close p s := s.giveBack p

end AttachmentRegistry

end Tela
