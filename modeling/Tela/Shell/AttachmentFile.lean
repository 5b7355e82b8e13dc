import Tela.Shell.AttachmentRegistry

/-!
# The bytes of the attachment file

The read and the upsert of one process on a file system whose calls succeed. The file
is bytes; a call fails only where these are no UTF-8.
-/

namespace Tela.AttachmentRegistry

open Coop (Coro)

/-! ## The read -/

inductive ReadCall
  /-- `path.exists()`. -/
  | fileExists
  /-- `lock_path.exists()`. -/
  | sidecarExists
  | openSidecar
  | lockShared
  | unlock
  /-- The text of the registry file; no text when there is no file. -/
  | readText

abbrev ReadCall.Result : ReadCall → Type
  | fileExists => Bool
  | sidecarExists => Bool
  | readText => Option String
  | _ => Unit

abbrev readSig : Coop.Sig where
  Act := Empty
  Val := nofun
  Wait := ReadCall
  Res := ReadCall.Result

abbrev ReadProg (α : Type) := Coro readSig SystemException α

def readSys (call : ReadCall) : ReadProg call.Result := Coro.await (S := readSig) call

/-- `_read_attachment_registry_path`. -/
def readAttachmentRegistryPath (codec : RegistryCodec String) :
    ReadProg (Except String AttachmentRegistry) := do
  let raw ← readSys .readText
  return registryOf codec raw

/-- The guarded part of the read. -/
def readExistingRegistry (codec : RegistryCodec String) :
    ReadProg (Except String AttachmentRegistry) := do
  -- A read does not create the sidecar; without one the file is read as it is.
  if ← readSys .sidecarExists then
    readSys .openSidecar
    readSys .lockShared
    (readAttachmentRegistryPath codec).ensure (readSys .unlock)
  else readAttachmentRegistryPath codec

/-- `read_attachment_registry`. -/
def readAttachmentRegistry (codec : RegistryCodec String) :
    ReadProg (Except String AttachmentRegistry) := do
  if ← readSys .fileExists then
    match ← (readExistingRegistry codec).attempt with
    | .ok result => return result
    | .error (.osError text) => return .error s!"ATTACHMENT_REGISTRY_READ_ERROR: {text}"
    | .error exc => .raise exc
  else return .ok ⟨[]⟩

/-! ## A disk whose calls succeed -/

/-- The registry file and what the calls leave beside it. -/
structure Disk where
  file : Option (List UInt8)
  sidecar : Bool := false
  temp : Option (List UInt8) := none
  clock : Int

/-- `read_text(encoding="utf-8")`: a missing file has no text, and bad bytes raise. -/
def Disk.readText (disk : Disk) : Except SystemException (Option String) :=
  match disk.file with
  | none => .ok none
  | some bytes =>
      match Text.readText bytes with
      | some text => .ok (some text)
      | none => .error (.raised unicodeDecodeError)

def answerRead : (w : ReadCall) → Disk → Except SystemException w.Result × Disk
  | .fileExists, disk => (.ok disk.file.isSome, disk)
  | .sidecarExists, disk => (.ok disk.sidecar, disk)
  | .openSidecar, disk => (.ok (), { disk with sidecar := true })
  | .lockShared, disk => (.ok (), disk)
  | .unlock, disk => (.ok (), disk)
  | .readText, disk => (disk.readText, disk)

def answerUpsert : (w : Call String) → Disk → Except SystemException w.Result × Disk
  | .ensureDirectory, disk => (.ok (), disk)
  | .openSidecar, disk => (.ok (), { disk with sidecar := true })
  | .lockExclusive, disk => (.ok (), disk)
  | .unlock, disk => (.ok (), disk)
  | .readText, disk => (disk.readText, disk)
  | .now, disk => (.ok disk.clock, disk)
  | .createTemp, disk => (.ok "client-attachments.json.tmp", { disk with temp := some [] })
  | .writeTemp payload, disk => (.ok (), { disk with temp := some (Text.utf8 payload) })
  | .protectTemp, disk => (.ok (), disk)
  | .replaceFile, disk =>
      match disk.temp with
      | some content => (.ok (), { disk with file := some content, temp := none })
      | none => (.error (.osError "[Errno 2] No such file or directory"), disk)
  | .protectFile, disk => (.ok (), disk)
  | .removeTemp, disk => (.ok (), { disk with temp := none })

/-- How a read of the disk ends, and the disk it leaves. -/
def Disk.read (codec : RegistryCodec String) (disk : Disk) :
    Except SystemException (Except String AttachmentRegistry) × Disk :=
  (readAttachmentRegistry codec).run (fun (act : Empty) _ => nomatch act) answerRead disk

/-- How an upsert on the disk ends, and the disk it leaves. -/
def Disk.upsert (codec : RegistryCodec String) (fromIsoFormat : String → Option IsoDatetime)
    (attachment : ClientAttachment) (disk : Disk) :
    Except SystemException (Except String AttachmentRegistry) × Disk :=
  (upsertAttachmentRegistry codec fromIsoFormat attachment).run (fun (act : Empty) _ => nomatch act) answerUpsert disk

/-! ## How the two end -/

/-- The only failure of a read is that the bytes are no UTF-8. -/
theorem Disk.readText_cases (disk : Disk) :
    (∃ raw, disk.readText = .ok raw) ∨ disk.readText = .error (.raised unicodeDecodeError) := by
  unfold Disk.readText
  cases disk.file with
  | none => exact .inl ⟨none, rfl⟩
  | some bytes =>
      dsimp only
      cases Text.readText bytes with
      | none => exact .inr rfl
      | some text => exact .inl ⟨some text, rfl⟩

/-- `finally` around a body, where the last step succeeds and changes nothing. -/
theorem run_ensure {S : Coop.Sig} {α σ : Type} {exec : (a : S.Act) → σ → S.Val a × σ}
    {answer : (w : S.Wait) → σ → Except SystemException (S.Res w) × σ}
    {final : Coro S SystemException Unit} (quiet : ∀ s, final.run exec answer s = (.ok (), s))
    (x : Coro S SystemException α) (s : σ) :
    (x.ensure final).run exec answer s = x.run exec answer s := by
  unfold Coro.ensure
  rw [Coro.run_bind, Coro.run_attempt, Coro.after, Coro.run_bind, quiet, Coro.after]
  cases x.run exec answer s with
  | mk outcome s' =>
      cases outcome with
      | ok value => rfl
      | error exc => rfl

theorem run_exceptOsError {α σ : Type} {exec : (a : Empty) → σ → (sig String).Val a × σ}
    {answer : (w : (sig String).Wait) → σ → Except SystemException ((sig String).Res w) × σ}
    (body : Prog String α) (handler : String → Prog String α) (s : σ) :
    (exceptOsError body handler).run exec answer s =
      match body.run exec answer s with
      | (.ok value, s') => (.ok value, s')
      | (.error (.osError text), s') => (handler text).run exec answer s'
      | (.error (.raised exc), s') => (.error (.raised exc), s') := by
  unfold exceptOsError
  rw [Coro.bind_eq, Coro.run_bind, Coro.run_attempt, Coro.after]
  cases body.run exec answer s with
  | mk outcome s' =>
      cases outcome with
      | ok value => rfl
      | error exc =>
          cases exc with
          | osError text => rfl
          | raised exc => rfl

section Read

variable (codec : RegistryCodec String) (disk : Disk)

theorem run_readPath :
    (readAttachmentRegistryPath codec).run (fun (act : Empty) _ => nomatch act) answerRead disk =
      (disk.readText.map (registryOf codec), disk) := by
  have text : (readSys .readText).run (fun (act : Empty) _ => nomatch act) answerRead disk =
      (disk.readText, disk) := Coro.run_await ..
  unfold readAttachmentRegistryPath
  rw [Coro.bind_eq, Coro.run_bind, text]
  cases disk.readText with
  | ok raw => rfl
  | error exc => rfl

/-- Whether or not there is a sidecar, the guarded part ends as the text of the file does. -/
theorem run_readExisting :
    (readExistingRegistry codec).run (fun (act : Empty) _ => nomatch act) answerRead disk =
      (disk.readText.map (registryOf codec), disk) := by
  have sidecar : (readSys .sidecarExists).run (fun (act : Empty) _ => nomatch act) answerRead disk =
      (.ok disk.sidecar, disk) := Coro.run_await ..
  unfold readExistingRegistry
  rw [Coro.bind_eq, Coro.run_bind, sidecar, Coro.after]
  cases found : disk.sidecar with
  | false => exact run_readPath codec disk
  | true =>
      have opened : { disk with sidecar := true } = disk := by rw [← found]
      change ((readAttachmentRegistryPath codec).ensure (readSys .unlock)).run _ answerRead
        { disk with sidecar := true } = _
      rw [run_ensure fun _ => rfl, opened]
      exact run_readPath codec disk

/-- A read ends as the text of the file does, and leaves the disk as it is. -/
theorem Disk.read_eq : disk.read codec = (disk.readText.map (registryOf codec), disk) := by
  have present : (readSys .fileExists).run (fun (act : Empty) _ => nomatch act) answerRead disk =
      (.ok disk.file.isSome, disk) := Coro.run_await ..
  unfold Disk.read readAttachmentRegistry
  rw [Coro.bind_eq, Coro.run_bind, present, Coro.after]
  cases found : disk.file with
  | none =>
      rw [Disk.readText, found]
      rfl
  | some bytes =>
      rw [Option.isSome_some, if_pos rfl, Coro.bind_eq, Coro.run_bind, Coro.run_attempt,
        run_readExisting, Coro.after]
      rcases disk.readText_cases with ⟨raw, text⟩ | broken
      · rw [text]
        rfl
      · rw [broken]
        rfl

end Read

section Upsert

variable (codec : RegistryCodec String) (fromIsoFormat : String → Option IsoDatetime)
  (attachment : ClientAttachment) (disk : Disk)

/-- Under the lock only the sidecar is new. -/
theorem run_locked {α : Type} (body : Prog String α) :
    (withAttachmentRegistryLock body).run (fun (act : Empty) _ => nomatch act) answerUpsert disk =
      body.run (fun (act : Empty) _ => nomatch act) answerUpsert { disk with sidecar := true } := by
  change (body.ensure (sys .unlock)).run _ answerUpsert { disk with sidecar := true } = _
  exact run_ensure (fun _ => rfl) body _

/-- How an upsert goes on once the text of the file is known. -/
def Disk.upserted : Except SystemException (Option String) →
    Except SystemException (Except String AttachmentRegistry) × Disk
  | .error exc => (.error exc, { disk with sidecar := true })
  | .ok raw =>
      match registryOf codec raw with
      | .error text => (.ok (.error text), { disk with sidecar := true })
      | .ok registry =>
          match compactAttachmentRegistry fromIsoFormat (replaced registry attachment) disk.clock
              attachmentTerminalTtl attachmentTerminalLimit with
          | .error exc => (.error (.raised exc), { disk with sidecar := true })
          | .ok nextRegistry =>
              (.ok (.ok nextRegistry),
                { disk with file := some (Text.utf8 (codec.modelDumpJson nextRegistry))
                            sidecar := true
                            temp := none })

theorem Disk.upsert_eq : disk.upsert codec fromIsoFormat attachment =
    disk.upserted codec fromIsoFormat attachment disk.readText := by
  have made : (sys .ensureDirectory).run (fun (act : Empty) _ => nomatch act) answerUpsert disk =
      (.ok (), disk) := Coro.run_await ..
  have text : (sys .readText).run (fun (act : Empty) _ => nomatch act) answerUpsert
      { disk with sidecar := true } = (disk.readText, { disk with sidecar := true }) :=
    Coro.run_await ..
  unfold Disk.upsert upsertAttachmentRegistry
  rw [run_exceptOsError, Coro.bind_eq, Coro.run_bind, made, Coro.after, run_locked, Coro.bind_eq,
    Coro.run_bind, text]
  rcases disk.readText_cases with ⟨raw, read⟩ | broken
  · rw [read, Coro.after, Disk.upserted]
    cases registryOf codec raw with
    | error text => rfl
    | ok registry =>
        have clock : (sys .now).run (fun (act : Empty) _ => nomatch act) answerUpsert
            { disk with sidecar := true } = (.ok disk.clock, { disk with sidecar := true }) :=
          Coro.run_await ..
        dsimp only
        rw [Coro.bind_eq, Coro.run_bind, clock, Coro.after]
        cases compactAttachmentRegistry fromIsoFormat (replaced registry attachment) disk.clock
            attachmentTerminalTtl attachmentTerminalLimit with
        | error exc => rfl
        | ok nextRegistry => rfl
  · rw [broken]
    rfl

end Upsert

end Tela.AttachmentRegistry
