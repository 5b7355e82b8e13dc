import Tela.Shell.AttachmentFile
import Tela.Properties.Compaction

/-!
# Attachment file robustness

When a read and an upsert return, whatever the bytes of the attachment file are.
-/

namespace Tela.AttachmentRegistry

/-! ## The read and the upsert -/

section File

variable (codec : RegistryCodec String) (fromIsoFormat : String → Option IsoDatetime)
  (attachment : ClientAttachment) (disk : Disk)

/-- The bytes of the file are those of a registry. -/
def Disk.Holds (registry : AttachmentRegistry) : Prop :=
  ∃ content text, disk.file = some content ∧ Text.readText content = some text ∧
    decodeAttachmentRegistry codec text = .ok registry

/-- The read returns, and the file stays as it is. -/
def ReadSound : Prop :=
  ∃ result after, disk.read codec = (.ok result, after) ∧ after.file = disk.file

/-- The upsert returns an error and the file stays as it is, or it returns what the file holds. -/
def UpsertSound : Prop :=
  ∃ result after, disk.upsert codec fromIsoFormat attachment = (.ok result, after) ∧
    match result with
    | .error _ => after.file = disk.file
    | .ok registry => after.Holds codec registry

/-- The bytes are UTF-8, and where they are a registry no terminal record of it, and not the new
record, has a heartbeat out of range, nor does the retention reach back before the first year. -/
def InRange : Prop :=
  ∃ raw, disk.readText = .ok raw ∧
    ∀ registry, registryOf codec raw = .ok registry →
      attachmentTerminalTtl ≤ disk.clock ∧
        Readable fromIsoFormat (replaced registry attachment).attachments

/-- Compaction of the changed registry succeeds exactly on records that can be read. -/
theorem compacts_iff (registry : AttachmentRegistry) (now : Int) :
    (∃ compacted, compactAttachmentRegistry fromIsoFormat registry now attachmentTerminalTtl
        attachmentTerminalLimit = .ok compacted) ↔
      attachmentTerminalTtl ≤ now ∧ Readable fromIsoFormat registry.attachments := by
  constructor
  · rintro ⟨compacted, done⟩
    obtain ⟨-, inside, readable, -⟩ := compactAttachmentRegistry_iff.mp done
    exact ⟨by omega, readable⟩
  · rintro ⟨inside, readable⟩
    exact ⟨⟨_⟩, compactAttachmentRegistry_iff.mpr ⟨by decide, by omega, readable, rfl⟩⟩

theorem readSound_iff : ReadSound codec disk ↔ ∃ raw, disk.readText = .ok raw := by
  unfold ReadSound
  rw [Disk.read_eq]
  rcases disk.readText_cases with ⟨raw, read⟩ | broken
  · rw [read]
    exact ⟨fun _ => ⟨raw, rfl⟩, fun _ => ⟨_, disk, rfl, rfl⟩⟩
  · rw [broken]
    constructor
    · rintro ⟨result, after, ended, -⟩
      cases ended
    · rintro ⟨raw, read⟩
      cases read

variable {codec} (roundTrips : codec.RoundTrips)
  (plain : ∀ registry, '\r' ∉ (codec.modelDumpJson registry).toList)

include roundTrips plain in
/-- What an upsert writes is what it returns. -/
theorem holds_written (registry : AttachmentRegistry) (sidecar : Bool)
    (temp : Option (List UInt8)) (clock : Int) :
    Disk.Holds codec ⟨some (Text.utf8 (codec.modelDumpJson registry)), sidecar, temp, clock⟩
      registry := by
  refine ⟨_, _, rfl, Text.readText_utf8 (plain registry), ?_⟩
  rw [decodeAttachmentRegistry, roundTrips]
  rfl

include roundTrips plain in
theorem upsertSound_iff :
    UpsertSound codec fromIsoFormat attachment disk ↔
      InRange codec fromIsoFormat attachment disk := by
  unfold UpsertSound InRange
  rw [Disk.upsert_eq]
  rcases disk.readText_cases with ⟨raw, read⟩ | broken
  · rw [read, Disk.upserted]
    cases decoded : registryOf codec raw with
    | error text =>
        constructor
        · intro _
          refine ⟨raw, rfl, fun registry found => ?_⟩
          rw [decoded] at found
          cases found
        · intro _
          exact ⟨_, _, rfl, rfl⟩
    | ok registry =>
        have inRange : (∃ raw', Except.ok (ε := SystemException) raw = .ok raw' ∧
            ∀ registry, registryOf codec raw' = .ok registry →
              attachmentTerminalTtl ≤ disk.clock ∧
                Readable fromIsoFormat (replaced registry attachment).attachments) ↔
            ∃ compacted, compactAttachmentRegistry fromIsoFormat (replaced registry attachment)
              disk.clock attachmentTerminalTtl attachmentTerminalLimit = .ok compacted := by
          rw [compacts_iff]
          constructor
          · rintro ⟨raw', ⟨⟩, inside⟩
            exact inside registry decoded
          · intro inside
            refine ⟨raw, rfl, fun other found => ?_⟩
            rw [decoded] at found
            cases found
            exact inside
        rw [inRange]
        dsimp only
        cases compactAttachmentRegistry fromIsoFormat (replaced registry attachment) disk.clock
            attachmentTerminalTtl attachmentTerminalLimit with
        | error exc =>
            constructor
            · rintro ⟨result, after, ended, -⟩
              cases ended
            · rintro ⟨compacted, done⟩
              cases done
        | ok nextRegistry =>
            exact ⟨fun _ => ⟨_, rfl⟩,
              fun _ => ⟨_, _, rfl, holds_written roundTrips plain nextRegistry _ _ _⟩⟩
  · rw [broken]
    constructor
    · rintro ⟨result, after, ended, -⟩
      cases ended
    · rintro ⟨raw, read, -⟩
      cases read

end File

/-- Neither the read nor the upsert raises, and the file is left as they say, exactly when its bytes
are UTF-8 and every heartbeat that the compaction looks at is in range. -/
theorem attachment_file (codec : RegistryCodec String)
    (fromIsoFormat : String → Option IsoDatetime) (roundTrips : codec.RoundTrips)
    (plain : ∀ registry, '\r' ∉ (codec.modelDumpJson registry).toList)
    (attachment : ClientAttachment) (disk : Disk) :
    (ReadSound codec disk ∧ UpsertSound codec fromIsoFormat attachment disk) ↔
      InRange codec fromIsoFormat attachment disk := by
  rw [readSound_iff, upsertSound_iff fromIsoFormat attachment disk roundTrips plain]
  constructor
  · exact fun sound => sound.2
  · rintro ⟨raw, read, inside⟩
    exact ⟨⟨raw, read⟩, raw, read, inside⟩

/-! ## A registry as text -/

def escape (c : Char) : List Char :=
  if c = '"' ∨ c = '\\' then ['\\', c]
  else if c = '\n' then ['\\', 'n']
  else if c = '\r' then ['\\', 'r']
  else [c]

def unescape (c : Char) : Char := if c = 'n' then '\n' else if c = 'r' then '\r' else c

def quoted (text : String) : List Char := '"' :: (text.toList.flatMap escape ++ ['"'])

def readQuoted : List Char → Option (List Char × List Char)
  | [] => none
  | '"' :: rest => some ([], rest)
  | '\\' :: c :: rest => (readQuoted rest).map fun (text, rest) => (unescape c :: text, rest)
  | c :: rest => (readQuoted rest).map fun (text, rest) => (c :: text, rest)

def scalarText : Json → List Char
  | .str text => quoted text
  | .bool flag => if flag then "true".toList else "false".toList
  | _ => []

def readScalar : List Char → Option (Json × List Char)
  | '"' :: rest => (readQuoted rest).map fun (text, rest) => (.str (String.ofList text), rest)
  | 't' :: 'r' :: 'u' :: 'e' :: rest => some (.bool true, rest)
  | 'f' :: 'a' :: 'l' :: 's' :: 'e' :: rest => some (.bool false, rest)
  | _ => none

def expect (literal text : List Char) : Option (List Char) :=
  if literal.isPrefixOf text then some (text.drop literal.length) else none

/-- What follows a field with these keys behind it. -/
def fieldEnd (keys : List String) : Char := if keys.isEmpty then '\x7d' else ','

def fieldsText : List String → List Json → List Char
  | key :: keys, value :: values =>
      quoted key ++ ':' :: (scalarText value ++ fieldEnd keys :: fieldsText keys values)
  | _, _ => []

def readFields : List String → List Char → Option (List Json × List Char)
  | [], text => some ([], text)
  | key :: keys, text => do
      let text ← expect (quoted key ++ [':']) text
      let (value, text) ← readScalar text
      let text ← expect [fieldEnd keys] text
      let (values, text) ← readFields keys text
      some (value :: values, text)

/-- The values of a record in the order of its keys. -/
def attachmentValues (attachment : ClientAttachment) : List Json :=
  match attachmentJson attachment with
  | .obj fields => fields.map Prod.snd
  | _ => []

def recordText (attachment : ClientAttachment) : List Char :=
  '\x7b' :: fieldsText attachmentKeys (attachmentValues attachment)

def readRecord (text : List Char) : Option (ClientAttachment × List Char) := do
  let text ← expect ['\x7b'] text
  let (values, text) ← readFields attachmentKeys text
  let attachment ← attachmentOfValues values
  some (attachment, text)

def recordsText : List ClientAttachment → List Char
  | [] => [']']
  | [attachment] => recordText attachment ++ [']']
  | attachment :: rest => recordText attachment ++ ',' :: recordsText rest

def readRecords : Nat → List Char → Option (List ClientAttachment × List Char)
  | 0, _ => none
  | fuel + 1, text =>
      match text with
      | ']' :: rest => some ([], rest)
      | _ => do
          let (attachment, text) ← readRecord text
          match text with
          | ',' :: rest =>
              let (attachments, text) ← readRecords fuel rest
              some (attachment :: attachments, text)
          | ']' :: rest => some ([attachment], rest)
          | _ => none

def registryStart : List Char := "\x7b\"attachments\":[".toList

/-- JSON text; a text is read where it is laid out as it is written. -/
def textCodec : RegistryCodec String where
  modelDumpJson registry :=
    String.ofList (registryStart ++ (recordsText registry.attachments ++ ['\x7d']))
  modelValidateJson text :=
    match expect registryStart text.toList with
    | none => .error "validation error for AttachmentRegistry"
    | some rest =>
        match readRecords rest.length rest with
        | some (attachments, ['\x7d']) => .ok ⟨attachments⟩
        | _ => .error "validation error for AttachmentRegistry"

theorem readQuoted_escape (text rest : List Char) :
    readQuoted (text.flatMap escape ++ '"' :: rest) = some (text, rest) := by
  induction text with
  | nil => rfl
  | cons c text ih =>
      rw [List.flatMap_cons, List.append_assoc]
      unfold escape
      split_ifs with special feed carriage
      · have same : unescape c = c := by
          rcases special with rfl | rfl <;> rfl
        change readQuoted ('\\' :: c :: (text.flatMap escape ++ '"' :: rest)) = _
        rw [readQuoted, ih, Option.map_some, same]
      · subst feed
        change readQuoted ('\\' :: 'n' :: (text.flatMap escape ++ '"' :: rest)) = _
        rw [readQuoted, ih]
        rfl
      · subst carriage
        change readQuoted ('\\' :: 'r' :: (text.flatMap escape ++ '"' :: rest)) = _
        rw [readQuoted, ih]
        rfl
      · rw [not_or] at special
        change readQuoted (c :: (text.flatMap escape ++ '"' :: rest)) = _
        rw [readQuoted, ih, Option.map_some]
        · exact fun quote => special.1 quote
        · exact fun d others escaped => absurd escaped special.2

theorem expect_append (literal rest : List Char) : expect literal (literal ++ rest) = some rest := by
  have begins : literal.isPrefixOf (literal ++ rest) = true :=
    List.isPrefixOf_iff_prefix.mpr (List.prefix_append ..)
  rw [expect, if_pos begins, List.drop_left]

/-- The values that a record has. -/
inductive Plain : Json → Prop
  | text (text : String) : Plain (.str text)
  | flag (flag : Bool) : Plain (.bool flag)

theorem readScalar_text {value : Json} (scalar : Plain value) (rest : List Char) :
    readScalar (scalarText value ++ rest) = some (value, rest) := by
  cases scalar with
  | text text =>
      change readScalar ('"' :: (text.toList.flatMap escape ++ ['"'] ++ rest)) = _
      rw [readScalar, List.append_assoc, List.singleton_append, readQuoted_escape]
      change some (Json.str (String.ofList text.toList), rest) = _
      rw [String.ofList_toList]
  | flag flag => cases flag <;> rfl

theorem readFields_text {keys : List String} {values : List Json}
    (lengths : keys.length = values.length) (scalars : ∀ value ∈ values, Plain value)
    (rest : List Char) :
    readFields keys (fieldsText keys values ++ rest) = some (values, rest) := by
  induction keys generalizing values with
  | nil =>
      obtain rfl := List.length_eq_zero_iff.mp lengths.symm
      rfl
  | cons key keys ih =>
      cases values with
      | nil => cases lengths
      | cons value values =>
          have later := ih (Nat.succ.inj lengths) fun other among =>
            scalars other (List.mem_cons_of_mem _ among)
          have text : fieldsText (key :: keys) (value :: values) ++ rest =
              (quoted key ++ [':']) ++ (scalarText value ++
                ([fieldEnd keys] ++ (fieldsText keys values ++ rest))) := by
            simp only [fieldsText, List.append_assoc, List.cons_append, List.nil_append]
          rw [text, readFields, expect_append]
          dsimp only [bind, Option.bind]
          rw [readScalar_text (scalars value (List.mem_cons_self ..))]
          dsimp only
          rw [expect_append]
          dsimp only
          rw [later]

theorem readRecord_text (attachment : ClientAttachment) (rest : List Char) :
    readRecord (recordText attachment ++ rest) = some (attachment, rest) := by
  have scalars : ∀ value ∈ attachmentValues attachment, Plain value := by
    intro value among
    change value ∈ [Json.str attachment.clientId, .str attachment.clientKind, .str _, .str _, .str _,
      .str attachment.connectedAt, .str attachment.lastHeartbeat, .bool attachment.staleCandidate,
      .bool attachment.unknownState] at among
    simp only [List.mem_cons, List.not_mem_nil, or_false] at among
    rcases among with rfl | rfl | rfl | rfl | rfl | rfl | rfl | rfl | rfl <;> constructor
  have read : attachmentOfValues (attachmentValues attachment) = some attachment :=
    attachmentOfJson_attachmentJson attachment
  change readRecord (['\x7b'] ++ (fieldsText attachmentKeys (attachmentValues attachment) ++ rest)) = _
  rw [readRecord, expect_append]
  dsimp only [bind, Option.bind]
  rw [readFields_text rfl scalars]
  dsimp only
  rw [read]

theorem recordsText_cons (attachment other : ClientAttachment) (others : List ClientAttachment) :
    recordsText (attachment :: other :: others) =
      recordText attachment ++ ',' :: recordsText (other :: others) := rfl

theorem readRecords_text (attachments : List ClientAttachment) (rest : List Char) {fuel : Nat}
    (enough : (recordsText attachments).length ≤ fuel) :
    readRecords fuel (recordsText attachments ++ rest) = some (attachments, rest) := by
  induction fuel generalizing attachments with
  | zero =>
      cases attachments with
      | nil => cases enough
      | cons attachment others => cases others <;> cases enough
  | succ fuel ih =>
      cases attachments with
      | nil => rfl
      | cons attachment others =>
          have start (tail : List Char) :
              readRecords (fuel + 1) (recordText attachment ++ tail) = (do
                let (attachment, text) ← readRecord (recordText attachment ++ tail)
                match text with
                | ',' :: rest =>
                    let (attachments, text) ← readRecords fuel rest
                    some (attachment :: attachments, text)
                | ']' :: rest => some ([attachment], rest)
                | _ => none) := rfl
          cases others with
          | nil =>
              rw [recordsText, List.append_assoc, start, readRecord_text]
              rfl
          | cons other others =>
              have shorter : (recordsText (other :: others)).length ≤ fuel := by
                rw [recordsText_cons, List.length_append, List.length_cons] at enough
                omega
              have later := ih (other :: others) shorter
              rw [recordsText_cons, List.append_assoc, List.cons_append, start, readRecord_text]
              change ((readRecords fuel (recordsText (other :: others) ++ rest)).bind fun read =>
                some (attachment :: read.1, read.2)) = _
              rw [later, Option.bind_some]

theorem textCodec_roundTrips : textCodec.RoundTrips := by
  intro registry
  change (match expect registryStart (String.ofList (registryStart ++
      (recordsText registry.attachments ++ ['\x7d']))).toList with
    | none => Except.error "validation error for AttachmentRegistry"
    | some rest =>
        match readRecords rest.length rest with
        | some (attachments, ['\x7d']) => .ok (AttachmentRegistry.mk attachments)
        | _ => .error "validation error for AttachmentRegistry") = .ok registry
  rw [String.toList_ofList, expect_append]
  dsimp only
  have enough : (recordsText registry.attachments).length ≤
      (recordsText registry.attachments ++ ['\x7d']).length := by
    rw [List.length_append]
    exact Nat.le_add_right _ _
  have records := readRecords_text registry.attachments ['\x7d'] enough
  rw [records]
  rfl

/-! ### No carriage return is written -/

theorem quoted_plain (text : String) : '\r' ∉ quoted text := by
  have escaped (c : Char) : '\r' ∉ escape c := by
    unfold escape
    split_ifs with special feed carriage <;> grind
  intro found
  simp only [quoted, List.mem_cons, List.mem_append, List.mem_flatMap, List.not_mem_nil, or_false,
    (by decide : ('\r' = '"') = False), false_or] at found
  obtain ⟨c, -, among⟩ := found
  exact escaped c among

theorem scalarText_plain (value : Json) : '\r' ∉ scalarText value := by
  cases value with
  | str text => exact quoted_plain text
  | bool flag => cases flag <;> decide
  | null => exact List.not_mem_nil
  | num mantissa exponent => exact List.not_mem_nil
  | arr items => exact List.not_mem_nil
  | obj fields => exact List.not_mem_nil

theorem fieldsText_plain (keys : List String) (values : List Json) :
    '\r' ∉ fieldsText keys values := by
  induction keys generalizing values with
  | nil => exact List.not_mem_nil
  | cons key keys ih =>
      cases values with
      | nil => exact List.not_mem_nil
      | cons value values =>
          have ended : fieldEnd keys ≠ '\r' := by
            unfold fieldEnd
            split <;> decide
          have name := quoted_plain key
          have scalar := scalarText_plain value
          have later := ih values
          simp only [fieldsText, List.mem_append, List.mem_cons, not_or]
          exact ⟨name, by decide, scalar, ended.symm, later⟩

theorem recordsText_plain (attachments : List ClientAttachment) :
    '\r' ∉ recordsText attachments := by
  have record (attachment : ClientAttachment) : '\r' ∉ recordText attachment := by
    rw [recordText, List.mem_cons, not_or]
    exact ⟨by decide, fieldsText_plain _ _⟩
  induction attachments with
  | nil => decide
  | cons attachment others ih =>
      cases others with
      | nil =>
          rw [recordsText, List.mem_append, not_or]
          exact ⟨record attachment, by decide⟩
      | cons other others =>
          rw [recordsText_cons, List.mem_append, List.mem_cons, not_or, not_or]
          exact ⟨record attachment, by decide, ih⟩

theorem textCodec_plain (registry : AttachmentRegistry) :
    '\r' ∉ (textCodec.modelDumpJson registry).toList := by
  change '\r' ∉ (String.ofList (registryStart ++
    (recordsText registry.attachments ++ ['\x7d']))).toList
  rw [String.toList_ofList, List.mem_append, List.mem_append, not_or, not_or]
  exact ⟨by decide, recordsText_plain _, by decide⟩

/-! ### Files that are read, and files that are not -/

/-- `datetime.fromisoformat` on texts with an offset. -/
def isoInstant (text : String) : Option IsoDatetime :=
  (IsoTime.instant? text).map fun instant => ⟨instant, some 0⟩

/-- The registry that one ended attachment makes. -/
def endedRegistry : AttachmentRegistry :=
  ⟨[sampleRecord "ended" "2026-01-30T00:00:00Z" .exited (by decide) (by decide)]⟩

/-- On a registry whose records are in range both return. -/
theorem attachment_file_ended :
    (ReadSound textCodec ⟨some (Text.utf8 (textCodec.modelDumpJson endedRegistry)), true, none,
        63905500800000000⟩ ∧
      UpsertSound textCodec isoInstant
        (sampleRecord "active" "2026-01-31T00:00:00Z" .active (by decide) (by decide))
        ⟨some (Text.utf8 (textCodec.modelDumpJson endedRegistry)), true, none,
          63905500800000000⟩) := by
  refine (attachment_file textCodec isoInstant textCodec_roundTrips textCodec_plain _ _).mpr
    ⟨some (textCodec.modelDumpJson endedRegistry), ?_, ?_⟩
  · rw [Disk.readText]
    dsimp only
    rw [Text.readText_utf8 (textCodec_plain endedRegistry)]
  · intro registry found
    have decoded : registryOf textCodec (some (textCodec.modelDumpJson endedRegistry)) =
        .ok endedRegistry := by
      rw [registryOf, decodeAttachmentRegistry, textCodec_roundTrips]
      rfl
    rw [decoded] at found
    cases found
    refine ⟨by decide, fun record among terminal => ?_⟩
    have records : (replaced endedRegistry
        (sampleRecord "active" "2026-01-31T00:00:00Z" .active (by decide) (by decide))).attachments =
        [sampleRecord "ended" "2026-01-30T00:00:00Z" .exited (by decide) (by decide),
          sampleRecord "active" "2026-01-31T00:00:00Z" .active (by decide) (by decide)] := by
      decide
    rw [records] at among
    simp only [List.mem_cons, List.not_mem_nil, or_false] at among
    rcases among with rfl | rfl
    · exact ⟨some 63905328000000000, by decide +kernel⟩
    · cases terminal

/-- A byte that is no UTF-8 escapes both, and a heartbeat before the first year escapes an upsert
into a missing file, whatever the codec is. -/
theorem raises_of_every_codec (codec : RegistryCodec String) :
    ((⟨some [0xff], false, none, 63905500800000000⟩ : Disk).read codec).1 =
        .error (.raised unicodeDecodeError) ∧
    ((⟨some [0xff], false, none, 63905500800000000⟩ : Disk).upsert codec isoInstant
        (sampleRecord "active" "2026-01-31T00:00:00Z" .active (by decide) (by decide))).1 =
        .error (.raised unicodeDecodeError) ∧
    ((⟨none, false, none, 63905500800000000⟩ : Disk).upsert codec isoInstant
        (sampleRecord "ended" "0001-01-01T00:00:00+23:59" .exited (by decide) (by decide))).1 =
        .error (.raised ⟨.other, "OverflowError", "date value out of range"⟩) := by
  have broken : (⟨some [0xff], false, none, 63905500800000000⟩ : Disk).readText =
      .error (.raised unicodeDecodeError) := by
    have bytes : Text.readText [0xff] = none := by decide +kernel
    rw [Disk.readText]
    dsimp only
    rw [bytes]
  have early : compactAttachmentRegistry isoInstant
      (replaced ⟨[]⟩ (sampleRecord "ended" "0001-01-01T00:00:00+23:59" .exited (by decide) (by decide)))
      63905500800000000 attachmentTerminalTtl attachmentTerminalLimit =
        .error ⟨.other, "OverflowError", "date value out of range"⟩ := by
    decide +kernel
  refine ⟨?_, ?_, ?_⟩
  · rw [Disk.read_eq, broken]
    rfl
  · rw [Disk.upsert_eq, broken]
    rfl
  · rw [Disk.upsert_eq]
    change (Disk.upserted codec isoInstant _ ⟨none, false, none, 63905500800000000⟩ (.ok none)).1 = _
    rw [Disk.upserted]
    dsimp only [registryOf]
    rw [early]

theorem attachment_file_violated :
    ((⟨some [0xff], false, none, 63905500800000000⟩ : Disk).read textCodec).1 =
        .error (.raised unicodeDecodeError) ∧
    ((⟨some [0xff], false, none, 63905500800000000⟩ : Disk).upsert textCodec isoInstant
        (sampleRecord "active" "2026-01-31T00:00:00Z" .active (by decide) (by decide))).1 =
        .error (.raised unicodeDecodeError) ∧
    ((⟨none, false, none, 63905500800000000⟩ : Disk).upsert textCodec isoInstant
        (sampleRecord "ended" "0001-01-01T00:00:00+23:59" .exited (by decide) (by decide))).1 =
        .error (.raised ⟨.other, "OverflowError", "date value out of range"⟩) :=
  raises_of_every_codec textCodec

end Tela.AttachmentRegistry
