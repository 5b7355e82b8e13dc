import Tela.Library.IsoTime
import Tela.Shell.AttachmentRegistry

/-!
# Runs of upserts

The registry file under any interleaving of upserts: what it holds, which records
may disappear, and that a successful upsert takes effect at one moment.
-/

namespace Tela.AttachmentRegistry

open Coop (Monitor Follows Coro TaskId assign assign_self assign_of_ne)

variable {Content : Type}

/-! ## What one upsert writes -/

/-- The registry that an upsert of the record makes of the previous one. -/
structure Upserted (fromIsoFormat : String → Option IsoDatetime) (now : Int)
    (previous : AttachmentRegistry) (attachment : ClientAttachment) (next : AttachmentRegistry) :
    Prop where
  limited : (next.attachments.filter ClientAttachment.isTerminal).length ≤ attachmentTerminalLimit
  only : ∀ item ∈ next.attachments,
    item = attachment ∨ item ∈ previous.attachments ∧ item.clientId ≠ attachment.clientId
  unique : (previous.attachments.map ClientAttachment.clientId).Nodup →
    (next.attachments.map ClientAttachment.clientId).Nodup
  /-- The record and all others are there, but for terminal ones that compaction drops. -/
  keeps : ∀ item,
    item = attachment ∨ item ∈ previous.attachments ∧ item.clientId ≠ attachment.clientId →
    item ∈ next.attachments ∨
      item.isTerminal = true ∧
        (Expired fromIsoFormat (now - attachmentTerminalTtl) item ∨
          (next.attachments.filter ClientAttachment.isTerminal).length = attachmentTerminalLimit)

variable {fromIsoFormat : String → Option IsoDatetime} {now : Int}
  {previous next : AttachmentRegistry} {attachment : ClientAttachment}

theorem mem_replaced {item : ClientAttachment} :
    item ∈ (replaced previous attachment).attachments ↔
      item = attachment ∨ item ∈ previous.attachments ∧ item.clientId ≠ attachment.clientId := by
  simp [replaced, or_comm]

theorem nodup_replaced (unique : (previous.attachments.map ClientAttachment.clientId).Nodup) :
    ((replaced previous attachment).attachments.map ClientAttachment.clientId).Nodup := by
  unfold replaced
  rw [List.map_append, List.nodup_append]
  refine ⟨(unique.sublist (List.filter_sublist.map _)), List.nodup_singleton _, ?_⟩
  intro id among other single same
  obtain rfl := List.mem_singleton.mp single
  obtain ⟨item, kept, rfl⟩ := List.mem_map.mp among
  have different := (List.mem_filter.mp kept).2
  rw [same, bne_self_eq_false] at different
  cases different

/-- Compaction of the replaced registry is what an upsert should make of it. -/
theorem upserted_of_compact
    (done : compactAttachmentRegistry fromIsoFormat (replaced previous attachment) now
      attachmentTerminalTtl attachmentTerminalLimit = .ok next) :
    Upserted fromIsoFormat now previous attachment next := by
  have compacted := compactAttachmentRegistry_ok done
  refine ⟨compacted.limited, fun item among => mem_replaced.mp (compacted.subperm.subset among),
    fun unique => ?unique, fun item expected => ?keeps⟩
  case unique =>
    have mapped := subperm_map ClientAttachment.clientId compacted.subperm
    obtain ⟨ordered, perm, sublist⟩ := mapped
    exact perm.nodup_iff.mp ((nodup_replaced unique).sublist sublist)
  case keeps =>
    have among := mem_replaced.mpr expected
    by_cases present : item ∈ next.attachments
    · exact .inl present
    · refine .inr ⟨?_, compacted.drops item among present⟩
      by_contra inUse
      exact present (compacted.preserves item among (Bool.eq_false_iff.mpr inUse))

/-! ## The discipline of one process -/

/-- How far one upsert is: what it read, wrote and put in place. -/
inductive Phase (Content : Type)
  | outside
  | locked
  | loaded (raw : Option Content)
  | timed (raw : Option Content) (now : Int)
  | staged (raw : Option Content) (now : Int) (payload : Content)
  | replaced (raw : Option Content) (now : Int) (payload : Content)
  | released (raw : Option Content) (now : Int) (payload : Content)

def Phase.Holds : Phase Content → Prop
  | outside => False
  | released _ _ _ => False
  | _ => True

/-- What the file holds, for all that the process knows. -/
def Phase.read : Phase Content → Option (Option Content)
  | loaded raw => some raw
  | timed raw _ => some raw
  | staged raw _ _ => some raw
  | replaced _ _ payload => some (some payload)
  | _ => none

/-- Nothing is staged any longer. -/
def Phase.unstage : Phase Content → Phase Content
  | staged raw now _ => timed raw now
  | phase => phase

structure Progress (Content : Type) where
  attachment : ClientAttachment
  phase : Phase Content

section Discipline

variable (codec : RegistryCodec Content) (fromIsoFormat : String → Option IsoDatetime)

/-- The text is that of the upserted registry. -/
def Produces (attachment : ClientAttachment) (raw : Option Content) (now : Int)
    (payload : Content) : Prop :=
  ∃ previous next, registryOf codec raw = .ok previous ∧
    Upserted fromIsoFormat now previous attachment next ∧ payload = codec.modelDumpJson next

/-- What an upsert may call. -/
def mayCall (w : Call Content) (g : Progress Content) : Prop :=
  match w, g.phase with
  | .lockExclusive, phase => phase = .outside
  | .readText, phase => phase = .locked
  | .now, phase => ∃ raw, phase = .loaded raw
  | .writeTemp _, phase => ∃ raw now, phase = .timed raw now
  | .replaceFile, phase => ∃ raw now payload, phase = .staged raw now payload ∧
      Produces codec fromIsoFormat g.attachment raw now payload
  | .unlock, phase => phase.Holds
  | _, _ => True

def afterCall : (w : Call Content) → Option w.Result → Phase Content → Phase Content
  | .lockExclusive, some _, .outside => .locked
  | .readText, some raw, .locked => .loaded raw
  | .now, some now, .loaded raw => .timed raw now
  | .createTemp, _, phase => phase.unstage
  | .writeTemp payload, some _, .timed raw now => .staged raw now payload
  | .removeTemp, _, phase => phase.unstage
  | .replaceFile, some _, .staged raw now payload => .replaced raw now payload
  | .unlock, _, .replaced raw now payload => .released raw now payload
  | .unlock, _, _ => .outside
  | _, _, phase => phase

/-- A successful upsert has put the text of its registry in place. -/
def Succeeded (out : Except String AttachmentRegistry) (g : Progress Content) : Prop :=
  ∀ registry, out = .ok registry → ∃ raw now previous, registryOf codec raw = .ok previous ∧
    Upserted fromIsoFormat now previous g.attachment registry ∧
    g.phase = .released raw now (codec.modelDumpJson registry)

def monitor : Monitor (sig Content) (Progress Content) where
  may _ _ := True
  after a _ _ := nomatch a
  mayWait := mayCall codec fromIsoFormat
  woken w result g := { g with phase := afterCall w result g.phase }
  mayTime _ := False
  mayTime_after := id
  mayTime_woken := id

variable {α : Type}

/-- What an exception must satisfy where the handler takes every `OSError`. -/
def Handled (onRet : α → Progress Content → Prop)
    (onRaise : SystemException → Progress Content → Prop) (handler : String → Prog Content α) :
    SystemException → Progress Content → Prop
  | .osError text, g => Follows (monitor codec fromIsoFormat) onRet onRaise (handler text) g
  | .raised exc, g => onRaise (.raised exc) g

variable {codec fromIsoFormat}

theorem exceptOsError_iff {body : Prog Content α} {handler : String → Prog Content α}
    {onRet : α → Progress Content → Prop} {onRaise : SystemException → Progress Content → Prop}
    {g : Progress Content} :
    Follows (monitor codec fromIsoFormat) onRet onRaise (exceptOsError body handler) g ↔
      Follows (monitor codec fromIsoFormat) onRet
        (Handled codec fromIsoFormat onRet onRaise handler)
        body g := by
  unfold exceptOsError
  simp only [Coro.bind_eq, Follows.bind_iff, Follows.attempt_iff]
  constructor <;> intro follows <;> refine follows.mono (fun _ _ h => h) fun exc g h => ?_
  · cases exc <;> exact h
  · cases exc <;> exact h

/-- A call that does not move the upsert on. -/
theorem follows_sys {w : Call Content} {g : Progress Content}
    {onRet : w.Result → Progress Content → Prop}
    {onRaise : SystemException → Progress Content → Prop}
    (may : mayCall codec fromIsoFormat w g)
    (ok : ∀ result, onRet result { g with phase := afterCall w (some result) g.phase })
    (failed : ∀ exc, onRaise exc { g with phase := afterCall w none g.phase }) :
    Follows (monitor codec fromIsoFormat) onRet onRaise (sys w) g :=
  Follows.await_iff.mpr ⟨may, ok, failed⟩

theorem follows_removeTempFile {tempPath : String} {g : Progress Content}
    (holds : g.phase.Holds) :
    Follows (monitor codec fromIsoFormat)
      (fun _ after => after.attachment = g.attachment ∧ after.phase.Holds)
      (fun _ after => after.phase.Holds) (removeTempFile tempPath) g := by
  have removed : g.phase.unstage.Holds := by
    obtain ⟨attachment, phase⟩ := g
    cases phase <;> trivial
  refine exceptOsError_iff.mpr (follows_sys trivial (fun _ => ⟨rfl, removed⟩) fun exc => ?_)
  cases exc with
  | osError text => exact removed
  | raised exc => exact removed

theorem follows_replaceUnderLock {attachment : ClientAttachment} {raw : Option Content}
    {now : Int} {registry : AttachmentRegistry}
    (produces : Produces codec fromIsoFormat attachment raw now (codec.modelDumpJson registry)) :
    Follows (monitor codec fromIsoFormat)
      (fun out after => after.attachment = attachment ∧ after.phase.Holds ∧
        (out = .ok () → after.phase = .replaced raw now (codec.modelDumpJson registry)))
      (fun _ after => after.phase.Holds)
      (replaceAttachmentRegistryUnderLock codec registry) ⟨attachment, .timed raw now⟩ := by
  unfold replaceAttachmentRegistryUnderLock
  simp only [Coro.bind_eq, Follows.bind_iff, Follows.attempt_iff]
  refine follows_sys trivial (fun tempPath => ?named) fun exc => ?unnamed
  case unnamed =>
    cases exc with
    | osError text => exact ⟨rfl, trivial, by rintro ⟨⟩⟩
    | raised exc => exact trivial
  case named =>
    refine exceptOsError_iff.mpr ?_
    have abandon (after : Progress Content) (same : after.attachment = attachment)
        (holds : after.phase.Holds) (exc : SystemException) :
        Handled codec fromIsoFormat
          (fun (out : Except String Unit) after => after.attachment = attachment ∧
            after.phase.Holds ∧ (out = .ok () → after.phase = .replaced raw now (codec.modelDumpJson registry)))
          (fun _ after => after.phase.Holds)
          (fun text => (removeTempFile tempPath).bind fun _ => .ret (.error (writeError text)))
          exc after := by
      cases exc with
      | osError text =>
          refine Follows.bind_iff.mpr ((follows_removeTempFile holds).mono ?_ fun _ _ h => h)
          rintro _ last ⟨still, holds⟩
          exact ⟨still.trans same, holds, by rintro ⟨⟩⟩
      | raised exc => exact holds
    simp only [Follows.bind_iff]
    refine follows_sys ⟨raw, now, rfl⟩ (fun _ => ?_) (abandon _ rfl trivial)
    refine follows_sys trivial (fun _ => ?_) (abandon _ rfl trivial)
    refine follows_sys ⟨raw, now, _, rfl, produces⟩ (fun _ => ?_) (abandon _ rfl trivial)
    exact follows_sys trivial (fun _ => ⟨rfl, trivial, fun _ => rfl⟩) (abandon _ rfl trivial)

theorem follows_lock {body : Prog Content α} {attachment : ClientAttachment}
    {onRet : α → Progress Content → Prop}
    (follows : Follows (monitor codec fromIsoFormat)
      (fun value after => after.phase.Holds ∧
        onRet value { after with phase := afterCall .unlock (some ()) after.phase })
      (fun _ after => after.phase.Holds) body ⟨attachment, .locked⟩) :
    Follows (monitor codec fromIsoFormat) onRet (fun _ _ => True)
      (withAttachmentRegistryLock body) ⟨attachment, .outside⟩ := by
  unfold withAttachmentRegistryLock
  simp only [Coro.bind_eq, Follows.bind_iff]
  refine follows_sys trivial (fun _ => ?_) fun _ => trivial
  refine follows_sys rfl (fun _ => ?_) fun _ => trivial
  refine Follows.ensure (follows.mono (fun value after h => ?_) fun exc after holds => ?_)
  · exact follows_sys h.1 (fun _ => h.2) fun _ => trivial
  · exact follows_sys holds (fun _ => trivial) fun _ => trivial

theorem follows_upsert (attachment : ClientAttachment) :
    Follows (monitor codec fromIsoFormat) (Succeeded codec fromIsoFormat) (fun _ _ => True)
      (upsertAttachmentRegistry codec fromIsoFormat attachment) ⟨attachment, .outside⟩ := by
  unfold upsertAttachmentRegistry
  refine exceptOsError_iff.mpr ?_
  have failed {out : Except String AttachmentRegistry} {after : Progress Content}
      (isError : ∀ registry, out ≠ .ok registry) : Succeeded codec fromIsoFormat out after :=
    fun registry ok => absurd ok (isError registry)
  have handled (exc : SystemException) (after : Progress Content) :
      Handled codec fromIsoFormat (Succeeded codec fromIsoFormat)
        (fun _ _ => True) (fun text => .ret (.error (writeError text))) exc after := by
    cases exc with
    | osError text => exact failed (by rintro _ ⟨⟩)
    | raised exc => trivial
  simp only [Coro.bind_eq, Follows.bind_iff]
  refine follows_sys trivial (fun _ => ?_) fun exc => handled exc _
  refine Follows.mono (fun _ _ h => h) (fun exc after _ => handled exc after) (follows_lock ?_)
  refine Follows.bind_iff.mpr (follows_sys rfl (fun raw => ?_) fun _ => trivial)
  cases read : registryOf codec raw with
  | error text => exact ⟨trivial, failed (by rintro _ ⟨⟩)⟩
  | ok registry =>
      refine Follows.bind_iff.mpr (follows_sys ⟨raw, rfl⟩ (fun now => ?_) fun _ => trivial)
      cases done : compactAttachmentRegistry fromIsoFormat (replaced registry attachment) now
          attachmentTerminalTtl attachmentTerminalLimit with
      | error exc => exact trivial
      | ok nextRegistry =>
          have upserted := upserted_of_compact done
          have produces : Produces codec fromIsoFormat attachment raw now
              (codec.modelDumpJson nextRegistry) :=
            ⟨registry, nextRegistry, read, upserted, rfl⟩
          refine Follows.bind_iff.mpr ((follows_replaceUnderLock produces).mono ?_ fun _ _ h => h)
          rintro (text | ⟨⟨⟩⟩) ⟨_, phase⟩ ⟨rfl, holds, replaced⟩
          · exact ⟨holds, failed (by rintro _ ⟨⟩)⟩
          · obtain rfl := replaced rfl
            refine ⟨holds, ?_⟩
            rintro _ ⟨⟩
            exact ⟨raw, now, registry, read, upserted, rfl⟩

end Discipline

/-! ## The invariant of a run -/

section Runs

variable (codec : RegistryCodec Content) (fromIsoFormat : String → Option IsoDatetime)

open Coop.Host (own own_other own_called own_sublist)

abbrev Event := Coop.Host.Event (host codec fromIsoFormat)

abbrev History := Coop.Host.History (host codec fromIsoFormat)

def watch : Coop.Host.Watch (host codec fromIsoFormat) (Progress Content) where
  toMonitor := monitor codec fromIsoFormat
  start _ attachment := ⟨attachment, .outside⟩
  returns _ out g := Succeeded codec fromIsoFormat out g
  follows _ attachment := follows_upsert attachment

/-- The file decodes to a registry in which no client id occurs twice. -/
def Sound (file : Option Content) : Prop :=
  ∃ registry, registryOf codec file = .ok registry ∧
    (registry.attachments.map ClientAttachment.clientId).Nodup

/-- The registry has no more terminal records than the limit. -/
def Limited (file : Option Content) : Prop :=
  ∀ registry, registryOf codec file = .ok registry →
    (registry.attachments.filter ClientAttachment.isTerminal).length ≤ attachmentTerminalLimit

variable {codec fromIsoFormat}

/-- The time was read by the upsert before it put its text in place. -/
def Timed (attachment : ClientAttachment) (p : TaskId) (now : Int)
    (moves : History codec fromIsoFormat) : Prop :=
  ∃ v, [(v, .called p attachment .now (.ok now))].Sublist moves

/-- The upsert put its text in place of what it had read. -/
def Placed (attachment : ClientAttachment) (p : TaskId) (raw : Option Content) (now : Int)
    (moves : History codec fromIsoFormat) : Prop :=
  ∃ v s, s.file = raw ∧
    [ (v, .called p attachment .now (.ok now))
    , (s, .called p attachment .replaceFile (.ok ())) ].Sublist moves

/-- The text was still in place when the upsert gave the lock back. -/
def Released (attachment : ClientAttachment) (p : TaskId) (raw : Option Content) (now : Int)
    (payload : Content) (moves : History codec fromIsoFormat) : Prop :=
  ∃ v s u outcome, s.file = raw ∧ u.file = some payload ∧
    [ (v, .called p attachment .now (.ok now))
    , (s, .called p attachment .replaceFile (.ok ()))
    , (u, .called p attachment .unlock outcome) ].Sublist moves

/-- What the phase of a process says about its moves. -/
def Recorded (attachment : ClientAttachment) (p : TaskId)
    (moves : History codec fromIsoFormat) : Phase Content → Prop
  | .timed _ now => Timed attachment p now moves
  | .staged _ now _ => Timed attachment p now moves
  | .replaced raw now _ => Placed attachment p raw now moves
  | .released raw now payload => Released attachment p raw now payload moves
  | _ => True

/-- One process in the state of a run. -/
structure Placing (history : History codec fromIsoFormat) (s : Files Content) (p : TaskId)
    (attachment : ClientAttachment) (g : Progress Content) : Prop where
  named : g.attachment = attachment
  holds : g.phase.Holds → s.holder = some p
  read : ∀ raw, g.phase.read = some raw → s.file = raw
  staged : ∀ raw now payload, g.phase = .staged raw now payload → s.temp p = some payload
  recorded : Recorded attachment p (own p history) g.phase

/-- From here on the file holds a compacted registry. -/
def Settles : Event codec fromIsoFormat → Prop
  | .called _ _ .replaceFile (.ok _) => True
  | .ended _ _ (.ok (.ok _)) => True
  | _ => False

structure Inv (history : History codec fromIsoFormat)
    (table : Coop.Host.Table (host codec fromIsoFormat) (Progress Content)) (s : Files Content) :
    Prop where
  placing : ∀ p attachment g, table p = some (attachment, g) → Placing history s p attachment g
  sound : Sound codec s.file
  limited : (∃ entry ∈ history, Settles entry.2) → Limited codec s.file

theorem Phase.holds_of_read {phase : Phase Content} {raw : Option Content}
    (read : phase.read = some raw) : phase.Holds := by
  cases phase <;> trivial

variable {history : History codec fromIsoFormat} {s s' : Files Content} {p q : TaskId}
  {attachment other : ClientAttachment} {g : Progress Content}

/-- A move of another process that leaves the file alone while this one holds the lock. -/
theorem Placing.frame {event : Event codec fromIsoFormat}
    (placing : Placing history s q attachment g) (elsewhere : event.process ≠ q)
    (holder : s.holder = some q → s'.holder = some q)
    (file : s.holder = some q → s'.file = s.file) (temp : s'.temp q = s.temp q) :
    Placing (history ++ [(s, event)]) s' q attachment g where
  named := placing.named
  holds holds := holder (placing.holds holds)
  read raw read := (file (placing.holds (Phase.holds_of_read read))).trans (placing.read raw read)
  staged raw now payload staged := temp.trans (placing.staged raw now payload staged)
  recorded := by
    rw [own_other elsewhere]
    exact placing.recorded

theorem Recorded.append {moves : History codec fromIsoFormat}
    {entry : Files Content × Event codec fromIsoFormat} {phase : Phase Content}
    (recorded : Recorded attachment p moves phase) :
    Recorded attachment p (moves ++ [entry]) phase := by
  cases phase with
  | outside => trivial
  | locked => trivial
  | loaded raw => trivial
  | timed raw now =>
      obtain ⟨v, moved⟩ := recorded
      exact ⟨v, moved.trans (List.sublist_append_left ..)⟩
  | staged raw now payload =>
      obtain ⟨v, moved⟩ := recorded
      exact ⟨v, moved.trans (List.sublist_append_left ..)⟩
  | replaced raw now payload =>
      obtain ⟨v, s, read, moved⟩ := recorded
      exact ⟨v, s, read, moved.trans (List.sublist_append_left ..)⟩
  | released raw now payload =>
      obtain ⟨v, s, u, outcome, read, kept, moved⟩ := recorded
      exact ⟨v, s, u, outcome, read, kept, moved.trans (List.sublist_append_left ..)⟩

section Called

variable {w : Call Content} {outcome : Except SystemException w.Result}

/-- A call that leaves the phase, the file and the lock as they are. -/
theorem Placing.still (placing : Placing history s p attachment g) (holder : s'.holder = s.holder)
    (file : s'.file = s.file)
    (temp : ∀ raw now payload, g.phase = .staged raw now payload → s'.temp p = s.temp p) :
    Placing (history ++ [(s, .called p attachment w outcome)]) s' p attachment g where
  named := placing.named
  holds holds := holder.trans (placing.holds holds)
  read raw read := file.trans (placing.read raw read)
  staged raw now payload staged :=
    (temp raw now payload staged).trans (placing.staged raw now payload staged)
  recorded := by
    rw [own_called]
    exact placing.recorded.append

/-- A call after which the temporary file holds no text that the upsert relies on. -/
theorem Placing.unstage (placing : Placing history s p attachment g)
    (temp : TaskId → Option Content) :
    Placing (history ++ [(s, .called p attachment w outcome)]) { s with temp := temp } p attachment
      { g with phase := g.phase.unstage } := by
  obtain ⟨named, phase⟩ := g
  cases phase with
  | staged raw now payload =>
      exact
        { named := placing.named
          holds := placing.holds
          read := placing.read
          staged := nofun
          recorded := by
            rw [own_called]
            exact placing.recorded.append }
  | _ => exact placing.still rfl rfl nofun

theorem Placing.called (placing : Placing history s p attachment g)
    (may : mayCall codec fromIsoFormat w g) (done : call p w s outcome s') :
    Placing (history ++ [(s, .called p attachment w outcome)]) s' p attachment
      { g with phase := afterCall w outcome.toOption g.phase } := by
  obtain ⟨named, phase⟩ := g
  cases w with
  | ensureDirectory =>
      cases outcome <;> obtain rfl := done <;> exact placing.still rfl rfl fun _ _ _ _ => rfl
  | openSidecar =>
      cases outcome <;> obtain rfl := done <;> exact placing.still rfl rfl fun _ _ _ _ => rfl
  | protectTemp =>
      cases outcome <;> obtain rfl := done <;> exact placing.still rfl rfl fun _ _ _ _ => rfl
  | protectFile =>
      cases outcome <;> obtain rfl := done <;> exact placing.still rfl rfl fun _ _ _ _ => rfl
  | lockExclusive =>
      obtain rfl : phase = .outside := may
      cases outcome with
      | error exc =>
          obtain rfl := done
          exact placing.still rfl rfl fun _ _ _ _ => rfl
      | ok result =>
          obtain ⟨-, rfl⟩ := done
          exact ⟨placing.named, fun _ => rfl, nofun, nofun, trivial⟩
  | unlock =>
      obtain rfl : s' = s.giveBack p := by cases outcome <;> exact done
      cases phase with
      | replaced raw now payload =>
          refine ⟨placing.named, nofun, nofun, nofun, ?_⟩
          rw [own_called]
          obtain ⟨v, before, read, moved⟩ := placing.recorded
          refine ⟨v, before, s, outcome, read, placing.read _ rfl, ?_⟩
          exact moved.append (List.Sublist.refl _)
      | outside => exact may.elim
      | released raw now payload => exact may.elim
      | _ => exact ⟨placing.named, nofun, nofun, nofun, trivial⟩
  | readText =>
      obtain rfl : phase = .locked := may
      cases outcome with
      | error exc =>
          obtain rfl := done
          exact placing.still rfl rfl fun _ _ _ _ => rfl
      | ok raw =>
          obtain ⟨rfl, rfl⟩ := done
          refine ⟨placing.named, fun _ => placing.holds trivial, ?_, nofun, trivial⟩
          rintro _ ⟨⟩
          rfl
  | now =>
      obtain ⟨raw, rfl⟩ : ∃ raw, phase = .loaded raw := may
      obtain rfl : s' = s := by cases outcome <;> exact done
      cases outcome with
      | error exc => exact placing.still rfl rfl fun _ _ _ _ => rfl
      | ok now =>
          refine ⟨placing.named, fun _ => placing.holds trivial, placing.read, nofun, ?_⟩
          rw [own_called]
          exact ⟨_, List.sublist_append_right ..⟩
  | createTemp =>
      cases outcome with
      | error exc =>
          obtain rfl := done
          exact placing.unstage s'.temp
      | ok path =>
          obtain ⟨blank, rfl⟩ := done
          exact placing.unstage _
  | removeTemp =>
      cases outcome with
      | error exc =>
          obtain rfl := done
          exact placing.unstage s'.temp
      | ok result =>
          obtain rfl := done
          exact placing.unstage _
  | writeTemp payload =>
      obtain ⟨raw, now, rfl⟩ : ∃ raw now, phase = .timed raw now := may
      cases outcome with
      | error exc =>
          obtain ⟨part, rfl⟩ := done
          exact placing.still rfl rfl nofun
      | ok result =>
          obtain rfl := done
          refine ⟨placing.named, fun _ => placing.holds trivial, placing.read, ?_, ?_⟩
          · rintro _ _ _ ⟨⟩
            exact assign_self ..
          · rw [own_called]
            exact placing.recorded.append
  | replaceFile =>
      obtain ⟨raw, now, payload, staged, -⟩ := may
      obtain rfl : phase = .staged raw now payload := staged
      cases outcome with
      | error exc =>
          obtain rfl := done
          exact placing.still rfl rfl fun _ _ _ _ => rfl
      | ok result =>
          obtain ⟨content, held, rfl⟩ := done
          have same := placing.staged raw now payload rfl
          obtain rfl := Option.some.inj (held.symm.trans same)
          refine ⟨placing.named, fun _ => placing.holds trivial, ?_, nofun, ?_⟩
          · rintro _ ⟨⟩
            rfl
          · rw [own_called]
            obtain ⟨v, moved⟩ := placing.recorded
            exact ⟨v, s, placing.read _ rfl, moved.append (List.Sublist.refl _)⟩

end Called

/-- What a call leaves to the processes that do not make it. -/
theorem call_frame {w : Call Content} {outcome : Except SystemException w.Result}
    (done : call p w s outcome s') (different : q ≠ p)
    (alone : w ≠ .replaceFile ∨ s.holder = some p) :
    (s.holder = some q → s'.holder = some q) ∧ (s.holder = some q → s'.file = s.file) ∧
      s'.temp q = s.temp q := by
  have elsewhere (value : Option Content) : assign s.temp p value q = s.temp q :=
    assign_of_ne _ different value
  cases w with
  | lockExclusive =>
      cases outcome with
      | error exc =>
          obtain rfl := done
          exact ⟨id, fun _ => rfl, rfl⟩
      | ok result =>
          obtain ⟨free, rfl⟩ := done
          refine ⟨fun held => ?_, fun _ => rfl, rfl⟩
          rw [free] at held
          cases held
  | unlock =>
      obtain rfl : s' = s.giveBack p := by cases outcome <;> exact done
      refine ⟨fun held => ?_, fun _ => rfl, rfl⟩
      unfold Files.giveBack
      rw [held, if_neg fun same => different (Option.some.inj same)]
  | createTemp =>
      cases outcome with
      | error exc =>
          obtain rfl := done
          exact ⟨id, fun _ => rfl, rfl⟩
      | ok path =>
          obtain ⟨blank, rfl⟩ := done
          exact ⟨id, fun _ => rfl, elsewhere _⟩
  | writeTemp payload =>
      cases outcome with
      | error exc =>
          obtain ⟨part, rfl⟩ := done
          exact ⟨id, fun _ => rfl, elsewhere _⟩
      | ok result =>
          obtain rfl := done
          exact ⟨id, fun _ => rfl, elsewhere _⟩
  | removeTemp =>
      cases outcome with
      | error exc =>
          obtain rfl := done
          exact ⟨id, fun _ => rfl, rfl⟩
      | ok result =>
          obtain rfl := done
          exact ⟨id, fun _ => rfl, elsewhere _⟩
  | replaceFile =>
      cases outcome with
      | error exc =>
          obtain rfl := done
          exact ⟨id, fun _ => rfl, rfl⟩
      | ok result =>
          obtain ⟨content, -, rfl⟩ := done
          refine ⟨id, fun held => ?_, elsewhere _⟩
          rcases alone with other | mine
          · exact absurd rfl other
          · rw [mine] at held
            exact absurd (Option.some.inj held).symm different
  | readText =>
      cases outcome with
      | error exc =>
          obtain rfl := done
          exact ⟨id, fun _ => rfl, rfl⟩
      | ok raw =>
          obtain ⟨-, rfl⟩ := done
          exact ⟨id, fun _ => rfl, rfl⟩
  | _ =>
      cases outcome <;> obtain rfl := done <;> exact ⟨id, fun _ => rfl, rfl⟩

theorem registryOf_dump (roundTrips : codec.RoundTrips) (registry : AttachmentRegistry) :
    registryOf codec (some (codec.modelDumpJson registry)) = .ok registry := by
  change (codec.modelValidateJson _).mapError _ = _
  rw [roundTrips registry]
  rfl

theorem giveBack_frame (different : q ≠ p) :
    (s.holder = some q → (s.giveBack p).holder = some q) := by
  intro held
  unfold Files.giveBack
  rw [held, if_neg fun same => different (Option.some.inj same)]

namespace Inv

variable {table : Coop.Host.Table (host codec fromIsoFormat) (Progress Content)}

/-- An event that leaves the file as it is. -/
theorem unchanged (inv : Inv history table s) {event : Event codec fromIsoFormat}
    {table' : Coop.Host.Table (host codec fromIsoFormat) (Progress Content)}
    (file : s'.file = s.file)
    (settled : Settles event → Limited codec s.file)
    (placing : ∀ p attachment g, table' p = some (attachment, g) →
      Placing (history ++ [(s, event)]) s' p attachment g) :
    Inv (history ++ [(s, event)]) table' s' where
  placing := placing
  sound := file ▸ inv.sound
  limited := by
    rintro ⟨entry, among, settles⟩
    rw [file]
    rcases List.mem_append.mp among with earlier | last
    · exact inv.limited ⟨entry, earlier, settles⟩
    · obtain rfl := List.mem_singleton.mp last
      exact settled settles

end Inv

/-- A call that may replace the file is made by the holder of the lock. -/
theorem Placing.alone {w : Call Content} (placing : Placing history s p attachment g)
    (may : mayCall codec fromIsoFormat w g) : w ≠ .replaceFile ∨ s.holder = some p := by
  by_cases replaces : w = .replaceFile
  · subst replaces
    obtain ⟨raw, now, payload, staged, -⟩ := may
    refine .inr (placing.holds ?_)
    rw [staged]
    trivial
  · exact .inl replaces

/-- A call either replaces the file or leaves it as it is. -/
theorem call_file {w : Call Content} {outcome : Except SystemException w.Result}
    (done : call p w s outcome s') :
    (∃ content, s.temp p = some content ∧ s'.file = some content ∧
        (⟨w, outcome⟩ : Σ w : Call Content, Except SystemException w.Result) =
          ⟨.replaceFile, .ok ()⟩) ∨
      s'.file = s.file ∧
        (⟨w, outcome⟩ : Σ w : Call Content, Except SystemException w.Result) ≠
          ⟨.replaceFile, .ok ()⟩ := by
  cases w with
  | replaceFile =>
      cases outcome with
      | error exc =>
          obtain rfl := done
          exact .inr ⟨rfl, nofun⟩
      | ok result =>
          obtain ⟨content, held, rfl⟩ := done
          exact .inl ⟨content, held, rfl, rfl⟩
  | lockExclusive =>
      cases outcome with
      | error exc => exact .inr ⟨done ▸ rfl, nofun⟩
      | ok result => exact .inr ⟨done.2 ▸ rfl, nofun⟩
  | readText =>
      cases outcome with
      | error exc => exact .inr ⟨done ▸ rfl, nofun⟩
      | ok result => exact .inr ⟨done.2 ▸ rfl, nofun⟩
  | createTemp =>
      cases outcome with
      | error exc => exact .inr ⟨done ▸ rfl, nofun⟩
      | ok result =>
          obtain ⟨blank, rfl⟩ := done
          exact .inr ⟨rfl, nofun⟩
  | writeTemp payload =>
      cases outcome with
      | error exc =>
          obtain ⟨part, rfl⟩ := done
          exact .inr ⟨rfl, nofun⟩
      | ok result => exact .inr ⟨done ▸ rfl, nofun⟩
  | _ => cases outcome <;> exact .inr ⟨done ▸ rfl, nofun⟩

/-- The file that an upsert puts in place, and what it makes of the registry. -/
theorem Inv.replaced {table : Coop.Host.Table (host codec fromIsoFormat) (Progress Content)}
    (roundTrips : codec.RoundTrips) (inv : Inv history table s)
    (found : table p = some (attachment, g))
    (may : mayCall codec fromIsoFormat (.replaceFile : Call Content) g) {content : Content}
    (temp : s.temp p = some content) :
    ∃ now previous next, registryOf codec s.file = .ok previous ∧
      registryOf codec (some content) = .ok next ∧
      Upserted fromIsoFormat now previous attachment next := by
  have placing := inv.placing p attachment g found
  obtain ⟨raw, now, payload, staged, previous, next, read, upserted, rfl⟩ := may
  obtain rfl := Option.some.inj (temp.symm.trans (placing.staged raw now _ staged))
  have current : s.file = raw := placing.read raw (by rw [staged]; rfl)
  exact ⟨now, previous, next, current ▸ read, registryOf_dump roundTrips next,
    placing.named ▸ upserted⟩

theorem inv_called {table : Coop.Host.Table (host codec fromIsoFormat) (Progress Content)}
    (roundTrips : codec.RoundTrips) (inv : Inv history table s)
    (found : table p = some (attachment, g)) {w : Call Content}
    {outcome : Except SystemException w.Result} (may : mayCall codec fromIsoFormat w g)
    (done : call p w s outcome s') :
    Inv (history ++ [(s, .called p attachment w outcome)])
      (assign table p
        (some (attachment, { g with phase := afterCall w outcome.toOption g.phase }))) s' := by
  have placing := inv.placing p attachment g found
  have frame {q : TaskId} (different : q ≠ p) := call_frame done different (placing.alone may)
  have all : ∀ q other after,
      assign table p
          (some (attachment, { g with phase := afterCall w outcome.toOption g.phase })) q =
        some (other, after) →
      Placing (history ++ [(s, .called p attachment w outcome)]) s' q other after := by
    refine Coop.forall_assign (P := fun q entry => ∀ other after, entry = some (other, after) →
      Placing (history ++ [(s, .called p attachment w outcome)]) s' q other after) ?_ ?_
    · rintro _ _ ⟨⟩
      exact placing.called may done
    · intro q different other after entry
      obtain ⟨holder, file, temp⟩ := frame different
      exact (inv.placing q other after entry).frame (Ne.symm different) holder file temp
  rcases call_file done with ⟨content, temp, file, same⟩ | ⟨file, quiet⟩
  · obtain ⟨rfl, same⟩ := Sigma.mk.inj same
    obtain ⟨now, previous, next, read, written, upserted⟩ :=
      inv.replaced roundTrips found may temp
    refine ⟨all, ⟨next, file ▸ written, ?_⟩, fun _ registry current => ?_⟩
    · obtain ⟨registry, current, unique⟩ := inv.sound
      obtain rfl := Except.ok.inj (current.symm.trans read)
      exact upserted.unique unique
    · rw [file, written] at current
      obtain rfl := Except.ok.inj current
      exact upserted.limited
  · refine inv.unchanged file (fun settles => ?_) all
    unfold Settles at settles
    split at settles
    · rename_i same
      cases same
      exact absurd rfl quiet
    · rename_i same
      cases same
    · exact settles.elim

variable {table : Coop.Host.Table (host codec fromIsoFormat) (Progress Content)}

theorem inv_initial {file : Option Content} (sound : Sound codec file) :
    Inv ([] : History codec fromIsoFormat) (fun _ => none) (Files.initial file) where
  placing _ _ _ found := by cases found
  sound := sound
  limited := by
    rintro ⟨_, among, _⟩
    cases among

theorem inv_launched (inv : Inv history table s) :
    Inv (history ++ [(s, .launched p attachment)])
      (assign table p (some (attachment, ⟨attachment, .outside⟩))) s := by
  refine inv.unchanged rfl False.elim (Coop.forall_assign (P := fun q entry => ∀ other g,
    entry = some (other, g) → Placing (history ++ [(s, .launched p attachment)]) s q other g) ?_ ?_)
  · rintro _ _ ⟨⟩
    exact ⟨rfl, nofun, nofun, nofun, trivial⟩
  · intro q different other g entry
    exact (inv.placing q other g entry).frame (Ne.symm different) id (fun _ => rfl) rfl

/-- A process that is gone gives the lock back. -/
theorem inv_gone {event : Event codec fromIsoFormat} (inv : Inv history table s)
    (gone : event.process = p) (settled : Settles event → Limited codec s.file) :
    Inv (history ++ [(s, event)]) (assign table p none) (s.giveBack p) := by
  refine inv.unchanged rfl settled (Coop.forall_assign (P := fun q entry => ∀ other g,
    entry = some (other, g) → Placing (history ++ [(s, event)]) (s.giveBack p) q other g) ?_ ?_)
  · rintro _ _ ⟨⟩
  · intro q different other g entry
    have elsewhere : event.process ≠ q := fun moved => different (moved.symm.trans gone)
    exact (inv.placing q other g entry).frame elsewhere (giveBack_frame different)
      (fun _ => rfl) rfl

variable (codec fromIsoFormat) in
/-- The upsert read the registry, replaced it and gave back the lock, with nobody in between. -/
def TookEffect (p : TaskId) (attachment : ClientAttachment) (registry : AttachmentRegistry)
    (moves : History codec fromIsoFormat) : Prop :=
  ∃ now previous v s u outcome,
    [ (v, .called p attachment .now (.ok now))
    , (s, .called p attachment .replaceFile (.ok ()))
    , (u, .called p attachment .unlock outcome) ].Sublist moves ∧
      registryOf codec s.file = .ok previous ∧ registryOf codec u.file = .ok registry ∧
      Upserted fromIsoFormat now previous attachment registry

/-- An upsert that succeeds has taken effect. -/
theorem Inv.tookEffect (roundTrips : codec.RoundTrips) (inv : Inv history table s)
    (found : table p = some (attachment, g)) {registry : AttachmentRegistry}
    (succeeded : Succeeded codec fromIsoFormat (.ok registry) g) :
    TookEffect codec fromIsoFormat p attachment registry (own p history) := by
  have placing := inv.placing p attachment g found
  obtain ⟨raw, now, previous, read, upserted, released⟩ := succeeded registry rfl
  have recorded := placing.recorded
  rw [released] at recorded
  obtain ⟨v, s, u, outcome, before, after, moves⟩ := recorded
  refine ⟨now, previous, v, s, u, outcome, moves, before ▸ read, ?_, placing.named ▸ upserted⟩
  rw [after]
  exact registryOf_dump roundTrips registry

/-- A replacement that took effect is in the history. -/
theorem TookEffect.settles {registry : AttachmentRegistry}
    (effect : TookEffect codec fromIsoFormat p attachment registry (own p history)) :
    ∃ entry ∈ history, Settles entry.2 := by
  obtain ⟨now, previous, v, s, u, outcome, moves, -⟩ := effect
  have among := (moves.trans (own_sublist p history)).subset
    (List.mem_cons_of_mem _ (List.mem_cons_self ..))
  exact ⟨_, among, trivial⟩

theorem keeps (roundTrips : codec.RoundTrips) :
    (watch codec fromIsoFormat).Keeps (fun _ _ _ => True) Inv where
  launched _ _ _ _ _ inv _ _ := inv_launched inv
  executed _ _ _ _ _ _ a := a.elim
  called _ _ _ _ _ _ _ _ _ inv found _ may done := inv_called roundTrips inv found may done
  lapsed _ _ _ _ _ _ _ _ _ _ _ timeable := timeable.elim
  ended _ _ _ _ _ _ out inv found _ returns := by
    refine inv_gone inv rfl fun settles => ?_
    unfold Settles at settles
    split at settles
    · rename_i same
      cases same
    · rename_i registry same
      cases same
      exact inv.limited (inv.tookEffect roundTrips found (returns _ rfl)).settles
    · exact settles.elim
  killed _ _ _ _ _ _ inv _ _ := inv_gone inv rfl False.elim

/-! ## The main result -/

open Coop.Host (Run Step Group)

/-- A step replaces the file or leaves it as it is. -/
theorem step_file {grp grp' : Group (host codec fromIsoFormat)}
    {event : Event codec fromIsoFormat} (taken : Step grp event grp') :
    grp'.state.file = grp.state.file ∨
      ∃ p attachment content, event = .called p attachment .replaceFile (.ok ()) ∧
        grp.state.temp p = some content ∧ grp'.state.file = some content := by
  have moved {p : TaskId} {attachment : ClientAttachment} {w : Call Content}
      {outcome : Except SystemException w.Result} {state : Files Content}
      (done : call p w grp.state outcome state) :
      state.file = grp.state.file ∨
        ∃ q other content, (.called p attachment w outcome : Event codec fromIsoFormat) =
            .called q other .replaceFile (.ok ()) ∧
          grp.state.temp q = some content ∧ state.file = some content := by
    rcases call_file done with ⟨content, temp, file, same⟩ | ⟨file, -⟩
    · cases same
      exact .inr ⟨p, attachment, content, rfl, temp, file⟩
    · exact .inl file
  cases taken with
  | @executed _ _ a => exact a.elim
  | called running done => exact moved done
  | calledTimed running done => exact moved done
  | _ => exact .inl rfl

/--
From a missing or sound file on: the file is always sound; once an upsert has succeeded
it has no more terminal records than the limit; a record in use disappears only when an
upsert of its client id replaces the file; and an upsert that succeeds took effect at
one moment, on the registry of that moment, which nobody changed until it gave back the
lock.
-/
theorem attachment_registry_runs (codec : RegistryCodec Content)
    (fromIsoFormat : String → Option IsoDatetime) (roundTrips : codec.RoundTrips)
    {file : Option Content} (sound : Sound codec file) {history : History codec fromIsoFormat}
    {grp : Group (host codec fromIsoFormat)}
    (run : Run (Files.initial file) (fun _ _ _ => True) history grp) :
    Sound codec grp.state.file ∧
      (∀ s p attachment registry, (s, .ended p attachment (.ok (.ok registry))) ∈ history →
        Limited codec grp.state.file) ∧
      (∀ event grp', Step grp event grp' → ∀ before after,
        registryOf codec grp.state.file = .ok before →
        registryOf codec grp'.state.file = .ok after →
        ∀ item ∈ before.attachments, item.isTerminal = false → item ∉ after.attachments →
        ∃ p attachment, event = .called p attachment .replaceFile (.ok ()) ∧
          attachment.clientId = item.clientId) ∧
      ∀ p attachment registry grp', Step grp (.ended p attachment (.ok (.ok registry))) grp' →
        TookEffect codec fromIsoFormat p attachment registry (own p history) := by
  obtain ⟨table, fits, inv⟩ := (keeps roundTrips).reached (inv_initial sound) run
  refine ⟨inv.sound, fun s p attachment registry among => inv.limited ⟨_, among, trivial⟩, ?keeps,
    ?effect⟩
  case keeps =>
    intro event grp' taken before after current later item among inUse gone
    rcases step_file taken with same | ⟨p, attachment, content, rfl, temp, written⟩
    · rw [same, current] at later
      cases later
      exact absurd among gone
    · obtain ⟨g, found, may, -⟩ := Coop.Host.Watch.Fits.called fits taken
      obtain ⟨now, previous, next, read, dumped, upserted⟩ :=
        inv.replaced roundTrips found may temp
      obtain rfl := Except.ok.inj (current.symm.trans read)
      rw [written, dumped] at later
      obtain rfl := Except.ok.inj later
      refine ⟨p, attachment, rfl, ?_⟩
      by_contra different
      rcases upserted.keeps item (.inr ⟨among, Ne.symm different⟩) with kept | ⟨terminal, -⟩
      · exact gone kept
      · rw [inUse] at terminal
        cases terminal
  case effect =>
    intro p attachment registry grp' taken
    obtain ⟨g, found, returns⟩ := Coop.Host.Watch.Fits.returned fits taken
    exact inv.tookEffect roundTrips found returns

end Runs

/-- Date-times with an offset, read by the extended format. -/
def extendedFormat (text : String) : Option IsoDatetime :=
  (IsoTime.instant? text).map fun instant => ⟨instant, some 0⟩

theorem sampleAttachment_connected : "2026-01-01T00:00:00Z" ≠ "" := by decide

def sampleAttachment (clientId : String) (identified : clientId ≠ "") : ClientAttachment where
  clientId := clientId
  clientKind := "bridge"
  displayState := .healthy
  runtimeState := .active
  recoverability := .recoverable
  connectedAt := "2026-01-01T00:00:00Z"
  lastHeartbeat := "2026-01-01T00:01:00Z"
  identified := identified
  connected := sampleAttachment_connected

def firstBridge : ClientAttachment := sampleAttachment "bridge-7" (by decide)

def secondBridge : ClientAttachment := sampleAttachment "bridge-8" (by decide)

/-- Two bridges upsert; the second one waits for the lock and keeps the record of the first. -/
theorem attachment_registry_runs_together :
    ∃ (history : History jsonCodec extendedFormat)
        (grp : Coop.Host.Group (host jsonCodec extendedFormat)),
      Coop.Host.Run (Files.initial none) (fun _ _ _ => True) history grp ∧
        grp.state.file = some (jsonCodec.modelDumpJson ⟨[firstBridge, secondBridge]⟩) ∧
        Sound jsonCodec grp.state.file ∧
        TookEffect jsonCodec extendedFormat 8 secondBridge ⟨[firstBridge, secondBridge]⟩
          (Coop.Host.own 8 history) := by
  have idle := Coop.Host.Reaches.none (H := host jsonCodec extendedFormat) (Files.initial none)
  have first := idle.launch 7 firstBridge rfl
  have both := first.launch 8 secondBridge rfl
  have ensured := (both.call 7 rfl (.ok ()) rfl).call 8 rfl (.ok ()) rfl
  have opened := (ensured.call 7 rfl (.ok ()) rfl).call 8 rfl (.ok ()) rfl
  have locked := opened.call 7 rfl (.ok ()) ⟨rfl, rfl⟩
  have read := locked.call 7 rfl (.ok none) ⟨rfl, rfl⟩
  have timed := read.call 7 rfl (.ok 63900000000000000) rfl
  have named := timed.call 7 rfl (.ok "/root/.tela/.client-attachments.json.a.tmp") ⟨.null, rfl⟩
  have written := named.call 7 rfl (.ok ()) rfl
  have protected' := written.call 7 rfl (.ok ()) rfl
  have replaced := protected'.call 7 rfl (.ok ()) ⟨_, rfl, rfl⟩
  have closed := replaced.call 7 rfl (.ok ()) rfl
  have unlocked := closed.call 7 rfl (.ok ()) rfl
  -- The second upsert reads what the first one wrote.
  have locked := unlocked.call 8 rfl (.ok ()) ⟨rfl, rfl⟩
  have read := locked.call 8 rfl (.ok (some (jsonCodec.modelDumpJson ⟨[firstBridge]⟩))) ⟨rfl, rfl⟩
  have timed := read.call 8 rfl (.ok 63900000000000000) rfl
  have named := timed.call 8 rfl (.ok "/root/.tela/.client-attachments.json.b.tmp") ⟨.null, rfl⟩
  have written := named.call 8 rfl (.ok ()) rfl
  have protected' := written.call 8 rfl (.ok ()) rfl
  have replaced := protected'.call 8 rfl (.ok ()) ⟨_, rfl, rfl⟩
  have closed := replaced.call 8 rfl (.ok ()) rfl
  have unlocked := closed.call 8 rfl (.ok ()) rfl
  obtain ⟨history, run⟩ := unlocked
  obtain ⟨sound, -, -, effect⟩ := attachment_registry_runs jsonCodec extendedFormat
    jsonCodec_roundTrips ⟨⟨[]⟩, rfl, List.nodup_nil⟩ run
  exact ⟨history, _, run, rfl, sound, effect 8 secondBridge _ _ (.returned rfl)⟩

end Tela.AttachmentRegistry
