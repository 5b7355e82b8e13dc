import Tela.Core.Models

/-!
# Client attachments

The attachment records and the compaction of their terminal history. Records that
are not terminal are kept; terminal ones by age, and the newest up to a limit.
-/

namespace Tela

inductive AttachmentDisplayState
  | unknown
  | started
  | healthy
  | degraded
  | staleCandidate
  | recovering
  | exited
  deriving DecidableEq, Repr

inductive RuntimeState
  | unknown
  | initializing
  | active
  | idle
  | recovering
  | exited
  deriving DecidableEq, Repr

inductive Recoverability
  | unknown
  | recoverable
  | notRecoverable
  | stale
  deriving DecidableEq, Repr

/-- One client attachment; the four texts are not empty. -/
structure ClientAttachment where
  clientId : String
  clientKind : String
  displayState : AttachmentDisplayState
  runtimeState : RuntimeState
  recoverability : Recoverability
  connectedAt : String
  lastHeartbeat : String
  staleCandidate : Bool := false
  unknownState : Bool := false
  identified : clientId ≠ "" := by decide
  kindNamed : clientKind ≠ "" := by decide
  connected : connectedAt ≠ "" := by decide
  beaten : lastHeartbeat ≠ "" := by decide
  deriving DecidableEq

structure AttachmentRegistry where
  attachments : List ClientAttachment := []
  deriving DecidableEq

/-- Terminal records are those whose runtime state is `exited`. -/
def ClientAttachment.isTerminal (attachment : ClientAttachment) : Bool :=
  attachment.runtimeState = .exited

/-! ## Heartbeats -/

/-- What `datetime.fromisoformat` reads: microseconds since year one, and those east of UTC. -/
structure IsoDatetime where
  localTime : Int
  offset : Option Int

/-- The length of the years one to 9999 in microseconds. -/
def datetimeRange : Int := 3652059 * 86400000000

/-- `_timestamp`: no value for a text that is no date-time; a time outside the range raises. -/
def heartbeatTimestamp (fromIsoFormat : String → Option IsoDatetime)
    (attachment : ClientAttachment) : Except PyException (Option Int) :=
  match fromIsoFormat (Text.replace attachment.lastHeartbeat "Z" "+00:00") with
  | none => .ok none
  | some parsed =>
      let instant := parsed.localTime - parsed.offset.getD 0
      if 0 ≤ instant ∧ instant < datetimeRange then .ok (some instant)
      else .error ⟨.other, "OverflowError", "date value out of range"⟩

/-! ## Compaction -/

/-- A terminal record that has not expired, with its place in the registry. -/
structure RetainedTerminal where
  index : Nat
  attachment : ClientAttachment
  timestamp : Option Int

/-- Sorts before the other when the newest come first; an unknown time counts as the newest. -/
def RetainedTerminal.newer (first second : RetainedTerminal) : Bool :=
  let before := decide (second.attachment.clientId ≤ first.attachment.clientId)
  match first.timestamp, second.timestamp with
  | none, some _ => true
  | some _, none => false
  | none, none => before
  | some time, some other => other < time || (other = time && before)

/-- The terminal records whose heartbeat is unknown or not before the cutoff. -/
def retainTerminal (fromIsoFormat : String → Option IsoDatetime) (cutoff : Int) :
    List (ClientAttachment × Nat) → Except PyException (List RetainedTerminal)
  | [] => .ok []
  | (attachment, index) :: rest =>
      if attachment.isTerminal then do
        let timestamp ← heartbeatTimestamp fromIsoFormat attachment
        let retained ← retainTerminal fromIsoFormat cutoff rest
        if timestamp.any (· < cutoff) then return retained
        else return ⟨index, attachment, timestamp⟩ :: retained
      else retainTerminal fromIsoFormat cutoff rest

/-- Keep the newest records up to the limit. -/
def limitTerminal (limit : Nat) (retained : List RetainedTerminal) : List RetainedTerminal :=
  if limit < retained.length then (retained.insertionSort fun first second => first.newer second = true).take limit
  else retained

/-- Remove expired and excess terminal history; the order of the rest stays. -/
def compactAttachmentRegistry (fromIsoFormat : String → Option IsoDatetime)
    (registry : AttachmentRegistry) (now terminalTtl : Int) (terminalLimit : Nat) :
    Except PyException AttachmentRegistry := do
  precondition "compact_attachment_registry" (0 ≤ terminalTtl)
  if now - terminalTtl < 0 then
    throw ⟨.other, "OverflowError", "date value out of range"⟩
  let items := registry.attachments.zipIdx
  let retained ← retainTerminal fromIsoFormat (now - terminalTtl) items
  let nonTerminal := items.filter fun item => !item.1.isTerminal
  let kept := nonTerminal ++
    (limitTerminal terminalLimit retained).map fun item => (item.attachment, item.index)
  return ⟨(kept.insertionSort fun first second => first.2 ≤ second.2).map Prod.fst⟩

/-! ## What compaction keeps -/

section Compaction

variable {fromIsoFormat : String → Option IsoDatetime} {cutoff : Int}

def RetainedTerminal.item (retained : RetainedTerminal) : ClientAttachment × Nat :=
  (retained.attachment, retained.index)

/-- The heartbeat of the record was read and lies before the cutoff. -/
def Expired (fromIsoFormat : String → Option IsoDatetime) (cutoff : Int)
    (attachment : ClientAttachment) : Prop :=
  ∃ time, heartbeatTimestamp fromIsoFormat attachment = .ok (some time) ∧ time < cutoff

/-- The retained records are terminal ones, in their order; only expired ones are missing. -/
theorem retainTerminal_ok {items : List (ClientAttachment × Nat)}
    {retained : List RetainedTerminal}
    (kept : retainTerminal fromIsoFormat cutoff items = .ok retained) :
    (retained.map RetainedTerminal.item).Sublist (items.filter fun item => item.1.isTerminal) ∧
      ∀ item ∈ items, item.1.isTerminal = true →
        item ∈ retained.map RetainedTerminal.item ∨ Expired fromIsoFormat cutoff item.1 := by
  induction items generalizing retained with
  | nil =>
      cases kept
      exact ⟨List.Sublist.refl _, nofun⟩
  | cons item rest ih =>
      obtain ⟨attachment, index⟩ := item
      unfold retainTerminal at kept
      by_cases terminal : attachment.isTerminal = true
      · rw [if_pos terminal] at kept
        obtain ⟨timestamp, read, kept⟩ := bind_ok kept
        obtain ⟨others, keptOthers, kept⟩ := bind_ok kept
        obtain ⟨sublist, missing⟩ := ih keptOthers
        have filtered : ((attachment, index) :: rest).filter (fun item => item.1.isTerminal) =
            (attachment, index) :: rest.filter fun item => item.1.isTerminal :=
          List.filter_cons_of_pos terminal
        rw [filtered]
        by_cases expired : timestamp.any (· < cutoff) = true
        · rw [if_pos expired] at kept
          cases kept
          refine ⟨sublist.cons _, ?_⟩
          rintro other (_ | ⟨_, among⟩) terminal'
          · cases timestamp with
            | none => cases expired
            | some time => exact .inr ⟨time, read, of_decide_eq_true expired⟩
          · exact missing other among terminal'
        · rw [if_neg expired] at kept
          cases kept
          refine ⟨sublist.cons_cons _, ?_⟩
          rintro other (_ | ⟨_, among⟩) terminal'
          · exact .inl (List.mem_cons_self ..)
          · exact (missing other among terminal').imp_left (List.mem_cons_of_mem _)
      · rw [if_neg terminal] at kept
        obtain ⟨sublist, missing⟩ := ih kept
        have filtered : ((attachment, index) :: rest).filter (fun item => item.1.isTerminal) =
            rest.filter fun item => item.1.isTerminal := List.filter_cons_of_neg terminal
        rw [filtered]
        refine ⟨sublist, ?_⟩
        rintro other (_ | ⟨_, among⟩) terminal'
        · exact absurd terminal' terminal
        · exact missing other among terminal'

theorem limitTerminal_length (limit : Nat) (retained : List RetainedTerminal) :
    (limitTerminal limit retained).length ≤ limit := by
  unfold limitTerminal
  split
  · exact List.length_take_le limit _
  · omega

theorem limitTerminal_subperm (limit : Nat) (retained : List RetainedTerminal) :
    (limitTerminal limit retained).Subperm retained := by
  unfold limitTerminal
  split
  · have sorted := List.perm_insertionSort (fun first second => first.newer second = true) retained
    exact (List.take_sublist limit _).subperm.trans sorted.subperm
  · exact List.Subperm.refl _

/-- A record is dropped only where the limit is reached. -/
theorem limitTerminal_mem (limit : Nat) {retained : List RetainedTerminal}
    {record : RetainedTerminal} (among : record ∈ retained) :
    record ∈ limitTerminal limit retained ∨ (limitTerminal limit retained).length = limit := by
  unfold limitTerminal
  split
  · rename_i excess
    refine .inr ?_
    rw [List.length_take, List.length_insertionSort]
    omega
  · exact .inl among

/-- What compaction keeps, apart from the order: the records in use and some terminal ones. -/
structure Compacted (fromIsoFormat : String → Option IsoDatetime) (cutoff : Int) (limit : Nat)
    (before after : AttachmentRegistry) : Prop where
  subperm : after.attachments.Subperm before.attachments
  preserves : ∀ attachment ∈ before.attachments, attachment.isTerminal = false →
    attachment ∈ after.attachments
  limited : (after.attachments.filter ClientAttachment.isTerminal).length ≤ limit
  drops : ∀ attachment ∈ before.attachments, attachment ∉ after.attachments →
    Expired fromIsoFormat cutoff attachment ∨
      (after.attachments.filter ClientAttachment.isTerminal).length = limit

/-- A part of a list, in any order, is a part after mapping. -/
theorem subperm_map {α β : Type} {part whole : List α} (f : α → β) (within : part.Subperm whole) :
    (part.map f).Subperm (whole.map f) := by
  obtain ⟨ordered, perm, sublist⟩ := within
  exact ⟨ordered.map f, perm.map f, sublist.map f⟩

theorem compactAttachmentRegistry_ok {registry compacted : AttachmentRegistry}
    {now terminalTtl : Int} {limit : Nat}
    (done : compactAttachmentRegistry fromIsoFormat registry now terminalTtl limit =
      .ok compacted) :
    Compacted fromIsoFormat (now - terminalTtl) limit registry compacted := by
  obtain ⟨_, _, done⟩ := bind_ok done
  split at done
  · cases done
  obtain ⟨retained, kept, done⟩ := bind_ok done
  cases done
  obtain ⟨sublist, missing⟩ := retainTerminal_ok kept
  let items := registry.attachments.zipIdx
  let nonTerminal := items.filter fun item => !item.1.isTerminal
  let limited := limitTerminal limit retained
  let parts := nonTerminal ++ limited.map RetainedTerminal.item
  have names : items.map Prod.fst = registry.attachments := List.zipIdx_map_fst ..
  have fewer : (limited.map RetainedTerminal.item).Subperm
      (items.filter fun item => item.1.isTerminal) :=
    (subperm_map _ (limitTerminal_subperm limit retained)).trans sublist.subperm
  have within : parts.Subperm items := by
    have split : (items.filter (fun item => !item.1.isTerminal) ++
        items.filter fun item => !!item.1.isTerminal).Perm items := List.filter_append_perm ..
    simp only [Bool.not_not] at split
    exact ((List.subperm_append_left nonTerminal).mpr fewer).trans split.subperm
  have sorted : ((parts.insertionSort fun first second => first.2 ≤ second.2).map Prod.fst).Perm
      (parts.map Prod.fst) := (List.perm_insertionSort _ parts).map _
  have terminal : ∀ item ∈ limited.map RetainedTerminal.item, item.1.isTerminal = true :=
    fun item among => (List.mem_filter.mp (fewer.subset among)).2
  have count : ((parts.map Prod.fst).filter ClientAttachment.isTerminal).length =
      limited.length := by
    rw [List.filter_map, List.length_map, List.filter_append, List.length_append]
    have none' : nonTerminal.filter (ClientAttachment.isTerminal ∘ Prod.fst) = [] := by
      refine List.filter_eq_nil_iff.mpr fun item among terminal' => ?_
      have inUse := (List.mem_filter.mp among).2
      simp only [Function.comp_apply] at terminal'
      rw [terminal'] at inUse
      cases inUse
    have all : (limited.map RetainedTerminal.item).filter
        (ClientAttachment.isTerminal ∘ Prod.fst) = limited.map RetainedTerminal.item :=
      List.filter_eq_self.mpr terminal
    rw [none', all, List.length_map]
    exact Nat.zero_add _
  have counted := ((sorted.filter ClientAttachment.isTerminal).length_eq).trans count
  have present {item : ClientAttachment × Nat} (among : item ∈ parts) :
      item.1 ∈ (parts.insertionSort fun first second => first.2 ≤ second.2).map Prod.fst :=
    sorted.mem_iff.mpr (List.mem_map_of_mem among)
  refine ⟨?subperm, ?preserves, ?limited, ?drops⟩
  case subperm =>
    have mapped := subperm_map Prod.fst within
    rw [names] at mapped
    exact sorted.subperm.trans mapped
  case preserves =>
    intro attachment among inUse
    rw [← names] at among
    obtain ⟨item, listed, rfl⟩ := List.mem_map.mp among
    refine present (List.mem_append_left _ (List.mem_filter.mpr ⟨listed, ?_⟩))
    rw [inUse]
    rfl
  case limited => exact counted.le.trans (limitTerminal_length limit retained)
  case drops =>
    intro attachment among dropped
    rw [← names] at among
    obtain ⟨item, listed, rfl⟩ := List.mem_map.mp among
    by_cases terminal' : item.1.isTerminal = true
    · rcases missing item listed terminal' with retained' | expired
      · obtain ⟨record, among', rfl⟩ := List.mem_map.mp retained'
        rcases limitTerminal_mem limit among' with survives | full
        · exact absurd (present (List.mem_append_right _ (List.mem_map_of_mem survives))) dropped
        · exact .inr (counted.trans full)
      · exact .inl expired
    · refine absurd (present (List.mem_append_left _ (List.mem_filter.mpr ⟨listed, ?_⟩))) dropped
      rw [Bool.eq_false_iff.mpr terminal']
      rfl

end Compaction

end Tela
