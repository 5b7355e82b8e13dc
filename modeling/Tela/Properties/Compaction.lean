import Tela.Core.Attachments
import Tela.Library.IsoTime

/-!
# Compaction of the terminal history

Compaction keeps the records in use and the first terminal ones up to the limit, in the
order of the registry. Which ones are kept is a matter of the records, not of their order.
-/

namespace Tela

section Records

variable {fromIsoFormat : String → Option IsoDatetime} {cutoff : Int} {limit : Nat}

/-- The heartbeat of a record as far as it can be read. -/
def heartbeat (fromIsoFormat : String → Option IsoDatetime) (attachment : ClientAttachment) :
    Option Int :=
  match heartbeatTimestamp fromIsoFormat attachment with
  | .ok timestamp => timestamp
  | .error _ => none

/-- A terminal record whose heartbeat is unknown or not before the cutoff. -/
def eligible (fromIsoFormat : String → Option IsoDatetime) (cutoff : Int)
    (attachment : ClientAttachment) : Bool :=
  attachment.isTerminal && !(heartbeat fromIsoFormat attachment).any (· < cutoff)

def retainedItem (fromIsoFormat : String → Option IsoDatetime)
    (item : ClientAttachment × Nat) : RetainedTerminal :=
  ⟨item.2, item.1, heartbeat fromIsoFormat item.1⟩

/-- Unknown times first, then the newest; the larger client id wins ties. -/
def newerRecord (fromIsoFormat : String → Option IsoDatetime) (first second : ClientAttachment) :
    Bool :=
  (retainedItem fromIsoFormat (first, 0)).newer (retainedItem fromIsoFormat (second, 0))

/-- The heartbeat of every terminal record is inside the range of date-times. -/
def Readable (fromIsoFormat : String → Option IsoDatetime) (attachments : List ClientAttachment) :
    Prop :=
  ∀ attachment ∈ attachments, attachment.isTerminal = true →
    ∃ timestamp, heartbeatTimestamp fromIsoFormat attachment = .ok timestamp

/-! ## The order of the terminal records -/

theorem RetainedTerminal.newer_total (first second : RetainedTerminal) :
    first.newer second = true ∨ second.newer first = true := by
  unfold RetainedTerminal.newer
  have ids := String.le_total first.attachment.clientId second.attachment.clientId
  cases first.timestamp with
  | none =>
      cases second.timestamp with
      | none => exact ids.symm.imp decide_eq_true decide_eq_true
      | some time => exact .inl rfl
  | some time =>
      cases second.timestamp with
      | none => exact .inr rfl
      | some other =>
          simp only [Bool.or_eq_true, Bool.and_eq_true, decide_eq_true_eq]
          rcases lt_trichotomy time other with before | same | after
          · exact .inr (.inl before)
          · rcases ids with below | above
            · exact .inr (.inr ⟨same, below⟩)
            · exact .inl (.inr ⟨same.symm, above⟩)
          · exact .inl (.inl after)

theorem RetainedTerminal.newer_trans {first second third : RetainedTerminal}
    (left : first.newer second = true) (right : second.newer third = true) :
    first.newer third = true := by
  unfold RetainedTerminal.newer at left right ⊢
  cases firstTime : first.timestamp with
  | none =>
      cases thirdTime : third.timestamp with
      | some time => rfl
      | none =>
          rw [thirdTime] at right
          cases secondTime : second.timestamp with
          | some time =>
              rw [secondTime] at right
              cases right
          | none =>
              rw [firstTime, secondTime] at left
              rw [secondTime] at right
              exact decide_eq_true (String.le_trans (of_decide_eq_true right) (of_decide_eq_true left))
  | some time =>
      rw [firstTime] at left
      cases secondTime : second.timestamp with
      | none =>
          rw [secondTime] at left
          cases left
      | some middle =>
          rw [secondTime] at left right
          cases thirdTime : third.timestamp with
          | none =>
              rw [thirdTime] at right
              cases right
          | some other =>
              rw [thirdTime] at right
              simp only [Bool.or_eq_true, Bool.and_eq_true, decide_eq_true_eq] at left right ⊢
              rcases left with before | ⟨same, above⟩
              · rcases right with before' | ⟨same', -⟩
                · exact .inl (before'.trans before)
                · exact .inl (same' ▸ before)
              · rcases right with before' | ⟨same', above'⟩
                · exact .inl (same ▸ before')
                · exact .inr ⟨same'.trans same, String.le_trans above' above⟩

/-- Two records that come before each other have the same client id. -/
theorem RetainedTerminal.newer_antisymm {first second : RetainedTerminal}
    (left : first.newer second = true) (right : second.newer first = true) :
    first.attachment.clientId = second.attachment.clientId := by
  unfold RetainedTerminal.newer at left right
  cases firstTime : first.timestamp with
  | none =>
      cases secondTime : second.timestamp with
      | none =>
          rw [firstTime, secondTime] at left right
          exact String.le_antisymm (of_decide_eq_true right) (of_decide_eq_true left)
      | some time =>
          rw [firstTime, secondTime] at right
          cases right
  | some time =>
      cases secondTime : second.timestamp with
      | none =>
          rw [firstTime, secondTime] at left
          cases left
      | some other =>
          rw [firstTime, secondTime] at left right
          simp only [Bool.or_eq_true, Bool.and_eq_true, decide_eq_true_eq] at left right
          rcases left with before | ⟨same, above⟩
          · rcases right with after | ⟨same, -⟩
            · exact absurd (before.trans after) (lt_irrefl _)
            · exact absurd (same ▸ before) (lt_irrefl _)
          · rcases right with after | ⟨-, below⟩
            · exact absurd (same ▸ after) (lt_irrefl _)
            · exact String.le_antisymm below above

instance : Std.Total fun first second => newerRecord fromIsoFormat first second = true :=
  ⟨fun _ _ => RetainedTerminal.newer_total _ _⟩

instance : IsTrans ClientAttachment fun first second =>
    newerRecord fromIsoFormat first second = true :=
  ⟨fun _ _ _ => RetainedTerminal.newer_trans⟩

/-- The first terminal records up to the limit, of those that have not expired. -/
def topTerminal (fromIsoFormat : String → Option IsoDatetime) (cutoff : Int) (limit : Nat)
    (attachments : List ClientAttachment) : List ClientAttachment :=
  ((attachments.filter (eligible fromIsoFormat cutoff)).insertionSort fun first second =>
    newerRecord fromIsoFormat first second = true).take limit

/-- With distinct client ids the first records do not depend on the order of the registry. -/
theorem topTerminal_of_perm {attachments others : List ClientAttachment}
    (unique : (attachments.map ClientAttachment.clientId).Nodup) (perm : others.Perm attachments) :
    topTerminal fromIsoFormat cutoff limit others =
      topTerminal fromIsoFormat cutoff limit attachments := by
  unfold topTerminal
  congr 1
  have perm' := perm.filter (eligible fromIsoFormat cutoff)
  refine List.Perm.eq_of_pairwise ?_ (List.pairwise_insertionSort _ _)
    (List.pairwise_insertionSort _ _)
    (((List.perm_insertionSort _ _).trans perm').trans (List.perm_insertionSort _ _).symm)
  intro first second among among' left right
  have same := RetainedTerminal.newer_antisymm left right
  have listed := (List.mem_filter.mp ((List.mem_insertionSort _).mp among)).1
  have listed' := (List.mem_filter.mp ((List.mem_insertionSort _).mp among')).1
  exact List.inj_on_of_nodup_map unique (perm.mem_iff.mp listed) listed' same

end Records

/-! ## What compaction computes -/

section Exact

variable {fromIsoFormat : String → Option IsoDatetime} {cutoff : Int} {limit : Nat}

theorem heartbeat_of_ok {attachment : ClientAttachment} {timestamp : Option Int}
    (read : heartbeatTimestamp fromIsoFormat attachment = .ok timestamp) :
    heartbeat fromIsoFormat attachment = timestamp := by
  unfold heartbeat
  rw [read]

/-- The terminal records are filtered exactly if every heartbeat among them can be read. -/
theorem retainTerminal_iff {items : List (ClientAttachment × Nat)}
    {retained : List RetainedTerminal} :
    retainTerminal fromIsoFormat cutoff items = .ok retained ↔
      Readable fromIsoFormat (items.map Prod.fst) ∧
        retained = (items.filter fun item => eligible fromIsoFormat cutoff item.1).map
          (retainedItem fromIsoFormat) := by
  induction items generalizing retained with
  | nil =>
      constructor
      · rintro ⟨⟩
        exact ⟨fun _ among => absurd among List.not_mem_nil, rfl⟩
      · rintro ⟨-, rfl⟩
        rfl
  | cons item rest ih =>
      obtain ⟨attachment, index⟩ := item
      unfold retainTerminal
      by_cases terminal : attachment.isTerminal = true
      · rw [if_pos terminal]
        cases read : heartbeatTimestamp fromIsoFormat attachment with
        | error exc =>
            refine iff_of_false (by rintro ⟨⟩) ?_
            rintro ⟨readable, -⟩
            obtain ⟨timestamp, read'⟩ := readable attachment (List.mem_cons_self ..) terminal
            rw [read] at read'
            cases read'
        | ok timestamp =>
            have known := heartbeat_of_ok read
            have all : Readable fromIsoFormat (((attachment, index) :: rest).map Prod.fst) ↔
                Readable fromIsoFormat (rest.map Prod.fst) := by
              constructor
              · exact fun readable other among => readable other (List.mem_cons_of_mem _ among)
              · rintro readable other (_ | ⟨_, among⟩) terminal'
                · exact ⟨timestamp, read⟩
                · exact readable other among terminal'
            rw [all]
            dsimp only [bind, Except.bind]
            cases others : retainTerminal fromIsoFormat cutoff rest with
            | error exc =>
                refine iff_of_false (by rintro ⟨⟩) ?_
                rintro ⟨readable, -⟩
                have ran := ih.mpr ⟨readable, rfl⟩
                rw [others] at ran
                cases ran
            | ok kept =>
                obtain ⟨readable, rfl⟩ := ih.mp others
                dsimp only
                by_cases expired : timestamp.any (· < cutoff) = true
                · have dropped : ¬ eligible fromIsoFormat cutoff attachment = true := by
                    simp [eligible, known, expired]
                  rw [if_pos expired, List.filter_cons_of_neg (a := (attachment, index)) dropped]
                  exact ⟨fun same => ⟨readable, (Except.ok.inj same).symm⟩,
                    fun same => congrArg Except.ok same.2.symm⟩
                · have survives : eligible fromIsoFormat cutoff attachment = true := by
                    simp [eligible, known, terminal, expired]
                  rw [if_neg expired, List.filter_cons_of_pos (a := (attachment, index)) survives, List.map_cons]
                  have first : retainedItem fromIsoFormat (attachment, index) =
                      ⟨index, attachment, timestamp⟩ := by
                    rw [retainedItem, known]
                  rw [first]
                  exact ⟨fun same => ⟨readable, (Except.ok.inj same).symm⟩,
                    fun same => congrArg Except.ok same.2.symm⟩
      · have dropped : ¬ eligible fromIsoFormat cutoff attachment = true := by
          simp [eligible, terminal]
        have all : Readable fromIsoFormat (((attachment, index) :: rest).map Prod.fst) ↔
            Readable fromIsoFormat (rest.map Prod.fst) := by
          constructor
          · exact fun readable other among => readable other (List.mem_cons_of_mem _ among)
          · rintro readable other (_ | ⟨_, among⟩) terminal'
            · exact absurd terminal' terminal
            · exact readable other among terminal'
        rw [if_neg terminal, ih, all, List.filter_cons_of_neg (a := (attachment, index)) dropped]

/-- The places of the first terminal records. -/
def topItems (fromIsoFormat : String → Option IsoDatetime) (cutoff : Int) (limit : Nat)
    (items : List (ClientAttachment × Nat)) : List (ClientAttachment × Nat) :=
  ((items.filter fun item => eligible fromIsoFormat cutoff item.1).insertionSort
    fun first second => newerRecord fromIsoFormat first.1 second.1 = true).take limit

theorem topItems_map (items : List (ClientAttachment × Nat)) :
    (topItems fromIsoFormat cutoff limit items).map Prod.fst =
      topTerminal fromIsoFormat cutoff limit (items.map Prod.fst) := by
  unfold topItems topTerminal
  rw [List.map_take, List.filter_map, List.map_insertionSort _ (fun first second =>
    newerRecord fromIsoFormat first second = true) _ _ fun _ _ _ _ => Iff.rfl]
  rfl

theorem topItems_eligible {items : List (ClientAttachment × Nat)} {item : ClientAttachment × Nat}
    (top : item ∈ topItems fromIsoFormat cutoff limit items) :
    item ∈ items ∧ eligible fromIsoFormat cutoff item.1 = true :=
  List.mem_filter.mp ((List.mem_insertionSort _).mp (List.mem_of_mem_take top))

theorem topItems_nodup {items : List (ClientAttachment × Nat)} (nodup : items.Nodup) :
    (topItems fromIsoFormat cutoff limit items).Nodup :=
  (((List.perm_insertionSort _ _).nodup_iff).mpr (nodup.filter _)).sublist (List.take_sublist _ _)

/-- Truncating what exceeds the limit and truncating always come to the same records. -/
theorem limitTerminal_perm (items : List (ClientAttachment × Nat)) :
    ((limitTerminal limit ((items.filter fun item =>
      eligible fromIsoFormat cutoff item.1).map (retainedItem fromIsoFormat))).map
        RetainedTerminal.item).Perm (topItems fromIsoFormat cutoff limit items) := by
  have back (some : List (ClientAttachment × Nat)) :
      (some.map (retainedItem fromIsoFormat)).map RetainedTerminal.item = some := by
    rw [List.map_map]
    exact List.map_id' some
  unfold limitTerminal topItems
  split
  · rw [← List.map_insertionSort (r := fun first second =>
      newerRecord fromIsoFormat first.1 second.1 = true) _ _ _ (fun _ _ _ _ => Iff.rfl),
      ← List.map_take, back]
  · rename_i within
    rw [back, List.take_of_length_le]
    · exact (List.perm_insertionSort _ _).symm
    · rw [List.length_insertionSort]
      rw [List.length_map] at within
      omega

/-- What compaction keeps, in the order of the registry. -/
def survivors (fromIsoFormat : String → Option IsoDatetime) (cutoff : Int) (limit : Nat)
    (items : List (ClientAttachment × Nat)) : List (ClientAttachment × Nat) :=
  items.filter fun item =>
    !item.1.isTerminal || decide (item ∈ topItems fromIsoFormat cutoff limit items)

variable {items : List (ClientAttachment × Nat)} {registry compacted : AttachmentRegistry}
  {now terminalTtl : Int}

theorem mem_survivors {item : ClientAttachment × Nat} :
    item ∈ survivors fromIsoFormat cutoff limit items ↔ item ∈ items ∧
      ((!item.1.isTerminal) = true ∨ item ∈ topItems fromIsoFormat cutoff limit items) := by
  unfold survivors
  rw [List.mem_filter, Bool.or_eq_true, decide_eq_true_eq]

/-- Sorting the kept records by place restores the order of the registry. -/
theorem sorted_survivors (ascending : items.Pairwise fun first second => first.2 < second.2)
    {limited : List (ClientAttachment × Nat)}
    (same : limited.Perm (topItems fromIsoFormat cutoff limit items)) :
    ((items.filter fun item => !item.1.isTerminal) ++ limited).insertionSort
        (fun first second => first.2 ≤ second.2) =
      survivors fromIsoFormat cutoff limit items := by
  have nodup : items.Nodup := ascending.imp fun before same => absurd (same ▸ before) (lt_irrefl _)
  have kept : ((items.filter fun item => !item.1.isTerminal) ++ limited).Perm
      (survivors fromIsoFormat cutoff limit items) := by
    have nodup' : (survivors fromIsoFormat cutoff limit items).Nodup := nodup.filter _
    refine ((List.perm_ext_iff_of_nodup ?_ nodup').mpr fun item => ?_)
    · refine List.Nodup.append (nodup.filter _) (same.nodup_iff.mpr (topItems_nodup nodup)) ?_
      intro item inUse limited'
      have terminal := (topItems_eligible (same.mem_iff.mp limited')).2
      rw [eligible, Bool.and_eq_true] at terminal
      have alive := (List.mem_filter.mp inUse).2
      rw [terminal.1] at alive
      cases alive
    · rw [List.mem_append, List.mem_filter, mem_survivors, same.mem_iff]
      constructor
      · rintro (⟨among, alive⟩ | top)
        · exact ⟨among, .inl alive⟩
        · exact ⟨(topItems_eligible top).1, .inr top⟩
      · rintro ⟨among, alive | top⟩
        · exact .inl ⟨among, alive⟩
        · exact .inr top
  have ordered : items.Pairwise fun first second => first.2 ≤ second.2 :=
    ascending.imp fun before => before.le
  refine List.Perm.eq_of_pairwise ?_ (List.pairwise_insertionSort _ _) (ordered.sublist List.filter_sublist)
    ((List.perm_insertionSort _ _).trans kept)
  intro first second among among' below above
  have listed := (List.mem_filter.mp (kept.mem_iff.mp ((List.mem_insertionSort _).mp among))).1
  have listed' := (List.mem_filter.mp among').1
  have places : (items.map Prod.snd).Nodup := List.pairwise_map.mpr (ascending.imp ne_of_lt)
  exact List.inj_on_of_nodup_map places listed listed' (le_antisymm below above)

theorem zipIdx_ascending (attachments : List ClientAttachment) :
    attachments.zipIdx.Pairwise fun first second => first.2 < second.2 := by
  rw [← List.pairwise_map (f := Prod.snd) (R := fun first second => first < second),
    List.zipIdx_map_snd]
  exact List.pairwise_lt_range'

/-- Compaction returns the survivors, or raises. -/
theorem compactAttachmentRegistry_iff :
    compactAttachmentRegistry fromIsoFormat registry now terminalTtl limit = .ok compacted ↔
      0 ≤ terminalTtl ∧ 0 ≤ now - terminalTtl ∧ Readable fromIsoFormat registry.attachments ∧
        compacted.attachments = (survivors fromIsoFormat (now - terminalTtl) limit
          registry.attachments.zipIdx).map Prod.fst := by
  have names : registry.attachments.zipIdx.map Prod.fst = registry.attachments :=
    List.zipIdx_map_fst ..
  constructor
  · intro done
    obtain ⟨_, positive, done⟩ := bind_ok done
    have positive' : 0 ≤ terminalTtl := of_decide_eq_true (precondition_ok positive)
    split at done
    · cases done
    rename_i inside
    obtain ⟨retained, kept, done⟩ := bind_ok done
    cases done
    obtain ⟨readable, rfl⟩ := retainTerminal_iff.mp kept
    rw [names] at readable
    refine ⟨positive', le_of_not_gt inside, readable, ?_⟩
    exact congrArg (List.map Prod.fst)
      (sorted_survivors (zipIdx_ascending _) (limitTerminal_perm _))
  · rintro ⟨positive, inside, readable, same⟩
    rw [← names] at readable
    unfold compactAttachmentRegistry
    rw [precondition_true (decide_eq_true positive)]
    dsimp only [bind, Except.bind]
    rw [if_neg (not_lt_of_ge inside), retainTerminal_iff.mpr ⟨readable, rfl⟩]
    refine congrArg Except.ok ?_
    obtain ⟨attachments⟩ := compacted
    refine congrArg AttachmentRegistry.mk (Eq.trans ?_ same.symm)
    exact congrArg (List.map Prod.fst)
      (sorted_survivors (zipIdx_ascending _) (limitTerminal_perm _))

/-- The kept terminal records are the first ones up to the limit. -/
theorem terminal_survivors (nodup : items.Nodup) :
    (((survivors fromIsoFormat cutoff limit items).map Prod.fst).filter
      ClientAttachment.isTerminal).Perm
        (topTerminal fromIsoFormat cutoff limit (items.map Prod.fst)) := by
  rw [← topItems_map, List.filter_map]
  refine List.Perm.map _ ?_
  have nodup' : (survivors fromIsoFormat cutoff limit items).Nodup := nodup.filter _
  refine (List.perm_ext_iff_of_nodup (nodup'.filter _) (topItems_nodup nodup)).mpr
    fun item => ?_
  rw [List.mem_filter, mem_survivors]
  constructor
  · rintro ⟨⟨-, alive | top⟩, terminal⟩
    · rw [Function.comp_apply] at terminal
      rw [terminal] at alive
      cases alive
    · exact top
  · intro top
    obtain ⟨among, chosen⟩ := topItems_eligible top
    rw [eligible, Bool.and_eq_true] at chosen
    exact ⟨⟨among, .inr top⟩, chosen.1⟩

/-- The records in use are all kept. -/
theorem alive_survivors :
    ((survivors fromIsoFormat cutoff limit items).map Prod.fst).filter (fun record =>
      !record.isTerminal) = (items.map Prod.fst).filter fun record => !record.isTerminal := by
  rw [List.filter_map, List.filter_map, survivors, List.filter_filter]
  refine congrArg (List.map Prod.fst) (List.filter_congr fun item _ => ?_)
  cases alive : item.1.isTerminal with
  | true => simp [alive]
  | false => simp [alive]

/-- What the result of a compaction is, as far as its records go. -/
structure Compaction (fromIsoFormat : String → Option IsoDatetime) (cutoff : Int) (limit : Nat)
    (before after : List ClientAttachment) : Prop where
  sublist : after.Sublist before
  alive : after.filter (fun record => !record.isTerminal) =
    before.filter fun record => !record.isTerminal
  terminal : (after.filter ClientAttachment.isTerminal).Perm
    (topTerminal fromIsoFormat cutoff limit before)

theorem compaction_of_ok
    (done : compactAttachmentRegistry fromIsoFormat registry now terminalTtl limit =
      .ok compacted) :
    Compaction fromIsoFormat (now - terminalTtl) limit registry.attachments
      compacted.attachments := by
  obtain ⟨-, -, -, same⟩ := compactAttachmentRegistry_iff.mp done
  have names : registry.attachments.zipIdx.map Prod.fst = registry.attachments :=
    List.zipIdx_map_fst ..
  have nodup : registry.attachments.zipIdx.Nodup :=
    (zipIdx_ascending registry.attachments).imp fun before same => absurd (same ▸ before)
      (lt_irrefl _)
  constructor
  · have sublist := (List.filter_sublist (l := registry.attachments.zipIdx)
      (p := fun item => !item.1.isTerminal || decide (item ∈ topItems fromIsoFormat
        (now - terminalTtl) limit registry.attachments.zipIdx))).map Prod.fst
    rw [names] at sublist
    rw [same]
    exact sublist
  · rw [same, alive_survivors, names]
  · have terminal : (((survivors fromIsoFormat (now - terminalTtl) limit
        registry.attachments.zipIdx).map Prod.fst).filter ClientAttachment.isTerminal).Perm _ :=
      terminal_survivors nodup
    rw [← same, names] at terminal
    exact terminal

/-- The records of a compaction, up to their order. -/
theorem Compaction.perm {before after : List ClientAttachment}
    (compaction : Compaction fromIsoFormat cutoff limit before after) :
    after.Perm ((before.filter fun record => !record.isTerminal) ++
      topTerminal fromIsoFormat cutoff limit before) := by
  have split := List.filter_append_perm (fun record => !ClientAttachment.isTerminal record) after
  simp only [Bool.not_not] at split
  rw [compaction.alive] at split
  exact split.symm.trans (compaction.terminal.append_left _)

theorem topTerminal_length_le (attachments : List ClientAttachment) :
    (topTerminal fromIsoFormat cutoff limit attachments).length ≤ limit :=
  List.length_take_le _ _

theorem topTerminal_eligible {attachments : List ClientAttachment} {record : ClientAttachment}
    (top : record ∈ topTerminal fromIsoFormat cutoff limit attachments) :
    eligible fromIsoFormat cutoff record = true :=
  (List.mem_filter.mp ((List.mem_insertionSort _).mp (List.mem_of_mem_take top))).2

/-- Of a compacted registry, a further compaction keeps everything. -/
theorem Compaction.again {before after final : List ClientAttachment}
    (compaction : Compaction fromIsoFormat cutoff limit before after)
    (compaction' : Compaction fromIsoFormat cutoff limit after final) : final = after := by
  apply compaction'.sublist.eq_of_length
  have same : after.filter (eligible fromIsoFormat cutoff) =
      after.filter ClientAttachment.isTerminal := by
    refine List.filter_congr fun record among => ?_
    cases terminal : record.isTerminal with
    | false => simp [eligible, terminal]
    | true =>
        exact topTerminal_eligible
          (compaction.terminal.mem_iff.mp (List.mem_filter.mpr ⟨among, terminal⟩))
  have few : (after.filter ClientAttachment.isTerminal).length ≤ limit :=
    compaction.terminal.length_eq.trans_le (topTerminal_length_le before)
  have all : (topTerminal fromIsoFormat cutoff limit after).Perm
      (after.filter ClientAttachment.isTerminal) := by
    unfold topTerminal
    rw [same, List.take_of_length_le]
    · exact List.perm_insertionSort _ _
    · rw [List.length_insertionSort]
      exact few
  have split := List.filter_append_perm (fun record => !ClientAttachment.isTerminal record) after
  simp only [Bool.not_not] at split
  exact (compaction'.perm.trans ((all.append_left _).trans split)).length_eq

end Exact

/--
Compaction returns a part of the registry in its order: all records in use, and of the
terminal records that have not expired the first ones up to the limit. With distinct client
ids the order of the registry does not matter, and compacting once more changes nothing.
-/
theorem compaction_exact (fromIsoFormat : String → Option IsoDatetime)
    (registry compacted : AttachmentRegistry) (now terminalTtl : Int) (terminalLimit : Nat)
    (done : compactAttachmentRegistry fromIsoFormat registry now terminalTtl terminalLimit =
      .ok compacted) :
    compacted.attachments.Sublist registry.attachments ∧
    compacted.attachments.filter (fun record => !record.isTerminal) =
      registry.attachments.filter (fun record => !record.isTerminal) ∧
    (∀ record ∈ compacted.attachments, record.isTerminal = true →
      ¬ Expired fromIsoFormat (now - terminalTtl) record) ∧
    (compacted.attachments.filter ClientAttachment.isTerminal).Perm
      (topTerminal fromIsoFormat (now - terminalTtl) terminalLimit registry.attachments) ∧
    ((registry.attachments.map ClientAttachment.clientId).Nodup →
      ∀ other : AttachmentRegistry, other.attachments.Perm registry.attachments →
        ∃ compacted', compactAttachmentRegistry fromIsoFormat other now terminalTtl terminalLimit =
          .ok compacted' ∧ compacted'.attachments.Perm compacted.attachments) ∧
    compactAttachmentRegistry fromIsoFormat compacted now terminalTtl terminalLimit =
      .ok compacted := by
  obtain ⟨positive, inside, readable, -⟩ := compactAttachmentRegistry_iff.mp done
  have compaction := compaction_of_ok done
  -- whatever is readable compacts to something
  have returns (other : AttachmentRegistry) (among : ∀ record ∈ other.attachments,
      record ∈ registry.attachments) : ∃ compacted', compactAttachmentRegistry fromIsoFormat other
        now terminalTtl terminalLimit = .ok compacted' :=
    ⟨⟨_⟩, compactAttachmentRegistry_iff.mpr
      ⟨positive, inside, fun record listed => readable record (among record listed), rfl⟩⟩
  refine ⟨compaction.sublist, compaction.alive, ?expired, compaction.terminal, ?order, ?again⟩
  case expired =>
    rintro record among terminal ⟨time, read, before⟩
    have chosen := topTerminal_eligible
      (compaction.terminal.mem_iff.mp (List.mem_filter.mpr ⟨among, terminal⟩))
    rw [eligible, heartbeat_of_ok read, terminal] at chosen
    simp [before] at chosen
  case order =>
    intro unique other perm
    obtain ⟨compacted', done'⟩ := returns other fun record among => perm.mem_iff.mp among
    refine ⟨compacted', done', (compaction_of_ok done').perm.trans ?_⟩
    rw [topTerminal_of_perm unique perm]
    exact ((perm.filter _).append_right _).trans compaction.perm.symm
  case again =>
    obtain ⟨compacted', done'⟩ := returns compacted fun record among => compaction.sublist.subset among
    have same := compaction.again (compaction_of_ok done')
    rw [done']
    obtain ⟨attachments⟩ := compacted
    obtain ⟨attachments'⟩ := compacted'
    cases same
    rfl

def sampleRecord (clientId lastHeartbeat : String) (runtimeState : RuntimeState)
    (identified : clientId ≠ "") (beaten : lastHeartbeat ≠ "") : ClientAttachment where
  clientId := clientId
  clientKind := "cli"
  displayState := .unknown
  runtimeState := runtimeState
  recoverability := .unknown
  connectedAt := "2026-01-01T00:00:00Z"
  lastHeartbeat := lastHeartbeat
  identified := identified
  beaten := beaten

/-- Of two terminal records and one in use, a limit of one keeps the newer and the one in use. -/
theorem compaction_exact_newest :
    ∃ compacted, compactAttachmentRegistry
        (fun text => (IsoTime.instant? text).map fun instant => ⟨instant, some 0⟩)
        ⟨[sampleRecord "old" "2026-01-30T00:00:00Z" .exited (by decide) (by decide),
          sampleRecord "active" "2026-01-01T00:00:00Z" .active (by decide) (by decide),
          sampleRecord "recent" "2026-01-31T00:00:00Z" .exited (by decide) (by decide)]⟩
        63905500800000000 1209600000000 1 = .ok compacted ∧
      compacted.attachments.map ClientAttachment.clientId = ["active", "recent"] ∧
      compactAttachmentRegistry
        (fun text => (IsoTime.instant? text).map fun instant => ⟨instant, some 0⟩)
        compacted 63905500800000000 1209600000000 1 = .ok compacted := by
  have done : compactAttachmentRegistry
      (fun text => (IsoTime.instant? text).map fun instant => ⟨instant, some 0⟩)
      ⟨[sampleRecord "old" "2026-01-30T00:00:00Z" .exited (by decide) (by decide),
        sampleRecord "active" "2026-01-01T00:00:00Z" .active (by decide) (by decide),
        sampleRecord "recent" "2026-01-31T00:00:00Z" .exited (by decide) (by decide)]⟩
      63905500800000000 1209600000000 1 = .ok
        ⟨[sampleRecord "active" "2026-01-01T00:00:00Z" .active (by decide) (by decide),
          sampleRecord "recent" "2026-01-31T00:00:00Z" .exited (by decide) (by decide)]⟩ := by
    decide +kernel
  exact ⟨_, done, rfl, (compaction_exact _ _ _ _ _ _ done).2.2.2.2.2⟩

end Tela
