import Tela.Core.Conflict

/-!
# Exactness of conflict reports

The report is fixed by which server exposes which name: it holds one conflict for
each reserved or shared name, in a fixed order, with the exposing servers sorted.
-/

namespace Tela

open Text (startsWith)

/-- The server's list exposes the name. -/
def ExposedBy (allTools : Dict String (List ResolvedTool)) (name server : String) : Prop :=
  ∃ tools, allTools.get? server = some tools ∧ Exposes tools name

/-- The name is exposed and reserved, or exposed by two different servers. -/
def Offends (allTools : Dict String (List ResolvedTool)) (name : String) : Prop :=
  (startsWith name reservedPrefix = true ∧ ∃ server, ExposedBy allTools name server) ∨
    ∃ first second, first ≠ second ∧ ExposedBy allTools name first ∧
      ExposedBy allTools name second

/-- The type a report about the name has: a reserved name is never a collision. -/
def conflictTypeOf (name : String) : ConflictType :=
  if startsWith name reservedPrefix then .prefixViolation else .nameCollision

/-- The place of two conflicts in a report: violations first, then by name. -/
def ToolConflict.Precedes (first second : ToolConflict) : Prop :=
  (first.conflictType = .prefixViolation ∧ second.conflictType = .nameCollision) ∨
    (first.conflictType = second.conflictType ∧ first.toolName < second.toolName)

/-! ## Sorted lists -/

theorem pairwise_lt_of_sorted {α : Type} {key : α → String} {items : List α}
    (sorted : items.Pairwise fun first second => key first ≤ key second)
    (nodup : (items.map key).Nodup) :
    items.Pairwise fun first second => key first < key second := by
  have distinct := List.pairwise_map.mp nodup
  refine (sorted.and distinct).imp ?_
  intro first second both
  exact String.not_le.mp fun back => both.2 (String.le_antisymm both.1 back)

theorem pairwise_insertionSort_le {α : Type} (key : α → String) (items : List α) :
    (items.insertionSort fun first second => key first ≤ key second).Pairwise
      fun first second => key first ≤ key second :=
  @List.pairwise_insertionSort α (fun first second => key first ≤ key second) _
    ⟨fun first second => String.le_total (key first) (key second)⟩
    ⟨fun _ _ _ left right => String.le_trans left right⟩ items

theorem pairwise_lt_sorted {names : List String} (nodup : names.Nodup) :
    (Text.sorted names).Pairwise (· < ·) := by
  apply pairwise_lt_of_sorted (pairwise_insertionSort_le id names)
  rw [List.map_id]
  exact (List.perm_insertionSort _ names).nodup_iff.mpr nodup

/-- The owners of the names are listed by name. -/
theorem sortedOwners_pairwise (allTools : Dict String (List ResolvedTool)) :
    (sortedOwners allTools).Pairwise fun first second => first.1 < second.1 := by
  unfold sortedOwners
  rw [List.pairwise_map]
  apply pairwise_lt_of_sorted (pairwise_insertionSort_le Prod.fst _)
  have perm := (List.perm_insertionSort
    (fun first second : String × List String => first.1 ≤ second.1) (toolOwners allTools).entries)
  exact (perm.map Prod.fst).nodup_iff.mpr (toolOwners allTools).nodup

/-! ## Entries of the sorted owners -/

/-- An entry lists, sorted, exactly the servers that expose the name. -/
theorem mem_sortedOwners_iff {allTools : Dict String (List ResolvedTool)} {name : String}
    {servers : List String} :
    (name, servers) ∈ sortedOwners allTools ↔
      servers ≠ [] ∧ servers.Pairwise (· < ·) ∧
        ∀ server, server ∈ servers ↔ ExposedBy allTools name server := by
  have recorded {owners : List String} (known : (toolOwners allTools).get? name = some owners)
      (server : String) : server ∈ Text.sorted owners.dedup ↔ ExposedBy allTools name server := by
    rw [Text.mem_sorted, List.mem_dedup, ExposedBy, ← mem_toolOwners_iff, known, Option.getD_some]
  constructor
  · intro member
    obtain ⟨some, -, -⟩ := mem_sortedOwners member
    obtain ⟨⟨other, owners⟩, among, same⟩ := List.mem_map.mp member
    obtain ⟨rfl, rfl⟩ := Prod.mk.inj same
    have known := Dict.get?_eq_some_iff.mpr ((List.perm_insertionSort _ _).mem_iff.mp among)
    exact ⟨some, pairwise_lt_sorted (List.nodup_dedup owners), recorded known⟩
  · rintro ⟨some, sorted, exact⟩
    obtain ⟨server, among⟩ := List.exists_mem_of_ne_nil _ some
    have owner := mem_toolOwners_iff.mpr ((exact server).mp among)
    cases known : (toolOwners allTools).get? name with
    | none =>
        rw [known, Option.getD_none] at owner
        cases owner
    | some owners =>
        have same : servers = Text.sorted owners.dedup := by
          apply sorted.eq_of_mem_iff (pairwise_lt_sorted (List.nodup_dedup owners))
          intro other
          rw [exact, recorded known]
        rw [same]
        refine List.mem_map.mpr ⟨(name, owners), ?_, rfl⟩
        exact (List.perm_insertionSort _ _).mem_iff.mpr (Dict.get?_eq_some_iff.mp known)

/-- Two entries of a strictly sorted list are two different servers. -/
theorem one_lt_length_iff {servers : List String} (nodup : servers.Nodup) :
    1 < servers.length ↔ ∃ first ∈ servers, ∃ second ∈ servers, first ≠ second := by
  constructor
  · intro two
    match servers, nodup with
    | first :: second :: rest, nodup =>
        refine ⟨first, List.mem_cons_self, second, by simp, ?_⟩
        rintro rfl
        simp at nodup
  · rintro ⟨first, among, second, among', different⟩
    match servers with
    | [] => cases among
    | [only] =>
        rw [List.mem_singleton] at among among'
        exact absurd (among.trans among'.symm) different
    | _ :: _ :: _ => simp

/-! ## Conflicts of a report -/

/-- The conflict about an entry of the sorted owners, when there is one. -/
theorem mem_detectConflicts {allTools : Dict String (List ResolvedTool)}
    {conflict : ToolConflict} :
    conflict ∈ detectConflicts allTools ↔
      (conflict.toolName, conflict.servers) ∈ sortedOwners allTools ∧
        conflict.conflictType = conflictTypeOf conflict.toolName ∧
        (startsWith conflict.toolName reservedPrefix = true ∨ 1 < conflict.servers.length) := by
  obtain ⟨name, servers, conflictType⟩ := conflict
  unfold detectConflicts conflictTypeOf
  simp only [List.mem_append, List.mem_filterMap, Prod.exists, Option.ite_none_right_eq_some,
    Option.some.injEq, ToolConflict.mk.injEq]
  constructor
  · rintro (⟨_, _, member, reserved, rfl, rfl, rfl⟩ | ⟨_, _, member, ⟨two, free⟩, rfl, rfl, rfl⟩)
    · exact ⟨member, by rw [if_pos reserved], .inl reserved⟩
    · exact ⟨member, by simp [free], .inr two⟩
  · rintro ⟨member, typed, reason⟩
    cases reserved : startsWith name reservedPrefix with
    | true => exact .inl ⟨name, servers, member, reserved, rfl, rfl, by simp [typed, reserved]⟩
    | false =>
        have two := reason.resolve_left (by simp [reserved])
        exact .inr ⟨name, servers, member, ⟨two, reserved⟩, rfl, rfl, by simp [typed, reserved]⟩

/-- A report is in order. -/
theorem detectConflicts_pairwise (allTools : Dict String (List ResolvedTool)) :
    (detectConflicts allTools).Pairwise ToolConflict.Precedes := by
  unfold detectConflicts
  refine List.pairwise_append.mpr ⟨?_, ?_, ?_⟩
  · rw [List.pairwise_filterMap]
    apply (sortedOwners_pairwise allTools).imp
    rintro ⟨name, servers⟩ ⟨other, others⟩ before conflict made conflict' made'
    rw [Option.ite_none_right_eq_some] at made made'
    obtain ⟨-, rfl⟩ := (And.imp_right Option.some.inj made)
    obtain ⟨-, rfl⟩ := (And.imp_right Option.some.inj made')
    exact .inr ⟨rfl, before⟩
  · rw [List.pairwise_filterMap]
    apply (sortedOwners_pairwise allTools).imp
    rintro ⟨name, servers⟩ ⟨other, others⟩ before conflict made conflict' made'
    rw [Option.ite_none_right_eq_some] at made made'
    obtain ⟨-, rfl⟩ := (And.imp_right Option.some.inj made)
    obtain ⟨-, rfl⟩ := (And.imp_right Option.some.inj made')
    exact .inr ⟨rfl, before⟩
  · intro first violation second collision
    obtain ⟨⟨name, servers⟩, -, made⟩ := List.mem_filterMap.mp violation
    obtain ⟨⟨other, others⟩, -, made'⟩ := List.mem_filterMap.mp collision
    rw [Option.ite_none_right_eq_some] at made made'
    obtain ⟨-, rfl⟩ := (And.imp_right Option.some.inj made)
    obtain ⟨-, rfl⟩ := (And.imp_right Option.some.inj made')
    exact .inl ⟨rfl, rfl⟩

instance : Std.Irrefl ToolConflict.Precedes where
  irrefl conflict := by
    rintro (⟨violation, collision⟩ | ⟨-, before⟩)
    · rw [violation] at collision
      cases collision
    · exact String.lt_irrefl _ before

instance : Std.Antisymm ToolConflict.Precedes where
  antisymm first second := by
    rintro (⟨violation, collision⟩ | ⟨same, before⟩) (⟨violation', collision'⟩ | ⟨same', after⟩)
    · rw [violation] at collision'
      cases collision'
    · rw [violation, collision] at same'
      cases same'
    · rw [collision', violation'] at same
      cases same
    · exact absurd after (String.lt_asymm before)

/-- Names are reported once: entries of one name are the same entry. -/
theorem eq_of_sameName {allTools : Dict String (List ResolvedTool)} {first second : ToolConflict}
    (one : first ∈ detectConflicts allTools) (other : second ∈ detectConflicts allTools)
    (same : first.toolName = second.toolName) : first = second := by
  obtain ⟨name, servers, conflictType⟩ := first
  obtain ⟨name', servers', conflictType'⟩ := second
  obtain ⟨listed, typed, -⟩ := mem_detectConflicts.mp one
  obtain ⟨listed', typed', -⟩ := mem_detectConflicts.mp other
  obtain rfl : name = name' := same
  obtain ⟨-, sorted, exact⟩ := mem_sortedOwners_iff.mp listed
  obtain ⟨-, sorted', exact'⟩ := mem_sortedOwners_iff.mp listed'
  have servers : servers = servers' := by
    apply sorted.eq_of_mem_iff sorted'
    intro server
    rw [exact, exact']
  have types : conflictType = conflictType' := typed.trans typed'.symm
  rw [servers, types]

/-- Every offending name has a conflict in the report, and no other name has. -/
theorem exists_mem_detectConflicts_iff {allTools : Dict String (List ResolvedTool)}
    {name : String} :
    (∃ conflict ∈ detectConflicts allTools, conflict.toolName = name) ↔
      Offends allTools name := by
  constructor
  · rintro ⟨conflict, member, rfl⟩
    obtain ⟨listed, -, reason⟩ := mem_detectConflicts.mp member
    obtain ⟨some, sorted, exact⟩ := mem_sortedOwners_iff.mp listed
    obtain reserved | two := reason
    · obtain ⟨server, among⟩ := List.exists_mem_of_ne_nil _ some
      exact .inl ⟨reserved, server, (exact server).mp among⟩
    · obtain ⟨first, among, second, among', different⟩ := (one_lt_length_iff sorted.nodup).mp two
      exact .inr ⟨first, second, different, (exact first).mp among, (exact second).mp among'⟩
  · intro offends
    have exposed : ∃ server, ExposedBy allTools name server := by
      obtain ⟨-, exposed⟩ | ⟨first, -, -, exposed, -⟩ := offends
      · exact exposed
      · exact ⟨first, exposed⟩
    obtain ⟨server, owner⟩ := exposed
    obtain ⟨servers, listed⟩ : ∃ servers, (name, servers) ∈ sortedOwners allTools := by
      have recorded := mem_toolOwners_iff.mpr owner
      cases known : (toolOwners allTools).get? name with
      | none =>
          rw [known, Option.getD_none] at recorded
          cases recorded
      | some owners =>
          refine ⟨Text.sorted owners.dedup, List.mem_map.mpr ⟨(name, owners), ?_, rfl⟩⟩
          exact (List.perm_insertionSort _ _).mem_iff.mpr (Dict.get?_eq_some_iff.mp known)
    obtain ⟨-, sorted, exact⟩ := mem_sortedOwners_iff.mp listed
    refine ⟨⟨name, servers, conflictTypeOf name⟩, mem_detectConflicts.mpr ⟨listed, rfl, ?_⟩, rfl⟩
    obtain ⟨reserved, -⟩ | ⟨first, second, different, one, other⟩ := offends
    · exact .inl reserved
    · refine .inr ((one_lt_length_iff sorted.nodup).mpr ?_)
      exact ⟨first, (exact first).mpr one, second, (exact second).mpr other, different⟩

/-- The report about one offending name is a single conflict with its exposing servers. -/
theorem reports_of_offends {allTools : Dict String (List ResolvedTool)} {name : String}
    (offends : Offends allTools name) :
    ∃ servers, servers.Pairwise (· < ·) ∧
      (∀ server, server ∈ servers ↔ ExposedBy allTools name server) ∧
      (detectConflicts allTools).filter (fun conflict => conflict.toolName = name) =
        [⟨name, servers, conflictTypeOf name⟩] := by
  obtain ⟨conflict, member, named⟩ := exists_mem_detectConflicts_iff.mpr offends
  obtain ⟨listed, typed, -⟩ := mem_detectConflicts.mp member
  obtain ⟨-, sorted, exact⟩ := mem_sortedOwners_iff.mp listed
  have filled : conflict = ⟨name, conflict.servers, conflictTypeOf name⟩ := by
    rw [← named, ← typed]
  refine ⟨conflict.servers, sorted, named ▸ exact, ?_⟩
  rw [← filled]
  apply ((detectConflicts_pairwise allTools).filter _).eq_of_mem_iff (List.pairwise_singleton _ _)
  intro other
  rw [List.mem_filter, List.mem_singleton, decide_eq_true_iff]
  constructor
  · rintro ⟨among, same⟩
    exact eq_of_sameName among member (same.trans named.symm)
  · rintro rfl
    exact ⟨member, named⟩

/-- Two inventories with the same exposures have the same report. -/
theorem detectConflicts_congr {allTools others : Dict String (List ResolvedTool)}
    (same : ∀ name server, ExposedBy allTools name server ↔ ExposedBy others name server) :
    detectConflicts allTools = detectConflicts others := by
  apply (detectConflicts_pairwise allTools).eq_of_mem_iff (detectConflicts_pairwise others)
  intro conflict
  simp only [mem_detectConflicts, mem_sortedOwners_iff, same]

/--
A report is empty exactly when no exposed name is shared or reserved. It holds one
conflict for each offending name, violations first, and depends on nothing but
which server exposes which name.
-/
theorem detectConflicts_exact (allTools : Dict String (List ResolvedTool)) :
    (detectConflicts allTools = [] ↔
      (∀ name first second, ExposedBy allTools name first → ExposedBy allTools name second →
        first = second) ∧
      ∀ name server, ExposedBy allTools name server → startsWith name reservedPrefix = false) ∧
    (∀ name, Offends allTools name →
      ∃ servers, servers.Pairwise (· < ·) ∧
        (∀ server, server ∈ servers ↔ ExposedBy allTools name server) ∧
        (detectConflicts allTools).filter (fun conflict => conflict.toolName = name) =
          [⟨name, servers, conflictTypeOf name⟩]) ∧
    (∀ conflict ∈ detectConflicts allTools, Offends allTools conflict.toolName) ∧
    (detectConflicts allTools).Pairwise ToolConflict.Precedes ∧
    ∀ others, (∀ name server, ExposedBy allTools name server ↔ ExposedBy others name server) →
      detectConflicts others = detectConflicts allTools := by
  refine ⟨?_, fun name => reports_of_offends, ?_, detectConflicts_pairwise allTools, ?_⟩
  · rw [detectConflicts_eq_nil_iff]
    constructor
    · rintro ⟨unique, unreserved⟩
      constructor
      · rintro name first second ⟨tools, found, exposed⟩ ⟨others, found', exposed'⟩
        exact unique _ _ _ _ _ found found' exposed exposed'
      · rintro name server ⟨tools, found, exposed⟩
        exact unreserved _ _ _ found exposed
    · rintro ⟨unique, unreserved⟩
      constructor
      · intro first second tools others name found found' exposed exposed'
        exact unique _ _ _ ⟨tools, found, exposed⟩ ⟨others, found', exposed'⟩
      · intro server tools name found exposed
        exact unreserved _ _ ⟨tools, found, exposed⟩
  · intro conflict member
    exact exists_mem_detectConflicts_iff.mp ⟨conflict, member, rfl⟩
  · intro others same
    exact (detectConflicts_congr same).symm

end Tela
