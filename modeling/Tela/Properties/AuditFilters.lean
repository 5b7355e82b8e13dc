import Tela.Commands.AuditCommand
import Tela.Library.IsoTime

/-!
# Two filters of audit entries

The query of the store and the filter of the command agree, and give the last entries
they were asked for, unless the limit is not positive or the time has no zone.
-/

namespace Tela

/-- The last `count` items. -/
def lastItems {α : Type} (count : Nat) (items : List α) : List α :=
  items.drop (items.length - count)

/-- How many of `count` entries a limit asks for. -/
def askedFor (limit : Int) (count : Nat) : Nat := (min (max limit 0) count).toNat

/-- A slice from minus the limit is the last entries asked for, or there are few enough to skip. -/
theorem sliceFrom_neg_iff {α : Type} (items : List α) (limit : Int) :
    sliceFrom items (-limit) = lastItems (askedFor limit items.length) items ↔
      0 < limit ∨ (items.length : Int) ≤ -limit := by
  unfold sliceFrom lastItems askedFor
  split
  · rename_i negative
    have same : items.length - (-limit).natAbs =
        items.length - (min (max limit 0) (items.length : Int)).toNat := by omega
    rw [same]
    exact iff_of_true rfl (.inl (by omega))
  · rename_i positive
    have none : (min (max limit 0) (items.length : Int)).toNat = 0 := by omega
    rw [none, Nat.sub_zero, List.drop_length, List.drop_eq_nil_iff]
    omega

variable {clock : AuditClock} {entries : List AuditEntry}

/-- The entries were stamped with a time in UTC, which their text tells. -/
def Stamped (clock : AuditClock) (entries : List AuditEntry) : Prop :=
  ∀ entry ∈ entries, ∃ localTime east,
    clock.parse (clock.isoFormat entry.timestamp) = .ok ⟨localTime, some east⟩ ∧
      localTime - east = entry.timestamp

theorem since_aware (stamped : Stamped clock entries) (localTime east : Int) :
    clock.since ⟨localTime, some east⟩ entries =
      .ok (entries.filter fun entry => localTime - east ≤ entry.timestamp) := by
  induction entries with
  | nil => rfl
  | cons entry rest ih =>
      obtain ⟨time, zone, parsed, same⟩ := stamped entry (List.mem_cons_self ..)
      have others := ih fun other among => stamped other (List.mem_cons_of_mem _ among)
      unfold AuditClock.since
      rw [parsed, others]
      change Except.ok _ = _
      rw [List.filter_cons, ← same]

theorem since_naive (stamped : Stamped clock entries) (some : entries ≠ []) (localTime : Int) :
    clock.since ⟨localTime, none⟩ entries = .error
      ⟨.other, "TypeError", "can't compare offset-naive and offset-aware datetimes"⟩ := by
  cases entries with
  | nil => exact absurd rfl some
  | cons entry rest =>
      obtain ⟨time, zone, parsed, -⟩ := stamped entry (List.mem_cons_self ..)
      unfold AuditClock.since
      rw [parsed]
      rfl

/-- The entries at or after the time that a text names; none can be told for a time without zone. -/
def matching (clock : AuditClock) (entries : List AuditEntry) : Option String → List AuditEntry
  | none => entries
  | some text =>
      match clock.parse text with
      | .ok ⟨localTime, some east⟩ =>
          entries.filter fun entry => localTime - east ≤ entry.timestamp
      | _ => []

/-- Both return, and both fail or both give the last entries asked for. -/
def FiltersAgree (clock : AuditClock) (entries : List AuditEntry) (since : Option String)
    (limit : Int) : Prop :=
  (∃ text text', auditQuery clock entries since limit = .ok (.error text) ∧
    filterEntries clock entries since limit = .ok (.error text')) ∨
  ∃ kept, auditQuery clock entries since limit = .ok (.ok kept) ∧
    filterEntries clock entries since limit = .ok (.ok kept) ∧
    kept = lastItems (askedFor limit (matching clock entries since).length)
      (matching clock entries since)

/-- Neither filter has to compare times with and without a zone. -/
def ZoneKnown (clock : AuditClock) (entries : List AuditEntry) (since : Option String) : Prop :=
  ∀ text localTime, since = some text → clock.parse text = .ok ⟨localTime, none⟩ → entries = []

/-- The text given for `since` is no date-time. -/
def Unreadable (clock : AuditClock) (since : Option String) : Prop :=
  ∃ text exc, since = some text ∧ clock.parse text = .error exc

theorem parse_error {text : String} {exc : PyException} (failed : clock.parse text = .error exc) :
    exc.kind = .valueError := by
  unfold AuditClock.parse at failed
  split at failed
  · cases failed
    rfl
  · cases failed

/-- Where both return the same slice, only the slice decides. -/
theorem filtersAgree_of_slice {since : Option String} {limit : Int}
    (queried : auditQuery clock entries since limit =
      .ok (.ok (sliceFrom (matching clock entries since) (-limit))))
    (filtered : filterEntries clock entries since limit =
      .ok (.ok (sliceFrom (matching clock entries since) (-limit)))) :
    FiltersAgree clock entries since limit ↔
      0 < limit ∨ ((matching clock entries since).length : Int) ≤ -limit := by
  rw [← sliceFrom_neg_iff]
  constructor
  · rintro (⟨text, text', failed, -⟩ | ⟨kept, queried', -, last⟩)
    · rw [queried] at failed
      cases failed
    · rw [queried] at queried'
      cases queried'
      exact last
  · intro last
    exact .inr ⟨_, queried, filtered, last⟩

theorem agree_none (limit : Int) :
    FiltersAgree clock entries none limit ↔ 0 < limit ∨ (entries.length : Int) ≤ -limit :=
  filtersAgree_of_slice rfl rfl

theorem agree_unreadable {text : String} {exc : PyException}
    (failed : clock.parse text = .error exc) (limit : Int) :
    FiltersAgree clock entries (some text) limit := by
  have kind := parse_error failed
  refine .inl ⟨invalidTimestamp text, invalidTimestamp text, ?_, ?_⟩
  · simp [auditQuery, failed, bind, Except.bind, isValueOrTypeError, kind]
  · simp [filterEntries, failed, kind]

/-- A time that can be compared with every entry leaves both filters the same slice. -/
theorem agree_of_since {text : String} {moment : IsoDatetime} (parsed : clock.parse text = .ok moment)
    (kept : clock.since moment entries = .ok (matching clock entries (some text))) (limit : Int) :
    FiltersAgree clock entries (some text) limit ↔
      0 < limit ∨ ((matching clock entries (some text)).length : Int) ≤ -limit := by
  apply filtersAgree_of_slice
  · simp only [auditQuery, parsed, bind, Except.bind, kept]
  · simp only [filterEntries, parsed, bind, Except.bind, kept, pure, Except.pure]

theorem agree_aware {text : String} {localTime east : Int} (stamped : Stamped clock entries)
    (parsed : clock.parse text = .ok ⟨localTime, some east⟩) (limit : Int) :
    FiltersAgree clock entries (some text) limit ↔
      0 < limit ∨ ((matching clock entries (some text)).length : Int) ≤ -limit := by
  apply agree_of_since parsed
  simp only [matching, parsed]
  exact since_aware stamped localTime east

theorem raised_of_naive {text : String} {localTime : Int} (stamped : Stamped clock entries)
    (parsed : clock.parse text = .ok ⟨localTime, none⟩) (some : entries ≠ []) (limit : Int) :
    filterEntries clock entries (.some text) limit = .error
      ⟨.other, "TypeError", "can't compare offset-naive and offset-aware datetimes"⟩ := by
  simp only [filterEntries, parsed, since_naive stamped some, bind, Except.bind]

theorem agree_naive {text : String} {localTime : Int} (stamped : Stamped clock entries)
    (parsed : clock.parse text = .ok ⟨localTime, none⟩) (limit : Int) :
    FiltersAgree clock entries (some text) limit ↔ entries = [] := by
  constructor
  · intro agree
    by_contra some
    have raised := raised_of_naive stamped parsed some limit
    obtain ⟨_, _, -, filtered⟩ | ⟨_, -, filtered, -⟩ := agree
    · rw [raised] at filtered
      cases filtered
    · rw [raised] at filtered
      cases filtered
  · rintro rfl
    have nothing : matching clock [] (some text) = [] := by
      simp only [matching, parsed]
    have kept : clock.since ⟨localTime, none⟩ [] = .ok (matching clock [] (some text)) := by
      rw [nothing]
      rfl
    apply (agree_of_since parsed kept limit).mpr
    rw [nothing]
    change 0 < limit ∨ (0 : Int) ≤ -limit
    omega

/--
The two filters agree on the last entries asked for exactly when they need not compare
a time without a zone, and the limit is positive or skips all there is to keep.
-/
theorem audit_filters_agree_iff (stamped : Stamped clock entries) (since : Option String)
    (limit : Int) :
    FiltersAgree clock entries since limit ↔
      ZoneKnown clock entries since ∧
        (Unreadable clock since ∨ 0 < limit ∨
          ((matching clock entries since).length : Int) ≤ -limit) := by
  cases since with
  | none =>
      rw [agree_none]
      constructor
      · intro sliced
        exact ⟨nofun, .inr sliced⟩
      · rintro ⟨-, ⟨_, _, none, -⟩ | sliced⟩
        · cases none
        · exact sliced
  | some text =>
      cases parsed : clock.parse text with
      | error exc =>
          refine iff_of_true (agree_unreadable parsed limit) ⟨?_, .inl ⟨text, exc, rfl, parsed⟩⟩
          rintro _ localTime ⟨⟩ found
          rw [parsed] at found
          cases found
      | ok moment =>
          have readable : ¬ Unreadable clock (some text) := by
            rintro ⟨_, exc, ⟨⟩, failed⟩
            rw [parsed] at failed
            cases failed
          obtain ⟨localTime, offset⟩ := moment
          cases offset with
          | some east =>
              rw [agree_aware stamped parsed]
              constructor
              · intro sliced
                refine ⟨?_, .inr sliced⟩
                rintro _ other ⟨⟩ found
                rw [parsed] at found
                cases found
              · rintro ⟨-, unreadable | sliced⟩
                · exact absurd unreadable readable
                · exact sliced
          | none =>
              rw [agree_naive stamped parsed]
              constructor
              · rintro rfl
                refine ⟨fun _ _ _ _ => rfl, .inr ?_⟩
                have nothing : matching clock [] (some text) = [] := by
                  simp only [matching, parsed]
                rw [nothing]
                change 0 < limit ∨ (0 : Int) ≤ -limit
                omega
              · rintro ⟨known, -⟩
                exact known text localTime rfl parsed

/-! ## Runs of the filters -/

/-- Date-times with a zone, and without one. -/
def isoReading (text : String) : Option IsoDatetime :=
  match IsoTime.instant? text with
  | some instant => some ⟨instant, some 0⟩
  | none => (IsoTime.instant? (text ++ "Z")).map fun instant => ⟨instant, none⟩

/-- The clock of the first moment of 2026. -/
def newYear : AuditClock := ⟨isoReading, fun _ => "2026-01-01T00:00:00+00:00"⟩

def newYearEntry : AuditEntry :=
  { timestamp := 63902822400000000, level := .L1, connectionId := "c1", profileId := "dev",
    toolName := "read_file", serverName := "fs", verdict := .allow }

theorem parse_newYear {text plain : String} (zone : Text.replace text "Z" "+00:00" = plain)
    (read : IsoTime.instant? plain = some 63902822400000000) :
    newYear.parse text = .ok ⟨63902822400000000, some 0⟩ := by
  simp only [AuditClock.parse, newYear, isoReading, zone, read]

theorem stamped_newYear : Stamped newYear [newYearEntry] := by
  intro entry among
  rw [List.mem_singleton.mp among]
  refine ⟨63902822400000000, 0, ?_, rfl⟩
  exact @parse_newYear _ "2026-01-01T00:00:00+00:00" (by decide +kernel) (by decide +kernel)

theorem audit_filters_agree_newYear :
    FiltersAgree newYear [newYearEntry] (some "2026-01-01T00:00:00Z") 1 := by
  refine (audit_filters_agree_iff stamped_newYear _ 1).mpr ⟨?_, .inr (.inl (by decide))⟩
  rintro _ localTime ⟨⟩ parsed
  have aware := @parse_newYear "2026-01-01T00:00:00Z" "2026-01-01T00:00:00+00:00"
    (by decide +kernel) (by decide +kernel)
  rw [aware] at parsed
  cases parsed

/-- A limit of zero returns everything, and a time without a zone makes the command raise. -/
theorem audit_filters_violated :
    auditQuery newYear [newYearEntry] none 0 = .ok (.ok [newYearEntry]) ∧
      ¬ FiltersAgree newYear [newYearEntry] none 0 ∧
      filterEntries newYear [newYearEntry] (some "2026-01-01T00:00:00") 1 = .error
        ⟨.other, "TypeError", "can't compare offset-naive and offset-aware datetimes"⟩ ∧
      ¬ FiltersAgree newYear [newYearEntry] (some "2026-01-01T00:00:00") 1 := by
  have zone : Text.replace "2026-01-01T00:00:00" "Z" "+00:00" = "2026-01-01T00:00:00" := by
    decide +kernel
  have bare : IsoTime.instant? "2026-01-01T00:00:00" = none := by decide +kernel
  have read : IsoTime.instant? ("2026-01-01T00:00:00" ++ "Z") = some 63902822400000000 := by
    decide +kernel
  have naive : newYear.parse "2026-01-01T00:00:00" = .ok ⟨63902822400000000, none⟩ := by
    simp only [AuditClock.parse, newYear, isoReading, zone, bare, read, Option.map_some]
  refine ⟨rfl, ?_, ?_, ?_⟩
  · rw [agree_none]
    decide
  · exact raised_of_naive stamped_newYear naive (List.cons_ne_nil _ _) 1
  · rw [agree_naive stamped_newYear naive]
    exact List.cons_ne_nil _ _

end Tela
