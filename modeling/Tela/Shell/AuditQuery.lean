import Tela.Core.Attachments
import Tela.Library.Octets
import Tela.Shell.Audit

/-!
# Audit store and queries

The bounded store of audit entries, the query by time and the query by pages, whose
cursor is the number of the next entry.
-/

namespace Tela

/-- The entries in append order, never more than the deque holds; its limit is a size. -/
structure AuditStore where
  maxEntries : Nat := 10000
  entries : List AuditEntry := []
  bounded : entries.length ≤ maxEntries := by simp
  sized : maxEntries ≤ Octets.maxSize := by decide

namespace AuditStore

/-- `deque.append`: a full deque drops its oldest entry. -/
def append (store : AuditStore) (entry : AuditEntry) : AuditStore where
  maxEntries := store.maxEntries
  entries := (store.entries ++ [entry]).drop (store.entries.length + 1 - store.maxEntries)
  bounded := by
    rw [List.length_drop, List.length_append, List.length_singleton]
    omega
  sized := store.sized

theorem length_le_maxSize (store : AuditStore) : store.entries.length ≤ Octets.maxSize :=
  store.bounded.trans store.sized

theorem entries_append {store : AuditStore} (room : store.entries.length < store.maxEntries)
    (entry : AuditEntry) : (store.append entry).entries = store.entries ++ [entry] := by
  have none : store.entries.length + 1 - store.maxEntries = 0 := by omega
  change (store.entries ++ [entry]).drop (store.entries.length + 1 - store.maxEntries) = _
  rw [none, List.drop_zero]

end AuditStore

/-- Append an entry; the log file, when there is one, may refuse its line. -/
def auditWrite (store : AuditStore) (entry : AuditEntry) (failure : Option String) :
    AuditStore × Except String Unit :=
  (store.append entry,
    match failure with
    | none => .ok ()
    | some text => .error ("AUDIT_WRITE_ERROR: " ++ text))

/-! ## Pages -/

def auditQueryDefaultLimit : Nat := 100

def auditQueryMaxLimit : Nat := 100

/-- Bounded page of the audit query. -/
structure AuditPage where
  entries : List AuditEntry
  nextCursor : Option String
  hasMore : Bool

/-- A page size within bounds. -/
def normalizeAuditPageLimit : Option Int → Nat
  | none => auditQueryDefaultLimit
  | some limit => if limit ≤ 0 then auditQueryDefaultLimit else min limit.toNat auditQueryMaxLimit

def invalidCursor : String := "AUDIT_QUERY_ERROR: invalid cursor"

/-- The offset that a cursor stands for; `digit` knows the decimal digits beyond ASCII. -/
def decodeAuditCursor (digit : Char → Option (Fin 10)) : Option String → Except String Nat
  | none => .ok 0
  | some cursor =>
      if Text.startsWith cursor "offset:" then
        match Octets.intOfText? digit (cursor.toList.drop "offset:".length) with
        | none => .error invalidCursor
        | some offset => if offset < 0 then .error invalidCursor else .ok offset.toNat
      else .error invalidCursor

def auditCursor (offset : Nat) : String := "offset:" ++ String.ofList (Nat.toDigits 10 offset)

/-- The page that begins at an offset. -/
def auditPageAt (entries : List AuditEntry) (offset pageLimit : Nat) : AuditPage :=
  let start := min offset entries.length
  let stop := min (start + pageLimit) entries.length
  let hasMore := decide (stop < entries.length)
  { entries := (entries.drop start).take (stop - start)
    nextCursor := if hasMore then some (auditCursor stop) else none
    hasMore }

/-- The page that begins at the cursor. -/
def auditQueryPaginated (digit : Char → Option (Fin 10)) (entries : List AuditEntry)
    (cursor : Option String) (limit : Option Int) : Except String AuditPage := do
  let offset ← decodeAuditCursor digit cursor
  return auditPageAt entries offset (normalizeAuditPageLimit limit)

theorem decode_auditCursor (digit : Char → Option (Fin 10)) {offset : Nat}
    (short : offset < 10 ^ Octets.maxDigits) :
    decodeAuditCursor digit (some (auditCursor offset)) = .ok offset := by
  have text : (auditCursor offset).toList = "offset:".toList ++ Nat.toDigits 10 offset := by
    rw [auditCursor, String.toList_append]
    exact congrArg _ String.toList_ofList
  have start : Text.startsWith (auditCursor offset) "offset:" = true := by
    apply Text.startsWith_iff.mpr
    rw [text]
    exact List.prefix_append _ _
  have number : (auditCursor offset).toList.drop "offset:".length = Nat.toDigits 10 offset := by
    rw [text, ← String.length_toList, List.drop_left]
  unfold decodeAuditCursor
  simp only [start, number, Octets.intOfText?_toDigits digit short, if_true]
  rw [if_neg (by simp)]
  rfl

theorem normalizeAuditPageLimit_bounds (limit : Option Int) :
    1 ≤ normalizeAuditPageLimit limit ∧ normalizeAuditPageLimit limit ≤ 100 := by
  unfold normalizeAuditPageLimit auditQueryDefaultLimit auditQueryMaxLimit
  cases limit with
  | none => exact ⟨Nat.le_of_ble_eq_true rfl, Nat.le_refl _⟩
  | some limit =>
      dsimp only
      split
      · omega
      · omega

/-! ## Entries since a time -/

/-- The readings and texts of date-times: `fromisoformat`, and the text of a UTC time. -/
structure AuditClock where
  fromIsoFormat : String → Option IsoDatetime
  isoFormat : Int → String

/-- `items[start:]`. -/
def sliceFrom {α : Type} (items : List α) (start : Int) : List α :=
  if start < 0 then items.drop (items.length - start.natAbs) else items.drop start.toNat

/-- `first >= second`; a time with a zone and one without cannot be compared. -/
def atOrAfter (first second : IsoDatetime) : Except PyException Bool :=
  match first.offset, second.offset with
  | none, none => .ok (second.localTime ≤ first.localTime)
  | some east, some east' => .ok (second.localTime - east' ≤ first.localTime - east)
  | _, _ => .error ⟨.other, "TypeError", "can't compare offset-naive and offset-aware datetimes"⟩

namespace AuditClock

def parse (clock : AuditClock) (text : String) : Except PyException IsoDatetime :=
  match clock.fromIsoFormat (Text.replace text "Z" "+00:00") with
  | none => .error (.valueError s!"Invalid isoformat string: '{text}'")
  | some moment => .ok moment

/-- The entries whose time is at or after `moment`. -/
def since (clock : AuditClock) (moment : IsoDatetime) :
    List AuditEntry → Except PyException (List AuditEntry)
  | [] => .ok []
  | entry :: rest => do
      let kept ← atOrAfter (← clock.parse (clock.isoFormat entry.timestamp)) moment
      let others ← clock.since moment rest
      return if kept then entry :: others else others

end AuditClock

def invalidTimestamp (since : String) : String :=
  "AUDIT_QUERY_ERROR: invalid timestamp format: " ++ since

/-- Caught by `except (ValueError, TypeError)`. -/
def isValueOrTypeError (exc : PyException) : Bool :=
  exc.kind == .valueError || exc.typeName == "TypeError"

/-- The last entries since a time. -/
def auditQuery (clock : AuditClock) (entries : List AuditEntry) (since : Option String)
    (limit : Int) : Except PyException (Except String (List AuditEntry)) :=
  match since with
  | none => .ok (.ok (sliceFrom entries (-limit)))
  | some text =>
      match (do clock.since (← clock.parse text) entries) with
      | .ok kept => .ok (.ok (sliceFrom kept (-limit)))
      | .error exc =>
          if isValueOrTypeError exc then .ok (.error (invalidTimestamp text)) else .error exc

end Tela
