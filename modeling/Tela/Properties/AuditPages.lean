import Tela.Shell.AuditQuery

/-!
# Walks over the audit log

A client follows the cursors from the start while entries are written. As long as
nothing is evicted, the pages put together are the log, and the walk ends when the
writes stop.
-/

namespace Tela

/-! ## One page -/

/-- What a page says to a client that has read `seen` of the entries. -/
structure PageLaw (digit : Char → Option (Fin 10)) (seen stored : List AuditEntry)
    (page : AuditPage) : Prop where
  follows : seen ++ page.entries <+: stored
  bounds : page.hasMore = true → 1 ≤ page.entries.length ∧ page.entries.length ≤ 100
  ends : page.hasMore = false ↔ seen ++ page.entries = stored
  stops : page.hasMore = false ↔ page.nextCursor = none
  decodes : page.hasMore = true →
    decodeAuditCursor digit page.nextCursor = .ok (seen ++ page.entries).length

/-- A page with a cursor has more after it. -/
theorem PageLaw.more {digit : Char → Option (Fin 10)} {seen stored : List AuditEntry}
    {page : AuditPage} (law : PageLaw digit seen stored page)
    (given : page.nextCursor.isNone = false) : page.hasMore = true := by
  cases more : page.hasMore with
  | false =>
      rw [law.stops.mp more] at given
      cases given
  | true => rfl

/-- Every cursor of the query decodes to the number in it. -/
theorem decodes_of_page {digit : Char → Option (Fin 10)} {store : AuditStore}
    {cursor : Option String} {limit : Option Int} {page : AuditPage} {next : String}
    (answered : auditQueryPaginated digit store.entries cursor limit = .ok page)
    (given : page.nextCursor = some next) :
    ∃ offset, next = auditCursor offset ∧ decodeAuditCursor digit (some next) = .ok offset := by
  obtain ⟨offset, -, rest⟩ := bind_ok answered
  cases rest
  obtain ⟨more, same⟩ := Option.ite_none_right_eq_some.mp given
  obtain rfl := Option.some.inj same
  have less := of_decide_eq_true more
  exact ⟨_, rfl, decode_auditCursor digit (Octets.lt_of_le_maxSize
    ((Nat.le_of_lt less).trans store.length_le_maxSize))⟩

/-- A page after the entries `seen` begins with the next ones. -/
theorem auditPageAt_append (seen rest : List AuditEntry) (pageLimit : Nat) :
    auditPageAt (seen ++ rest) seen.length pageLimit =
      { entries := rest.take pageLimit
        nextCursor := if pageLimit < rest.length then some (auditCursor (seen.length + pageLimit))
          else none
        hasMore := decide (pageLimit < rest.length) } := by
  have start : min seen.length (seen ++ rest).length = seen.length := by
    rw [List.length_append]
    omega
  have stop : min (seen.length + pageLimit) (seen ++ rest).length =
      seen.length + min pageLimit rest.length := by
    rw [List.length_append]
    omega
  have taken : ((seen ++ rest).drop seen.length).take
      (seen.length + min pageLimit rest.length - seen.length) = rest.take pageLimit := by
    rw [List.drop_left, Nat.add_sub_cancel_left, ← List.take_eq_take_min]
  have more : seen.length + min pageLimit rest.length < (seen ++ rest).length ↔
      pageLimit < rest.length := by
    rw [List.length_append]
    omega
  unfold auditPageAt
  simp only [start, stop, taken, more, AuditPage.mk.injEq, true_and, and_true, decide_eq_true_eq]
  split
  · rename_i less
    rw [Nat.min_eq_left (Nat.le_of_lt less)]
  · rfl

theorem page_law {digit : Char → Option (Fin 10)} {seen stored : List AuditEntry}
    {cursor : Option String} (sized : stored.length ≤ Octets.maxSize) (read : seen <+: stored)
    (reached : decodeAuditCursor digit cursor = .ok seen.length) (limit : Option Int) :
    ∃ page, auditQueryPaginated digit stored cursor limit = .ok page ∧
      PageLaw digit seen stored page := by
  obtain ⟨rest, rfl⟩ := read
  obtain ⟨low, high⟩ := normalizeAuditPageLimit_bounds limit
  refine ⟨_, by rw [auditQueryPaginated, reached]; rfl, ?_⟩
  rw [auditPageAt_append]
  generalize normalizeAuditPageLimit limit = pageLimit at low high
  have whole : rest.take pageLimit ++ rest.drop pageLimit = rest := List.take_append_drop _ _
  constructor
  · refine ⟨rest.drop pageLimit, ?_⟩
    rw [List.append_assoc, whole]
  · intro more
    have less := of_decide_eq_true more
    have length : (rest.take pageLimit).length = pageLimit := by
      rw [List.length_take]
      omega
    dsimp only
    omega
  · rw [decide_eq_false_iff_not, Nat.not_lt, List.append_cancel_left_eq, List.take_eq_self_iff]
  · rw [decide_eq_false_iff_not, ite_eq_right_iff]
    simp
  · intro more
    have less := of_decide_eq_true more
    dsimp only
    rw [List.length_append] at sized
    rw [if_pos less, decode_auditCursor digit (Octets.lt_of_le_maxSize (by omega)),
      List.length_append, List.length_take, Nat.min_eq_left (Nat.le_of_lt less)]

/-! ## Walks -/

/-- What happens while a client walks over the log. -/
inductive AuditEvent
  | write (entry : AuditEntry) (failure : Option String)
  | page (limit : Option Int)

def AuditEvent.entry? : AuditEvent → Option AuditEntry
  | write entry _ => some entry
  | page _ => none

/-- The entries written, in order. -/
def written (events : List AuditEvent) : List AuditEntry := events.filterMap AuditEvent.entry?

/-- The entries of some pages, each with what was stored when it was read. -/
def pagesRead (pages : List (List AuditEntry × AuditPage)) : List AuditEntry :=
  pages.flatMap fun page => page.2.entries

/-- The log, and a client that follows the cursors until there is none. -/
structure AuditWalk where
  store : AuditStore
  cursor : Option String := none
  pages : List (List AuditEntry × AuditPage) := []
  ended : Bool := false

namespace AuditWalk

/-- One event; a client whose walk has ended asks no more. -/
def step (digit : Char → Option (Fin 10)) (walk : AuditWalk) : AuditEvent → Except String AuditWalk
  | .write entry failure => .ok { walk with store := (auditWrite walk.store entry failure).1 }
  | .page limit =>
      if walk.ended then .ok walk
      else do
        let page ← auditQueryPaginated digit walk.store.entries walk.cursor limit
        return { walk with
          cursor := page.nextCursor
          pages := walk.pages ++ [(walk.store.entries, page)]
          ended := page.nextCursor.isNone }

def run (digit : Char → Option (Fin 10)) (walk : AuditWalk) :
    List AuditEvent → Except String AuditWalk
  | [] => .ok walk
  | event :: rest => do (← walk.step digit event).run digit rest

/-- Each page goes on where the ones before it stopped, and only the last has no more. -/
def Paged (digit : Char → Option (Fin 10)) (pages : List (List AuditEntry × AuditPage)) : Prop :=
  ∀ before stored page after, pages = before ++ (stored, page) :: after →
    PageLaw digit (pagesRead before) stored page ∧ (after ≠ [] → page.hasMore = true)

/-- A walk has read a first part of the log and its cursor is where that ends. -/
structure Walking (digit : Char → Option (Fin 10)) (walk : AuditWalk) : Prop where
  read : pagesRead walk.pages <+: walk.store.entries
  reached : walk.ended = false →
    decodeAuditCursor digit walk.cursor = .ok (pagesRead walk.pages).length
  paged : Paged digit walk.pages
  more : walk.ended = false → ∀ page ∈ walk.pages, page.2.hasMore = true
  last : walk.ended = true → ∃ before stored page, walk.pages = before ++ [(stored, page)] ∧
    page.hasMore = false ∧ pagesRead walk.pages = stored

variable {digit : Char → Option (Fin 10)} {walk : AuditWalk}

theorem pagesRead_append (pages : List (List AuditEntry × AuditPage)) (stored : List AuditEntry)
    (page : AuditPage) :
    pagesRead (pages ++ [(stored, page)]) = pagesRead pages ++ page.entries := by
  simp [pagesRead]

theorem Paged.append {pages : List (List AuditEntry × AuditPage)} (paged : Paged digit pages)
    (more : ∀ page ∈ pages, page.2.hasMore = true) {stored : List AuditEntry} {page : AuditPage}
    (law : PageLaw digit (pagesRead pages) stored page) :
    Paged digit (pages ++ [(stored, page)]) := by
  intro before stored' page' after split
  cases after using List.reverseRecOn with
  | nil =>
      obtain ⟨rfl, same⟩ := List.append_inj' split rfl
      cases same
      exact ⟨law, fun some => absurd rfl some⟩
  | append_singleton after last _ =>
      rw [← List.cons_append, ← List.append_assoc] at split
      obtain ⟨rfl, -⟩ := List.append_inj' split rfl
      have among : (stored', page') ∈ before ++ (stored', page') :: after :=
        List.mem_append_right _ (List.mem_cons_self ..)
      exact ⟨(paged before stored' page' after rfl).1, fun _ => more _ among⟩

theorem Walking.start (store : AuditStore) : Walking digit { store } where
  read := List.nil_prefix
  reached _ := rfl
  paged before stored page after split := by
    have none := congrArg List.length split
    simp at none
  more _ := nofun
  last := nofun

/-- A write that evicts nothing leaves what was read where it was. -/
theorem Walking.write (walking : Walking digit walk)
    (room : walk.store.entries.length < walk.store.maxEntries) (entry : AuditEntry)
    (failure : Option String) :
    Walking digit { walk with store := (auditWrite walk.store entry failure).1 } := by
  refine ⟨?_, walking.reached, walking.paged, walking.more, walking.last⟩
  change _ <+: (walk.store.append entry).entries
  rw [AuditStore.entries_append room]
  exact walking.read.trans (List.prefix_append _ _)

/-- A page request is answered, and the walk ends or has read more. -/
theorem Walking.page (walking : Walking digit walk) (going : walk.ended = false)
    (limit : Option Int) :
    ∃ next, walk.step digit (.page limit) = .ok next ∧ Walking digit next ∧
      next.store = walk.store ∧
      (next.ended = true ∨ (pagesRead walk.pages).length < (pagesRead next.pages).length) := by
  obtain ⟨page, answered, law⟩ := page_law walk.store.length_le_maxSize walking.read (walking.reached going) limit
  have stepped : walk.step digit (.page limit) = .ok { walk with
      cursor := page.nextCursor
      pages := walk.pages ++ [(walk.store.entries, page)]
      ended := page.nextCursor.isNone } := by
    unfold step
    dsimp only
    rw [going, answered]
    rfl
  have read := pagesRead_append walk.pages walk.store.entries page
  have paged := walking.paged.append (walking.more going) law
  refine ⟨_, stepped, ?_, rfl, ?_⟩
  · constructor
    · rw [read]
      exact law.follows
    · intro going'
      rw [read]
      exact law.decodes (law.more going')
    · exact paged
    · intro going' other among
      obtain old | new := List.mem_append.mp among
      · exact walking.more going other old
      · rw [List.mem_singleton.mp new]
        exact law.more going'
    · intro ended
      have final := law.stops.mpr (Option.isNone_iff_eq_none.mp ended)
      refine ⟨walk.pages, walk.store.entries, page, rfl, final, ?_⟩
      rw [read]
      exact law.ends.mp final
  · cases more : page.hasMore with
    | false => exact .inl (Option.isNone_iff_eq_none.mpr (law.stops.mp more))
    | true =>
        right
        have some := (law.bounds more).1
        dsimp only
        rw [read, List.length_append]
        omega

/-! ## Runs -/

/-- Writes that evict nothing and page requests keep the walk going. -/
theorem Walking.run {events : List AuditEvent} (walking : Walking digit walk)
    (room : walk.store.entries.length + (written events).length ≤ walk.store.maxEntries) :
    ∃ final, walk.run digit events = .ok final ∧ Walking digit final ∧
      final.store.entries = walk.store.entries ++ written events := by
  induction events generalizing walk with
  | nil => exact ⟨walk, rfl, walking, (List.append_nil _).symm⟩
  | cons event rest ih =>
      cases event with
      | write entry failure =>
          have count : (written (.write entry failure :: rest)).length =
              (written rest).length + 1 := rfl
          have free : walk.store.entries.length < walk.store.maxEntries := by omega
          have stored := AuditStore.entries_append free entry
          obtain ⟨final, ran, walking', entries⟩ := ih (walking.write free entry failure) (by
            change (walk.store.append entry).entries.length + _ ≤ walk.store.maxEntries
            rw [stored, List.length_append, List.length_singleton]
            omega)
          refine ⟨final, ran, walking', entries.trans ?_⟩
          change (walk.store.append entry).entries ++ written rest = _
          rw [stored, List.append_assoc]
          rfl
      | page limit =>
          cases going : walk.ended with
          | true =>
              obtain ⟨final, ran, walking', entries⟩ := ih walking room
              refine ⟨final, ?_, walking', entries⟩
              rw [AuditWalk.run, step, going]
              exact ran
          | false =>
              obtain ⟨next, stepped, walking', store, -⟩ := walking.page going limit
              obtain ⟨final, ran, walking'', entries⟩ := ih walking' (store ▸ room)
              refine ⟨final, ?_, walking'', store ▸ entries⟩
              rw [AuditWalk.run, stepped]
              exact ran

/-- A walk that has ended asks no more. -/
theorem run_ended (ended : walk.ended = true) (limits : List (Option Int)) :
    walk.run digit (limits.map .page) = .ok walk := by
  induction limits with
  | nil => rfl
  | cons limit rest ih =>
      rw [List.map_cons, AuditWalk.run, step, ended]
      exact ih

/-- Without writes, more requests than there are unread entries end the walk. -/
theorem Walking.ends {limits : List (Option Int)} (walking : Walking digit walk)
    (enough : walk.store.entries.length < (pagesRead walk.pages).length + limits.length) :
    ∃ final, walk.run digit (limits.map .page) = .ok final ∧ final.ended = true ∧
      final.store = walk.store := by
  induction limits generalizing walk with
  | nil =>
      have short := walking.read.length_le
      rw [List.length_nil] at enough
      omega
  | cons limit rest ih =>
      cases going : walk.ended with
      | true => exact ⟨walk, run_ended going _, going, rfl⟩
      | false =>
          obtain ⟨next, stepped, walking', store, progress⟩ := walking.page going limit
          have first : walk.run digit ((limit :: rest).map .page) =
              next.run digit (rest.map .page) := by
            rw [List.map_cons, AuditWalk.run, stepped]
            rfl
          rw [first]
          obtain ended | further := progress
          · exact ⟨next, run_ended ended rest, ended, store⟩
          · obtain ⟨final, ran, ended, store'⟩ := ih walking' (by
              rw [store]
              rw [List.length_cons] at enough
              omega)
            exact ⟨final, ran, ended, store'.trans store⟩

/--
While nothing is evicted, the pages of a walk follow each other through the log
without a gap, only the last of them has no more, and that one reaches the end. Once
writes stop, the walk ends, and every cursor decodes to the offset in it.
-/
theorem audit_pages (digit : Char → Option (Fin 10)) (store : AuditStore)
    (events : List AuditEvent)
    (room : store.entries.length + (written events).length ≤ store.maxEntries) :
    (∃ walk, run digit { store } events = .ok walk ∧
      walk.store.entries = store.entries ++ written events ∧ Paged digit walk.pages ∧
      (walk.ended = true → ∃ before stored page, walk.pages = before ++ [(stored, page)] ∧
        page.hasMore = false ∧ pagesRead walk.pages = stored) ∧
      (walk.ended = false → ∀ page ∈ walk.pages, page.2.hasMore = true) ∧
      ∀ limits : List (Option Int),
        walk.store.entries.length < (pagesRead walk.pages).length + limits.length →
          ∃ final, walk.run digit (limits.map .page) = .ok final ∧ final.ended = true ∧
            final.store = walk.store) ∧
    ∀ (log : AuditStore) cursor limit page next,
      auditQueryPaginated digit log.entries cursor limit = .ok page →
      page.nextCursor = some next →
        ∃ offset, next = auditCursor offset ∧ decodeAuditCursor digit (some next) = .ok offset := by
  refine ⟨?_, fun log cursor limit page next => decodes_of_page⟩
  obtain ⟨walk, ran, walking, entries⟩ := (Walking.start store).run room
  exact ⟨walk, ran, entries, walking.paged, walking.last, walking.more,
    fun limits enough => walking.ends enough⟩

def sampleEntry (toolName : String) : AuditEntry :=
  { timestamp := 0, level := .L1, connectionId := "c1", profileId := "dev", toolName,
    serverName := "fs", verdict := .allow }

/-- A write between two pages is on the second one. -/
theorem audit_pages_between :
    ∃ walk, run (fun _ => none) { store := {} }
        [.write (sampleEntry "read_file") none, .write (sampleEntry "list_directory") none,
          .page (some 1), .write (sampleEntry "write_file") none, .page (some (-1))] = .ok walk ∧
      walk.store.entries = [sampleEntry "read_file", sampleEntry "list_directory",
        sampleEntry "write_file"] ∧ Paged (fun _ => none) walk.pages := by
  obtain ⟨⟨walk, ran, entries, paged, -⟩, -⟩ := audit_pages (fun _ => none) {}
    [.write (sampleEntry "read_file") none, .write (sampleEntry "list_directory") none,
      .page (some 1), .write (sampleEntry "write_file") none, .page (some (-1))] (by decide)
  exact ⟨walk, ran, entries, paged⟩

end AuditWalk

end Tela
