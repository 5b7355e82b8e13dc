import Tela.Library.Loop
import Tela.Shell.DownstreamClients

/-!
# Paged tool lists

A server answers `tools/list` page by page. The client follows the cursors that the
server hands out until a page comes without one.
-/

namespace Tela

open Coop

/-- One page of a tool list. -/
structure ListToolsResult (Tool : Type) where
  tools : List Tool
  nextCursor : Option String := none

/-- What a server answers, by the cursors of all requests up to the one it answers. -/
abbrev ToolServer (Tool : Type) := List (Option String) → Except PyException (ListToolsResult Tool)

/-- The local state of the loop, with the requests sent. -/
structure Listing (Tool : Type) where
  requests : List (Option String)
  tools : List Tool
  cursor : Option String

variable {Tool Raw : Type}

/-- One round of `while cursor is not None`. -/
def Listing.step (server : ToolServer Tool) (listing : Listing Tool) :
    Listing Tool ⊕ (List (Option String) × Except PyException (List Tool)) :=
  match listing.cursor with
  | none => .inr (listing.requests, .ok listing.tools)
  | some cursor =>
      let requests := listing.requests ++ [some cursor]
      match server requests with
      | .error exc => .inr (requests, .error exc)
      | .ok listResult =>
          .inl ⟨requests, listing.tools ++ listResult.tools, listResult.nextCursor⟩

/-- All pages of a tool list, and the requests sent for them, within so many rounds. -/
def listAllTools (server : ToolServer Tool) (rounds : Nat) :
    Option (List (Option String) × Except PyException (List Tool)) :=
  match server [none] with
  | .error exc => some ([none], .error exc)
  | .ok listResult =>
      Loop.run (Listing.step server) rounds ⟨[none], listResult.tools, listResult.nextCursor⟩

/-- `except Exception`: a failure becomes a result, a cancellation goes on. -/
def reportTools {α : Type} : Except PyException α → Except PyException (Except String α)
  | .ok tools => .ok (.ok tools)
  | .error exc =>
      if exc.isException then .ok (.error ("DOWNSTREAM_ENUMERATE_FAILED: " ++ exc.text))
      else .error exc

/-- How an enumeration ended, and the requests it sent. -/
structure Enumeration (Raw : Type) where
  requests : List (Option String)
  outcome : Except PyException (Except String (List Raw))

/-- `_enumerate_tools` within so many rounds. -/
def enumerateToolPages (server : ToolServer Tool) (modelDump : Tool → Raw) (rounds : Nat) :
    Option (Enumeration Raw) :=
  (listAllTools server rounds).map fun listed =>
    ⟨listed.1, reportTools (listed.2.map fun tools => tools.map modelDump)⟩

/-- The coroutine reports what the whole listing comes to, as the paged enumeration does. -/
theorem enumerateTools_eq (session : SessionId) :
    enumerateTools session =
      Coro.wait (S := sig) (.listTools session) fun listed => Coro.ofExcept (reportTools listed) := by
  unfold enumerateTools pause Coro.await
  simp only [Coro.attempt, Coro.bind_eq, Coro.bind]
  congr 1
  funext listed
  cases listed with
  | ok rawTools => rfl
  | error exc =>
      simp only [Coro.ofExcept, Coro.attempt, Coro.bind, reportTools]
      cases exc.isException with
      | true => rfl
      | false => rfl

/-! ## Which pages are asked for -/

/-- The requests of a client that has received these pages. -/
def asked (pages : List (ListToolsResult Tool)) : List (Option String) :=
  none :: pages.map ListToolsResult.nextCursor

/-- The server answers the requests with these pages, and each one names a next cursor. -/
inductive Continued (server : ToolServer Tool) : List (ListToolsResult Tool) → Prop
  | start : Continued server []
  | page {pages : List (ListToolsResult Tool)} {page : ListToolsResult Tool}
      (continued : Continued server pages) (answered : server (asked pages) = .ok page)
      (more : page.nextCursor ≠ none) : Continued server (pages ++ [page])

/-- An answer after which no further request is sent. -/
inductive Final : Except PyException (ListToolsResult Tool) → Prop
  | failed (exc : PyException) : Final (.error exc)
  | last (page : ListToolsResult Tool) (ended : page.nextCursor = none) : Final (.ok page)

/-- The loop between two pages. -/
def Listing.received (earlier : List (ListToolsResult Tool)) (page : ListToolsResult Tool) :
    Listing Tool :=
  ⟨asked earlier, (earlier ++ [page]).flatMap ListToolsResult.tools, page.nextCursor⟩

variable {server : ToolServer Tool} {modelDump : Tool → Raw}
  {earlier : List (ListToolsResult Tool)} {page : ListToolsResult Tool}

theorem asked_concat (pages : List (ListToolsResult Tool)) (page : ListToolsResult Tool) :
    asked (pages ++ [page]) = asked pages ++ [page.nextCursor] := by
  simp [asked]

theorem step_received_last (ended : page.nextCursor = none) :
    (Listing.received earlier page).step server =
      .inr (asked earlier, .ok ((earlier ++ [page]).flatMap ListToolsResult.tools)) := by
  simp only [Listing.step, Listing.received, ended]

theorem step_received (more : page.nextCursor ≠ none) :
    (Listing.received earlier page).step server =
      match server (asked (earlier ++ [page])) with
      | .error exc => .inr (asked (earlier ++ [page]), .error exc)
      | .ok next => .inl (.received (earlier ++ [page]) next) := by
  obtain ⟨cursor, named⟩ := Option.ne_none_iff_exists'.mp more
  simp only [Listing.step, Listing.received, asked_concat, named]
  cases server (asked earlier ++ [some cursor]) with
  | error exc => rfl
  | ok next => simp

/-- The listing comes to this, after some number of rounds. -/
abbrev Lists (server : ToolServer Tool)
    (listed : List (Option String) × Except PyException (List Tool)) : Prop :=
  ∃ rounds, listAllTools server rounds = some listed

/-- After pages that each name a cursor, the loop stands where the last of them left it. -/
theorem lists_iff_of_continued {listed : List (Option String) × Except PyException (List Tool)}
    (continued : Continued server earlier) (answered : server (asked earlier) = .ok page) :
    Lists server listed ↔
      Loop.EndsWith (Listing.step server) (.received earlier page) listed := by
  induction continued generalizing page with
  | start =>
      have first : server [none] = .ok page := answered
      simp only [Lists, listAllTools, first, Loop.EndsWith, Listing.received, List.nil_append,
        List.flatMap_cons, List.flatMap_nil, List.append_nil]
      exact Iff.rfl
  | page continued answeredBefore more ih =>
      rw [ih answeredBefore]
      apply Loop.endsWith_of_next
      rw [step_received more, answered]

/-- A last page ends the listing with the concatenation of all pages. -/
theorem lists_of_last (continued : Continued server earlier)
    (answered : server (asked earlier) = .ok page) (ended : page.nextCursor = none) :
    Lists server (asked earlier, .ok ((earlier ++ [page]).flatMap ListToolsResult.tools)) :=
  (lists_iff_of_continued continued answered).mpr (Loop.endsWith_of_result (step_received_last ended))

/-- A failed request ends the listing with its exception. -/
theorem lists_of_failed {exc : PyException} (continued : Continued server earlier)
    (failed : server (asked earlier) = .error exc) :
    Lists server (asked earlier, .error exc) := by
  cases continued with
  | start =>
      refine ⟨0, ?_⟩
      have first : server [none] = .error exc := failed
      simp only [listAllTools, first]
      rfl
  | page continued answered more =>
      apply (lists_iff_of_continued continued answered).mpr
      apply Loop.endsWith_of_result
      rw [step_received more, failed]

theorem Lists.unique {first second : List (Option String) × Except PyException (List Tool)}
    (lists : Lists server first) (lists' : Lists server second) : first = second := by
  obtain ⟨rounds, listed⟩ := lists
  obtain ⟨rounds', listed'⟩ := lists'
  unfold listAllTools at listed listed'
  cases answered : server [none] with
  | error exc =>
      rw [answered] at listed listed'
      exact (Option.some.inj listed).symm.trans (Option.some.inj listed')
  | ok page =>
      rw [answered] at listed listed'
      exact Loop.EndsWith.unique ⟨rounds, listed⟩ ⟨rounds', listed'⟩

/-- Without a final answer the loop goes on for ever. -/
theorem final_of_lists {listed : List (Option String) × Except PyException (List Tool)}
    (lists : Lists server listed) :
    ∃ pages, Continued server pages ∧ Final (server (asked pages)) := by
  by_contra endless
  have answer {pages : List (ListToolsResult Tool)} (continued : Continued server pages) :
      ∃ page, server (asked pages) = .ok page ∧ page.nextCursor ≠ none := by
    cases answered : server (asked pages) with
    | error exc => exact absurd ⟨pages, continued, answered ▸ .failed exc⟩ endless
    | ok page =>
        exact ⟨page, rfl, fun ended => endless ⟨pages, continued, answered ▸ .last page ended⟩⟩
  obtain ⟨page, answered, -⟩ := answer .start
  have ends := (lists_iff_of_continued .start answered).mp lists
  refine Loop.not_endsWith_of_forever (fun listing => ∃ earlier page,
    Continued server earlier ∧ server (asked earlier) = .ok page ∧
      page.nextCursor ≠ none ∧ listing = .received earlier page) ?_ ?_ ends
  · rintro _ ⟨earlier, page, continued, answered, more, rfl⟩
    have continued' := continued.page answered more
    obtain ⟨next, answered', more'⟩ := answer continued'
    refine ⟨.received (earlier ++ [page]) next, ?_, _, _, continued', answered', more', rfl⟩
    rw [step_received more, answered']
  · obtain ⟨page', answered', more⟩ := answer .start
    rw [answered] at answered'
    cases answered'
    exact ⟨[], page, .start, answered, more, rfl⟩

/-! ## The laws of enumeration -/

theorem asked_nodup {pages : List (ListToolsResult Tool)} (continued : Continued server pages)
    (distinct : (pages.map ListToolsResult.nextCursor).Nodup) : (asked pages).Nodup := by
  refine List.nodup_cons.mpr ⟨?_, distinct⟩
  induction continued with
  | start => exact List.not_mem_nil
  | page continued answered more ih =>
      rw [List.map_append, List.mem_append]
      rintro (earlier | last)
      · rw [List.map_append] at distinct
        exact ih distinct.of_append_left earlier
      · exact more (List.mem_singleton.mp last).symm

/-- The enumeration ends so, after some number of rounds. -/
def Enumerates (server : ToolServer Tool) (modelDump : Tool → Raw)
    (enumeration : Enumeration Raw) : Prop :=
  ∃ rounds, enumerateToolPages server modelDump rounds = some enumeration

theorem enumerates_iff {enumeration : Enumeration Raw} :
    Enumerates server modelDump enumeration ↔ ∃ listed, Lists server listed ∧
      (⟨listed.1, reportTools (listed.2.map fun tools => tools.map modelDump)⟩ :
        Enumeration Raw) = enumeration := by
  unfold Enumerates enumerateToolPages Lists
  constructor
  · rintro ⟨rounds, ended⟩
    obtain ⟨listed, ran, same⟩ := Option.map_eq_some_iff.mp ended
    exact ⟨listed, ⟨rounds, ran⟩, same⟩
  · rintro ⟨listed, ⟨rounds, ran⟩, same⟩
    exact ⟨rounds, Option.map_eq_some_iff.mpr ⟨listed, ran, same⟩⟩

theorem Enumerates.unique {first second : Enumeration Raw}
    (enumerates : Enumerates server modelDump first)
    (enumerates' : Enumerates server modelDump second) : first = second := by
  obtain ⟨listed, lists, rfl⟩ := enumerates_iff.mp enumerates
  obtain ⟨listed', lists', rfl⟩ := enumerates_iff.mp enumerates'
  rw [lists.unique lists']

/--
An enumeration ends exactly if some answer on the way fails or names no next cursor. It
then has sent the requests up to that answer and no other, each of them once if the
cursors are distinct; a last page yields the concatenation of all pages in order, a failure
its report.
-/
theorem enumerate_tools_pages (server : ToolServer Tool) (modelDump : Tool → Raw) :
    ((∃ enumeration, Enumerates server modelDump enumeration) ↔
      ∃ pages, Continued server pages ∧ Final (server (asked pages))) ∧
    (∀ pages last enumeration, Continued server pages → server (asked pages) = .ok last →
      last.nextCursor = none →
      (Enumerates server modelDump enumeration ↔ enumeration =
        ⟨asked pages, .ok (.ok ((pages ++ [last]).flatMap fun page => page.tools.map modelDump))⟩)) ∧
    (∀ pages exc enumeration, Continued server pages → server (asked pages) = .error exc →
      (Enumerates server modelDump enumeration ↔
        enumeration = ⟨asked pages, reportTools (.error exc)⟩)) ∧
    ∀ pages, Continued server pages → (pages.map ListToolsResult.nextCursor).Nodup →
      (asked pages).Nodup := by
  have exactly {found : Enumeration Raw} (enumerates : Enumerates server modelDump found)
      (enumeration : Enumeration Raw) :
      Enumerates server modelDump enumeration ↔ enumeration = found :=
    ⟨fun enumerates' => enumerates'.unique enumerates, fun same => same ▸ enumerates⟩
  refine ⟨⟨?ends, ?final⟩, ?last, ?failed, fun pages => asked_nodup⟩
  case ends =>
    rintro ⟨enumeration, enumerates⟩
    obtain ⟨listed, lists, -⟩ := enumerates_iff.mp enumerates
    exact final_of_lists lists
  case final =>
    rintro ⟨pages, continued, final⟩
    generalize answered : server (asked pages) = answer at final
    cases final with
    | failed exc => exact ⟨_, enumerates_iff.mpr ⟨_, lists_of_failed continued answered, rfl⟩⟩
    | last page ended =>
        exact ⟨_, enumerates_iff.mpr ⟨_, lists_of_last continued answered ended, rfl⟩⟩
  case last =>
    intro pages last enumeration continued answered ended
    apply exactly
    refine enumerates_iff.mpr ⟨_, lists_of_last continued answered ended, ?_⟩
    simp only [Except.map, reportTools, List.map_flatMap]
  case failed =>
    intro pages exc enumeration continued failed
    apply exactly
    exact enumerates_iff.mpr ⟨_, lists_of_failed continued failed, rfl⟩

/-- A server that always answers with the same cursor keeps the client asking for ever. -/
theorem enumeration_endless :
    ¬ ∀ server : ToolServer String, ∃ enumeration, Enumerates server id enumeration := by
  intro ends
  obtain ⟨enumeration, enumerates⟩ := ends fun _ => .ok ⟨["ping"], some "again"⟩
  obtain ⟨listed, lists, -⟩ := enumerates_iff.mp enumerates
  obtain ⟨pages, -, final⟩ := final_of_lists lists
  cases final with
  | last page ended => cases ended

/-! ## Servers that answer by the cursor alone -/

section Tables

variable {table : Option String → Except PyException (ListToolsResult Tool)}
  {pages : List (ListToolsResult Tool)}

/-- The cursor that follows another. -/
def nextCursor (table : Option String → Except PyException (ListToolsResult Tool))
    (cursor : Option String) : Option String :=
  match table cursor with
  | .error _ => none
  | .ok listResult => listResult.nextCursor

theorem nextCursor_of_ok {cursor : Option String} (answered : table cursor = .ok page) :
    nextCursor table cursor = page.nextCursor := by
  unfold nextCursor
  rw [answered]

theorem nextCursor_of_final {cursor : Option String} (final : Final (table cursor)) :
    nextCursor table cursor = none := by
  unfold nextCursor
  generalize table cursor = answer at final
  cases final with
  | failed exc => rfl
  | last page ended => exact ended

/-- The requests follow the cursors from the first page on. -/
theorem asked_eq_iterate (byCursor : ∀ requests cursor, server (requests ++ [cursor]) = table cursor)
    (continued : Continued server pages) :
    asked pages = (List.range (pages.length + 1)).map fun count => (nextCursor table)^[count] none := by
  induction continued with
  | start => rfl
  | @page earlier page continued answered more ih =>
      rw [ih, List.range_succ, List.map_append, List.map_singleton, byCursor] at answered
      rw [asked_concat, ih, List.length_append, List.length_singleton,
        List.range_succ (n := earlier.length + 1), List.map_append, List.map_singleton,
        Function.iterate_succ_apply', nextCursor_of_ok answered]

/-- No request but the first goes without a cursor. -/
theorem iterate_ne_none (byCursor : ∀ requests cursor, server (requests ++ [cursor]) = table cursor)
    (continued : Continued server pages) {count : Nat} (positive : 0 < count)
    (within : count ≤ pages.length) : (nextCursor table)^[count] none ≠ none := by
  induction continued with
  | start => exact absurd (Nat.lt_of_lt_of_le positive within) (Nat.lt_irrefl 0)
  | @page earlier page continued answered more ih =>
      rw [List.length_append, List.length_singleton] at within
      rcases Nat.lt_or_eq_of_le within with before | last
      · exact ih (Nat.le_of_lt_succ before)
      · have all := asked_eq_iterate byCursor (continued.page answered more)
        rw [asked_concat, List.length_append, List.length_singleton,
          List.range_succ (n := earlier.length + 1), List.map_append, List.map_singleton] at all
        have same := List.append_inj_right' all rfl
        rw [last, ← List.head_eq_of_cons_eq same]
        exact more

/-- Where the cursor decides on the page, an enumeration that ends asks for no page twice. -/
theorem asked_nodup_of_final
    (byCursor : ∀ requests cursor, server (requests ++ [cursor]) = table cursor)
    (continued : Continued server pages) (final : Final (server (asked pages))) :
    (asked pages).Nodup := by
  have stops : nextCursor table ((nextCursor table)^[pages.length] none) = none := by
    rw [asked_eq_iterate byCursor continued, List.range_succ, List.map_append, List.map_singleton,
      byCursor] at final
    exact nextCursor_of_final final
  have periodic : Function.IsPeriodicPt (nextCursor table) (pages.length + 1) none := by
    unfold Function.IsPeriodicPt Function.IsFixedPt
    rw [Function.iterate_succ_apply', stops]
  have minimal : pages.length < Function.minimalPeriod (nextCursor table) none := by
    by_contra short
    have positive := periodic.minimalPeriod_pos (Nat.succ_pos _)
    exact iterate_ne_none byCursor continued positive (Nat.le_of_not_lt short)
      (Function.isPeriodicPt_minimalPeriod (nextCursor table) none)
  rw [asked_eq_iterate byCursor continued]
  refine List.Nodup.map_on ?_ List.nodup_range
  intro first among second among' same
  apply Function.iterate_injOn_Iio_minimalPeriod _ _ same
  · exact Nat.lt_of_le_of_lt (Nat.le_of_lt_succ (List.mem_range.mp among)) minimal
  · exact Nat.lt_of_le_of_lt (Nat.le_of_lt_succ (List.mem_range.mp among')) minimal

end Tables

end Tela
