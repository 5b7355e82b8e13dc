import Tela.Library.Monitor

/-!
# Plays

A coroutine alone against an environment that answers each act and each wait as it
likes, with all earlier moves before it. What follows a monitor is allowed every
move of every play.
-/

namespace Coop

/-- One act or wait, with what came of it. -/
inductive Move (S : Sig) (ε : Type)
  | acted (a : S.Act) (v : S.Val a)
  | waited (w : S.Wait) (outcome : Except ε (S.Res w))
  | lapsed (w : S.Wait)

/-- The answers of an environment after the moves so far; a timed wait may also lapse. -/
structure Player (S : Sig) (ε : Type) where
  act : List (Move S ε) → (a : S.Act) → S.Val a
  wait : List (Move S ε) → (w : S.Wait) → Except ε (S.Res w)
  lapses : List (Move S ε) → S.Wait → Nat → Bool

variable {S : Sig} {ε G α : Type}

/-- Play a coroutine to its end; the moves go behind those made before. -/
def Coro.play (player : Player S ε) : Coro S ε α → List (Move S ε) → Except ε α × List (Move S ε)
  | .ret value, moves => (.ok value, moves)
  | .raise exc, moves => (.error exc, moves)
  | .act a next, moves =>
      (next (player.act moves a)).play player (moves ++ [.acted a (player.act moves a)])
  | .wait w next, moves =>
      (next (player.wait moves w)).play player (moves ++ [.waited w (player.wait moves w)])
  | .timed w limit next lapse, moves =>
      if player.lapses moves w limit then lapse.play player (moves ++ [.lapsed w])
      else (next (player.wait moves w)).play player (moves ++ [.waited w (player.wait moves w)])

/-- Every move stands in this relation to the moves before it. -/
def Along (holds : List (Move S ε) → Move S ε → Prop) (moves : List (Move S ε)) : Prop :=
  ∀ before move after, moves = before ++ move :: after → holds before move

namespace Along

variable {holds : List (Move S ε) → Move S ε → Prop} {moves added : List (Move S ε)}

theorem nil : Along holds ([] : List (Move S ε)) := by
  intro before move after split
  exact absurd split.symm (List.append_ne_nil_of_right_ne_nil before (List.cons_ne_nil move after))

theorem concat {move : Move S ε} (along : Along holds moves) (last : holds moves move) :
    Along holds (moves ++ [move]) := by
  intro before other after split
  cases after using List.reverseRecOn with
  | nil =>
      obtain ⟨rfl, same⟩ := List.append_inj' split rfl
      cases same
      exact last
  | append_singleton after final _ =>
      rw [← List.cons_append, ← List.append_assoc] at split
      obtain ⟨rfl, -⟩ := List.append_inj' split rfl
      exact along before other after rfl

theorem append (along : Along holds moves)
    (further : ∀ before, ∀ move ∈ added, holds before move) : Along holds (moves ++ added) := by
  induction added using List.reverseRecOn with
  | nil => rwa [List.append_nil]
  | append_singleton added last ih =>
      rw [← List.append_assoc]
      refine (ih fun before move among => ?_).concat ?_
      · exact further before move (List.mem_append_left _ among)
      · exact further _ last (List.mem_append_right _ (List.mem_singleton_self last))

end Along

namespace Monitor

/-- The trace value after a move. -/
def read (M : Monitor S G) (g : G) : Move S ε → G
  | .acted a v => M.after a v g
  | .waited w outcome => M.woken w outcome.toOption g
  | .lapsed w => M.woken w none g

/-- The trace value after some moves. -/
def trace (M : Monitor S G) (g : G) (moves : List (Move S ε)) : G := moves.foldl M.read g

/-- The move is allowed from the trace value. -/
def Allows (M : Monitor S G) (g : G) : Move S ε → Prop
  | .acted a _ => M.may a g
  | .waited w _ => M.mayWait w g
  | .lapsed w => M.mayWait w g

theorem trace_append (M : Monitor S G) (g : G) (moves later : List (Move S ε)) :
    M.trace g (moves ++ later) = M.trace (M.trace g moves) later :=
  List.foldl_append

/-- What each of the moves preserves. -/
theorem trace_keeps {M : Monitor S G} {P : G → Prop} {g : G} {moves : List (Move S ε)}
    (start : P g) (step : ∀ g, ∀ move ∈ moves, P g → P (M.read g move)) : P (M.trace g moves) :=
  List.foldlRecOn moves M.read start fun g kept move among => step g move among kept

/-- A flag that some moves set, and that no move takes back. -/
theorem trace_flag {M : Monitor S G} (flag : G → Bool) {sets : Move S ε → Bool}
    (step : ∀ g move, flag (M.read g move) = (flag g || sets move)) (g : G)
    (moves : List (Move S ε)) : flag (M.trace g moves) = (flag g || moves.any sets) := by
  induction moves generalizing g with
  | nil => exact (Bool.or_false _).symm
  | cons move moves ih =>
      rw [List.any_cons, ← Bool.or_assoc, ← step]
      exact ih (M.read g move)

/-- Every move is allowed by what the moves before it left. -/
def AllowsAll (M : Monitor S G) (g : G) (moves : List (Move S ε)) : Prop :=
  ∀ before move after, moves = before ++ move :: after → M.Allows (M.trace g before) move

theorem allowsAll_nil {M : Monitor S G} {g : G} : M.AllowsAll g ([] : List (Move S ε)) :=
  Along.nil

theorem AllowsAll.of_mem {M : Monitor S G} {g : G} {moves : List (Move S ε)} {move : Move S ε}
    (all : M.AllowsAll g moves) (among : move ∈ moves) : ∃ g', M.Allows g' move := by
  obtain ⟨before, after, split⟩ := List.append_of_mem among
  exact ⟨_, all before move after split⟩

theorem allowsAll_append {M : Monitor S G} {g : G} {moves : List (Move S ε)} {move : Move S ε}
    (all : M.AllowsAll g moves) (allowed : M.Allows (M.trace g moves) move) :
    M.AllowsAll g (moves ++ [move]) :=
  Along.concat all allowed

end Monitor

/-- What is true of each answer of the player, and of every lapse, is true of every move. -/
theorem Coro.forall_play {P : Move S ε → Prop} (player : Player S ε)
    (act : ∀ moves a, P (.acted a (player.act moves a)))
    (wait : ∀ moves w, P (.waited w (player.wait moves w))) (lapsed : ∀ w, P (.lapsed w))
    (x : Coro S ε α) {moves : List (Move S ε)} (all : ∀ move ∈ moves, P move) :
    ∀ move ∈ (x.play player moves).2, P move := by
  have extend {moves : List (Move S ε)} {last : Move S ε} (all : ∀ move ∈ moves, P move)
      (holds : P last) : ∀ move ∈ moves ++ [last], P move := by
    intro move among
    obtain before | rfl := List.mem_append.mp among |>.imp_right List.mem_singleton.mp
    · exact all move before
    · exact holds
  induction x generalizing moves with
  | ret value => exact all
  | raise exc => exact all
  | act a next ih => exact ih _ (extend all (act moves a))
  | wait w next ih => exact ih _ (extend all (wait moves w))
  | timed w limit next lapse ih ihLapse =>
      rw [Coro.play]
      split
      · exact ihLapse (extend all (lapsed w))
      · exact ih _ (extend all (wait moves w))

/-- A play of what follows a monitor makes allowed moves only, and ends as the monitor says. -/
theorem Follows.play {M : Monitor S G} {onRet : α → G → Prop} {onRaise : ε → G → Prop}
    {x : Coro S ε α} {g : G} {moves : List (Move S ε)} (player : Player S ε)
    (follows : Follows M onRet onRaise x (M.trace g moves)) (all : M.AllowsAll g moves) :
    M.AllowsAll g (x.play player moves).2 ∧
      match (x.play player moves).1 with
      | .ok value => onRet value (M.trace g (x.play player moves).2)
      | .error exc => onRaise exc (M.trace g (x.play player moves).2) := by
  induction x generalizing moves with
  | ret value => exact ⟨all, follows⟩
  | raise exc => exact ⟨all, follows⟩
  | act a next ih =>
      obtain ⟨allowed, later⟩ := follows
      apply ih
      · rw [Monitor.trace_append]
        exact later _
      · exact Monitor.allowsAll_append all allowed
  | wait w next ih =>
      obtain ⟨allowed, later⟩ := follows
      apply ih
      · rw [Monitor.trace_append]
        exact later _
      · exact Monitor.allowsAll_append all allowed
  | timed w limit next lapse ih ihLapse =>
      obtain ⟨⟨allowed, -⟩, later, lapses⟩ := follows
      rw [Coro.play]
      split
      · apply ihLapse
        · rw [Monitor.trace_append]
          exact lapses
        · exact Monitor.allowsAll_append all allowed
      · apply ih
        · rw [Monitor.trace_append]
          exact later _
        · exact Monitor.allowsAll_append all allowed

/-! ## Where a coroutine leads -/

/-- However the moves are answered, the coroutine goes on from `moves` to an end that meets `Q`. -/
def Coro.Leads (Q : Except ε α → List (Move S ε) → Prop) : Coro S ε α → List (Move S ε) → Prop
  | .ret value, moves => Q (.ok value) moves
  | .raise exc, moves => Q (.error exc) moves
  | .act a next, moves => ∀ v, (next v).Leads Q (moves ++ [.acted a v])
  | .wait w next, moves => ∀ outcome, (next outcome).Leads Q (moves ++ [.waited w outcome])
  | .timed w _ next lapse, moves =>
      (∀ outcome, (next outcome).Leads Q (moves ++ [.waited w outcome])) ∧
        lapse.Leads Q (moves ++ [.lapsed w])

namespace Coro.Leads

variable {β : Type} {moves : List (Move S ε)}

/-- What follows an end of the first part. -/
def following (Q : Except ε β → List (Move S ε) → Prop) (rest : α → Coro S ε β) :
    Except ε α → List (Move S ε) → Prop
  | .ok value, moves => (rest value).Leads Q moves
  | .error exc, moves => Q (.error exc) moves

theorem bind {Q : Except ε β → List (Move S ε) → Prop} {x : Coro S ε α} {rest : α → Coro S ε β}
    (leads : x.Leads (following Q rest) moves) : (x.bind rest).Leads Q moves := by
  induction x generalizing moves with
  | ret value => exact leads
  | raise exc => exact leads
  | act a next ih => exact fun v => ih v (leads v)
  | wait w next ih => exact fun outcome => ih outcome (leads outcome)
  | timed w limit next lapse ih ihLapse =>
      exact ⟨fun outcome => ih outcome (leads.1 outcome), ihLapse leads.2⟩

/-- Each play comes to such an end. -/
theorem play {Q : Except ε α → List (Move S ε) → Prop} {x : Coro S ε α}
    (leads : x.Leads Q moves) (player : Player S ε) :
    Q (x.play player moves).1 (x.play player moves).2 := by
  induction x generalizing moves with
  | ret value => exact leads
  | raise exc => exact leads
  | act a next ih => exact ih _ (leads _)
  | wait w next ih => exact ih _ (leads _)
  | timed w limit next lapse ih ihLapse =>
      rw [Coro.play]
      split
      · exact ihLapse leads.2
      · exact ih _ (leads.1 _)

/-- A part that makes moves of one kind only is led over by what it returns. -/
theorem of_follows {M : Monitor S Unit} {onRet : α → Prop} {x : Coro S ε α}
    {Q : Except ε α → List (Move S ε) → Prop}
    (follows : Follows M (fun value _ => onRet value) (fun _ _ => True) x ())
    (ends : ∀ result added, (∀ move ∈ added, M.Allows () move) →
      (∀ value, result = .ok value → onRet value) → Q result (moves ++ added)) :
    x.Leads Q moves := by
  have loop {y : Coro S ε α} {added : List (Move S ε)}
      (follows : Follows M (fun value _ => onRet value) (fun _ _ => True) y ())
      (all : ∀ move ∈ added, M.Allows () move) : y.Leads Q (moves ++ added) := by
    have extend {last : Move S ε} {added : List (Move S ε)}
        (all : ∀ move ∈ added, M.Allows () move) (allowed : M.Allows () last) :
        ∀ move ∈ added ++ [last], M.Allows () move := by
      intro move among
      obtain before | rfl := List.mem_append.mp among |>.imp_right List.mem_singleton.mp
      · exact all move before
      · exact allowed
    induction y generalizing added with
    | ret value => exact ends _ added all (by rintro _ ⟨⟩; exact follows)
    | raise exc => exact ends _ added all (by rintro _ ⟨⟩)
    | act a next ih =>
        intro v
        rw [List.append_assoc]
        exact ih v (follows.2 v) (extend all follows.1)
    | wait w next ih =>
        intro outcome
        rw [List.append_assoc]
        exact ih outcome (follows.2 outcome) (extend all follows.1)
    | timed w limit next lapse ih ihLapse =>
        obtain ⟨⟨allowed, -⟩, later, lapses⟩ := follows
        refine ⟨fun outcome => ?_, ?_⟩
        · rw [List.append_assoc]
          exact ih outcome (later outcome) (extend all allowed)
        · rw [List.append_assoc]
          exact ihLapse lapses (extend all allowed)
  simpa using loop follows (List.forall_mem_nil _)

end Coro.Leads

end Coop
