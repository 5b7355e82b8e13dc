import Tela.Library.Monitor

/-!
# Processes

Processes that run side by side over one shared state. Every system call of a
program is one atomic step, and any other process may move between two of them. A
process may be killed at every point. A run keeps its history: each event with the
state before it.
-/

namespace Coop

/-- What processes share, what they run, and what their calls do. -/
structure Host (S : Sig) (ε : Type) where
  State : Type
  Cmd : Type
  Out : Type
  program : TaskId → Cmd → Coro S ε Out
  exec : TaskId → (a : S.Act) → State → S.Val a × State
  /-- The call may end with this outcome and leave this state. -/
  call : TaskId → (w : S.Wait) → State → Except ε (S.Res w) → State → Prop
  launch : TaskId → Cmd → State → State
  /-- What a process holds is given back when it is gone. -/
  close : TaskId → State → State

namespace Host

variable {S : Sig} {ε : Type}

/-- A command and what is left to run of it. -/
structure Process (H : Host S ε) where
  cmd : H.Cmd
  rest : Coro S ε H.Out

/-- The shared state and the processes over it. -/
structure Group (H : Host S ε) where
  state : H.State
  running : TaskId → Option (Process H)

/-- What one step does. -/
inductive Event (H : Host S ε)
  | launched (p : TaskId) (cmd : H.Cmd)
  | executed (p : TaskId) (cmd : H.Cmd) (act : S.Act)
  | called (p : TaskId) (cmd : H.Cmd) (w : S.Wait) (outcome : Except ε (S.Res w))
  | lapsed (p : TaskId) (cmd : H.Cmd) (w : S.Wait)
  | ended (p : TaskId) (cmd : H.Cmd) (out : Except ε H.Out)
  | killed (p : TaskId) (cmd : H.Cmd)

abbrev History (H : Host S ε) := List (H.State × Event H)

variable {H : Host S ε}

/-- The process that moves. -/
def Event.process : Event H → TaskId
  | launched p _ => p
  | executed p _ _ => p
  | called p _ _ _ => p
  | lapsed p _ _ => p
  | ended p _ _ => p
  | killed p _ => p

/-- The moves of a process since it was launched last. -/
def own (p : TaskId) (history : History H) : History H :=
  history.foldl
    (fun moves entry =>
      match entry.2 with
      | .launched q _ => if q = p then [] else moves
      | event => if event.process = p then moves ++ [entry] else moves)
    []

theorem own_other {p : TaskId} {history : History H} {state : H.State} {event : Event H}
    (other : event.process ≠ p) : own p (history ++ [(state, event)]) = own p history := by
  unfold own
  rw [List.foldl_append]
  cases event <;> exact if_neg other

theorem own_called {p : TaskId} {history : History H} {state : H.State} {cmd : H.Cmd}
    {w : S.Wait} {outcome : Except ε (S.Res w)} :
    own p (history ++ [(state, .called p cmd w outcome)]) =
      own p history ++ [(state, .called p cmd w outcome)] := by
  unfold own
  rw [List.foldl_append]
  exact if_pos rfl

theorem own_launched {p : TaskId} {history : History H} {state : H.State} {cmd : H.Cmd} :
    own p (history ++ [(state, .launched p cmd)]) = [] := by
  unfold own
  rw [List.foldl_append]
  exact if_pos rfl

theorem own_sublist (p : TaskId) (history : History H) : (own p history).Sublist history := by
  induction history using List.reverseRecOn with
  | nil => exact List.Sublist.refl _
  | append_singleton earlier entry ih =>
      have longer : (own p earlier ++ [entry]).Sublist (earlier ++ [entry]) :=
        ih.append (List.Sublist.refl _)
      have same := List.sublist_append_left (own p earlier) [entry] |>.trans longer
      obtain ⟨state, event⟩ := entry
      unfold own at same longer ⊢
      rw [List.foldl_append, List.foldl_cons, List.foldl_nil]
      dsimp only
      split
      · split
        · exact List.nil_sublist _
        · exact same
      · split
        · exact longer
        · exact same

/-- The last event of such a kind in the life of a process, between what came before and after. -/
def Since (p : TaskId) (kind : Event H → Prop) (history early late : History H) : Prop :=
  ∃ state event, history = early ++ (state, event) :: late ∧ event.process = p ∧
    kind event ∧ ∀ entry ∈ late, entry.2.process = p →
      ¬ kind entry.2 ∧ ∀ cmd, entry.2 ≠ .launched p cmd

theorem Since.now {p : TaskId} {kind : Event H → Prop} {history : History H} {state : H.State}
    {event : Event H} (mover : event.process = p) (fits : kind event) :
    Since p kind (history ++ [(state, event)]) history [] :=
  ⟨state, event, rfl, mover, fits, fun _ among => absurd among List.not_mem_nil⟩

theorem Since.later {p : TaskId} {kind : Event H → Prop} {history early late : History H}
    (since : Since p kind history early late) {state : H.State} {event : Event H}
    (further : event.process = p → ¬ kind event ∧ ∀ cmd, event ≠ .launched p cmd) :
    Since p kind (history ++ [(state, event)]) early (late ++ [(state, event)]) := by
  obtain ⟨before, first, rfl, mover, fits, quiet⟩ := since
  refine ⟨before, first, ?_, mover, fits, fun entry among => ?_⟩
  · rw [List.append_assoc, List.cons_append]
  · rcases List.mem_append.mp among with old | new
    · exact quiet entry old
    · obtain rfl := List.mem_singleton.mp new
      exact further

inductive Step : Group H → Event H → Group H → Prop
  | launched {g : Group H} {p : TaskId} {cmd : H.Cmd} (free : g.running p = none) :
      Step g (.launched p cmd)
        ⟨H.launch p cmd g.state, assign g.running p (some ⟨cmd, H.program p cmd⟩)⟩
  | executed {g : Group H} {p : TaskId} {cmd : H.Cmd} {a : S.Act}
      {next : S.Val a → Coro S ε H.Out} (running : g.running p = some ⟨cmd, .act a next⟩) :
      Step g (.executed p cmd a)
        ⟨(H.exec p a g.state).2, assign g.running p (some ⟨cmd, next (H.exec p a g.state).1⟩)⟩
  | called {g : Group H} {p : TaskId} {cmd : H.Cmd} {w : S.Wait}
      {next : Except ε (S.Res w) → Coro S ε H.Out} {outcome : Except ε (S.Res w)}
      {state : H.State} (running : g.running p = some ⟨cmd, .wait w next⟩)
      (done : H.call p w g.state outcome state) :
      Step g (.called p cmd w outcome)
        ⟨state, assign g.running p (some ⟨cmd, next outcome⟩)⟩
  | calledTimed {g : Group H} {p : TaskId} {cmd : H.Cmd} {w : S.Wait} {limit : Nat}
      {next : Except ε (S.Res w) → Coro S ε H.Out} {lapse : Coro S ε H.Out}
      {outcome : Except ε (S.Res w)} {state : H.State}
      (running : g.running p = some ⟨cmd, .timed w limit next lapse⟩)
      (done : H.call p w g.state outcome state) :
      Step g (.called p cmd w outcome)
        ⟨state, assign g.running p (some ⟨cmd, next outcome⟩)⟩
  | lapsed {g : Group H} {p : TaskId} {cmd : H.Cmd} {w : S.Wait} {limit : Nat}
      {next : Except ε (S.Res w) → Coro S ε H.Out} {lapse : Coro S ε H.Out}
      (running : g.running p = some ⟨cmd, .timed w limit next lapse⟩) :
      Step g (.lapsed p cmd w) ⟨g.state, assign g.running p (some ⟨cmd, lapse⟩)⟩
  | returned {g : Group H} {p : TaskId} {cmd : H.Cmd} {value : H.Out}
      (running : g.running p = some ⟨cmd, .ret value⟩) :
      Step g (.ended p cmd (.ok value)) ⟨H.close p g.state, assign g.running p none⟩
  | raised {g : Group H} {p : TaskId} {cmd : H.Cmd} {exc : ε}
      (running : g.running p = some ⟨cmd, .raise exc⟩) :
      Step g (.ended p cmd (.error exc)) ⟨H.close p g.state, assign g.running p none⟩
  | killed {g : Group H} {p : TaskId} {process : Process H}
      (running : g.running p = some process) :
      Step g (.killed p process.cmd) ⟨H.close p g.state, assign g.running p none⟩

/-- A condition on the next event, given what happened so far. -/
abbrev Guard (H : Host S ε) := History H → H.State → Event H → Prop

/-- The runs from a state in which nothing runs, and whose steps meet the condition. -/
inductive Run (start : H.State) (ok : Guard H) : History H → Group H → Prop
  | start : Run start ok [] ⟨start, fun _ => none⟩
  | step {history : History H} {g g' : Group H} {event : Event H} (run : Run start ok history g)
      (met : ok history g.state event) (taken : Step g event g') :
      Run start ok (history ++ [(g.state, event)]) g'

/-- Some run leads to this state, with so much left to run of each process. -/
def Reaches (start state : H.State) (running : TaskId → Option (Process H)) : Prop :=
  ∃ history, Run start (fun _ _ _ => True) history ⟨state, running⟩

section Reaches

variable {start state : H.State} {running : TaskId → Option (Process H)}

theorem Reaches.none (start : H.State) : Reaches start start fun _ => (none : Option (Process H)) :=
  ⟨[], .start⟩

theorem Reaches.launch (reaches : Reaches start state running) (p : TaskId) (cmd : H.Cmd)
    (free : running p = .none) :
    Reaches start (H.launch p cmd state) (assign running p (some ⟨cmd, H.program p cmd⟩)) := by
  obtain ⟨history, run⟩ := reaches
  exact ⟨_, .step run trivial (.launched free)⟩

theorem Reaches.call (reaches : Reaches start state running) (p : TaskId) {cmd : H.Cmd}
    {w : S.Wait} {next : Except ε (S.Res w) → Coro S ε H.Out} {state' : H.State}
    (waits : running p = some ⟨cmd, .wait w next⟩) (outcome : Except ε (S.Res w))
    (done : H.call p w state outcome state') :
    Reaches start state' (assign running p (some ⟨cmd, next outcome⟩)) := by
  obtain ⟨history, run⟩ := reaches
  exact ⟨_, .step run trivial (.called waits done)⟩

end Reaches

/-! ## Monitored processes -/

/-- A monitor that every program follows, and what is known where a program returns. -/
structure Watch (H : Host S ε) (G : Type) extends Monitor S G where
  start : TaskId → H.Cmd → G
  returns : H.Cmd → H.Out → G → Prop
  follows : ∀ p cmd,
    Follows toMonitor (returns cmd) (fun _ _ => True) (H.program p cmd) (start p cmd)

/-- The command and the trace value of each process. -/
abbrev Table (H : Host S ε) (G : Type) := TaskId → Option (H.Cmd × G)

namespace Watch

variable {G : Type} (D : Watch H G)

/-- A trace value fits a process. -/
inductive Fits : Option (Process H) → Option (H.Cmd × G) → Prop
  | gone : Fits none none
  | running {cmd : H.Cmd} {rest : Coro S ε H.Out} {g : G}
      (follows : Follows D.toMonitor (D.returns cmd) (fun _ _ => True) rest g) :
      Fits (some ⟨cmd, rest⟩) (some (cmd, g))

/-- `Inv` survives every event of a run whose steps meet `ok`. -/
structure Keeps (ok : Guard H) (Inv : History H → Table H G → H.State → Prop) : Prop where
  launched : ∀ history table state p cmd, Inv history table state → table p = none →
    ok history state (.launched p cmd) →
    Inv (history ++ [(state, .launched p cmd)]) (assign table p (some (cmd, D.start p cmd)))
      (H.launch p cmd state)
  executed : ∀ history table state p cmd g a, Inv history table state →
    table p = some (cmd, g) → ok history state (.executed p cmd a) → D.may a g →
    Inv (history ++ [(state, .executed p cmd a)])
      (assign table p (some (cmd, D.after a (H.exec p a state).1 g))) (H.exec p a state).2
  called : ∀ history table state p cmd g w outcome state', Inv history table state →
    table p = some (cmd, g) → ok history state (.called p cmd w outcome) → D.mayWait w g →
    H.call p w state outcome state' →
    Inv (history ++ [(state, .called p cmd w outcome)])
      (assign table p (some (cmd, D.woken w outcome.toOption g))) state'
  lapsed : ∀ history table state p cmd g w, Inv history table state →
    table p = some (cmd, g) → ok history state (.lapsed p cmd w) → D.mayWait w g →
    D.mayTime g →
    Inv (history ++ [(state, .lapsed p cmd w)])
      (assign table p (some (cmd, D.woken w none g))) state
  ended : ∀ history table state p cmd g out, Inv history table state →
    table p = some (cmd, g) → ok history state (.ended p cmd out) →
    (∀ value, out = .ok value → D.returns cmd value g) →
    Inv (history ++ [(state, .ended p cmd out)]) (assign table p none) (H.close p state)
  killed : ∀ history table state p cmd g, Inv history table state →
    table p = some (cmd, g) → ok history state (.killed p cmd) →
    Inv (history ++ [(state, .killed p cmd)]) (assign table p none) (H.close p state)

variable {D}

/-- Only one entry of the table changes. -/
theorem Fits.assign {running : TaskId → Option (Process H)} {table : Table H G}
    (fits : ∀ p, D.Fits (running p) (table p)) {p : TaskId} {process : Option (Process H)}
    {entry : Option (H.Cmd × G)} (here : D.Fits process entry) (q : TaskId) :
    D.Fits (Coop.assign running p process q) (Coop.assign table p entry q) := by
  by_cases same : q = p
  · subst same
    rwa [assign_self, assign_self]
  · rw [assign_of_ne _ same, assign_of_ne _ same]
    exact fits q

theorem Fits.entry {cmd : H.Cmd} {rest : Coro S ε H.Out} {found : Option (H.Cmd × G)}
    (fits : D.Fits (some ⟨cmd, rest⟩) found) :
    ∃ g, found = some (cmd, g) ∧
      Follows D.toMonitor (D.returns cmd) (fun _ _ => True) rest g := by
  cases fits with
  | running follows => exact ⟨_, rfl, follows⟩

theorem Fits.free {found : Option (H.Cmd × G)} (fits : D.Fits none found) : found = none := by
  cases fits
  rfl

/-- A call is made where the monitor allows it. -/
theorem Fits.called {grp grp' : Group H} {table : Table H G}
    (fits : ∀ p, D.Fits (grp.running p) (table p)) {p : TaskId} {cmd : H.Cmd} {w : S.Wait}
    {outcome : Except ε (S.Res w)} (taken : Step grp (.called p cmd w outcome) grp') :
    ∃ g, table p = some (cmd, g) ∧ D.mayWait w g ∧ H.call p w grp.state outcome grp'.state := by
  cases taken with
  | called running done =>
      obtain ⟨g, found, may, -⟩ := (running ▸ fits p).entry
      exact ⟨g, found, may, done⟩
  | calledTimed running done =>
      obtain ⟨g, found, ⟨may, -⟩, -⟩ := (running ▸ fits p).entry
      exact ⟨g, found, may, done⟩

/-- A program returns where the watch says so. -/
theorem Fits.returned {grp grp' : Group H} {table : Table H G}
    (fits : ∀ p, D.Fits (grp.running p) (table p)) {p : TaskId} {cmd : H.Cmd} {value : H.Out}
    (taken : Step grp (.ended p cmd (.ok value)) grp') :
    ∃ g, table p = some (cmd, g) ∧ D.returns cmd value g := by
  cases taken with
  | returned running => exact (running ▸ fits p).entry

namespace Keeps

variable {ok : Guard H} {Inv : History H → Table H G → H.State → Prop}

/-- One step keeps the invariant and the fit with the processes. -/
theorem step (keeps : D.Keeps ok Inv) {history : History H} {g g' : Group H} {table : Table H G}
    {event : Event H} (fits : ∀ p, D.Fits (g.running p) (table p))
    (holds : Inv history table g.state) (met : ok history g.state event)
    (taken : Step g event g') :
    ∃ table', (∀ p, D.Fits (g'.running p) (table' p)) ∧
      Inv (history ++ [(g.state, event)]) table' g'.state := by
  have entry {p : TaskId} {cmd : H.Cmd} {rest : Coro S ε H.Out}
      (running : g.running p = some ⟨cmd, rest⟩) := (running ▸ fits p).entry
  cases taken with
  | launched free =>
      exact ⟨_, Fits.assign fits (.running (D.follows _ _)),
        keeps.launched _ _ _ _ _ holds (free ▸ fits _).free met⟩
  | executed running =>
      obtain ⟨value, found, may, follows⟩ := entry running
      exact ⟨_, Fits.assign fits (.running (follows _)),
        keeps.executed _ _ _ _ _ _ _ holds found met may⟩
  | called running done =>
      obtain ⟨value, found, may, follows⟩ := entry running
      exact ⟨_, Fits.assign fits (.running (follows _)),
        keeps.called _ _ _ _ _ _ _ _ _ holds found met may done⟩
  | calledTimed running done =>
      obtain ⟨value, found, ⟨may, -⟩, follows, -⟩ := entry running
      exact ⟨_, Fits.assign fits (.running (follows _)),
        keeps.called _ _ _ _ _ _ _ _ _ holds found met may done⟩
  | lapsed running =>
      obtain ⟨value, found, ⟨may, timeable⟩, -, follows⟩ := entry running
      exact ⟨_, Fits.assign fits (.running follows),
        keeps.lapsed _ _ _ _ _ _ _ holds found met may timeable⟩
  | returned running =>
      obtain ⟨value, found, returns⟩ := entry running
      refine ⟨_, Fits.assign fits .gone, keeps.ended _ _ _ _ _ _ _ holds found met ?_⟩
      rintro _ ⟨⟩
      exact returns
  | raised running =>
      obtain ⟨value, found, -⟩ := entry running
      exact ⟨_, Fits.assign fits .gone, keeps.ended _ _ _ _ _ _ _ holds found met nofun⟩
  | @killed _ process running =>
      obtain ⟨cmd, rest⟩ := process
      obtain ⟨value, found, -⟩ := entry running
      exact ⟨_, Fits.assign fits .gone, keeps.killed _ _ _ _ _ _ holds found met⟩

/-- An invariant holds wherever a run arrives. -/
theorem reached (keeps : D.Keeps ok Inv) {start : H.State}
    (initially : Inv [] (fun _ => none) start) {history : History H} {g : Group H}
    (run : Run start ok history g) :
    ∃ table, (∀ p, D.Fits (g.running p) (table p)) ∧ Inv history table g.state := by
  induction run with
  | start => exact ⟨fun _ => none, fun _ => .gone, initially⟩
  | step _ met taken ih =>
      obtain ⟨table, fits, holds⟩ := ih
      exact keeps.step fits holds met taken

end Keeps

end Watch

end Host

end Coop
