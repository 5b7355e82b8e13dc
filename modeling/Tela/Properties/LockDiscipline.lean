import Tela.Library.WaitGraph
import Tela.Properties.SingleFlight
import Tela.Properties.Tasks

/-!
# Lock discipline

Who waits for whom: tasks for locks, for responses and for the coroutines of a
`gather`; locks for their holders; receive loops for the handlers they await.
Every wait falls in rank when no party that others depend on waits for a response
behind a handler.
-/

namespace Tela

open Coop

/-- A party of the wait-for graph. -/
inductive Node
  | task (task : TaskId)
  | lock (lock : LockName)
  | loop (session : SessionId)

/-- The wait-for graph. A cancelled receive loop keeps nobody waiting. -/
inductive State.WaitsFor (s : State) (waits : TaskId → Option Wait) : Node → Node → Prop
  | queued {task : TaskId} {lock : LockName} (waiting : waits task = some (.acquire lock)) :
      WaitsFor s waits (.task task) (.lock lock)
  | held {lock : LockName} {task : TaskId} (holder : (s.locks lock).holder = some task) :
      WaitsFor s waits (.lock lock) (.task task)
  | response {task : TaskId} {w : Wait} {session : SessionId} (waiting : waits task = some w)
      (asked : w.session? = some session) (live : s.closed session = false) :
      WaitsFor s waits (.task task) (.loop session)
  | handled {session : SessionId} {current : Session} {task : TaskId} {message : Message}
      (found : s.sessions session = some current) (live : current.closed = false)
      (handler : current.handler = some (task, message)) :
      WaitsFor s waits (.loop session) (.task task)
  | gathered {task child : TaskId} {batch : BatchId} {index : Nat} {job : Job}
      (waiting : waits task = some (.gather batch))
      (member : (s.batches batch).jobs[index]? = some job) (worker : job.worker = some child)
      (running : job.outcome = none) : WaitsFor s waits (.task task) (.task child)

/-! ## The condition on steps -/

/-- The message whose handler the receive loop of an open session awaits. -/
def State.handling (s : State) (session : SessionId) : Option Message :=
  (s.sessions session).bind fun current =>
    if current.closed then none else current.handler.map Prod.snd

/-- Others may wait for the task through the registry lock, a receive loop or a `gather`. -/
def State.Depended (s : State) (task : TaskId) : Prop :=
  (s.locks .registry).holder = some task ∨
    (∃ session current message, s.sessions session = some current ∧
      current.handler = some (task, message)) ∨
    ∃ (batch : BatchId) (index : Nat) (job : Job), (s.batches batch).jobs[index]? = some job ∧
      job.worker = some task

/-- The task holds a recovery lock. -/
def State.HoldsRecoveryLock (s : State) (task : TaskId) : Prop :=
  ∃ lock, (s.locks (.recovery lock)).holder = some task

/-- The task may wait for a session whose receive loop awaits the handler of this message. -/
def State.MayAwait (s : State) (task : TaskId) (handling : Option Message) : Prop :=
  match handling with
  | some .toolListChanged => ¬ s.Depended task
  | some .error => ¬ s.Depended task ∧ ¬ s.HoldsRecoveryLock task
  | _ => True

/--
A task waits for a response, and a receive loop starts a handler, only while the
task that waits may wait behind that handler.
-/
def AwaitsInOrder : Guard world
  | s, _, .suspended task w => ∀ session, w.session? = some session →
      s.MayAwait task (s.handling session)
  | s, waits, .admitted _ (.deliver session message) => ∀ task w, waits task = some w →
      w.session? = some session → s.MayAwait task (some message)
  | _, _, _ => True

/-! ## The invariant -/

/-- `State.Depended`, as the trace of the task has it. -/
def Trace.Depended (g : Trace) : Prop :=
  g.registry = true ∨ (∃ session message, g.role = .handler session message) ∨
    ∃ batch index, g.role = .worker batch index

/-- `State.MayAwait`, as the trace of the task has it. -/
def Trace.MayAwait (g : Trace) : Message → Prop
  | .toolListChanged => ¬ g.Depended
  | .error => ¬ g.Depended ∧ ∀ lock, ¬ g.Holds (.recovery lock)
  | .other => True

/-- Whoever waits for a response may wait behind the handler that the loop awaits. -/
def ResponsesInOrder (v : Watched world Trace) : Prop :=
  ∀ task w session message, v.waits task = some w → w.session? = some session →
    v.state.handling session = some message → (v.traces task).MayAwait message

theorem depended_of_trace {v : Watched world Trace} (locks : LocksFit v) (tasks : TasksFit v)
    {task : TaskId} (depended : (v.traces task).Depended) : v.state.Depended task := by
  rcases depended with registry | ⟨session, message, role⟩ | ⟨batch, index, role⟩
  · exact .inl ((locks.holder .registry task).mpr registry)
  · obtain ⟨current, found, handler⟩ := tasks.handlers.found task session message role
    exact .inr (.inl ⟨session, current, message, found, handler⟩)
  · obtain ⟨job, found, worker⟩ := tasks.workers.found task batch index role
    exact .inr (.inr ⟨batch, index, job, found, worker⟩)

theorem mayAwait_of_state {v : Watched world Trace} (locks : LocksFit v) (tasks : TasksFit v)
    {task : TaskId} {message : Message} (may : v.state.MayAwait task (some message)) :
    (v.traces task).MayAwait message := by
  cases message with
  | toolListChanged => exact fun depended => may (depended_of_trace locks tasks depended)
  | error =>
      refine ⟨fun depended => may.1 (depended_of_trace locks tasks depended), fun lock held => ?_⟩
      exact may.2 ⟨lock, (locks.holder _ task).mpr held⟩
  | other => trivial

/-- No block starts a handler. -/
theorem handling_exec {task : TaskId} {a : Act} {s : State} {session : SessionId}
    {message : Message} (now : (State.exec task a s).2.handling session = some message) :
    s.handling session = some message := by
  cases kept : a.writesSessions with
  | false =>
      simp only [State.handling] at now ⊢
      rwa [(State.exec_unwritten task a s).sessions kept] at now
  | true =>
      have changed {place : SessionId} {change : Session → Session}
          (quiet : ∀ current, (change current).handler = none ∨
            (change current).closed = true)
          (now : (s.updateSession place change).handling session = some message) :
          s.handling session = some message := by
        by_cases same : session = place
        · subst same
          simp only [State.handling, State.updateSession, assign_self] at now
          obtain ⟨current, found, handles⟩ := Option.bind_eq_some_iff.mp now
          obtain ⟨before, -, rfl⟩ := Option.map_eq_some_iff.mp found
          obtain gone | closed := quiet before
          · simp [gone] at handles
          · simp [closed] at handles
        · simpa only [State.handling, State.updateSession, assign_of_ne _ same] using now
      cases a with
      | openSession serverName serverConfig =>
          by_cases same : session = s.nextSession
          · subst same
            simp [State.exec, State.openSession, State.handling] at now
          · simpa only [State.exec, State.openSession, State.handling, assign_of_ne _ same]
              using now
      | beginClose place => exact changed (fun _ => .inr rfl) now
      | handlerDone place => exact changed (fun _ => .inl rfl) now
      | _ => cases kept

namespace ResponsesInOrder

variable {v : Watched world Trace} {task : TaskId}

/-- A task that does not wait does as it likes. -/
theorem retrace (order : ResponsesInOrder v) {g : Trace} {waits : TaskId → Option Wait}
    {state : State}
    (waiting : ∀ other w, waits other = some w → other ≠ task ∧ v.waits other = some w)
    (handling : ∀ session message, state.handling session = some message →
      v.state.handling session = some message) :
    ResponsesInOrder ⟨assign v.traces task g, waits, state⟩ := by
  intro other w session message pending asked handles
  obtain ⟨different, before⟩ := waiting other w pending
  simp only [assign_of_ne _ different]
  exact order other w session message before asked (handling session message handles)

/-- A receive loop starts a handler behind which everyone may wait. -/
theorem delivered (order : ResponsesInOrder v) (locks : LocksFit v) (tasks : TasksFit v)
    {session : SessionId} {message : Message} {g : Trace} (running : v.waits task = none)
    (met : ∀ other w, v.waits other = some w → w.session? = some session →
      v.state.MayAwait other (some message)) :
    ResponsesInOrder ⟨assign v.traces task g, v.waits,
      (v.state.updateSession session fun current =>
        { current with handler := some (task, message) }).allowCancel task⟩ := by
  intro other w place text pending asked handles
  have different : other ≠ task := by
    rintro rfl
    rw [running] at pending
    cases pending
  simp only [assign_of_ne _ different]
  by_cases same : place = session
  · subst same
    simp only [State.handling, State.allowCancel, State.updateSession, assign_self] at handles
    obtain ⟨current, found, handled⟩ := Option.bind_eq_some_iff.mp handles
    obtain ⟨before, -, rfl⟩ := Option.map_eq_some_iff.mp found
    obtain ⟨-, handled⟩ := Option.ite_none_left_eq_some.mp handled
    cases handled
    exact mayAwait_of_state locks tasks (met other w pending asked)
  · simp only [State.handling, State.allowCancel, State.updateSession, assign_of_ne _ same]
      at handles
    exact order other w place text pending asked handles

end ResponsesInOrder

theorem responsesInOrder_keeps :
    discipline.Keeps AwaitsInOrder (fun v => True ∧ LocksFit v ∧ TasksFit v)
      ResponsesInOrder where
  admitted v task request state given order _ _ running met accepted := by
    have waiting : ∀ other w, v.waits other = some w → other ≠ task ∧ v.waits other = some w := by
      refine fun other w pending => ⟨?_, pending⟩
      rintro rfl
      rw [running] at pending
      cases pending
    cases request with
    | deliver session message =>
        obtain ⟨-, same⟩ := Option.ite_none_right_eq_some.mp accepted
        cases same
        exact order.delivered given.2.1 given.2.2 running met
    | connectServer batch index =>
        simp only [world, State.accept] at accepted
        split at accepted
        · obtain ⟨-, same⟩ := Option.ite_none_right_eq_some.mp accepted
          cases same
          exact order.retrace waiting fun _ _ handles => handles
        · cases accepted
    | _ =>
        cases accepted
        exact order.retrace waiting fun _ _ handles => handles
  executed v task a _ order _ running _ _ := by
    refine order.retrace (fun other w pending => ⟨?_, pending⟩) fun _ _ => handling_exec
    rintro rfl
    rw [running] at pending
    cases pending
  passed v task w result state _ order _ running _ _ entered := by
    refine order.retrace (fun other w pending => ⟨?_, pending⟩) ?_
    · rintro rfl
      rw [running] at pending
      cases pending
    · obtain ⟨_, _, _, rfl⟩ | ⟨_, rfl⟩ := State.enter_passed entered
      · exact fun _ _ handles => handles
      · exact fun _ _ handles => handles
  suspended v task w state given order _ running met _ entered := by
    have handling : state.handling = v.state.handling := by
      obtain ⟨_, _, rfl⟩ | ⟨_, rfl⟩ := State.enter_suspended entered
      · rfl
      · rfl
    intro other pending session message waiting asked handles
    simp only [handling] at handles
    by_cases same : other = task
    · subst same
      simp only [assign_self] at waiting
      cases waiting
      refine mayAwait_of_state given.2.1 given.2.2 ?_
      have may := met session asked
      rwa [handles] at may
    · simp only [assign_of_ne _ same] at waiting
      exact order other pending session message waiting asked handles
  woken v task w outcome state _ order _ _ _ _ ended := by
    obtain ⟨_, _, rfl⟩ := State.wake_frame ended
    refine order.retrace (fun other w pending => ?_) fun _ _ handles => handles
    by_cases same : other = task
    · subst same
      simp at pending
    · exact ⟨same, by simpa [assign_of_ne _ same] using pending⟩
  lapsed v task w limit state _ order _ _ _ _ _ ended := by
    refine order.retrace (fun other w pending => ?_) ?_
    · by_cases same : other = task
      · subst same
        simp at pending
      · exact ⟨same, by simpa [assign_of_ne _ same] using pending⟩
    · obtain ⟨_, _, rfl⟩ | ⟨_, rfl⟩ := State.lapse_locks ended
      · exact fun _ _ handles => handles
      · exact fun _ _ handles => handles
  finished v task _ order _ running _ _ := by
    refine order.retrace (fun other w pending => ⟨?_, pending⟩) fun _ _ handles => handles
    rintro rfl
    rw [running] at pending
    cases pending

/-! ## Ranks -/

/-- How far a waiting task is from a party that waits for nobody. -/
def Trace.rank (g : Trace) : Nat :=
  if g.registry then 3
  else
    match g.role with
    | .worker _ _ => 2
    | .handler _ .toolListChanged => 5
    | .handler _ .error => if g.recovery.any Hold.acquired then 7 else 9
    | _ => if g.recovery.any Hold.acquired then 7 else 11

/-- How far a receive loop is that awaits the handler of this message. -/
def Message.loopRank : Message → Nat
  | .other => 1
  | .toolListChanged => 6
  | .error => 10

/-- Ranks fall along the wait-for graph. -/
def Node.rank (v : Watched world Trace) : Node → Nat
  | task client => if (v.waits client).isSome then (v.traces client).rank else 0
  | lock .registry => 4
  | lock (.recovery _) => 8
  | loop session =>
      match v.state.handling session with
      | none => 0
      | some message => message.loopRank

theorem not_other_of_may {w : Wait} {g : Trace} (may : w.may g) (session : SessionId) :
    g.role ≠ .handler session .other := by
  cases w with
  | acquire lock =>
      cases lock with
      | registry => exact may.role session
      | recovery id =>
          intro same
          have recovers := may.2.2.2.2.2
          rw [same] at recovers
          cases recovers
  | listTools session => exact may.1.role _
  | gather batch => exact may.1.role session
  | _ => exact may.role session

theorem rank_pos (g : Trace) : 1 < g.rank := by
  unfold Trace.rank
  split
  · omega
  · split <;> (try split) <;> omega

theorem rank_of_registry {g : Trace} (held : g.registry = true) : g.rank = 3 := by
  simp [Trace.rank, held]

theorem rank_of_free {g : Trace} (free : g.Free) : 4 < g.rank := by
  unfold Trace.rank
  rw [if_neg (by simp [free.registry])]
  split
  · exact absurd ‹_› (free.notWorker _ _)
  · omega
  · split <;> omega
  · split <;> omega

theorem rank_of_fetched {g : Trace} {server : String} {lock : LockId}
    (fetched : g.recovery = some ⟨server, lock, false⟩) (free : g.registry = false)
    (recoverer : g.role.recovers = true) : 8 < g.rank := by
  unfold Trace.rank
  rw [if_neg (by simp [free])]
  split
  · rename_i role
    rw [role] at recoverer
    cases recoverer
  · rename_i role
    rw [role] at recoverer
    cases recoverer
  · simp [fetched]
  · simp [fetched]

theorem rank_of_recovers {g : Trace} {lock : LockId} (held : g.Holds (.recovery lock)) :
    g.rank < 8 := by
  obtain ⟨server, held⟩ := held
  unfold Trace.rank
  split
  · omega
  · split <;> simp [held]

theorem rank_of_not_depended {g : Trace} (independent : ¬ g.Depended) : 6 < g.rank := by
  unfold Trace.rank
  split
  · exact absurd (.inl ‹_›) independent
  · split
    · exact absurd (.inr (.inr ⟨_, _, ‹_›⟩)) independent
    · exact absurd (.inr (.inl ⟨_, _, ‹_›⟩)) independent
    · exact absurd (.inr (.inl ⟨_, _, ‹_›⟩)) independent
    · split <;> omega

theorem rank_of_mayAwait_error {g : Trace} (may : g.MayAwait .error) : 10 < g.rank := by
  obtain ⟨independent, free⟩ := may
  have unheld : g.recovery.any Hold.acquired = false := by
    cases recovery : g.recovery with
    | none => rfl
    | some hold =>
        obtain ⟨server, lock, acquired⟩ := hold
        cases acquired with
        | false => rfl
        | true => exact absurd ⟨server, recovery⟩ (free lock)
  unfold Trace.rank
  split
  · exact absurd (.inl ‹_›) independent
  · split
    · exact absurd (.inr (.inr ⟨_, _, ‹_›⟩)) independent
    · exact absurd (.inr (.inl ⟨_, _, ‹_›⟩)) independent
    · exact absurd (.inr (.inl ⟨_, _, ‹_›⟩)) independent
    · simp [unheld]

theorem rank_of_handler {g : Trace} {session : SessionId} {message : Message}
    (role : g.role = .handler session message) (waits : message ≠ .other) :
    g.rank < message.loopRank := by
  unfold Trace.rank
  split
  · cases message with
    | toolListChanged => decide
    | error => decide
    | other => exact absurd rfl waits
  · cases message with
    | toolListChanged => simp [role, Message.loopRank]
    | error =>
        simp only [role, Message.loopRank]
        split <;> omega
    | other => exact absurd rfl waits

theorem rank_of_worker {g : Trace} {batch : BatchId} {index : Nat}
    (role : g.role = .worker batch index) (free : g.registry = false) : g.rank = 2 := by
  simp [Trace.rank, role, free]

/-- Each wait-for edge leads to a party of lower rank. -/
theorem rank_descends {v : Watched world Trace} (locks : LocksFit v) (tasks : TasksFit v)
    (order : ResponsesInOrder v)
    (stopped : ∀ task w, v.waits task = some w → w.may (v.traces task)) {waiter awaited : Node}
    (waits : v.state.WaitsFor v.waits waiter awaited) : awaited.rank v < waiter.rank v := by
  have waiting {task : TaskId} {w : Wait} (pending : v.waits task = some w) :
      Node.rank v (.task task) = (v.traces task).rank := by
    simp [Node.rank, pending]
  have bounded {task : TaskId} {limit : Nat} (positive : 0 < limit)
      (below : ∀ w, v.waits task = some w → (v.traces task).rank < limit) :
      Node.rank v (.task task) < limit := by
    cases pending : v.waits task with
    | none => simpa [Node.rank, pending] using positive
    | some w =>
        rw [waiting pending]
        exact below w pending
  cases waits with
  | queued pending =>
      rename_i task lock
      have may := stopped task _ pending
      rw [waiting pending]
      cases lock with
      | registry => exact rank_of_free may
      | recovery id =>
          obtain ⟨⟨server, fetched⟩, free, -, -, -, recoverer⟩ := may
          exact rank_of_fetched fetched free recoverer
  | held holder =>
      rename_i lock task
      have held := (locks.holder lock task).mp holder
      cases lock with
      | registry =>
          refine bounded (Nat.succ_pos 3) fun _ _ => ?_
          rw [rank_of_registry held]
          exact Nat.lt_succ_self 3
      | recovery id => exact bounded (Nat.succ_pos 7) fun _ _ => rank_of_recovers held
  | response pending asked live =>
      rename_i task w session
      rw [waiting pending]
      cases handles : v.state.handling session with
      | none =>
          have above := rank_pos (v.traces task)
          simp only [Node.rank, handles]
          omega
      | some message =>
          have may := order task w session message pending asked handles
          simp only [Node.rank, handles]
          cases message with
          | other => exact rank_pos (v.traces task)
          | toolListChanged => exact rank_of_not_depended may
          | error => exact rank_of_mayAwait_error may
  | handled found live handler =>
      rename_i session current task message
      have role := tasks.handlers.awaited session current task message found handler
      have handles : v.state.handling session = some message := by
        simp [State.handling, found, live, handler]
      simp only [Node.rank, handles]
      cases message with
      | other =>
          refine bounded (by decide) fun w pending => ?_
          exact absurd role (not_other_of_may (stopped task w pending) session)
      | toolListChanged =>
          exact bounded (by decide) fun _ _ => rank_of_handler role (by decide)
      | error => exact bounded (by decide) fun _ _ => rank_of_handler role (by decide)
  | gathered pending member worker running =>
      rename_i task child batch index job
      obtain ⟨-, -, registry, -, notWorker⟩ := stopped task _ pending
      have role := (tasks.workers.unreported batch index job child member worker running).1
      rw [waiting pending, rank_of_registry registry]
      refine bounded (by decide) fun w childPending => ?_
      have free : (v.traces child).registry = false := by
        refine Bool.eq_false_iff.mpr fun held => ?_
        obtain rfl := locks.unique .registry registry held
        exact notWorker batch index role
      rw [rank_of_worker role free]
      decide

/-- While tasks await responses in order, nobody waits in a circle. -/
theorem lock_discipline {config : Option TelaConfig} {notifyCallback : Bool} {c : Config world}
    (run : Run (State.launch config notifyCallback) AwaitsInOrder c) :
    Acyclic (c.state.WaitsFor c.waits) := by
  have keeps := ((locksFit_keeps AwaitsInOrder).and (tasksFit_keeps _ _).keeps).and
    responsesInOrder_keeps
  obtain ⟨v, tracks, ⟨locks, tasks⟩, order⟩ := keeps.reached
    ⟨⟨locksFit_initial fun _ => rfl, tasksFit_initial config notifyCallback⟩,
      fun _ _ _ _ waiting => nomatch waiting⟩ run
  rw [← tracks.state, ← tracks.waits]
  refine acyclic_of_rank (Node.rank v) fun waiter awaited waits => ?_
  refine rank_descends locks tasks order (fun task w pending => ?_) waits
  rw [tracks.waits] at pending
  obtain ⟨p, parked, rfl⟩ := Option.map_eq_some_iff.mp pending
  exact (tracks.parked task p parked).stopped

/-! ## Runs with one server -/

/-- No request to a session whose loop awaits a handler, and no handler that may wait. -/
def quietLoops : Check world
  | s, .suspended _ w => w.session?.all fun session => (s.handling session).isNone
  | _, .admitted _ (.deliver _ message) => message == .other
  | _, _ => true

theorem quietLoops_sound : Run.Sound quietLoops AwaitsInOrder := by
  intro state waits event checked
  cases event with
  | suspended task w =>
      intro session asked
      have idle : state.handling session = none := by
        simpa [quietLoops, asked] using checked
      rw [idle]
      trivial
  | admitted task request =>
      cases request with
      | deliver session message =>
          intro other w waiting asked
          obtain rfl := of_decide_eq_true checked
          trivial
      | _ => trivial
  | _ => trivial

/-- A startup runs to its end in order. -/
theorem lock_discipline_startup :
    ∃ c : Config world, Run (State.launch (some filesConfig) false) AwaitsInOrder c ∧
      c.state.registry.getAllTools.keys = ["files"] ∧ Acyclic (c.state.WaitsFor c.waits) := by
  obtain ⟨c, run, published⟩ := Run.exists_of_play quietLoops_sound
    (State.launch (some filesConfig) false) 60 startFiles
    (fun c => decide (c.state.registry.getAllTools.keys = ["files"])) (by decide +kernel)
  exact ⟨c, run, of_decide_eq_true published, lock_discipline run⟩

/-- The handler of a list change asks the session whose receive loop awaits it. -/
theorem lock_discipline_violated :
    ∃ c : Config world, Reachable (State.launch (some filesConfig) false) c ∧
      ¬ Acyclic (c.state.WaitsFor c.waits) := by
  obtain ⟨c, run, stuck⟩ := Run.exists_of_play (Run.sound_anything (W := world))
    (State.launch (some filesConfig) false) 60
    (startFiles ++ [.request (.deliver 0 .toolListChanged)])
    (fun c => ((c.waits 2).bind Wait.session?) = some 0 &&
      (c.state.sessions 0).any fun current =>
        !current.closed && current.handler = some (2, .toolListChanged)) (by decide +kernel)
  obtain ⟨asks, awaited⟩ := Bool.and_eq_true_iff.mp stuck
  obtain ⟨w, waiting, asked⟩ := Option.bind_eq_some_iff.mp (of_decide_eq_true asks)
  obtain ⟨current, found, handles⟩ := (Option.any_eq_true _ _).mp awaited
  obtain ⟨live, handler⟩ := Bool.and_eq_true_iff.mp handles
  have opened : current.closed = false := by simpa using live
  refine ⟨c, run, fun acyclic => acyclic (.task 2) ?_⟩
  have loop : c.state.WaitsFor c.waits (.task 2) (.loop 0) :=
    .response waiting asked (by simp [State.closed, found, opened])
  exact .tail (.single loop) (.handled found opened (of_decide_eq_true handler))

end Tela
