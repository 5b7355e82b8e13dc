import Tela.Properties.Locks

/-!
# Handlers and coroutines of a gather

The task that a receive loop awaits is the handler of its message, and the task
that runs a coroutine of a `gather` has that role until it has reported.
-/

namespace Tela

open Coop

/-- Sessions and traces agree on who handles which message. -/
structure HandlersFit (v : Watched world Trace) : Prop where
  awaited : ∀ session current task message, v.state.sessions session = some current →
    current.handler = some (task, message) → (v.traces task).role = .handler session message
  found : ∀ task session message, (v.traces task).role = .handler session message →
    ∃ current, v.state.sessions session = some current ∧
      current.handler = some (task, message)
  bound : ∀ session current, v.state.sessions session = some current →
    session < v.state.nextSession

/-- Batches and traces agree on who runs which coroutine. -/
structure WorkersFit (v : Watched world Trace) : Prop where
  unreported : ∀ (batch : BatchId) (index : Nat) (job : Job) task, (v.state.batches batch).jobs[index]? = some job →
    job.worker = some task → job.outcome = none →
    (v.traces task).role = .worker batch index ∧ (v.traces task).reported = false
  found : ∀ task (batch : BatchId) (index : Nat), (v.traces task).role = .worker batch index →
    ∃ job : Job, (v.state.batches batch).jobs[index]? = some job ∧ job.worker = some task
  bound : ∀ (batch : BatchId) (index : Nat) (job : Job), (v.state.batches batch).jobs[index]? = some job →
    batch < v.state.nextBatch

structure TasksFit (v : Watched world Trace) : Prop where
  handlers : HandlersFit v
  workers : WorkersFit v

/-! ## How traces change their role -/

theorem role_after {a : Act} (kept : ∀ session, a ≠ .handlerDone session) (v : a.Val)
    (g : Trace) : (a.after v g).role = g.role := by
  cases a with
  | handlerDone session => exact absurd rfl (kept session)
  | release lock => cases lock <;> rfl
  | getRuntimeConfig =>
      change Trace.role (if g.role = .reload then { g with config := some v } else g) = g.role
      split <;> rfl
  | _ => rfl

theorem reported_after {a : Act} (kept : ∀ batch index outcome, a ≠ .report batch index outcome)
    (v : a.Val) (g : Trace) : (a.after v g).reported = g.reported := by
  cases a with
  | report batch index outcome => exact absurd rfl (kept batch index outcome)
  | release lock => cases lock <;> rfl
  | getRuntimeConfig =>
      change Trace.reported (if g.role = .reload then { g with config := some v } else g) = _
      split <;> rfl
  | _ => rfl

theorem reported_woken (w : Wait) (r : Option w.Res) (g : Trace) :
    (w.woken r g).reported = g.reported := by
  unfold Wait.woken
  split <;> rfl

/-! ## Handlers -/

namespace HandlersFit

variable {v : Watched world Trace} {task : TaskId}

/-- Sessions stay and one trace keeps its role. -/
theorem retrace (fit : HandlersFit v) {g : Trace} {waits : TaskId → Option Wait} {state : State}
    (sessions : state.sessions = v.state.sessions)
    (next : state.nextSession = v.state.nextSession)
    (role : ∀ session message, g.role = .handler session message ↔
      (v.traces task).role = .handler session message) :
    HandlersFit ⟨assign v.traces task g, waits, state⟩ where
  awaited session current other message found handler := by
    simp only [sessions] at found
    have known := fit.awaited session current other message found handler
    by_cases same : other = task
    · subst same
      simpa using (role session message).mpr known
    · simpa only [assign_of_ne _ same] using known
  found other session message now := by
    simp only [sessions]
    by_cases same : other = task
    · subst same
      simp only [assign_self] at now
      exact fit.found other session message ((role session message).mp now)
    · simp only [assign_of_ne _ same] at now
      exact fit.found other session message now
  bound session current found := by
    simp only [sessions] at found
    simp only [next]
    exact fit.bound session current found

/-- A receive loop hands a message to a new task. -/
theorem delivered (fit : HandlersFit v) {session : SessionId} {message : Message} {g : Trace}
    {change : Session → Session} (idle : v.traces task = discipline.idle)
    (reads : v.state.reading session = true) (begun : g.role = .handler session message)
    (handles : ∀ current, (change current).handler = some (task, message)) :
    HandlersFit ⟨assign v.traces task g, v.waits,
      (v.state.updateSession session change).allowCancel task⟩ where
  awaited other current client text found handler := by
    simp only [State.allowCancel, State.updateSession] at found
    by_cases same : other = session
    · subst same
      simp only [assign_self] at found
      obtain ⟨before, _, rfl⟩ := Option.map_eq_some_iff.mp found
      rw [handles] at handler
      cases handler
      simpa using begun
    · simp only [assign_of_ne _ same] at found
      have known := fit.awaited other current client text found handler
      have different : client ≠ task := by
        rintro rfl
        rw [idle] at known
        cases known
      simpa only [assign_of_ne _ different] using known
  found client other text now := by
    simp only [State.allowCancel, State.updateSession]
    by_cases same : client = task
    · subst same
      simp only [assign_self, begun] at now
      cases now
      obtain ⟨current, found, -⟩ := Option.any_eq_true _ _ |>.mp reads
      exact ⟨change current, by simp [found], handles current⟩
    · simp only [assign_of_ne _ same] at now
      obtain ⟨current, found, handler⟩ := fit.found client other text now
      by_cases here : other = session
      · subst here
        obtain ⟨known, read, free⟩ := Option.any_eq_true _ _ |>.mp reads
        rw [read] at found
        cases found
        rw [handler] at free
        simp at free
      · exact ⟨current, by rw [assign_of_ne _ here]; exact found, handler⟩
  bound other current found := by
    simp only [State.allowCancel, State.updateSession] at found
    by_cases same : other = session
    · subst same
      simp only [assign_self] at found
      obtain ⟨before, known, -⟩ := Option.map_eq_some_iff.mp found
      exact fit.bound other before known
    · simp only [assign_of_ne _ same] at found
      exact fit.bound other current found

/-- A new session has no handler. -/
theorem opened (fit : HandlersFit v) {g : Trace} {serverName : String}
    {serverConfig : ServerConfig} (role : g.role = (v.traces task).role) :
    HandlersFit ⟨assign v.traces task g, v.waits,
      (v.state.openSession serverName serverConfig).2⟩ := by
  have before : HandlersFit ⟨v.traces, v.waits,
      (v.state.openSession serverName serverConfig).2⟩ := by
    refine ⟨fun session current other message found handler => ?_,
      fun other session message now => ?_, fun session current found => ?_⟩
    · simp only [State.openSession] at found
      by_cases same : session = v.state.nextSession
      · subst same
        simp only [assign_self] at found
        cases found
        cases handler
      · simp only [assign_of_ne _ same] at found
        exact fit.awaited session current other message found handler
    · obtain ⟨current, found, handler⟩ := fit.found other session message now
      have different : session ≠ v.state.nextSession :=
        Nat.ne_of_lt (fit.bound session current found)
      refine ⟨current, ?_, handler⟩
      simp only [State.openSession, assign_of_ne _ different]
      exact found
    · simp only [State.openSession] at found ⊢
      by_cases same : session = v.state.nextSession
      · exact same ▸ Nat.lt_succ_self _
      · simp only [assign_of_ne _ same] at found
        exact Nat.lt_succ_of_lt (fit.bound session current found)
  exact before.retrace rfl rfl fun session message => by rw [role]

/-- Closing a session leaves its handler. -/
theorem closed (fit : HandlersFit v) {g : Trace} {session : SessionId}
    (role : g.role = (v.traces task).role) :
    HandlersFit ⟨assign v.traces task g, v.waits, v.state.beginClose session⟩ := by
  have known {other : SessionId} {current : Session}
      (found : (v.state.beginClose session).sessions other = some current) :
      ∃ before, v.state.sessions other = some before ∧ before.handler = current.handler := by
    simp only [State.beginClose, State.updateSession] at found
    by_cases same : other = session
    · subst same
      simp only [assign_self] at found
      obtain ⟨before, known, rfl⟩ := Option.map_eq_some_iff.mp found
      exact ⟨before, known, rfl⟩
    · simp only [assign_of_ne _ same] at found
      exact ⟨current, found, rfl⟩
  have before : HandlersFit ⟨v.traces, v.waits, v.state.beginClose session⟩ := by
    refine ⟨fun other current client message found handler => ?_,
      fun client other message now => ?_, fun other current found => ?_⟩
    · obtain ⟨old, was, same⟩ := known found
      exact fit.awaited other old client message was (same.trans handler)
    · obtain ⟨current, found, handler⟩ := fit.found client other message now
      simp only [State.beginClose, State.updateSession]
      by_cases same : other = session
      · subst same
        exact ⟨{ current with closed := true }, by simp [found], handler⟩
      · exact ⟨current, by rw [assign_of_ne _ same]; exact found, handler⟩
    · obtain ⟨old, was, -⟩ := known found
      exact fit.bound other old was
  exact before.retrace rfl rfl fun other message => by rw [role]

/-- The loop of the task's own session reads on. -/
theorem finished (fit : HandlersFit v) {session : SessionId} {message : Message} {g : Trace}
    (own : (v.traces task).role = .handler session message) (role : g.role = .plain) :
    HandlersFit ⟨assign v.traces task g, v.waits, v.state.handlerDone session⟩ where
  awaited other current client text found handler := by
    simp only [State.handlerDone, State.updateSession] at found
    by_cases same : other = session
    · subst same
      simp only [assign_self] at found
      obtain ⟨before, _, rfl⟩ := Option.map_eq_some_iff.mp found
      cases handler
    · simp only [assign_of_ne _ same] at found
      have known := fit.awaited other current client text found handler
      have different : client ≠ task := by
        rintro rfl
        rw [own] at known
        cases known
        exact same rfl
      simpa only [assign_of_ne _ different] using known
  found client other text now := by
    by_cases same : client = task
    · subst same
      simp only [assign_self, role] at now
      cases now
    · simp only [assign_of_ne _ same] at now
      obtain ⟨current, found, handler⟩ := fit.found client other text now
      have different : other ≠ session := by
        rintro rfl
        obtain ⟨mine, here, handling⟩ := fit.found task other message own
        rw [here] at found
        cases found
        rw [handling] at handler
        cases handler
        exact same rfl
      refine ⟨current, ?_, handler⟩
      simp only [State.handlerDone, State.updateSession, assign_of_ne _ different]
      exact found
  bound other current found := by
    simp only [State.handlerDone, State.updateSession] at found
    by_cases same : other = session
    · subst same
      simp only [assign_self] at found
      obtain ⟨before, known, -⟩ := Option.map_eq_some_iff.mp found
      exact fit.bound other before known
    · simp only [assign_of_ne _ same] at found
      exact fit.bound other current found

end HandlersFit

/-! ## Coroutines of a gather -/

namespace WorkersFit

variable {v : Watched world Trace} {task : TaskId}

/-- Batches stay and one trace keeps its role. -/
theorem retrace (fit : WorkersFit v) {g : Trace} {waits : TaskId → Option Wait} {state : State}
    (batches : state.batches = v.state.batches) (next : state.nextBatch = v.state.nextBatch)
    (role : ∀ batch index, g.role = .worker batch index ↔
      (v.traces task).role = .worker batch index)
    (reported : ∀ batch index, (v.traces task).role = .worker batch index →
      (v.traces task).reported = false → g.reported = false) :
    WorkersFit ⟨assign v.traces task g, waits, state⟩ where
  unreported batch index job other found worker running := by
    simp only [batches] at found
    have known := fit.unreported batch index job other found worker running
    by_cases same : other = task
    · subst same
      simp only [assign_self]
      exact ⟨(role batch index).mpr known.1, reported batch index known.1 known.2⟩
    · simpa only [assign_of_ne _ same] using known
  found other batch index now := by
    simp only [batches]
    by_cases same : other = task
    · subst same
      simp only [assign_self] at now
      exact fit.found other batch index ((role batch index).mp now)
    · simp only [assign_of_ne _ same] at now
      exact fit.found other batch index now
  bound batch index job found := by
    simp only [batches] at found
    simp only [next]
    exact fit.bound batch index job found

theorem jobs_modify {jobs : List Job} {index place : Nat} {change : Job → Job} {job : Job}
    (found : (jobs.modify index change)[place]? = some job) :
    ∃ before, jobs[place]? = some before ∧
      job = if place = index then change before else before := by
  rw [List.getElem?_modify] at found
  obtain ⟨before, was, rfl⟩ := Option.map_eq_some_iff.mp found
  refine ⟨before, was, ?_⟩
  by_cases same : place = index
  · subst same
    simp
  · simp [same, Ne.symm same]

/-- The jobs of one batch change at one place. -/
theorem modified {s : State} {batch other : BatchId} {index place : Nat} {change : Job → Job}
    {job : Job}
    (found : (assign s.batches batch { s.batches batch with
      jobs := (s.batches batch).jobs.modify index change } other).jobs[place]? = some job) :
    ∃ before, (s.batches other).jobs[place]? = some before ∧
      job = if other = batch ∧ place = index then change before else before := by
  by_cases same : other = batch
  · subst same
    simp only [assign_self] at found
    obtain ⟨before, was, rfl⟩ := jobs_modify found
    exact ⟨before, was, by simp⟩
  · simp only [assign_of_ne _ same] at found
    exact ⟨job, found, by simp [same]⟩

theorem modified_of {s : State} {batch other : BatchId} {index place : Nat}
    {change : Job → Job} {before : Job}
    (found : (s.batches other).jobs[place]? = some before) :
    (assign s.batches batch { s.batches batch with
      jobs := (s.batches batch).jobs.modify index change } other).jobs[place]? =
        some (if other = batch ∧ place = index then change before else before) := by
  by_cases same : other = batch
  · subst same
    simp only [assign_self, List.getElem?_modify, found]
    by_cases here : place = index
    · simp [here]
    · simp [here, Ne.symm here]
  · simp [assign_of_ne _ same, found, same]

/-- A coroutine of a `gather` gets its task. -/
theorem started (fit : WorkersFit v) {batch : BatchId} {index : Nat} {g : Trace} {job : Job}
    (idle : v.traces task = discipline.idle)
    (listed : (v.state.batches batch).jobs[index]? = some job) (free : job.worker = none)
    (begun : g.role = .worker batch index) (fresh : g.reported = false) :
    WorkersFit ⟨assign v.traces task g, v.waits,
      { v.state with
        batches := assign v.state.batches batch
          { v.state.batches batch with
            jobs := (v.state.batches batch).jobs.modify index fun job =>
              { job with worker := some task } } }⟩ where
  unreported other place current client found worker running := by
    obtain ⟨before, was, rfl⟩ := modified found
    by_cases here : other = batch ∧ place = index
    · obtain ⟨rfl, rfl⟩ := here
      simp only [and_self, if_true] at worker
      cases worker
      simpa using ⟨begun, fresh⟩
    · simp only [if_neg here] at worker running
      have known := fit.unreported other place before client was worker running
      have different : client ≠ task := by
        rintro rfl
        rw [idle] at known
        cases known.1
      simpa only [assign_of_ne _ different] using known
  found client other place now := by
    by_cases same : client = task
    · subst same
      simp only [assign_self, begun] at now
      cases now
      exact ⟨_, modified_of listed, by simp⟩
    · simp only [assign_of_ne _ same] at now
      obtain ⟨before, was, worker⟩ := fit.found client other place now
      refine ⟨_, modified_of was, ?_⟩
      rw [if_neg]
      · exact worker
      · rintro ⟨rfl, rfl⟩
        rw [listed] at was
        cases was
        rw [free] at worker
        cases worker
  bound other place current found := by
    obtain ⟨before, was, -⟩ := modified found
    exact fit.bound other place before was

/-- A coroutine hands over its outcome. -/
theorem outcome (fit : WorkersFit v) {batch : BatchId} {index : Nat} {g : Trace}
    {outcome : Except PyException (Except String ConnectedServerData)}
    (own : (v.traces task).role = .worker batch index) (role : g.role = .worker batch index) :
    WorkersFit ⟨assign v.traces task g, v.waits, v.state.report batch index outcome⟩ where
  unreported other place current client found worker running := by
    obtain ⟨before, was, rfl⟩ := modified found
    by_cases here : other = batch ∧ place = index
    · simp only [if_pos here] at running
      cases running
    · simp only [if_neg here] at worker running
      have known := fit.unreported other place before client was worker running
      have different : client ≠ task := by
        rintro rfl
        rw [own] at known
        obtain ⟨rfl, rfl⟩ := Role.worker.inj known.1
        exact here ⟨rfl, rfl⟩
      simpa only [assign_of_ne _ different] using known
  found client other place now := by
    have old : (v.traces client).role = .worker other place := by
      by_cases same : client = task
      · subst same
        simp only [assign_self, role] at now
        exact own.trans now
      · simpa only [assign_of_ne _ same] using now
    obtain ⟨before, was, worker⟩ := fit.found client other place old
    refine ⟨_, modified_of was, ?_⟩
    split <;> exact worker
  bound other place current found := by
    obtain ⟨before, was, -⟩ := modified found
    exact fit.bound other place before was

/-- A new batch has no task yet. -/
theorem spawned (fit : WorkersFit v) {servers : Dict String ServerConfig} {g : Trace}
    (role : g.role = (v.traces task).role) (reported : g.reported = (v.traces task).reported) :
    WorkersFit ⟨assign v.traces task g, v.waits, (v.state.spawn servers).2⟩ := by
  have before : WorkersFit ⟨v.traces, v.waits, (v.state.spawn servers).2⟩ := by
    refine ⟨fun batch index job other found worker running => ?_,
      fun other batch index now => ?_, fun batch index job found => ?_⟩
    · simp only [State.spawn] at found
      by_cases same : batch = v.state.nextBatch
      · subst same
        simp only [assign_self, List.getElem?_map] at found
        obtain ⟨entry, -, rfl⟩ := Option.map_eq_some_iff.mp found
        cases worker
      · simp only [assign_of_ne _ same] at found
        exact fit.unreported batch index job other found worker running
    · obtain ⟨job, found, worker⟩ := fit.found other batch index now
      have different : batch ≠ v.state.nextBatch :=
        Nat.ne_of_lt (fit.bound batch index job found)
      refine ⟨job, ?_, worker⟩
      simp only [State.spawn, assign_of_ne _ different]
      exact found
    · simp only [State.spawn] at found ⊢
      by_cases same : batch = v.state.nextBatch
      · exact same ▸ Nat.lt_succ_self _
      · simp only [assign_of_ne _ same] at found
        exact Nat.lt_succ_of_lt (fit.bound batch index job found)
  exact before.retrace rfl rfl (fun batch index => by rw [role]) fun batch index _ fresh => by
    rw [reported]
    exact fresh

end WorkersFit

/-! ## Every event keeps both -/

theorem tasksFit_admitted {v : Watched world Trace} (fit : TasksFit v) {task : TaskId}
    {request : Req} {state : State} (idle : v.traces task = discipline.idle)
    (accepted : State.accept task request v.state = some state) :
    TasksFit ⟨assign v.traces task request.begin, v.waits, state⟩ := by
  have noHandler (session : SessionId) (message : Message) :
      (v.traces task).role ≠ .handler session message := by
    rw [idle]
    rintro ⟨⟩
  have noWorker (batch : BatchId) (index : Nat) :
      (v.traces task).role ≠ .worker batch index := by
    rw [idle]
    rintro ⟨⟩
  have handlers (state : State) (sessions : state.sessions = v.state.sessions)
      (next : state.nextSession = v.state.nextSession)
      (other : ∀ session message, request.begin.role ≠ .handler session message) :
      HandlersFit ⟨assign v.traces task request.begin, v.waits, state⟩ :=
    fit.handlers.retrace sessions next fun session message =>
      iff_of_false (other session message) (noHandler session message)
  have workers (state : State) (batches : state.batches = v.state.batches)
      (next : state.nextBatch = v.state.nextBatch)
      (other : ∀ batch index, request.begin.role ≠ .worker batch index) :
      WorkersFit ⟨assign v.traces task request.begin, v.waits, state⟩ :=
    fit.workers.retrace batches next
      (fun batch index => iff_of_false (other batch index) (noWorker batch index))
      fun batch index same => absurd same (noWorker batch index)
  cases request with
  | deliver session message =>
      obtain ⟨reads, same⟩ := Option.ite_none_right_eq_some.mp accepted
      cases same
      exact ⟨fit.handlers.delivered idle reads rfl fun _ => rfl,
        workers _ rfl rfl fun _ _ => by rintro ⟨⟩⟩
  | connectServer batch index =>
      simp only [State.accept] at accepted
      split at accepted
      · rename_i job listed
        obtain ⟨free, same⟩ := Option.ite_none_right_eq_some.mp accepted
        cases same
        refine ⟨handlers _ rfl rfl fun _ _ => by rintro ⟨⟩, ?_⟩
        exact fit.workers.started idle listed (Option.isNone_iff_eq_none.mp free) rfl rfl
      · cases accepted
  | _ =>
      cases accepted
      exact ⟨handlers _ rfl rfl fun _ _ => by rintro ⟨⟩, workers _ rfl rfl fun _ _ => by rintro ⟨⟩⟩

theorem tasksFit_executed {v : Watched world Trace} (fit : TasksFit v) {task : TaskId} {a : Act}
    (may : a.may (v.traces task)) :
    TasksFit ⟨assign v.traces task (a.after (State.exec task a v.state).1 (v.traces task)),
      v.waits, (State.exec task a v.state).2⟩ := by
  have unwritten := State.exec_unwritten task a v.state
  have handlers (kept : a.writesSessions = false)
      (role : (a.after (State.exec task a v.state).1 (v.traces task)).role =
        (v.traces task).role) :
      HandlersFit ⟨assign v.traces task (a.after (State.exec task a v.state).1 (v.traces task)),
        v.waits, (State.exec task a v.state).2⟩ :=
    fit.handlers.retrace (unwritten.sessions kept) (unwritten.nextSession kept)
      fun session message => by rw [role]
  have workers (kept : a.writesBatches = false)
      (role : ∀ batch index,
        (a.after (State.exec task a v.state).1 (v.traces task)).role = .worker batch index ↔
          (v.traces task).role = .worker batch index)
      (reported : (a.after (State.exec task a v.state).1 (v.traces task)).reported =
        (v.traces task).reported) :
      WorkersFit ⟨assign v.traces task (a.after (State.exec task a v.state).1 (v.traces task)),
        v.waits, (State.exec task a v.state).2⟩ :=
    fit.workers.retrace (unwritten.batches kept) (unwritten.nextBatch kept) role
      fun batch index _ fresh => by
        rw [reported]
        exact fresh
  have role (kept : ∀ session, a ≠ .handlerDone session) :=
    role_after kept (State.exec task a v.state).1 (v.traces task)
  have reported (kept : ∀ batch index outcome, a ≠ .report batch index outcome) :=
    reported_after kept (State.exec task a v.state).1 (v.traces task)
  cases a with
  | openSession serverName serverConfig =>
      exact ⟨fit.handlers.opened rfl, workers rfl (fun _ _ => Iff.rfl) rfl⟩
  | beginClose session => exact ⟨fit.handlers.closed rfl, workers rfl (fun _ _ => Iff.rfl) rfl⟩
  | handlerDone session =>
      obtain ⟨message, own⟩ := may
      refine ⟨fit.handlers.finished own rfl, workers rfl (fun batch index => ?_) rfl⟩
      rw [own]
      exact iff_of_false nofun nofun
  | spawn servers => exact ⟨handlers rfl rfl, fit.workers.spawned rfl rfl⟩
  | report batch index outcome => exact ⟨handlers rfl rfl, fit.workers.outcome may.1 may.1⟩
  | _ =>
      have same := role fun _ => nofun
      exact ⟨handlers rfl same, workers rfl (fun batch index => by rw [same])
        (reported fun _ _ _ => nofun)⟩

/-- Handlers and coroutines fit in every run. -/
theorem tasksFit_keeps (ok : Guard world) (given : Watched world Trace → Prop) :
    KeepsActs ok given TasksFit where
  admitted v task request state _ fit idle _ _ accepted := tasksFit_admitted fit idle accepted
  executed v task a _ fit _ _ _ may := tasksFit_executed fit may
  waited v task w r _ _ _ _ fit _ := by
    have role := Wait.woken_role w r (v.traces task)
    have reported := reported_woken w r (v.traces task)
    exact ⟨fit.handlers.retrace rfl rfl fun _ _ => role ▸ Iff.rfl,
      fit.workers.retrace rfl rfl (fun _ _ => role ▸ Iff.rfl) fun _ _ _ fresh =>
        reported.trans fresh⟩
  finished v task _ fit done := by
    refine ⟨fit.handlers.retrace rfl rfl fun session message =>
      iff_of_false nofun (done.role session message), ?_⟩
    refine ⟨fun batch index job other found worker running => ?_,
      fun other batch index now => ?_, fit.workers.bound⟩
    · have known := fit.workers.unreported batch index job other found worker running
      have different : other ≠ task := by
        rintro rfl
        exact Bool.noConfusion ((done.reported batch index known.1).symm.trans known.2)
      simpa only [assign_of_ne _ different] using known
    · have different : other ≠ task := by
        rintro rfl
        simp only [assign_self] at now
        cases now
      simp only [assign_of_ne _ different] at now
      exact fit.workers.found other batch index now
  suspended v _ _ fit :=
    ⟨⟨fit.handlers.awaited, fit.handlers.found, fit.handlers.bound⟩,
      ⟨fit.workers.unreported, fit.workers.found, fit.workers.bound⟩⟩

theorem tasksFit_initial (config : Option TelaConfig) (notifyCallback : Bool) :
    TasksFit ⟨fun _ => discipline.idle, fun _ => none, State.launch config notifyCallback⟩ where
  handlers :=
    { awaited := fun _ _ _ _ found => by cases found
      found := fun _ _ _ now => by cases now
      bound := fun _ _ found => by cases found }
  workers :=
    { unreported := fun _ _ _ _ found => by cases found
      found := fun _ _ _ now => by cases now
      bound := fun _ _ _ found => by cases found }

end Tela
