import Tela.Library.Exclusive
import Tela.Properties.FreshHandle
import Tela.Properties.SessionCustody

/-!
# One owner for each client session

In every run a session that is installed, in the custody of a task or on its way from a
coroutine of a `gather` to the task that awaits it is in that one place only, and open.
-/

namespace Tela.SessionCustody

open Coop (Config Discipline FifoLock Follows Reachable Run Step TaskId Watched assign assign_eq_self assign_of_ne
  assign_self)

/-- Where sessions are. -/
inductive Place
  | installed
  | held (task : TaskId)
  /-- Reported to the `gather` that the task awaits. -/
  | gathered (task : TaskId)

/-- The sessions that the coroutines of a `gather` have reported. -/
def inFlight (s : State) (batch : BatchId) : List SessionId :=
  sessionsOf (handlesOf (started (s.jobResults batch)))

def arriving (s : State) : Option BatchId → List SessionId
  | none => []
  | some batch => inFlight s batch

def content (v : Watched world Custody) : Place → List SessionId
  | .installed => sessionsOf v.state.clients.values
  | .held task => (v.traces task).held
  | .gathered task => arriving v.state (v.traces task).gathering

/-- The session was opened, and no closing of it has begun. -/
def Open (s : State) (session : SessionId) : Prop :=
  ∃ current, s.sessions session = some current ∧ current.closed = false

/-- Every session has one owner, which has it open. -/
structure Owned (v : Watched world Custody) : Prop where
  exclusive : Exclusive (content v)
  opened : ∀ place, ∀ session ∈ content v place, Open v.state session
  fresh : ∀ session, v.state.nextSession ≤ session → v.state.sessions session = none
  gathers : ∀ task batch, (v.traces task).gathering = some batch → batch < v.state.nextBatch
  single : ∀ task other batch, (v.traces task).gathering = some batch →
    (v.traces other).gathering = some batch → task = other

section Steps

variable {v : Watched world Custody} {task : TaskId} {g : Custody} {s : State}
  {waits : TaskId → Option Wait}

/-- One trace and the state change. -/
abbrev stepped (v : Watched world Custody) (task : TaskId) (g : Custody)
    (waits : TaskId → Option Wait) (s : State) : Watched world Custody :=
  ⟨assign v.traces task g, waits, s⟩

theorem held_self : content (stepped v task g waits s) (.held task) = g.held := by
  simp only [content, assign_self]

theorem held_of_ne {other : TaskId} (different : other ≠ task) :
    content (stepped v task g waits s) (.held other) = (v.traces other).held := by
  simp only [content, assign_of_ne _ different]

theorem gathered_step (gathering : g.gathering = (v.traces task).gathering) (other : TaskId) :
    content (stepped v task g waits s) (.gathered other) =
      arriving s (v.traces other).gathering := by
  by_cases same : other = task
  · subst same
    simp only [content, assign_self, gathering]
  · simp only [content, assign_of_ne _ same]

theorem arriving_eq {s s' : State} {gathering : Option BatchId}
    (same : ∀ batch, gathering = some batch → inFlight s' batch = inFlight s batch) :
    arriving s' gathering = arriving s gathering := by
  cases gathering with
  | none => rfl
  | some batch => exact same batch rfl

/-- Which `gather` each task awaits stays as it was. -/
theorem gathers_step (owned : Owned v) (gathering : g.gathering = (v.traces task).gathering)
    (nextBatch : v.state.nextBatch ≤ s.nextBatch) (other : TaskId) (batch : BatchId)
    (awaited : ((assign v.traces task g) other).gathering = some batch) :
    (v.traces other).gathering = some batch ∧ batch < s.nextBatch := by
  have before : (v.traces other).gathering = some batch := by
    by_cases same : other = task
    · subst same
      rwa [assign_self, gathering] at awaited
    · rwa [assign_of_ne _ same] at awaited
  exact ⟨before, (owned.gathers other batch before).trans_le nextBatch⟩

/-- A step that takes nothing to a new place and opens or closes nothing. -/
theorem Owned.step (owned : Owned v) (exclusive : Exclusive (content (stepped v task g waits s)))
    (kept : ∀ place, ∀ session ∈ content (stepped v task g waits s) place,
      ∃ before, session ∈ content v before)
    (gathering : g.gathering = (v.traces task).gathering)
    (sessions : ∀ place, ∀ session ∈ content (stepped v task g waits s) place,
      Open v.state session → Open s session)
    (fresh : ∀ session, s.nextSession ≤ session → s.sessions session = none)
    (nextBatch : s.nextBatch = v.state.nextBatch) : Owned (stepped v task g waits s) where
  exclusive := exclusive
  opened place session among := by
    obtain ⟨before, member⟩ := kept place session among
    exact sessions place session among (owned.opened before session member)
  fresh := fresh
  gathers other batch awaited := by
    exact (gathers_step owned gathering nextBatch.symm.le other batch awaited).2
  single first second batch one two := by
    exact owned.single first second batch
      (gathers_step owned gathering nextBatch.symm.le first batch one).1
      (gathers_step owned gathering nextBatch.symm.le second batch two).1

/-- Every place holds what it held. -/
theorem content_same (held : g.held = (v.traces task).held)
    (gathering : g.gathering = (v.traces task).gathering) (clients : s.clients = v.state.clients)
    (flight : ∀ batch, inFlight s batch = inFlight v.state batch) (place : Place) :
    content (stepped v task g waits s) place = content v place := by
  cases place with
  | installed => exact congrArg (fun clients => sessionsOf clients.values) clients
  | held other =>
      by_cases same : other = task
      · subst same
        rw [held_self, held]
        rfl
      · exact held_of_ne same
  | gathered other =>
      exact (gathered_step gathering other).trans (arriving_eq fun batch _ => flight batch)

theorem Owned.unmoved (owned : Owned v) (held : g.held = (v.traces task).held)
    (gathering : g.gathering = (v.traces task).gathering) (clients : s.clients = v.state.clients)
    (flight : ∀ batch, inFlight s batch = inFlight v.state batch)
    (sessions : ∀ session, Open v.state session → Open s session)
    (fresh : ∀ session, s.nextSession ≤ session → s.sessions session = none)
    (nextBatch : s.nextBatch = v.state.nextBatch) : Owned (stepped v task g waits s) := by
  have same : ∀ place, content (stepped v task g waits s) place = content v place :=
    content_same held gathering clients flight
  refine owned.step ?_ (fun place session among => ⟨place, ?_⟩) gathering
    (fun _ session _ => sessions session) fresh nextBatch
  · rw [funext same]
    exact owned.exclusive
  · rwa [same] at among

/-- A block that writes neither clients, sessions nor the coroutines of a `gather`. -/
theorem Owned.quiet (owned : Owned v) {a : Act} (held : g.held = (v.traces task).held)
    (gathering : g.gathering = (v.traces task).gathering)
    (frame : State.Unwritten a v.state s)
    (clients : a.writesClients = false := by rfl) (sessions : a.writesSessions = false := by rfl)
    (batches : a.writesBatches = false := by rfl) : Owned (stepped v task g waits s) := by
  refine owned.unmoved held gathering (frame.clients clients) (fun batch => ?_)
    (fun session isOpen => ?_) ?_ (frame.nextBatch batches)
  · simp only [inFlight, State.jobResults, frame.batches batches]
  · rwa [Open, frame.sessions sessions]
  · rw [frame.sessions sessions, frame.nextSession sessions]
    exact owned.fresh

/-- Sessions pass between a task and the client map. -/
theorem Owned.exchange (owned : Owned v) {a : Act}
    (gathering : g.gathering = (v.traces task).gathering)
    (frame : State.Unwritten a v.state s) (sessions : a.writesSessions = false)
    (batches : a.writesBatches = false)
    (total : ∀ session, g.held.count session + (sessionsOf s.clients.values).count session ≤
      (v.traces task).held.count session + (sessionsOf v.state.clients.values).count session) :
    Owned (stepped v task g waits s) := by
  have results (batch : BatchId) : inFlight s batch = inFlight v.state batch := by
    simp only [inFlight, State.jobResults, frame.batches batches]
  have others (place : Place) (notHeld : place ≠ .held task) (notInstalled : place ≠ .installed) :
      content (stepped v task g waits s) place = content v place := by
    cases place with
    | installed => exact absurd rfl notInstalled
    | held other => exact held_of_ne fun same => notHeld (congrArg _ same)
    | gathered other =>
        exact (gathered_step gathering other).trans (arriving_eq fun batch _ => results batch)
  have moved : ∀ session,
      (content (stepped v task g waits s) (.held task)).count session +
          (content (stepped v task g waits s) .installed).count session ≤
        (content v (.held task)).count session + (content v .installed).count session := by
    rw [held_self]
    exact total
  refine owned.step (owned.exclusive.move (by rintro ⟨⟩) others moved)
    (Exclusive.kept_of_move others moved) gathering (fun _ session _ isOpen => ?_) ?_
    (frame.nextBatch batches)
  · rwa [Open, frame.sessions sessions]
  · rw [frame.sessions sessions, frame.nextSession sessions]
    exact owned.fresh

end Steps

/-! ## The client map -/

section Clients

variable {clients : Dict String ClientHandle} {serverName : String} {session : SessionId}

theorem count_sessionsOf_cons (handle : ClientHandle) (rest : List ClientHandle)
    (session : SessionId) : (sessionsOf (handle :: rest)).count session =
      (sessionsOf [handle]).count session + (sessionsOf rest).count session :=
  @List.count_append _ _ session [handle.session] (sessionsOf rest)

theorem count_look_filter {entries : List (String × ClientHandle)} {key : String}
    (nodup : (entries.map Prod.fst).Nodup) :
    (sessionsOf (OrderedDict.look entries key).toList).count session +
        (sessionsOf ((entries.filter fun entry => entry.1 ≠ key).map Prod.snd)).count session =
      (sessionsOf (entries.map Prod.snd)).count session := by
  induction entries with
  | nil => rfl
  | cons entry rest ih =>
      obtain ⟨name, handle⟩ := entry
      obtain ⟨single, nodup⟩ := List.nodup_cons.mp nodup
      rw [OrderedDict.look]
      by_cases same : name = key
      · subst same
        have untouched : rest.filter (fun entry => entry.1 ≠ name) = rest := by
          refine List.filter_eq_self.mpr fun other among => decide_eq_true ?_
          rintro same
          exact single (List.mem_map.mpr ⟨other, among, same⟩)
        rw [if_pos rfl, List.filter_cons_of_neg (by simp), untouched, List.map_cons]
        exact (count_sessionsOf_cons handle _ session).symm
      · rw [if_neg same, List.filter_cons_of_pos (by simpa using same), List.map_cons,
          List.map_cons, count_sessionsOf_cons, count_sessionsOf_cons handle (rest.map Prod.snd)]
        have others := ih nodup
        dsimp only
        omega

/-- Taking an entry out of the map leaves the other clients. -/
theorem count_erase : (sessionsOf (clients.get? serverName).toList).count session +
    (sessionsOf (clients.erase serverName).values).count session =
      (sessionsOf clients.values).count session :=
  count_look_filter clients.nodup

theorem count_look_put {entries : List (String × ClientHandle)} {key : String}
    {handle : ClientHandle} :
    (sessionsOf (OrderedDict.look entries key).toList).count session +
        (sessionsOf ((OrderedDict.put entries key handle).map Prod.snd)).count session =
      (sessionsOf (entries.map Prod.snd)).count session + (sessionsOf [handle]).count session := by
  induction entries with
  | nil => simp [OrderedDict.look, OrderedDict.put, sessionsOf]
  | cons entry rest ih =>
      obtain ⟨name, other⟩ := entry
      rw [OrderedDict.look, OrderedDict.put]
      by_cases same : name = key
      · rw [if_pos same, if_pos same, List.map_cons, List.map_cons, count_sessionsOf_cons,
          count_sessionsOf_cons other]
        dsimp only [Option.toList]
        omega
      · rw [if_neg same, if_neg same, List.map_cons, List.map_cons, count_sessionsOf_cons,
          count_sessionsOf_cons other (rest.map Prod.snd)]
        dsimp only
        omega

/-- Installing a client puts it where the old one of the server was. -/
theorem count_set {handle : ClientHandle} :
    (sessionsOf (clients.get? serverName).toList).count session +
        (sessionsOf (clients.set serverName handle).values).count session =
      (sessionsOf clients.values).count session + (sessionsOf [handle]).count session :=
  count_look_put

end Clients

/-! ## Every block -/

section Blocks

variable {v : Watched world Custody} {task : TaskId}

/-- What the block leaves of the trace and the state. -/
abbrev executed (v : Watched world Custody) (task : TaskId) (a : Act) : Watched world Custody :=
  stepped v task (afterBlock a (State.exec task a v.state).1 (v.traces task)) v.waits
    (State.exec task a v.state).2

/-- The block leaves alone which `gather` the task awaits. -/
theorem gathered_executed {a : Act} (gathering : (afterBlock a (State.exec task a v.state).1
      (v.traces task)).gathering = (v.traces task).gathering) (other : TaskId) :
    content (executed v task a) (.gathered other) =
      arriving (State.exec task a v.state).2 (v.traces other).gathering :=
  gathered_step gathering other

theorem held_executed_of_ne {a : Act} {other : TaskId} (different : other ≠ task) :
    content (executed v task a) (.held other) = content v (.held other) :=
  held_of_ne different

theorem owned_takeClients (owned : Owned v) : Owned (executed v task .takeClients) := by
  refine owned.exchange rfl (State.exec_unwritten task .takeClients v.state) rfl rfl ?_
  intro session
  have moved := @List.count_append _ _ session (sessionsOf v.state.clients.values)
    (v.traces task).held
  change (sessionsOf v.state.clients.values ++ (v.traces task).held).count session + 0 ≤ _
  omega

theorem owned_dropClient (owned : Owned v) (serverName : String) :
    Owned (executed v task (.dropClient serverName)) := by
  refine owned.exchange rfl (State.exec_unwritten task (.dropClient serverName) v.state) rfl rfl ?_
  intro session
  have moved := @List.count_append _ _ session
    (sessionsOf (v.state.clients.get? serverName).toList) (v.traces task).held
  have left := @count_erase v.state.clients serverName session
  change (sessionsOf (v.state.clients.get? serverName).toList ++
    (v.traces task).held).count session +
      (sessionsOf (v.state.clients.erase serverName).values).count session ≤ _
  omega

theorem owned_swapClient (owned : Owned v) (serverName : String) (handle : ClientHandle)
    (mine : handle.session ∈ (v.traces task).held) :
    Owned (executed v task (.swapClient serverName handle)) := by
  refine owned.exchange rfl (State.exec_unwritten task (.swapClient serverName handle) v.state)
    rfl rfl ?_
  intro session
  have moved := @List.count_append _ _ session
    (sessionsOf (v.state.clients.get? serverName).toList)
    ((v.traces task).held.erase handle.session)
  have left := @count_set v.state.clients serverName session handle
  have given := @List.count_append _ _ session [handle.session]
    ((v.traces task).held.erase handle.session)
  have perm := (List.perm_cons_erase mine).count_eq session
  change (sessionsOf (v.state.clients.get? serverName).toList ++
    (v.traces task).held.erase handle.session).count session +
      (sessionsOf (v.state.clients.set serverName handle).values).count session ≤ _
  change (sessionsOf [handle] ++ _).count session = _ at given
  change _ = (sessionsOf [handle] ++ _).count session at perm
  change _ = (sessionsOf [handle]).count session + _ at given
  omega

theorem count_handlesOf_append (first second : List ConnectedServerData) (session : SessionId) :
    (sessionsOf (handlesOf (first ++ second))).count session =
      (sessionsOf (handlesOf first)).count session +
        (sessionsOf (handlesOf second)).count session := by
  rw [handlesOf, List.filterMap_append, sessionsOf, List.map_append, List.count_append]
  rfl

/-- The publishing loop installs the clients of its startups and no others. -/
theorem count_publish {servers : Dict String ServerConfig}
    {allResolved : Dict String (List ResolvedTool)} {session : SessionId}
    (entries : List (String × ConnectedServerData)) (s : State) :
    (sessionsOf (entries.foldl (State.publishServer servers allResolved) s).clients.values).count
        session ≤ (sessionsOf s.clients.values).count session +
      (sessionsOf (handlesOf (entries.map Prod.snd))).count session := by
  induction entries generalizing s with
  | nil => exact Nat.le_add_right _ _
  | cons entry entries ih =>
      obtain ⟨name, startup⟩ := entry
      rw [List.foldl_cons]
      refine (ih _).trans ?_
      have rest := count_handlesOf_append [startup] (entries.map Prod.snd) session
      rw [List.map_cons]
      change _ ≤ _ + (sessionsOf (handlesOf ([startup] ++ entries.map Prod.snd))).count session
      have round : (sessionsOf (State.publishServer servers allResolved s (name, startup)
          ).clients.values).count session ≤ (sessionsOf s.clients.values).count session +
            (sessionsOf (handlesOf [startup])).count session := by
        unfold State.publishServer
        cases handed : startup.clientHandle with
        | none => exact Nat.le_add_right _ _
        | some handle =>
            have installed := @count_set s.clients name session handle
            have one : handlesOf [startup] = [handle] := by
              simp only [handlesOf, List.filterMap_cons, handed]
              rfl
            rw [one]
            dsimp only
            omega
      omega

theorem owned_publish (owned : Owned v) (servers : Dict String ServerConfig)
    (connected : Dict String ConnectedServerData) (allResolved : Dict String (List ResolvedTool))
    (failures : Dict String ProviderStartupFailure)
    (mine : (sessionsOf (handlesOf connected.values)).Subperm (v.traces task).held) :
    Owned (executed v task (.publish servers connected allResolved failures)) := by
  refine owned.exchange rfl (State.exec_unwritten task _ v.state) rfl rfl ?_
  intro session
  have installed := @count_publish servers allResolved session connected.entries v.state
  have given := mine.count_le session
  have left := List.count_diff session (v.traces task).held
    (sessionsOf (handlesOf connected.values))
  change ((v.traces task).held.diff (sessionsOf (handlesOf connected.values))).count session +
    (sessionsOf (connected.entries.foldl (State.publishServer servers allResolved)
      v.state).clients.values).count session ≤ _
  change _ ≤ _ + (sessionsOf (handlesOf connected.values)).count session at installed
  omega

/-! ### The coroutines of a `gather` -/

/-- The startup that a coroutine has reported. -/
def jobStartups (job : Job) : List ConnectedServerData :=
  match job.outcome with
  | some outcome => reported outcome
  | none => []

theorem started_jobResults (s : State) (batch : BatchId) :
    started (s.jobResults batch) = (s.batches batch).jobs.flatMap jobStartups := by
  unfold State.jobResults
  induction (s.batches batch).jobs with
  | nil => rfl
  | cons job jobs ih =>
      rw [List.flatMap_cons, ← ih, List.filterMap_cons, jobStartups]
      cases job.outcome with
      | none => rfl
      | some outcome =>
          cases outcome with
          | error exc => rfl
          | ok result => cases result <;> rfl

theorem inFlight_eq (s : State) (batch : BatchId) :
    inFlight s batch = sessionsOf (handlesOf ((s.batches batch).jobs.flatMap jobStartups)) := by
  rw [inFlight, started_jobResults]

/-- A report replaces what its coroutine has reported before. -/
theorem count_modify {outcome : Except PyException (Except String ConnectedServerData)}
    {session : SessionId} (jobs : List Job) (index : Nat) :
    (sessionsOf (handlesOf ((jobs.modify index fun job =>
        { job with outcome := some outcome }).flatMap jobStartups))).count session ≤
      (sessionsOf (handlesOf (jobs.flatMap jobStartups))).count session +
        (sessionsOf (handlesOf (reported outcome))).count session := by
  induction jobs generalizing index with
  | nil =>
      rw [List.modify_nil]
      exact Nat.le_add_right _ _
  | cons job jobs ih =>
      cases index with
      | zero =>
          rw [List.modify_zero_cons, List.flatMap_cons, List.flatMap_cons]
          have first := count_handlesOf_append (reported outcome) (jobs.flatMap jobStartups) session
          have second := count_handlesOf_append (jobStartups job) (jobs.flatMap jobStartups) session
          change (sessionsOf (handlesOf (reported outcome ++ _))).count session ≤ _
          omega
      | succ index =>
          rw [List.modify_succ_cons, List.flatMap_cons, List.flatMap_cons]
          have first := count_handlesOf_append (jobStartups job) (jobs.flatMap jobStartups) session
          have second := count_handlesOf_append (jobStartups job)
            ((jobs.modify index fun job => { job with outcome := some outcome }).flatMap jobStartups)
            session
          have rest := ih index
          omega

/-- The task that runs a coroutine is no result of it. -/
theorem inFlight_assigned (s : State) (batch : BatchId) (index : Nat) (task : TaskId)
    (other : BatchId) :
    inFlight { s with
      batches := assign s.batches batch
        { s.batches batch with
          jobs := (s.batches batch).jobs.modify index fun job =>
            { job with worker := some task } } } other = inFlight s other := by
  have unread (jobs : List Job) (index : Nat) : (jobs.modify index fun job =>
      { job with worker := some task }).flatMap jobStartups = jobs.flatMap jobStartups := by
    induction jobs generalizing index with
    | nil => rw [List.modify_nil]
    | cons job jobs ih =>
        cases index with
        | zero => rfl
        | succ index => rw [List.modify_succ_cons, List.flatMap_cons, List.flatMap_cons, ih]
  rw [inFlight_eq, inFlight_eq]
  refine congrArg (fun startups => sessionsOf (handlesOf startups)) ?_
  by_cases same : other = batch
  · subst same
    exact (congrArg (fun found : Batch => found.jobs.flatMap jobStartups) (assign_self ..)).trans
      (unread _ index)
  · exact congrArg (fun found : Batch => found.jobs.flatMap jobStartups) (assign_of_ne _ same _)

/-- A coroutine hands over one client, which it has in its custody. -/
theorem reported_count {g : Custody} {batch : BatchId} {index : Nat}
    {outcome : Except PyException (Except String ConnectedServerData)}
    (may : mayRun (.report batch index outcome) g) (session : SessionId) :
    (sessionsOf (handlesOf (reported outcome))).count session ≤ g.held.count session := by
  cases outcome with
  | error exc => exact Nat.zero_le _
  | ok result =>
      cases result with
      | error error => exact Nat.zero_le _
      | ok startup =>
          obtain ⟨-, handle, handed, mine⟩ := may startup (List.mem_singleton_self _)
          have one : handlesOf [startup] = [handle] := by
            simp only [handlesOf, List.filterMap_cons, handed]
            rfl
          change (sessionsOf (handlesOf [startup])).count session ≤ _
          rw [one]
          exact (List.singleton_sublist.mpr mine).count_le session

theorem owned_report (owned : Owned v) (batch : BatchId) (index : Nat)
    (outcome : Except PyException (Except String ConnectedServerData))
    (mine : ∀ session, (sessionsOf (handlesOf (reported outcome))).count session ≤
      (v.traces task).held.count session) :
    Owned (executed v task (.report batch index outcome)) := by
  have left (session : SessionId) := List.count_diff session (v.traces task).held
    (sessionsOf (handlesOf (reported outcome)))
  have elsewhere {other : BatchId} (different : other ≠ batch) :
      inFlight (State.report v.state batch index outcome) other = inFlight v.state other := by
    refine (inFlight_eq _ other).trans (Eq.trans ?_ (inFlight_eq v.state other).symm)
    exact congrArg (fun found : Batch => sessionsOf (handlesOf (found.jobs.flatMap jobStartups)))
      (assign_of_ne _ different _)
  have here (session : SessionId) :
      (inFlight (State.report v.state batch index outcome) batch).count session ≤
        (inFlight v.state batch).count session +
          (sessionsOf (handlesOf (reported outcome))).count session := by
    have more := @count_modify outcome session (State.batches v.state batch).jobs index
    have after : inFlight (State.report v.state batch index outcome) batch =
        sessionsOf (handlesOf (((State.batches v.state batch).jobs.modify index fun job =>
          { job with outcome := some outcome }).flatMap jobStartups)) :=
      (inFlight_eq _ batch).trans (congrArg (fun found : Batch =>
        sessionsOf (handlesOf (found.jobs.flatMap jobStartups))) (assign_self ..))
    have before := congrArg (List.count session) (inFlight_eq v.state batch)
    rw [after]
    omega
  -- The report reaches the task that awaits the `gather`, when there still is one.
  have gathered (other : TaskId) :
      content (executed v task (.report batch index outcome)) (.gathered other) =
        arriving (State.report v.state batch index outcome) (v.traces other).gathering :=
    gathered_executed rfl other
  have kept (other : TaskId) (apart : (v.traces other).gathering ≠ some batch) :
      content (executed v task (.report batch index outcome)) (.gathered other) =
        content v (.gathered other) := by
    refine (gathered other).trans (arriving_eq fun found same => elsewhere ?_)
    rintro rfl
    exact apart same
  have less (session : SessionId) :
      (content (executed v task (.report batch index outcome)) (.held task)).count session +
          (sessionsOf (handlesOf (reported outcome))).count session =
        (content v (.held task)).count session := by
    have given := mine session
    have rest := left session
    rw [held_self]
    change ((v.traces task).held.diff (sessionsOf (handlesOf (reported outcome)))).count session +
      _ = (v.traces task).held.count session
    omega
  have exclusive : Exclusive (content (executed v task (.report batch index outcome))) ∧
      ∀ place, ∀ session ∈ content (executed v task (.report batch index outcome)) place,
        ∃ before, session ∈ content v before := by
    by_cases awaited : ∃ awaiting, (v.traces awaiting).gathering = some batch
    · obtain ⟨awaiting, awaited⟩ := awaited
      have others (place : Place) (notHeld : place ≠ .held task)
          (notGathered : place ≠ .gathered awaiting) :
          content (executed v task (.report batch index outcome)) place = content v place := by
        cases place with
        | installed => rfl
        | held other => exact held_of_ne fun same => notHeld (congrArg _ same)
        | gathered other =>
            refine kept other fun found => notGathered (congrArg _ ?_)
            exact owned.single other awaiting batch found awaited
      have moved (session : SessionId) :
          (content (executed v task (.report batch index outcome)) (.held task)).count session +
              (content (executed v task (.report batch index outcome)) (.gathered awaiting)).count
                session ≤
            (content v (.held task)).count session +
              (content v (.gathered awaiting)).count session := by
        have given := less session
        have more := here session
        rw [gathered awaiting, awaited]
        change _ + (inFlight (State.report v.state batch index outcome) batch).count session ≤
          _ + (arriving v.state (v.traces awaiting).gathering).count session
        rw [awaited]
        change _ ≤ _ + (inFlight v.state batch).count session
        omega
      exact ⟨owned.exclusive.move (by rintro ⟨⟩) others moved,
        Exclusive.kept_of_move others moved⟩
    · have fewer (place : Place) (session : SessionId) :
          (content (executed v task (.report batch index outcome)) place).count session ≤
            (content v place).count session := by
        cases place with
        | installed => exact Nat.le_refl _
        | held other =>
            by_cases same : other = task
            · subst same
              have given := less session
              omega
            · rw [held_of_ne same]
              exact Nat.le_refl _
        | gathered other =>
            rw [kept other fun found => awaited ⟨other, found⟩]
      exact ⟨owned.exclusive.shrink fewer, Exclusive.kept_of_less fewer⟩
  have frame := State.exec_unwritten task (.report batch index outcome) v.state
  refine owned.step exclusive.1 exclusive.2 rfl (fun _ session _ isOpen => ?_) ?_ rfl
  · rwa [Open, frame.sessions rfl]
  · exact owned.fresh

theorem fresh_of_update {s : State} {session : SessionId} {change : Session → Session}
    (fresh : ∀ other, s.nextSession ≤ other → s.sessions other = none) (other : SessionId)
    (unused : s.nextSession ≤ other) : (s.updateSession session change).sessions other = none := by
  by_cases same : other = session
  · subst same
    exact (assign_self ..).trans (congrArg (Option.map change) (fresh other unused))
  · exact (assign_of_ne _ same _).trans (fresh other unused)

theorem open_update {s : State} {session other : SessionId} {change : Session → Session}
    (kept : other ≠ session ∨ ∀ current, (change current).closed = current.closed)
    (isOpen : Open s other) : Open (s.updateSession session change) other := by
  obtain ⟨current, found, still⟩ := isOpen
  by_cases same : other = session
  · subst same
    refine ⟨change current, (assign_self ..).trans (congrArg (Option.map change) found), ?_⟩
    obtain apart | kept := kept
    · exact absurd rfl apart
    · exact (kept current).trans still
  · exact ⟨current, (assign_of_ne _ same _).trans found, still⟩

/-- The closed session has left its only owner. -/
theorem owned_beginClose (owned : Owned v) (session : SessionId)
    (mine : session ∈ (v.traces task).held) : Owned (executed v task (.beginClose session)) := by
  have less (place : Place) (other : SessionId) :
      (content (executed v task (.beginClose session)) place).count other ≤
        (content v place).count other := by
    cases place with
    | installed => exact Nat.le_refl _
    | gathered awaiting =>
        rw [gathered_executed rfl awaiting]
        exact Nat.le_refl _
    | held holder =>
        by_cases same : holder = task
        · subst same
          rw [held_self]
          exact (List.erase_sublist ..).count_le other
        · rw [held_of_ne same]
          exact Nat.le_refl _
  have gone (place : Place) : session ∉ content (executed v task (.beginClose session)) place := by
    intro among
    by_cases same : place = .held task
    · subst same
      have nodup := owned.exclusive.nodup (p := .held task) (q := .installed) (by rintro ⟨⟩)
      rw [held_self] at among
      exact (nodup.mem_erase_iff.mp among).1 rfl
    · exact owned.exclusive.not_mem (Ne.symm same) mine
        (List.count_pos_iff.mp ((List.count_pos_iff.mpr among).trans_le (less place session)))
  refine owned.step (owned.exclusive.shrink less) (Exclusive.kept_of_less less) rfl
    (fun place other among isOpen => open_update (.inl ?_) isOpen) (fresh_of_update owned.fresh) rfl
  rintro rfl
  exact gone place among

theorem owned_newHandle (owned : Owned v) (session : SessionId) (instructions : Option String)
    (mine : session ∈ (v.traces task).held) :
    Owned (executed v task (.newHandle session instructions)) := by
  refine owned.exchange rfl (State.exec_unwritten task (.newHandle session instructions) v.state)
    rfl rfl fun other => ?_
  have perm := (List.perm_cons_erase mine).count_eq other
  change (session :: (v.traces task).held.erase session).count other + _ ≤ _
  rw [← perm]
  exact Nat.le_refl _

/-- A session that is opened has been nowhere. -/
theorem owned_openSession (owned : Owned v) (serverName : String) (serverConfig : ServerConfig) :
    Owned (executed v task (.openSession serverName serverConfig)) where
  exclusive := by
    refine owned.exclusive.add (p := .held task) (fun place (among : State.nextSession v.state ∈ _) => ?_)
      (fun place apart => ?_) held_self
    · obtain ⟨current, found, -⟩ := owned.opened place _ among
      rw [owned.fresh _ (Nat.le_refl _)] at found
      cases found
    · cases place with
      | installed => rfl
      | held other => exact held_of_ne fun same => apart (congrArg _ same)
      | gathered other => exact gathered_executed rfl other
  opened place session among := by
    have known (before : session ∈ content v place) :
        Open (State.openSession v.state serverName serverConfig).2 session := by
      obtain ⟨current, found, still⟩ := owned.opened place session before
      refine ⟨current, (assign_of_ne _ ?_ _).trans found, still⟩
      rintro rfl
      rw [owned.fresh _ (Nat.le_refl _)] at found
      cases found
    cases place with
    | installed => exact known among
    | gathered other =>
        rw [gathered_executed rfl other] at among
        exact known among
    | held other =>
        by_cases same : other = task
        · subst same
          rw [held_self] at among
          obtain rfl | before := List.mem_cons.mp among
          · exact ⟨_, assign_self .., rfl⟩
          · exact known before
        · rw [held_of_ne same] at among
          exact known among
  fresh session unused := by
    have later : State.nextSession v.state < session := unused
    exact (assign_of_ne _ later.ne' _).trans (owned.fresh session later.le)
  gathers other batch awaited := by
    exact (gathers_step (g := afterBlock (.openSession serverName serverConfig)
      (State.nextSession v.state) (v.traces task)) owned rfl (Nat.le_refl _) other batch awaited).2
  single first second batch one two := by
    have before (other : TaskId) (awaited : ((executed v task
        (.openSession serverName serverConfig)).traces other).gathering = some batch) :
        (v.traces other).gathering = some batch :=
      (gathers_step (g := afterBlock (.openSession serverName serverConfig)
        (State.nextSession v.state) (v.traces task)) owned rfl (Nat.le_refl _) other batch
        awaited).1
    exact owned.single first second batch (before first one) (before second two)

/-- The coroutines of a new `gather` have reported nothing. -/
theorem owned_spawn (owned : Owned v) (servers : Dict String ServerConfig) :
    Owned (executed v task (.spawn servers)) := by
  have awaits (other : TaskId) (batch : BatchId)
      (awaited : ((executed v task (.spawn servers)).traces other).gathering = some batch) :
      (other = task ∧ batch = v.state.nextBatch) ∨
        (other ≠ task ∧ (v.traces other).gathering = some batch ∧ batch < v.state.nextBatch) := by
    change (assign v.traces task _ other).gathering = some batch at awaited
    by_cases same : other = task
    · subst same
      rw [assign_self] at awaited
      exact .inl ⟨rfl, (Option.some.inj awaited).symm⟩
    · rw [assign_of_ne _ same] at awaited
      exact .inr ⟨same, awaited, owned.gathers other batch awaited⟩
  have none : inFlight (State.spawn v.state servers).2 v.state.nextBatch = [] := by
    refine (inFlight_eq _ _).trans ?_
    have jobs : ((State.spawn v.state servers).2.batches v.state.nextBatch).jobs =
        servers.entries.map fun entry => ⟨entry.1, entry.2, none, none⟩ :=
      congrArg Batch.jobs (assign_self ..)
    have nothing : (servers.entries.map fun entry =>
        (⟨entry.1, entry.2, .none, .none⟩ : Job)).flatMap jobStartups = [] := by
      simp [List.flatMap_map, jobStartups]
    rw [jobs, nothing]
    rfl
  have less (place : Place) (session : SessionId) :
      (content (executed v task (.spawn servers)) place).count session ≤
        (content v place).count session := by
    cases place with
    | installed => exact Nat.le_refl _
    | held other =>
        by_cases same : other = task
        · subst same
          rw [held_self]
          exact Nat.le_refl _
        · rw [held_executed_of_ne same]
    | gathered other =>
        by_cases same : other = task
        · subst same
          have empty : content (executed v other (.spawn servers)) (.gathered other) = [] :=
            (congrArg (fun g : Custody => arriving (State.spawn v.state servers).2 g.gathering)
              (assign_self ..)).trans none
          rw [empty]
          exact Nat.zero_le _
        · have kept : content (executed v task (.spawn servers)) (.gathered other) =
              content v (.gathered other) := by
            refine (congrArg (fun g : Custody =>
              arriving (State.spawn v.state servers).2 g.gathering)
                (assign_of_ne _ same _)).trans (arriving_eq fun batch awaited => ?_)
            exact congrArg (fun found : Batch => sessionsOf (handlesOf (started
              (State.jobResults { v.state with batches := fun _ => found } batch))))
                (assign_of_ne _ (owned.gathers other batch awaited).ne _)
          rw [kept]
  exact
    { exclusive := owned.exclusive.shrink less
      opened := by
        intro place session among
        obtain ⟨before, member⟩ := Exclusive.kept_of_less less place session among
        exact owned.opened before session member
      fresh := owned.fresh
      gathers := by
        intro other batch awaited
        obtain ⟨-, rfl⟩ | ⟨-, -, earlier⟩ := awaits other batch awaited
        · exact Nat.lt_succ_self _
        · exact Nat.lt_succ_of_lt earlier
      single := by
        intro first second batch one two
        obtain ⟨rfl, rfl⟩ | ⟨-, before, earlier⟩ := awaits first batch one
        · obtain ⟨rfl, -⟩ | ⟨-, -, earlier⟩ := awaits second _ two
          · rfl
          · exact absurd earlier (Nat.lt_irrefl _)
        · obtain ⟨-, rfl⟩ | ⟨-, after, -⟩ := awaits second batch two
          · exact absurd earlier (Nat.lt_irrefl _)
          · exact owned.single first second batch before after }

/-- The task fetches what the coroutines of its `gather` have reported. -/
theorem owned_jobResults (owned : Owned v) (batch : BatchId)
    (mine : (v.traces task).gathering = some batch) :
    Owned (executed v task (.jobResults batch)) := by
  have awaits {other : TaskId} {found : BatchId}
      (awaited : ((executed v task (.jobResults batch)).traces other).gathering = some found) :
      (v.traces other).gathering = some found := by
    change (assign v.traces task _ other).gathering = some found at awaited
    by_cases same : other = task
    · subst same
      rw [assign_self] at awaited
      cases awaited
    · rwa [assign_of_ne _ same] at awaited
  have others (place : Place) (notHeld : place ≠ .held task) (notGathered : place ≠ .gathered task) :
      content (executed v task (.jobResults batch)) place = content v place := by
    cases place with
    | installed => rfl
    | held other => exact held_executed_of_ne fun same => notHeld (congrArg _ same)
    | gathered other =>
        refine congrArg (fun g : Custody => arriving v.state g.gathering) (assign_of_ne _ ?_ _)
        exact fun same => notGathered (congrArg _ same)
  have moved (session : SessionId) :
      (content (executed v task (.jobResults batch)) (.held task)).count session +
          (content (executed v task (.jobResults batch)) (.gathered task)).count session ≤
        (content v (.held task)).count session + (content v (.gathered task)).count session := by
    have empty : content (executed v task (.jobResults batch)) (.gathered task) = [] :=
      congrArg (fun g : Custody => arriving v.state g.gathering) (assign_self ..)
    have fetched : content v (.gathered task) = inFlight v.state batch :=
      congrArg (arriving v.state) mine
    have given := @List.count_append _ _ session (inFlight v.state batch) (v.traces task).held
    rw [empty, fetched, held_self]
    change (inFlight v.state batch ++ (v.traces task).held).count session + 0 ≤
      (v.traces task).held.count session + _
    omega
  exact
    { exclusive := owned.exclusive.move (by rintro ⟨⟩) others moved
      opened := by
        intro place session among
        obtain ⟨before, member⟩ := Exclusive.kept_of_move others moved place session among
        exact owned.opened before session member
      fresh := owned.fresh
      gathers := fun other found awaited => owned.gathers other found (awaits awaited)
      single := fun first second found one two =>
        owned.single first second found (awaits one) (awaits two) }

end Blocks

/-! ## Runs -/

theorem settles_begin (task : TaskId) (request : Req) :
    Follows monitor (fun _ _ => True) (fun _ _ => True) (program task request) {} :=
  Follows.mono (fun _ _ _ => trivial) (fun _ _ _ => trivial)
    (settles_program (g := {}) task request)

/-- Every task of the downstream layer keeps custody. -/
def custodial : Discipline world Custody where
  toMonitor := monitor
  idle := {}
  start _ _ := {}
  done _ := True
  follows := settles_begin

section Runs

variable {v : Watched world Custody} {task : TaskId}

theorem owned_initial (config : Option TelaConfig) (notifyCallback : Bool) :
    Owned ⟨fun _ => custodial.idle, fun _ => none, State.launch config notifyCallback⟩ where
  exclusive item place other _ := by
    have nothing (place : Place) : content (v := ⟨fun _ => custodial.idle, fun _ => none,
        State.launch config notifyCallback⟩) place = [] := by cases place <;> rfl
    rw [nothing, nothing]
    exact Nat.zero_le _
  opened place session among := by cases place <;> cases among
  fresh session _ := rfl
  gathers task batch awaited := by cases awaited
  single task other batch awaited := by cases awaited

theorem owned_executed (owned : Owned v) (a : Act) (may : mayRun a (v.traces task)) :
    Owned (executed v task a) := by
  have frame := State.exec_unwritten task a v.state
  cases a with
  | openSession serverName serverConfig => exact owned_openSession owned serverName serverConfig
  | newHandle session instructions => exact owned_newHandle owned session instructions may
  | beginClose session => exact owned_beginClose owned session may
  | takeClients => exact owned_takeClients owned
  | dropClient serverName => exact owned_dropClient owned serverName
  | swapClient serverName handle => exact owned_swapClient owned serverName handle may
  | spawn servers => exact owned_spawn owned servers
  | report batch index outcome => exact owned_report owned batch index outcome (reported_count may)
  | jobResults batch => exact owned_jobResults owned batch may
  | publish servers connected allResolved failures =>
      exact owned_publish owned servers connected allResolved failures may
  | handlerDone session =>
      exact owned.unmoved rfl rfl rfl (fun _ => rfl)
        (fun _ => open_update (.inr fun _ => rfl)) (fresh_of_update owned.fresh) rfl
  | _ => exact owned.quiet rfl rfl frame rfl rfl rfl

/-- An await or a request moves no session. -/
theorem Owned.rested (owned : Owned v) {g : Custody} {waits : TaskId → Option Wait} {s : State}
    (held : g.held = (v.traces task).held) (gathering : g.gathering = (v.traces task).gathering)
    (clients : s.clients = v.state.clients)
    (flight : ∀ batch, inFlight s batch = inFlight v.state batch)
    (sessions : s.sessions = v.state.sessions) (nextSession : s.nextSession = v.state.nextSession)
    (nextBatch : s.nextBatch = v.state.nextBatch) : Owned (stepped v task g waits s) := by
  refine owned.unmoved held gathering clients flight (fun session isOpen => ?_) ?_ nextBatch
  · rwa [Open, sessions]
  · rw [sessions, nextSession]
    exact owned.fresh

theorem owned_woken (owned : Owned v) (w : Wait) {waits : TaskId → Option Wait} {s : State}
    {locks : LockName → FifoLock} {reported : List (String × List RawTool)}
    (same : s = { v.state with
      locks := locks, history := { v.state.history with reported := reported } }) :
    Owned (stepped v task (afterAwait w (v.traces task)) waits s) := by
  subst same
  have kept : (afterAwait w (v.traces task)).held = (v.traces task).held ∧
      (afterAwait w (v.traces task)).gathering = (v.traces task).gathering := by
    cases w <;> exact ⟨rfl, rfl⟩
  exact owned.rested kept.1 kept.2 rfl (fun _ => rfl) rfl rfl rfl

/-- A task that starts has nothing in its custody. -/
theorem owned_admitted (owned : Owned v) {request : Req} {s : State}
    (idle : v.traces task = {}) (accepted : State.accept task request v.state = some s) :
    Owned (stepped v task {} v.waits s) := by
  have held : ({} : Custody).held = (v.traces task).held := congrArg Custody.held idle.symm
  have gathering : ({} : Custody).gathering = (v.traces task).gathering :=
    congrArg Custody.gathering idle.symm
  cases request with
  | deliver session message =>
      obtain ⟨-, same⟩ := Option.ite_none_right_eq_some.mp accepted
      cases same
      exact owned.unmoved held gathering rfl (fun _ => rfl)
        (fun _ => open_update (.inr fun _ => rfl)) (fresh_of_update owned.fresh) rfl
  | connectServer batch index =>
      simp only [State.accept] at accepted
      split at accepted
      · obtain ⟨-, same⟩ := Option.ite_none_right_eq_some.mp accepted
        cases same
        exact owned.rested held gathering rfl (inFlight_assigned v.state batch index task)
          rfl rfl rfl
      · cases accepted
  | _ =>
      cases accepted
      exact owned.rested held gathering rfl (fun _ => rfl) rfl rfl rfl

theorem owned_finished (owned : Owned v) : Owned (stepped v task {} v.waits v.state) := by
  have less (place : Place) (session : SessionId) :
      (content (stepped v task {} v.waits v.state) place).count session ≤
        (content v place).count session := by
    cases place with
    | installed => exact Nat.le_refl _
    | held other =>
        by_cases same : other = task
        · subst same
          refine (congrArg (fun g : Custody => g.held.count session) (assign_self ..)).trans_le ?_
          exact Nat.zero_le _
        · exact (congrArg (fun g : Custody => g.held.count session) (assign_of_ne _ same _)).le
    | gathered other =>
        by_cases same : other = task
        · subst same
          refine (congrArg (fun g : Custody => (arriving v.state g.gathering).count session)
            (assign_self ..)).trans_le ?_
          exact Nat.zero_le _
        · exact (congrArg (fun g : Custody => (arriving v.state g.gathering).count session)
            (assign_of_ne _ same _)).le
  have awaits {other : TaskId} {batch : BatchId}
      (awaited : ((stepped v task {} v.waits v.state).traces other).gathering = some batch) :
      (v.traces other).gathering = some batch := by
    change (assign v.traces task _ other).gathering = some batch at awaited
    by_cases same : other = task
    · subst same
      rw [assign_self] at awaited
      cases awaited
    · rwa [assign_of_ne _ same] at awaited
  exact
    { exclusive := owned.exclusive.shrink less
      opened := by
        intro place session among
        obtain ⟨before, member⟩ := Exclusive.kept_of_less less place session among
        exact owned.opened before session member
      fresh := owned.fresh
      gathers := fun other batch awaited => owned.gathers other batch (awaits awaited)
      single := fun first second batch one two =>
        owned.single first second batch (awaits one) (awaits two) }

theorem owned_keeps : custodial.Keeps (fun _ _ _ => True) (fun _ => True) Owned where
  admitted v task request state _ owned _ idle _ _ accepted := owned_admitted owned idle accepted
  executed v task a _ owned _ _ _ may := owned_executed owned a may
  passed v task w result state _ owned _ _ _ _ entered := by
    obtain ⟨_, _, _, same⟩ | ⟨_, same⟩ := State.enter_passed entered
    · exact owned_woken owned w same
    · exact owned_woken owned w same
  suspended v task w state _ owned _ _ _ _ entered := by
    have kept {s : State} {locks : LockName → FifoLock}
        (same : s = { v.state with locks := locks }) :
        Owned ⟨v.traces, assign v.waits task (some w), s⟩ := by
      subst same
      have step : Owned (stepped v task (v.traces task) (assign v.waits task (some w))
          { v.state with locks := locks }) :=
        owned.rested rfl rfl rfl (fun _ => rfl) rfl rfl rfl
      rwa [stepped, assign_eq_self] at step
    obtain ⟨_, _, same⟩ | ⟨_, same⟩ := State.enter_suspended entered
    · exact kept same
    · exact kept same
  woken v task w outcome state _ owned _ _ _ _ ended := by
    obtain ⟨_, _, same⟩ := State.wake_frame ended
    exact owned_woken owned w same
  lapsed v task w limit state _ owned _ _ _ _ _ ended := by
    obtain ⟨_, _, same⟩ | ⟨_, same⟩ := State.lapse_locks ended
    · exact owned_woken owned w same
    · exact owned_woken owned w same
  finished v task _ owned _ _ _ _ := owned_finished owned

end Runs

/-- Where a run has arrived, every session has one owner. -/
theorem owned_reached {config : Option TelaConfig} {notifyCallback : Bool} {c : Config world}
    (reachable : Reachable (State.launch config notifyCallback) c) :
    ∃ v, custodial.Tracks c v ∧ Owned v :=
  owned_keeps.reached (owned_initial config notifyCallback) reachable

/--
In every run the client of every server has an open session, which no other server's
client has, and a session whose closing begins is open and no server's.
-/
theorem session_ownership {config : Option TelaConfig} {notifyCallback : Bool} {c : Config world}
    (reachable : Reachable (State.launch config notifyCallback) c) :
    (∀ serverName handle, c.state.clients.get? serverName = some handle →
        Open c.state handle.session ∧
          ∀ otherName other, c.state.clients.get? otherName = some other →
            other.session = handle.session → otherName = serverName) ∧
      ∀ task session c', Step c (.executed task (.beginClose session)) c' →
        Open c.state session ∧ ¬ Open c'.state session ∧
          ∀ serverName handle, c.state.clients.get? serverName = some handle →
            handle.session ≠ session := by
  obtain ⟨⟨traces, waits, state⟩, tracks, owned⟩ := owned_reached reachable
  obtain rfl : state = c.state := tracks.state
  have installed {serverName : String} {handle : ClientHandle}
      (found : (State.clients c.state).get? serverName = some handle) :
      handle.session ∈ content ⟨traces, waits, c.state⟩ .installed :=
    List.mem_map_of_mem (List.mem_map_of_mem (Dict.get?_eq_some_iff.mp found))
  have nodup : (((State.clients c.state).entries.map Prod.snd).map ClientHandle.session).Nodup :=
    @Exclusive.nodup _ _ _ (content ⟨traces, waits, c.state⟩) .installed (.held 0)
      owned.exclusive (by rintro ⟨⟩)
  rw [List.map_map] at nodup
  refine ⟨fun serverName handle found => ⟨owned.opened .installed _ (installed found), ?_⟩, ?_⟩
  · intro otherName other alsoFound same
    have entry := List.inj_on_of_nodup_map nodup (Dict.get?_eq_some_iff.mp alsoFound)
      (Dict.get?_eq_some_iff.mp found) same
    exact congrArg Prod.fst entry
  · intro task session c' taken
    have mine : session ∈ (traces task).held := tracks.may_of_step taken
    refine ⟨owned.opened (.held task) session mine, ?_, ?_⟩
    · cases taken with
      | executed running =>
          rintro ⟨current, found, still⟩
          have closed := (assign_self (State.sessions c.state) session _).symm.trans found
          obtain ⟨before, -, rfl⟩ := Option.map_eq_some_iff.mp closed
          cases still
    · rintro serverName handle found rfl
      exact @Exclusive.not_mem _ _ _ (content ⟨traces, waits, c.state⟩) (.held task) .installed _
        owned.exclusive (by rintro ⟨⟩) mine (installed found)

/-- A recovery has swapped the client of the server, and its old session is being closed. -/
theorem session_ownership_recovered :
    ∃ c : Config world, Reachable (State.launch (some filesConfig) false) c ∧
      ∃ handle, c.state.clients.get? "files" = some handle ∧ handle.session = 1 ∧
        Open c.state handle.session ∧ ¬ Open c.state 0 := by
  obtain ⟨c, run, now⟩ := Run.exists_of_play (Run.sound_anything (W := world))
    (State.launch (some filesConfig) false) 80
    (twoFailures ++ [.answer 2 (answering [readTool]), .answer 2 (answering [readTool]),
      .answer 2 (answering [readTool])])
    (fun c => decide ((c.state.clients.get? "files").map ClientHandle.session = some 1) &&
      c.state.closed 0) (by decide +kernel)
  obtain ⟨swapped, closed⟩ := Bool.and_eq_true_iff.mp now
  obtain ⟨handle, found, session⟩ := Option.map_eq_some_iff.mp (of_decide_eq_true swapped)
  refine ⟨c, run, handle, found, session, ((session_ownership run).1 "files" handle found).1, ?_⟩
  rintro ⟨current, opened, still⟩
  have reads := (congrArg (fun found => found.any Session.closed) opened).symm.trans closed
  rw [Option.any_some, still] at reads
  cases reads

end Tela.SessionCustody
