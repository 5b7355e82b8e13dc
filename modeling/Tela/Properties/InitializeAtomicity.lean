import Tela.Library.Solo
import Tela.Properties.TokenAdmission
import Tela.Properties.SessionTruth

/-!
# Initialize atomicity

The initialize handler by itself, with the idle lock free: it ends in one way, and
that way is a result that leaves no trace of a refused client exactly under a
condition on the request and the state.
-/

namespace Tela

namespace Gateway

open Coop

variable {platform : Platform} {task : TaskId} {s s' : State} {α : Type}

/-- The program, run with no other task, ends in this way and in no other. -/
abbrev EndsAlone (platform : Platform) (task : TaskId) (x : Prog α) (s : State)
    (out : Except PyException α) (s' : State) : Prop :=
  Ends (world platform) Eq task x s out s'

/-! ## Blocks and awaits -/

theorem ends_return (value : α) (s : State) :
    EndsAlone platform task (pure value) s (.ok value) s :=
  Ends.ret (W := world platform) value s

theorem ends_raise (exc : PyException) (s : State) :
    EndsAlone platform task (.raise exc : Prog α) s (.error exc) s :=
  Ends.raise (W := world platform) exc s

theorem ends_act_bind {a : Act} {rest : a.Val → Prog α} {out : Except PyException α}
    (ends : EndsAlone platform task (rest (State.exec task a s).1) (State.exec task a s).2 out s') :
    EndsAlone platform task (act a >>= rest) s out s' := Ends.act ends

/-- A free idle lock is taken at once. -/
theorem ends_idleLock_bind (idle : s.idleLock.Idle) {rest : Unit → Prog α}
    {out : Except PyException α}
    (ends : EndsAlone platform task (rest ()) { s with idleLock := ⟨some task, []⟩ } out s') :
    EndsAlone platform task (pause .idleLock >>= rest) s out s' := by
  have taken : State.enter task .idleLock s =
      (some (), { s with idleLock := ⟨some task, []⟩ }) := by
    simp [State.enter, FifoLock.arrive, idle]
  refine Ends.wait (.ok ()) (fun outcome s'' => ?_) ends
  constructor
  · rintro (⟨_, rfl, entered⟩ | ⟨_, _, entered, -⟩)
    · exact ⟨rfl, (Prod.mk.inj (entered.symm.trans taken)).2⟩
    · cases (Prod.mk.inj (entered.symm.trans taken)).1
  · rintro ⟨rfl, rfl⟩
    exact .inl ⟨(), rfl, taken⟩

/-- The timer is over. -/
def timerOver (s : State) (id : TimerId) : State :=
  { s with timers := fun other => if other = id then .ended else s.timers other }

theorem ends_timer_bind {id : TimerId} {rest : Unit → Prog α} {out : Except PyException α}
    (ends : EndsAlone platform task (rest ()) (timerOver s id) out s') :
    EndsAlone platform task (pause (.timer id) >>= rest) s out s' := by
  refine Ends.wait (.ok ()) (fun outcome s'' => ?_) ends
  by_cases gone : s.timers id = .ended
  · have same : timerOver s id = s := by
      have timers : (fun other => if other = id then .ended else s.timers other) = s.timers := by
        funext other
        split
        · rename_i this
          rw [this, gone]
        · rfl
      rw [timerOver, timers]
    have passed : State.enter task (.timer id) s = (some (), s) := if_pos gone
    rw [same]
    constructor
    · rintro (⟨_, rfl, entered⟩ | ⟨_, _, entered, -⟩)
      · exact ⟨rfl, (Prod.mk.inj (entered.symm.trans passed)).2⟩
      · cases (Prod.mk.inj (entered.symm.trans passed)).1
    · rintro ⟨rfl, rfl⟩
      exact .inl ⟨(), rfl, passed⟩
  · have stays : State.enter task (.timer id) s = (none, s) := if_neg gone
    constructor
    · rintro (⟨_, rfl, entered⟩ | ⟨s₁, _, entered, rfl, ended⟩)
      · cases (Prod.mk.inj (entered.symm.trans stays)).1
      · obtain rfl : s₁ = s := (Prod.mk.inj (entered.symm.trans stays)).2
        cases outcome with
        | ok _ => exact ⟨rfl, (Option.some.inj ended).symm⟩
        | error exc => cases ended
    · rintro ⟨rfl, rfl⟩
      exact .inr ⟨s, s, stays, rfl, rfl⟩

/-! ## Counting -/

theorem ends_releaseIdleLock (s : State) :
    EndsAlone platform task (act .releaseIdleLock) s (.ok ())
      { s with idleLock := s.idleLock.release } := fun _ _ => Iff.rfl

/-- What an increment does after it has counted. -/
theorem ends_counted (platform : Platform) (task : TaskId) (cancelled : Option TimerId)
    (s : State) :
    ∃ s', EndsAlone platform task
      (match cancelled with
      | some timer => pause (.timer timer) >>= fun _ => act .clearTimer >>= fun _ =>
          act .releaseIdleLock
      | none => act .releaseIdleLock) s (.ok ()) s' := by
  cases cancelled with
  | none => exact ⟨_, ends_releaseIdleLock s⟩
  | some timer => exact ⟨_, ends_timer_bind (ends_act_bind (ends_releaseIdleLock _))⟩

theorem increment_ends (platform : Platform) (task : TaskId) (idle : s.idleLock.Idle) :
    ∃ s', EndsAlone platform task increment s (.ok ()) s' := by
  let held : State := { s with idleLock := ⟨some task, []⟩ }
  obtain ⟨s', ends⟩ := ends_counted platform task
    (held.increment task).1 (held.increment task).2
  exact ⟨s', ends_idleLock_bind idle (ends_act_bind ends)⟩

/-- The lock plays no part in counting. -/
theorem decrement_lock (s : State) (lock : FifoLock) :
    ({ s with idleLock := lock }.decrement task).1 = (s.decrement task).1 := by
  unfold State.decrement
  dsimp only
  cases s.idleManager with
  | none => rfl
  | some manager =>
      dsimp only
      cases manager.connectionCount with
      | zero => rfl
      | succ count =>
          dsimp only
          split <;> rfl

theorem decrement_frame (task : TaskId) (s : State) :
    (s.decrement task).2.now = s.now ∧ (s.decrement task).2.idleLock = s.idleLock := by
  unfold State.decrement
  dsimp only
  split
  · exact ⟨rfl, rfl⟩
  · split
    · exact ⟨rfl, rfl⟩
    · split <;> exact ⟨rfl, rfl⟩

/-- What a decrement reports. -/
def decremented (counted : Bool) : Except String Unit :=
  if counted then .ok ()
  else .error "CONNECTION_COUNT_UNDERFLOW: disconnect called without matching connect"

theorem decrement_ends (platform : Platform) (task : TaskId) (idle : s.idleLock.Idle)
    (retired : Option String) :
    ∃ s', EndsAlone platform task (decrement retired) s
        (.ok (decremented (s.decrement task).1)) s' ∧
      s'.runtime = s.runtime ∧ s'.now = s.now ∧ s'.idleLock.Idle := by
  let held : State := { s with idleLock := ⟨some task, []⟩ }
  have frame := decrement_frame task held
  refine ⟨{ (held.decrement task).2 with idleLock := (held.decrement task).2.idleLock.release },
    ends_idleLock_bind idle (ends_act_bind (ends_act_bind ?_)), ?_, frame.1, ?_⟩
  · rw [← decrement_lock s ⟨some task, []⟩]
    change EndsAlone platform task (if (held.decrement task).1 then _ else _) _
      (.ok (decremented (held.decrement task).1)) _
    cases (held.decrement task).1 with
    | true => exact ends_return _ _
    | false => exact ends_return _ _
  · exact State.decrement_runtime held task
  · change FifoLock.Idle (held.decrement task).2.idleLock.release
    rw [frame.2]
    exact ⟨rfl, rfl⟩

/-! ## The handler -/

section AdmitConnection

variable {config : TelaConfig} {clientInfo : JsonObject} {connectionId : String}

theorem admitConnection_raises {exc : PyException}
    (found : admitCredentials platform config s.runtime.secrets clientInfo s.now = .error exc) :
    EndsAlone platform task (admitConnection platform config clientInfo connectionId) s
      (.error exc) s := by
  refine ends_act_bind (ends_act_bind ?_)
  dsimp only [State.exec]
  rw [found]
  exact ends_raise exc s

theorem admitConnection_refuses {error : String}
    (found : admitCredentials platform config s.runtime.secrets clientInfo s.now =
      .ok (.error error)) :
    EndsAlone platform task (admitConnection platform config clientInfo connectionId) s
      (.ok (.error error)) s := by
  refine ends_act_bind (ends_act_bind ?_)
  dsimp only [State.exec]
  rw [found]
  exact ends_return _ s

theorem admitConnection_admits (idle : s.idleLock.Idle) {admission : Admission}
    (found : admitCredentials platform config s.runtime.secrets clientInfo s.now =
      .ok (.ok admission)) :
    ∃ ctx s', EndsAlone platform task
      (admitConnection platform config clientInfo connectionId) s (.ok (.ok ctx)) s' := by
  let ctx := admittedContext platform config clientInfo connectionId s.now admission
  have still : (s.addRuntimeConnection task ctx).2.idleLock.Idle := by
    rw [(Enters.addRuntimeConnection ctx).lock]
    exact idle
  obtain ⟨s', counted⟩ := increment_ends platform task still
  have added : ∃ s', EndsAlone platform task
      (if (s.addRuntimeConnection task ctx).1 then increment >>= fun _ => pure (.ok ctx)
        else (pure (.ok ctx) : Prog (Except String ConnectionContext)))
      (s.addRuntimeConnection task ctx).2 (.ok (.ok ctx)) s' := by
    split
    · exact ⟨s', counted.bind (ends_return _ s')⟩
    · exact ⟨_, ends_return _ _⟩
  obtain ⟨s', added⟩ := added
  refine ⟨ctx, s', ends_act_bind (ends_act_bind ?_)⟩
  dsimp only [State.exec]
  rw [found]
  exact ends_act_bind added

end AdmitConnection

section RetireBridge

variable {bridge : String}

/-- The removal of the bridge's connection cannot be uncounted. -/
def Underflows (s : State) (bridge : String) : Prop :=
  bridge ∈ s.connectionIds ∧
    ∃ manager, s.idleManager = some manager ∧ manager.connectionCount = 0

/-- What is left to retire once the removal has been uncounted, or not. -/
def afterUncount (bridge : String) (uncounted : Except String Unit) :
    Prog (Except String Unit) :=
  match uncounted with
  | .error error => return .error error
  | .ok () => act (.releaseSession bridge) >>= fun _ => return .ok ()

theorem removed_iff (s : State) :
    (s.runtime.removeRuntimeConnection bridge).1 = true ↔ bridge ∈ s.connectionIds := by
  have lengths := List.length_filter_le (fun conn : ConnectionContext =>
    conn.connectionId ≠ bridge) s.runtime.connections
  dsimp only [GatewayRuntime.removeRuntimeConnection, State.connectionIds]
  rw [bne_iff_ne, ne_eq, List.length_filter_eq_length_iff, List.mem_map]
  simp

/-- A connection that is not listed is removed without a trace. -/
theorem remove_absent (absent : bridge ∉ s.connectionIds) :
    s.removeRuntimeConnection task bridge = ((false, false), s) := by
  have kept : (s.runtime.removeRuntimeConnection bridge).1 = false := by
    rw [Bool.eq_false_iff, ne_eq, removed_iff]
    exact absent
  have same : (s.runtime.removeRuntimeConnection bridge).2 = s.runtime := by
    have all : s.runtime.connections.filter (·.connectionId ≠ bridge) = s.runtime.connections := by
      refine List.filter_eq_self.mpr fun conn member => ?_
      simpa using fun same => absent (List.mem_map.mpr ⟨conn, member, same⟩)
    rw [GatewayRuntime.removeRuntimeConnection, all]
  unfold State.removeRuntimeConnection
  dsimp only
  rw [kept, same]
  rfl

theorem remove_present (present : bridge ∈ s.connectionIds) :
    s.removeRuntimeConnection task bridge =
      ((true, (State.owes { s with
        runtime := (s.runtime.removeRuntimeConnection bridge).2 } task false).1),
        (State.owes { s with
          runtime := (s.runtime.removeRuntimeConnection bridge).2 } task false).2) := by
  unfold State.removeRuntimeConnection
  dsimp only
  rw [if_pos ((removed_iff s).mpr present)]

theorem retireBridge_owing (registered : s.runtime.hasBridgeRegistration bridge = .ok true)
    {out : Except PyException (Except String Unit)}
    (ends : EndsAlone platform task
      (if (s.removeRuntimeConnection task bridge).1.2 then
        decrement (some bridge) >>= afterUncount bridge
      else afterUncount bridge (.ok ())) (s.removeRuntimeConnection task bridge).2 out s') :
    EndsAlone platform task (retireBridge bridge) s out s' := by
  refine ends_act_bind ?_
  dsimp only [State.exec]
  rw [registered]
  exact ends_act_bind ends

theorem retireBridge_refuses (platform : Platform) (task : TaskId)
    (unregistered : s.runtime.hasBridgeRegistration bridge ≠ .ok true) :
    ∃ error, EndsAlone platform task (retireBridge bridge) s (.ok (.error error)) s := by
  cases registered : s.runtime.hasBridgeRegistration bridge with
  | error error =>
      refine ⟨error, ends_act_bind ?_⟩
      dsimp only [State.exec]
      rw [registered]
      exact ends_return _ s
  | ok flag =>
      cases flag with
      | true => exact absurd registered unregistered
      | false =>
          refine ⟨"CONNECTION_NOT_FOUND: bridge initialize requires pre-registered " ++
            s!"connection '{bridge}'", ends_act_bind ?_⟩
          dsimp only [State.exec]
          rw [registered]
          exact ends_return _ s

/-- A retired bridge that nobody has left over changes nothing but its session. -/
theorem retireBridge_absent (registered : s.runtime.hasBridgeRegistration bridge = .ok true)
    (absent : bridge ∉ s.connectionIds) :
    EndsAlone platform task (retireBridge bridge) s (.ok (.ok ()))
      { s with runtime := s.runtime.releaseSession bridge } := by
  refine retireBridge_owing registered ?_
  rw [remove_absent absent]
  exact ends_act_bind (ends_return _ _)

theorem uncounted_ends (platform : Platform) (task : TaskId) (bridge : String) {s₁ : State}
    (counted : Bool) (idle : s₁.idleLock.Idle) :
    ∃ s', EndsAlone platform task (afterUncount bridge (decremented counted)) s₁
        (.ok (decremented counted)) s' ∧
      s'.now = s₁.now ∧ s'.idleLock.Idle ∧ s'.runtime.secrets = s₁.runtime.secrets ∧
        s'.connectionIds = s₁.connectionIds := by
  cases counted with
  | true =>
      refine ⟨{ s₁ with runtime := s₁.runtime.releaseSession bridge },
        ends_act_bind (ends_return _ _), rfl, idle, rfl, rfl⟩
  | false => exact ⟨s₁, ends_return _ _, rfl, idle, rfl, rfl⟩

/-- A bridge that is listed is taken out; it is retired unless that cannot be uncounted. -/
theorem retireBridge_present (platform : Platform) (task : TaskId) (idle : s.idleLock.Idle)
    (registered : s.runtime.hasBridgeRegistration bridge = .ok true)
    (present : bridge ∈ s.connectionIds) :
    ∃ counted s', EndsAlone platform task (retireBridge bridge) s (.ok (decremented counted)) s' ∧
      (counted = false ↔ Underflows s bridge) ∧
      s'.now = s.now ∧ s'.idleLock.Idle ∧ s'.runtime.secrets = s.runtime.secrets ∧
        s'.connectionIds = s.connectionIds.filter (· ≠ bridge) := by
  let s₁ : State := { s with runtime := (s.runtime.removeRuntimeConnection bridge).2 }
  have removed : s.removeRuntimeConnection task bridge =
      ((true, (s₁.owes task false).1), (s₁.owes task false).2) := remove_present present
  have ids : (s₁.owes task false).2.connectionIds = s.connectionIds.filter (· ≠ bridge) := by
    have exec := State.exec_ids task (.removeRuntimeConnection bridge) s
    change (s.removeRuntimeConnection task bridge).2.connectionIds = _ at exec
    rwa [removed] at exec
  have start {counted : Bool} {s' : State}
      (ends : EndsAlone platform task
        (if (s₁.owes task false).1 then decrement (some bridge) >>= afterUncount bridge
          else afterUncount bridge (.ok ())) (s₁.owes task false).2 (.ok (decremented counted)) s') :
      EndsAlone platform task (retireBridge bridge) s (.ok (decremented counted)) s' := by
    refine retireBridge_owing registered ?_
    rw [removed]
    exact ends
  cases installed : s.idleManager with
  | none =>
      have owes : s₁.owes task false = (false, s₁) := if_neg (by simp [s₁, installed])
      rw [owes] at ids start
      obtain ⟨s', ends, now, free, secrets, same⟩ :=
        uncounted_ends platform task bridge true (show s₁.idleLock.Idle from idle)
      refine ⟨true, s', start ends, iff_of_false nofun ?_, now, free, secrets, same.trans ids⟩
      rintro ⟨-, _, found, -⟩
      rw [installed] at found
      cases found
  | some manager =>
      have enters : Enters task (owing (s₁.owes task false).1 false) s (s₁.owes task false).2 :=
        Enters.owes (s.runtime.removeRuntimeConnection bridge).2 false
      have owes : (s₁.owes task false).1 = true := by simp [State.owes, s₁, installed]
      have runtime : (s₁.owes task false).2.runtime = s₁.runtime := State.owes_runtime ..
      have idle' : (s₁.owes task false).2.idleLock.Idle := enters.lock ▸ idle
      have now : (s₁.owes task false).2.now = s.now := by
        unfold State.owes
        split <;> rfl
      obtain ⟨s₂, counts, runtime', now', idle''⟩ :=
        decrement_ends platform task idle' (some bridge)
      obtain ⟨s', ends, now'', free, secrets, same⟩ := uncounted_ends platform task bridge
        ((s₁.owes task false).2.decrement task).1 idle''
      refine ⟨((s₁.owes task false).2.decrement task).1, s', start ?_, ?_,
        now''.trans (now'.trans now), free, ?_, same.trans ((State.ids_of_runtime runtime').trans ids)⟩
      · rw [if_pos owes]
        exact counts.bind ends
      · rw [decrement_counts (enters.manager.trans installed)]
        constructor
        · intro empty
          exact ⟨present, manager, installed, by simpa using empty⟩
        · rintro ⟨-, other, found, empty⟩
          rw [installed] at found
          cases found
          simp [empty]
      · rw [secrets, runtime', runtime]
        rfl

end RetireBridge

/-! ## Atomicity -/

/-- What a refused client leaves as it was. -/
structure Untouched (s s' : State) : Prop where
  connections : s'.runtime.connections = s.runtime.connections
  sessions : s'.runtime.sessionRegistry = s.runtime.sessionRegistry
  registrations : s'.runtime.pendingBridgeRegistrations = s.runtime.pendingBridgeRegistrations
  count : s'.idleManager.map (·.connectionCount) = s.idleManager.map (·.connectionCount)

/-- The handler, run with no other task, ends with a result, and an error changes nothing. -/
def InitializesAtomically (platform : Platform) (task : TaskId) (clientInfo : JsonObject)
    (s : State) : Prop :=
  (∃ out s', Solo (world platform) Eq task (handleInitialize platform clientInfo) s out s') ∧
    ∀ out s', Solo (world platform) Eq task (handleInitialize platform clientInfo) s out s' →
      ∃ result, out = .ok result ∧ ∀ error, result = .error error → Untouched s s'

/-- Neither a connection nor a session has the identifier of the bridge. -/
def Blank (s : State) (bridge : String) : Prop :=
  bridge ∉ s.connectionIds ∧ s.runtime.sessionRegistry.get? bridge = none

/--
The credentials do not raise, and where a registered bridge initializes, its listed
connection can be uncounted, and it has none and no session unless the client is admitted.
-/
def InitializesCleanly (platform : Platform) (clientInfo : JsonObject) (s : State) : Prop :=
  ∀ config, s.runtime.config = some config →
    match requestedBridge platform clientInfo with
    | none => ¬ CredentialsRaise platform config s.runtime.secrets clientInfo
    | some bridge =>
        s.runtime.hasBridgeRegistration bridge = .ok true →
          ¬ Underflows s bridge ∧
            ¬ CredentialsRaise platform config s.runtime.secrets clientInfo ∧
              (CredentialsAdmit platform config s.runtime.secrets clientInfo s.now ∨
                Blank s bridge)

theorem Untouched.refl (s : State) : Untouched s s := ⟨rfl, rfl, rfl, rfl⟩

variable {clientInfo : JsonObject}

theorem atomically_iff {out : Except PyException (Except String ConnectionContext)}
    (ends : EndsAlone platform task (handleInitialize platform clientInfo) s out s') :
    InitializesAtomically platform task clientInfo s ↔
      ∃ result, out = .ok result ∧ ∀ error, result = .error error → Untouched s s' := by
  constructor
  · rintro ⟨-, atomic⟩
    exact atomic _ _ ends.solo
  · intro atomic
    refine ⟨⟨out, s', ends.solo⟩, fun out' s'' solo => ?_⟩
    obtain ⟨rfl, rfl⟩ := (ends _ _).mp solo
    exact atomic

theorem not_atomically_of_raise {exc : PyException}
    (ends : EndsAlone platform task (handleInitialize platform clientInfo) s (.error exc) s') :
    ¬ InitializesAtomically platform task clientInfo s := by
  rw [atomically_iff ends]
  rintro ⟨_, ⟨⟩, -⟩

theorem atomically_of_admission {ctx : ConnectionContext}
    (ends : EndsAlone platform task (handleInitialize platform clientInfo) s (.ok (.ok ctx)) s') :
    InitializesAtomically platform task clientInfo s :=
  (atomically_iff ends).mpr ⟨_, rfl, nofun⟩

theorem atomically_of_refusal {error : String}
    (ends : EndsAlone platform task (handleInitialize platform clientInfo) s
      (.ok (.error error)) s') :
    InitializesAtomically platform task clientInfo s ↔ Untouched s s' := by
  rw [atomically_iff ends]
  constructor
  · rintro ⟨_, ⟨⟩, untouched⟩
    exact untouched error rfl
  · exact fun untouched => ⟨_, rfl, fun _ _ => untouched⟩

/-- The ways in which the admission of a connection ends. -/
theorem admitConnection_ends (platform : Platform) (task : TaskId) (config : TelaConfig)
    (clientInfo : JsonObject) (connectionId : String) (idle : s.idleLock.Idle) :
    (CredentialsRaise platform config s.runtime.secrets clientInfo ∧ ∃ exc,
      EndsAlone platform task (admitConnection platform config clientInfo connectionId) s
        (.error exc) s) ∨
    (¬ CredentialsRaise platform config s.runtime.secrets clientInfo ∧
      ¬ CredentialsAdmit platform config s.runtime.secrets clientInfo s.now ∧ ∃ error,
      EndsAlone platform task (admitConnection platform config clientInfo connectionId) s
        (.ok (.error error)) s) ∨
    (¬ CredentialsRaise platform config s.runtime.secrets clientInfo ∧
      CredentialsAdmit platform config s.runtime.secrets clientInfo s.now ∧ ∃ ctx s',
      EndsAlone platform task (admitConnection platform config clientInfo connectionId) s
        (.ok (.ok ctx)) s') := by
  by_cases raises : CredentialsRaise platform config s.runtime.secrets clientInfo
  · obtain ⟨exc, found⟩ := admitCredentials_raises s.now raises
    exact .inl ⟨raises, exc, admitConnection_raises found⟩
  · obtain ⟨result, found, admits⟩ := admitCredentials_eq s.now raises
    cases result with
    | error error =>
        refine .inr (.inl ⟨raises, ?_, error, admitConnection_refuses found⟩)
        rw [← admits]
        rintro ⟨_, ⟨⟩⟩
    | ok admission =>
        exact .inr (.inr ⟨raises, admits.mp ⟨admission, rfl⟩, admitConnection_admits idle found⟩)

section HandleInitialize

variable {config : TelaConfig} {out : Except PyException (Except String ConnectionContext)}

theorem handleInitialize_unstarted (platform : Platform) (task : TaskId)
    (clientInfo : JsonObject) (started : s.runtime.config = none) :
    ∃ error, EndsAlone platform task (handleInitialize platform clientInfo) s
      (.ok (.error error)) s := by
  refine ⟨"GATEWAY_NOT_STARTED: gateway has not been started", ends_act_bind ?_⟩
  dsimp only [State.exec]
  rw [started]
  exact ends_return _ s

theorem handleInitialize_plain (started : s.runtime.config = some config)
    (plain : requestedBridge platform clientInfo = none)
    (ends : EndsAlone platform task
      (admitConnection platform config clientInfo (State.exec task .newConnectionId s).1)
      (State.exec task .newConnectionId s).2 out s') :
    EndsAlone platform task (handleInitialize platform clientInfo) s out s' := by
  refine ends_act_bind ?_
  dsimp only [State.exec]
  rw [started]
  dsimp only
  rw [plain]
  exact ends_act_bind ends

variable {bridge : String}

theorem handleInitialize_unretired (started : s.runtime.config = some config)
    (requested : requestedBridge platform clientInfo = some bridge) {error : String}
    (ends : EndsAlone platform task (retireBridge bridge) s (.ok (.error error)) s') :
    EndsAlone platform task (handleInitialize platform clientInfo) s (.ok (.error error)) s' := by
  refine ends_act_bind ?_
  dsimp only [State.exec]
  rw [started]
  dsimp only
  rw [requested]
  exact ends.bind (ends_return _ s')

theorem handleInitialize_retired (started : s.runtime.config = some config)
    (requested : requestedBridge platform clientInfo = some bridge) {s₁ : State}
    (retired : EndsAlone platform task (retireBridge bridge) s (.ok (.ok ())) s₁)
    (ends : EndsAlone platform task (admitConnection platform config clientInfo bridge) s₁
      out s') :
    EndsAlone platform task (handleInitialize platform clientInfo) s out s' := by
  refine ends_act_bind ?_
  dsimp only [State.exec]
  rw [started]
  dsimp only
  rw [requested]
  exact retired.bind ends

end HandleInitialize

/-- A state without the connection of the bridge is not one with it. -/
theorem not_untouched_of_removed {bridge : String} (present : bridge ∈ s.connectionIds)
    (ids : s'.connectionIds = s.connectionIds.filter (· ≠ bridge)) : ¬ Untouched s s' := by
  intro untouched
  have same : s'.connectionIds = s.connectionIds := by
    rw [State.connectionIds, untouched.connections]
    rfl
  rw [← same, ids] at present
  simpa using (List.mem_filter.mp present).2

theorem untouched_released_iff (s : State) (bridge : String) :
    Untouched s { s with runtime := s.runtime.releaseSession bridge } ↔
      s.runtime.sessionRegistry.get? bridge = none := by
  constructor
  · intro untouched
    have same : s.runtime.sessionRegistry.erase bridge = s.runtime.sessionRegistry :=
      untouched.sessions
    rw [← same]
    exact Dict.get?_erase_self ..
  · intro unbound
    exact ⟨rfl, Dict.erase_of_not_mem (Dict.get?_eq_none_iff.mp unbound), rfl, rfl⟩

/-- The initialize of a bridge that has been retired. -/
theorem atomically_retired {config : TelaConfig} {bridge : String} {s₁ : State}
    (started : s.runtime.config = some config)
    (requested : requestedBridge platform clientInfo = some bridge)
    (retired : EndsAlone platform task (retireBridge bridge) s (.ok (.ok ())) s₁)
    (idle : s₁.idleLock.Idle) (now : s₁.now = s.now)
    (secrets : s₁.runtime.secrets = s.runtime.secrets) :
    InitializesAtomically platform task clientInfo s ↔
      ¬ CredentialsRaise platform config s.runtime.secrets clientInfo ∧
        (CredentialsAdmit platform config s.runtime.secrets clientInfo s.now ∨ Untouched s s₁) := by
  have ends := admitConnection_ends platform task config clientInfo bridge idle
  rw [now, secrets] at ends
  rcases ends with ⟨raises, exc, ends⟩ | ⟨calm, refuses, error, ends⟩ | ⟨calm, admits, ctx, s', ends⟩
  · exact iff_of_false
      (not_atomically_of_raise (handleInitialize_retired started requested retired ends))
      fun clean => clean.1 raises
  · rw [atomically_of_refusal (handleInitialize_retired started requested retired ends)]
    constructor
    · exact fun untouched => ⟨calm, .inr untouched⟩
    · rintro ⟨-, admits | untouched⟩
      · contradiction
      · exact untouched
  · exact iff_of_true
      (atomically_of_admission (handleInitialize_retired started requested retired ends))
      ⟨calm, .inl admits⟩

theorem atomically_bridge {config : TelaConfig} {bridge : String}
    (started : s.runtime.config = some config)
    (requested : requestedBridge platform clientInfo = some bridge)
    (registered : s.runtime.hasBridgeRegistration bridge = .ok true) (idle : s.idleLock.Idle) :
    InitializesAtomically platform task clientInfo s ↔ ¬ Underflows s bridge ∧
      ¬ CredentialsRaise platform config s.runtime.secrets clientInfo ∧
        (CredentialsAdmit platform config s.runtime.secrets clientInfo s.now ∨ Blank s bridge) := by
  by_cases present : bridge ∈ s.connectionIds
  · have blank : ¬ Blank s bridge := fun blank => blank.1 present
    obtain ⟨counted, s₁, retired, underflows, now, free, secrets, ids⟩ :=
      retireBridge_present platform task idle registered present
    have touched := not_untouched_of_removed present ids
    cases counted with
    | false =>
        rw [atomically_of_refusal (handleInitialize_unretired started requested retired)]
        exact iff_of_false touched fun clean => clean.1 (underflows.mp rfl)
    | true =>
        have counts : ¬ Underflows s bridge := by
          rw [← underflows]
          nofun
        rw [atomically_retired started requested retired free now secrets]
        simp only [counts, touched, blank, not_false_eq_true, true_and]
  · have counts : ¬ Underflows s bridge := fun underflows => present underflows.1
    have blank : Blank s bridge ↔ s.runtime.sessionRegistry.get? bridge = none :=
      and_iff_right present
    rw [atomically_retired started requested (retireBridge_absent registered present) idle rfl rfl,
      untouched_released_iff, blank]
    simp only [counts, not_false_eq_true, true_and]

/-- The handler is atomic exactly when the request is a clean one for the state. -/
theorem initialize_atomicity (platform : Platform) (task : TaskId) (clientInfo : JsonObject)
    (s : State) (idle : s.idleLock.Idle) :
    InitializesAtomically platform task clientInfo s ↔
      InitializesCleanly platform clientInfo s := by
  unfold InitializesCleanly
  cases started : s.runtime.config with
  | none =>
      obtain ⟨error, ends⟩ := handleInitialize_unstarted platform task clientInfo started
      exact iff_of_true ((atomically_of_refusal ends).mpr (.refl s)) nofun
  | some config =>
      have only {P : TelaConfig → Prop} : (∀ c, some config = some c → P c) ↔ P config :=
        ⟨fun all => all config rfl, fun here _ same => Option.some.inj same ▸ here⟩
      rw [only]
      cases requested : requestedBridge platform clientInfo with
      | none =>
          rcases admitConnection_ends platform task config clientInfo
              (State.exec task .newConnectionId s).1 (s := (State.exec task .newConnectionId s).2)
              idle with
            ⟨raises, exc, ends⟩ | ⟨calm, -, error, ends⟩ | ⟨calm, -, ctx, s', ends⟩
          · exact iff_of_false
              (not_atomically_of_raise (handleInitialize_plain started requested ends))
              fun calm => calm raises
          · refine iff_of_true ?_ calm
            rw [atomically_of_refusal (handleInitialize_plain started requested ends)]
            exact ⟨rfl, rfl, rfl, rfl⟩
          · exact iff_of_true
              (atomically_of_admission (handleInitialize_plain started requested ends)) calm
      | some bridge =>
          dsimp only
          by_cases registered : s.runtime.hasBridgeRegistration bridge = .ok true
          · rw [atomically_bridge started requested registered idle]
            simp only [registered, forall_const]
          · obtain ⟨error, ends⟩ := retireBridge_refuses platform task registered
            refine iff_of_true ?_ fun found => absurd found registered
            rw [atomically_of_refusal (handleInitialize_unretired started requested ends)]
            exact .refl s

/-! ## Who is admitted -/

/-- The handler, run with no other task, admits the client. -/
def Admits (platform : Platform) (task : TaskId) (clientInfo : JsonObject) (s : State) : Prop :=
  ∃ ctx s', Solo (world platform) Eq task (handleInitialize platform clientInfo) s
    (.ok (.ok ctx)) s'

/-- Nothing about the requested bridge stands against its admission. -/
def Welcomes (platform : Platform) (clientInfo : JsonObject) (s : State) : Prop :=
  ∀ bridge, requestedBridge platform clientInfo = some bridge →
    s.runtime.hasBridgeRegistration bridge = .ok true ∧ ¬ Underflows s bridge

theorem admits_of_ends {out : Except PyException (Except String ConnectionContext)}
    (ends : EndsAlone platform task (handleInitialize platform clientInfo) s out s') :
    Admits platform task clientInfo s ↔ ∃ ctx, out = .ok (.ok ctx) := by
  constructor
  · rintro ⟨ctx, s'', solo⟩
    exact ⟨ctx, ((ends _ _).mp solo).1.symm⟩
  · rintro ⟨ctx, rfl⟩
    exact ⟨ctx, s', ends.solo⟩

theorem retireBridge_ends (platform : Platform) (task : TaskId) {bridge : String}
    (idle : s.idleLock.Idle) (registered : s.runtime.hasBridgeRegistration bridge = .ok true) :
    (¬ Underflows s bridge ∧ ∃ s₁, EndsAlone platform task (retireBridge bridge) s (.ok (.ok ())) s₁ ∧
      s₁.idleLock.Idle ∧ s₁.now = s.now ∧ s₁.runtime.secrets = s.runtime.secrets) ∨
    (Underflows s bridge ∧ ∃ error s₁,
      EndsAlone platform task (retireBridge bridge) s (.ok (.error error)) s₁) := by
  by_cases present : bridge ∈ s.connectionIds
  · obtain ⟨counted, s₁, retired, underflows, now, free, secrets, -⟩ :=
      retireBridge_present platform task idle registered present
    cases counted with
    | true =>
        have counts : ¬ Underflows s bridge := by
          rw [← underflows]
          nofun
        exact .inl ⟨counts, s₁, retired, free, now, secrets⟩
    | false => exact .inr ⟨underflows.mp rfl, _, s₁, retired⟩
  · exact .inl ⟨fun under => present under.1, _, retireBridge_absent registered present, idle,
      rfl, rfl⟩

theorem admits_of_admission {config : TelaConfig} {connectionId : String} {s₁ : State}
    (idle : s₁.idleLock.Idle) (now : s₁.now = s.now)
    (secrets : s₁.runtime.secrets = s.runtime.secrets)
    (handled : ∀ {out s'}, EndsAlone platform task
      (admitConnection platform config clientInfo connectionId) s₁ out s' →
        EndsAlone platform task (handleInitialize platform clientInfo) s out s') :
    Admits platform task clientInfo s ↔
      ¬ CredentialsRaise platform config s.runtime.secrets clientInfo ∧
        CredentialsAdmit platform config s.runtime.secrets clientInfo s.now := by
  have ends := admitConnection_ends platform task config clientInfo connectionId idle
  rw [now, secrets] at ends
  rcases ends with ⟨raises, exc, ends⟩ | ⟨calm, refuses, error, ends⟩ | ⟨calm, admits, ctx, s', ends⟩
  · rw [admits_of_ends (handled ends)]
    exact iff_of_false (by rintro ⟨_, ⟨⟩⟩) fun clean => clean.1 raises
  · rw [admits_of_ends (handled ends)]
    exact iff_of_false (by rintro ⟨_, ⟨⟩⟩) fun clean => refuses clean.2
  · rw [admits_of_ends (handled ends)]
    exact iff_of_true ⟨ctx, rfl⟩ ⟨calm, admits⟩

/-- A client is admitted when its bridge is welcome and its credentials admit. -/
theorem admits_iff {config : TelaConfig} (started : s.runtime.config = some config)
    (idle : s.idleLock.Idle) :
    Admits platform task clientInfo s ↔ Welcomes platform clientInfo s ∧
      ¬ CredentialsRaise platform config s.runtime.secrets clientInfo ∧
        CredentialsAdmit platform config s.runtime.secrets clientInfo s.now := by
  cases requested : requestedBridge platform clientInfo with
  | none =>
      have welcome : Welcomes platform clientInfo s := by
        intro bridge found
        rw [requested] at found
        cases found
      rw [and_iff_right welcome]
      exact admits_of_admission (show (State.exec task .newConnectionId s).2.idleLock.Idle from idle)
        rfl rfl (handleInitialize_plain started requested)
  | some bridge =>
      have welcome : Welcomes platform clientInfo s ↔
          s.runtime.hasBridgeRegistration bridge = .ok true ∧ ¬ Underflows s bridge := by
        unfold Welcomes
        rw [requested]
        exact ⟨fun all => all bridge rfl, fun here _ same => Option.some.inj same ▸ here⟩
      rw [welcome]
      by_cases registered : s.runtime.hasBridgeRegistration bridge = .ok true
      · rcases retireBridge_ends platform task idle registered with
          ⟨counts, s₁, retired, free, now, secrets⟩ | ⟨under, error, s₁, retired⟩
        · rw [and_iff_right ⟨registered, counts⟩]
          exact admits_of_admission free now secrets
            (handleInitialize_retired started requested retired)
        · rw [admits_of_ends (handleInitialize_unretired started requested retired)]
          exact iff_of_false (by rintro ⟨_, ⟨⟩⟩) fun clean => clean.1.2 under
      · obtain ⟨error, ends⟩ := retireBridge_refuses platform task registered
        rw [admits_of_ends (handleInitialize_unretired started requested ends)]
        exact iff_of_false (by rintro ⟨_, ⟨⟩⟩) fun clean => registered clean.1.1

/-! ## Four initializes -/

def tokenConfig : TelaConfig :=
  { openConfig with auth := { mode := .token, secrets := ["secret"] } }

/-- A well-formed token for a profile, with a signature that no secret gives. -/
def forgedToken (profileId : String) : JsonObject :=
  .ofList [(capabilityTokenKey, .obj
    [("token_id", .str "tok_1"), ("profile_id", .str profileId), ("persona_ref", .str "dev"),
      ("instance_id", .str "1"), ("issued_at", .str "2026-01-01T00:00:00Z"),
      ("expires_at", .str "2027-01-01T00:00:00Z"), ("token_version", .str "0.1.0"),
      ("signature", .str "00")])]

/-- The token that a client presents has this property. -/
theorem exists_token (clientInfo : JsonObject) (p : CapabilityToken → Bool)
    (checked : ((extractCapabilityToken clientInfo).toOption.any p) = true) :
    ∃ token, extractCapabilityToken clientInfo = .ok token ∧ p token = true := by
  cases extracted : extractCapabilityToken clientInfo with
  | error error =>
      rw [extracted] at checked
      exact absurd checked Bool.false_ne_true
  | ok token =>
      rw [extracted] at checked
      exact ⟨token, rfl, checked⟩

/-- A registered bridge whose connection is listed, captured and counted. -/
def bridged (config : TelaConfig) : State :=
  { State.launch config uuids with
    runtime := { (State.launch config uuids).runtime with
      connections := [{ connectionId := "bridge_1", profileId := "dev", connectedAt := 0 }]
      pendingBridgeRegistrations := ["bridge_1"]
      sessionRegistry := .ofList [("bridge_1", 7)] }
    idleManager := some { shutdownDisabled := false, connectionCount := 1 } }

/-- A bridge initializes again, and a forged token is refused. -/
theorem initialize_atomicity_reinitialized :
    InitializesAtomically unsigned 1 (bridgeInfo "bridge_1") (bridged openConfig) ∧
      InitializesAtomically unsigned 1 (forgedToken "dev") (State.launch tokenConfig uuids) := by
  constructor
  · refine (initialize_atomicity unsigned 1 (bridgeInfo "bridge_1") (bridged openConfig)
      ⟨rfl, rfl⟩).mpr ?_
    rintro config ⟨⟩ -
    refine ⟨?_, ?_, .inl rfl⟩
    · rintro ⟨-, manager, ⟨⟩, ⟨⟩⟩
    · rintro ⟨⟨⟩, -⟩
  · refine (initialize_atomicity unsigned 1 (forgedToken "dev") (State.launch tokenConfig uuids)
      ⟨rfl, rfl⟩).mpr ?_
    obtain ⟨token, extracted, sound⟩ := exists_token (forgedToken "dev")
      (fun token => token.profileId == "dev" && token.signature == "00") (by decide +kernel)
    obtain ⟨profile, signature⟩ := (Bool.and_eq_true _ _).mp sound
    rintro config ⟨⟩ ⟨-, -, other, found, raises⟩
    obtain rfl : token = other := Except.ok.inj (extracted.symm.trans found)
    rw [CapabilityToken.Raises, beq_iff_eq.mp profile, beq_iff_eq.mp signature] at raises
    rcases raises with empty | empty | ascii | ⟨before, after, tried, -⟩
    · exact absurd empty (by decide)
    · exact absurd empty (by decide)
    · exact absurd ascii (by decide)
    · have configured : ["secret"] = before ++ "" :: after := tried
      have tries : "" ∈ ["secret"] := by
        rw [configured]
        exact List.mem_append_right _ List.mem_cons_self
      exact absurd tries (by decide)

/-- No profile is left for open mode. -/
def closedConfig : TelaConfig := { openConfig with resolvedDefaultProfile := none }

/-- A refused bridge has lost its connection, and a token without a profile raises. -/
theorem initialize_atomicity_violated :
    ¬ InitializesAtomically unsigned 1 (bridgeInfo "bridge_1") (bridged closedConfig) ∧
      ¬ InitializesAtomically unsigned 1 (forgedToken "") (State.launch tokenConfig uuids) := by
  constructor
  · have requested : requestedBridge unsigned (bridgeInfo "bridge_1") = some "bridge_1" := rfl
    rw [atomically_bridge (s := bridged closedConfig) rfl requested rfl ⟨rfl, rfl⟩]
    rintro ⟨-, -, admits | blank⟩
    · exact Bool.false_ne_true admits
    · exact blank.1 (List.mem_singleton_self _)
  · obtain ⟨token, extracted, nameless⟩ := exists_token (forgedToken "")
      (fun token => token.profileId == "") (by decide +kernel)
    have raises : CredentialsRaise unsigned tokenConfig ["secret"] (forgedToken "") :=
      ⟨rfl, List.cons_ne_nil _ _, token, extracted, .inl (beq_iff_eq.mp nameless)⟩
    obtain ⟨exc, found⟩ := admitCredentials_raises 0 raises
    exact not_atomically_of_raise
      (handleInitialize_plain rfl rfl (admitConnection_raises found))

end Gateway

end Tela
