import Tela.Shell.Lockfile

/-!
# Who removes the lockfile

The lockfile under any interleaving of gateways that start, fail and shut down, of stops
and of clients that clean up. A removal that takes the lockfile of another process that
is there has one of four reasons.
-/

namespace Tela.Lockfile

open Coop (Monitor Follows Coro TaskId assign assign_self assign_of_ne)

variable {Content : Type}

/-! ## What a process rests its next step on -/

inductive Basis (Content : Type)
  | nothing
  | read (raw : Option Content)
  /-- The process that the text names was not there any more. -/
  | gone (raw : Content) (pid : Int)
  | wrote (payload : Content)
  | published (payload : Content)

structure Progress (Content : Type) where
  pid : TaskId
  serves : Bool
  basis : Basis Content

/-- The text is a lockfile of the process. -/
def Names (codec : Codec Content) (pid : TaskId) (payload : Content) : Prop :=
  ∃ data : LockfileData, data.pid = pid ∧ payload = codec.modelDumpJson data

/-- A gateway removes without looking, anyone else what it found stale. -/
def mayUnlink (codec : Codec Content) (g : Progress Content) : Prop :=
  match g.serves with
  | true => g.basis = .nothing ∨ ∃ payload, Names codec g.pid payload ∧ g.basis = .published payload
  | false => ∃ raw data, codec.modelValidateJson raw = .ok data ∧ g.basis = .gone raw data.pid

def mayCall (codec : Codec Content) : Call Content → Progress Content → Prop
  | .readText, g => g.serves = false
  | .writeTemp _, g => g.serves = true ∧ g.basis = .nothing
  | .replace, g => g.serves = true ∧ ∃ payload, Names codec g.pid payload ∧ g.basis = .wrote payload
  | .unlink, g => mayUnlink codec g
  | _, _ => True

/-- The process that the last text names is not there any more. -/
def Basis.missing (pid : Int) : Basis Content → Basis Content
  | read (some raw) => gone raw pid
  | basis => basis

instance (answer : Signaled) : Decidable answer.Missing := by
  cases answer <;> unfold Signaled.Missing <;> infer_instance

def afterCall : (w : Call Content) → Option w.Result → Basis Content → Basis Content
  | .readText, some raw, _ => .read raw
  | .ps pid, some (returncode, stdout), basis =>
      if (returncode == 0 && zombieStat stdout) = true then basis.missing pid else basis
  | .kill pid _, some answer, basis => if answer.Missing then basis.missing pid else basis
  | .writeTemp payload, some _, _ => .wrote payload
  | .replace, some _, .wrote payload => .published payload
  | _, _, basis => basis

def monitor (codec : Codec Content) : Monitor (sig Content) (Progress Content) where
  may _ _ := True
  after a _ _ := nomatch a
  mayWait := mayCall codec
  woken w result g := { g with basis := afterCall w result g.basis }
  mayTime _ := False
  mayTime_after := id
  mayTime_woken := id

section Discipline

variable {codec : Codec Content} {α : Type} {g : Progress Content}

/-- A call that is allowed, and what it leaves. -/
theorem follows_sys {w : Call Content} {onRet : w.Result → Progress Content → Prop}
    {onRaise : SystemException → Progress Content → Prop} (may : mayCall codec w g)
    (ok : ∀ result, onRet result { g with basis := afterCall w (some result) g.basis })
    (failed : ∀ exc, onRaise exc { g with basis := afterCall w none g.basis }) :
    Follows (monitor codec) onRet onRaise (sys w) g :=
  Follows.await_iff.mpr ⟨may, ok, failed⟩

theorem follows_bind {β : Type} {x : Prog Content α} {rest : α → Prog Content β}
    {mid : α → Progress Content → Prop} {onRet : β → Progress Content → Prop}
    {onRaise : SystemException → Progress Content → Prop}
    (first : Follows (monitor codec) mid onRaise x g)
    (second : ∀ value after, mid value after →
      Follows (monitor codec) onRet onRaise (rest value) after) :
    Follows (monitor codec) onRet onRaise (x >>= rest) g :=
  Follows.bind_iff.mpr (first.mono second fun _ _ h => h)

/-- What an exception must satisfy where the handler takes every `OSError`. -/
def Handled (codec : Codec Content) (onRet : α → Progress Content → Prop)
    (onRaise : SystemException → Progress Content → Prop) (handler : String → Prog Content α) :
    SystemException → Progress Content → Prop
  | .osError text, g => Follows (monitor codec) onRet onRaise (handler text) g
  | .raised exc, g => onRaise (.raised exc) g

theorem exceptOsError_iff {body : Prog Content α} {handler : String → Prog Content α}
    {onRet : α → Progress Content → Prop} {onRaise : SystemException → Progress Content → Prop} :
    Follows (monitor codec) onRet onRaise (exceptOsError body handler) g ↔
      Follows (monitor codec) onRet (Handled codec onRet onRaise handler) body g := by
  unfold exceptOsError
  simp only [Coro.bind_eq, Follows.bind_iff, Follows.attempt_iff]
  constructor <;> intro follows <;> refine follows.mono (fun _ _ h => h) fun exc g h => ?_
  · cases exc <;> exact h
  · cases exc <;> exact h

/-! ## Clients -/

/-- A client, which writes nothing. -/
def Client (g : Progress Content) : Prop := g.serves = false

/-- It rests on this text of the lockfile, and knows whether its process is gone. -/
def Knows (codec : Codec Content) (data : LockfileData) (gone : Bool) (g : Progress Content) :
    Prop :=
  Client g ∧ ∃ raw, codec.modelValidateJson raw = .ok data ∧
    g.basis = if gone then .gone raw data.pid else .read (some raw)

theorem follows_isZombieProcess {data : LockfileData} (knows : Knows codec data false g) :
    Follows (monitor codec) (fun result => Knows codec data (result.toOption == some true))
      (fun _ => Client) (isZombieProcess data.pid) g := by
  obtain ⟨client, raw, valid, basis⟩ := knows
  refine exceptOsError_iff.mpr (Follows.bind_iff.mpr (follows_sys trivial ?_ fun exc => ?_))
  · rintro ⟨returncode, stdout⟩
    refine ⟨client, raw, valid, ?_⟩
    dsimp only [afterCall]
    rw [basis]
    cases returncode == 0 && zombieStat stdout <;> rfl
  · cases exc with
    | osError text => exact ⟨client, raw, valid, basis⟩
    | raised exc => exact client

theorem follows_kill {data : LockfileData} {signal : Signal} (knows : Knows codec data false g) :
    Follows (monitor codec) (fun answer => Knows codec data (decide answer.Missing))
      (fun _ => Client) (sys (.kill data.pid signal)) g := by
  obtain ⟨client, raw, valid, basis⟩ := knows
  refine follows_sys trivial (fun answer => ⟨client, raw, valid, ?_⟩) fun exc => client
  dsimp only [afterCall]
  rw [basis]
  by_cases missing : answer.Missing
  · rw [if_pos missing, decide_eq_true missing]
    rfl
  · rw [if_neg missing, decide_eq_false missing, if_neg Bool.false_ne_true]

theorem follows_isStale {data : LockfileData} (knows : Knows codec data false g) :
    Follows (monitor codec) (fun stale => Knows codec data stale) (fun _ => Client)
      (isStale data) g := by
  refine follows_bind (follows_isZombieProcess knows) ?_
  rintro (text | _ | _) after known
  case ok.true => exact known
  all_goals
    refine follows_bind (follows_kill known) ?_
    intro answer later known
    cases answer <;> exact known

/-- What follows a reading of the lockfile. -/
theorem follows_withRaw {absent : Except String α}
    {found : LockfileData → Prog Content (Except String α)}
    {onRet : Except String α → Progress Content → Prop} (client : Client g)
    (absentOk : ∀ after, Client after → onRet absent after)
    (failed : ∀ text after, Client after → onRet (.error text) after)
    (follows : ∀ data after, Knows codec data false after →
      Follows (monitor codec) onRet (fun _ => Client) (found data) after) :
    Follows (monitor codec) onRet (fun _ => Client) (withRaw codec absent found) g := by
  unfold withRaw
  refine Follows.bind_iff.mpr (Follows.attempt_iff.mpr (follows_sys client (fun raw => ?_) fun exc => ?_))
  · cases raw with
    | none => exact absentOk _ client
    | some raw =>
        dsimp only
        cases valid : codec.modelValidateJson raw with
        | error text => exact failed _ _ client
        | ok data => exact follows _ _ ⟨client, raw, valid, rfl⟩
  · cases exc with
    | osError text => exact failed _ _ client
    | raised exc => exact client

theorem follows_readLockfile (client : Client g) :
    Follows (monitor codec)
      (fun out after => Client after ∧ ∀ data, out = .ok data → Knows codec data false after)
      (fun _ => Client) (readLockfile codec) g := by
  refine follows_withRaw client (fun _ client => ⟨client, by rintro _ ⟨⟩⟩)
    (fun _ _ client => ⟨client, by rintro _ ⟨⟩⟩) fun data after knows => ?_
  refine follows_bind (follows_isStale knows) ?_
  intro stale later known
  cases stale with
  | true => exact ⟨known.1, by rintro _ ⟨⟩⟩
  | false =>
      refine ⟨known.1, ?_⟩
      rintro _ ⟨⟩
      exact known

/-- A client removes only what it found stale. -/
theorem follows_deleteLockfile {data : LockfileData} (knows : Knows codec data true g) :
    Follows (monitor codec) (fun _ => Client) (fun _ => Client) deleteLockfile g := by
  obtain ⟨client, raw, valid, basis⟩ := knows
  have may : mayUnlink codec g := by
    unfold mayUnlink
    rw [show g.serves = false from client]
    exact ⟨raw, data, valid, basis⟩
  refine exceptOsError_iff.mpr (Follows.bind_iff.mpr (follows_sys may (fun _ => client) fun exc => ?_))
  cases exc <;> exact client

theorem follows_deleteLockfileIfStale (client : Client g) :
    Follows (monitor codec) (fun _ => Client) (fun _ => Client) (deleteLockfileIfStale codec) g := by
  refine follows_withRaw client (fun _ client => client) (fun _ _ client => client)
    fun data after knows => ?_
  refine follows_bind (follows_isStale knows) ?_
  intro stale later known
  cases stale with
  | false => exact known.1
  | true =>
      refine follows_bind (follows_deleteLockfile known) ?_
      intro result last client
      cases result <;> exact client

/-- A call of a client that leaves what it rests on. -/
theorem follows_neutral {w : Call Content} (client : Client g) (may : mayCall codec w g) :
    Follows (monitor codec) (fun _ => Client) (fun _ => Client) (sys w) g :=
  follows_sys may (fun _ => client) fun _ => client

theorem follows_waitForLiveLockfile {expectedPid : Option Int} {deadline : Int} {rounds : Nat}
    (client : Client g) :
    Follows (monitor codec) (fun _ => Client) (fun _ => Client)
      (waitForLiveLockfile codec expectedPid deadline rounds) g := by
  induction rounds generalizing g with
  | zero => exact client
  | succ rounds ih =>
      have again {after : Progress Content} (client : Client after) :
          Follows (monitor codec) (fun _ => Client) (fun _ => Client) (do
            sys (.sleep lockfileWaitPoll)
            waitForLiveLockfile codec expectedPid deadline rounds) after :=
        follows_bind (follows_neutral client trivial) fun _ _ client => ih client
      refine follows_bind (follows_neutral client trivial) ?_
      intro now after client
      split
      · exact client
      refine follows_bind (follows_readLockfile client) ?_
      rintro (text | data) later ⟨client, -⟩
      · dsimp only
        split
        · exact follows_bind (follows_deleteLockfileIfStale client) fun _ _ client => again client
        · exact again client
      · dsimp only
        split
        · exact again client
        · exact client

theorem follows_waitFrom {timeout : Int} {expectedPid : Option Int} {rounds : Nat}
    (client : Client g) :
    Follows (monitor codec) (fun _ => Client) (fun _ => Client)
      (waitFrom codec timeout expectedPid rounds) g :=
  follows_bind (follows_neutral client trivial) fun _ _ client => follows_waitForLiveLockfile client

theorem follows_answer {rounds : Nat} (call : Startup.Call) (client : Client g) :
    Follows (monitor codec) (fun _ => Client) (fun _ => Client) (answer codec rounds call) g := by
  cases call with
  | readLockfile =>
      exact follows_bind (follows_readLockfile client) fun _ _ h => h.1
  | deleteLockfileIfStale =>
      exact follows_bind (follows_deleteLockfileIfStale client) fun _ _ client => client
  | waitForLiveLockfile timeout expectedPid =>
      refine follows_bind (follows_waitFrom client) ?_
      intro result after client
      cases result <;> exact client
  | _ => exact follows_neutral client trivial

theorem follows_discoverOrAutostart {names : Startup.LockNames} {request : Startup.Request}
    {rounds : Nat} (client : Client g) :
    Follows (monitor codec) (fun _ => Client) (fun _ => Client)
      (discoverOrAutostart codec names request rounds) g :=
  Follows.translate (fun act : Empty => act.elim) (fun call _ client => follows_answer call client) _ client

/-! ## Stopping -/

/-- A stop that has waited for the end of the process knows that it is gone. -/
theorem follows_waitForProcessExit {data : LockfileData} {deadline : Int} {rounds : Nat}
    (knows : Knows codec data false g) :
    Follows (monitor codec)
      (fun out after => Client after ∧ (out = some (.ok ()) → Knows codec data true after))
      (fun _ => Client) (waitForProcessExit data.pid deadline rounds) g := by
  induction rounds generalizing g with
  | zero => exact ⟨knows.1, by rintro ⟨⟩⟩
  | succ rounds ih =>
      refine Follows.bind_iff.mpr (follows_sys trivial (fun now => ?_) fun _ => knows.1)
      split
      · exact ⟨knows.1, by rintro ⟨⟩⟩
      refine follows_bind (follows_isZombieProcess knows) ?_
      rintro (text | _ | _) after known
      case ok.true => exact ⟨known.1, fun _ => known⟩
      all_goals
        refine follows_bind (follows_kill known) ?_
        intro answer later known
        cases answer with
        | processLookupError => exact ⟨known.1, fun _ => known⟩
        | osError text => exact ⟨known.1, by rintro ⟨⟩⟩
        | overflowError exc => exact known.1
        | _ => exact Follows.bind_iff.mpr (follows_sys trivial (fun _ => ih known) fun _ => known.1)

theorem follows_runStopCommand {rounds : Nat} (client : Client g) :
    Follows (monitor codec) (fun _ => Client) (fun _ => Client) (runStopCommand codec rounds) g := by
  refine follows_bind (follows_readLockfile client) ?_
  rintro (detail | data) after ⟨client, knows⟩
  · exact client
  have deletes {after : Progress Content} (knows : Knows codec data true after) :
      Follows (monitor codec) (fun _ => Client) (fun _ => Client) (do
        return some (← deleteLockfile)) after :=
    follows_bind (follows_deleteLockfile knows) fun _ _ client => client
  refine follows_bind (follows_kill (knows data rfl)) ?_
  intro answer later known
  cases answer with
  | processLookupError => exact deletes known
  | permissionError => exact known.1
  | osError text => exact known.1
  | overflowError exc => exact known.1
  | delivered =>
      refine Follows.bind_iff.mpr (follows_sys trivial (fun now => ?_) fun _ => known.1)
      refine follows_bind (follows_waitForProcessExit known) ?_
      rintro (_ | _ | ⟨⟨⟩⟩) last ⟨client, gone⟩
      · exact client
      · exact client
      · exact deletes (gone rfl)

/-! ## The gateway -/

variable {pid : TaskId} {basis : Basis Content} {β : Type}

/-- A step beside the lockfile. -/
theorem follows_step {s : GatewayStep} {next : s.Result → Prog Content β}
    {onRet : β → Progress Content → Prop}
    (follows : ∀ result, Follows (monitor codec) onRet (fun _ _ => True) (next result) g) :
    Follows (monitor codec) onRet (fun _ _ => True) ((step s).bind next) g :=
  Follows.bind_iff.mpr (follows_sys trivial (fun result => follows result) fun _ => trivial)

theorem follows_orReturn {result : Except String α} {cleanup : Prog Content Unit}
    {next : α → Prog Content (Except String β)}
    (failed : Follows (monitor codec) (fun _ _ => True) (fun _ _ => True) cleanup g)
    (follows : ∀ value, result = .ok value →
      Follows (monitor codec) (fun _ _ => True) (fun _ _ => True) (next value) g) :
    Follows (monitor codec) (fun _ _ => True) (fun _ _ => True)
      (orReturn result cleanup next) g := by
  cases result with
  | error text => exact Follows.bind_iff.mpr failed
  | ok value => exact follows value rfl

/-- A gateway that has not published, or has published a lockfile of its own. -/
def Settled (codec : Codec Content) (pid : TaskId) (basis : Basis Content) : Prop :=
  basis = .nothing ∨ ∃ payload, Names codec pid payload ∧ basis = .published payload

theorem follows_deleteOwn (settled : Settled codec pid basis) {next : Except String Unit → Prog Content β}
    {onRet : β → Progress Content → Prop}
    (follows : ∀ result, Follows (monitor codec) onRet (fun _ _ => True) (next result) ⟨pid, true, basis⟩) :
    Follows (monitor codec) onRet (fun _ _ => True) (deleteLockfile.bind next) ⟨pid, true, basis⟩ := by
  refine Follows.bind_iff.mpr (exceptOsError_iff.mpr (Follows.bind_iff.mpr ?_))
  refine follows_sys settled (fun _ => follows _) fun exc => ?_
  cases exc with
  | osError text => exact follows _
  | raised exc => exact trivial

theorem follows_abandon :
    Follows (monitor codec) (fun _ _ => True) (fun _ _ => True) abandon ⟨pid, true, .nothing⟩ :=
  follows_step fun _ => follows_deleteOwn (.inl rfl) fun _ => trivial

/-- From an empty basis on, a write that succeeds has published the data. -/
theorem follows_writeLockfile {data : LockfileData} (own : data.pid = pid) :
    Follows (monitor codec)
      (fun out after => out = .ok () → after = ⟨pid, true, .published (codec.modelDumpJson data)⟩)
      (fun _ _ => True) (writeLockfile codec data) ⟨pid, true, .nothing⟩ := by
  have failed (exc : SystemException) (after : Progress Content) :
      Handled codec
        (fun (out : Except String Unit) after => out = .ok () → after = ⟨pid, true, .published (codec.modelDumpJson data)⟩)
        (fun _ _ => True)
        (fun text => (suppress (sys .unlinkTemp)).bind fun _ =>
          .ret (.error s!"LOCKFILE_WRITE_ERROR: {text}")) exc after := by
    cases exc with
    | raised exc => exact trivial
    | osError text =>
        refine Follows.bind_iff.mpr (Follows.bind_iff.mpr (Follows.attempt_iff.mpr ?_))
        refine follows_sys trivial (fun _ => by rintro ⟨⟩) fun exc => ?_
        cases exc with
        | osError text => exact by rintro ⟨⟩
        | raised exc =>
            dsimp only
            split
            · exact by rintro ⟨⟩
            · exact trivial
  refine exceptOsError_iff.mpr ?_
  simp only [Coro.bind_eq, Follows.bind_iff]
  refine follows_sys trivial (fun _ => ?_) fun exc => failed exc _
  refine follows_sys trivial (fun _ => ?_) fun exc => failed exc _
  refine follows_sys ⟨rfl, rfl⟩ (fun _ => ?_) fun exc => failed exc _
  refine follows_sys trivial (fun _ => ?_) fun exc => failed exc _
  exact follows_sys ⟨rfl, _, ⟨data, own, rfl⟩, rfl⟩ (fun _ _ => rfl) fun exc => failed exc _

theorem follows_serveUntilStopped (settled : Settled codec pid basis) :
    Follows (monitor codec) (fun _ _ => True) (fun _ _ => True) serveUntilStopped
      ⟨pid, true, basis⟩ := by
  have final : Follows (monitor codec) (fun _ _ => True) (fun _ _ => True) shutDown
      ⟨pid, true, basis⟩ :=
    follows_step fun _ => follows_step fun _ => follows_step fun _ =>
      follows_step fun _ => follows_deleteOwn settled fun _ =>
        follows_sys trivial (fun _ => trivial) fun _ => trivial
  refine follows_step fun _ => Follows.bind_iff.mpr (Follows.ensure ?_)
  refine follows_sys trivial (fun result => ?_) fun _ => final
  refine final.mono (fun _ _ _ => ?_) fun _ _ h => h
  cases result <;> exact trivial

theorem follows_publish {data : LockfileData} (own : data.pid = pid) :
    Follows (monitor codec) (fun _ _ => True) (fun _ _ => True) (publish codec data)
      ⟨pid, true, .nothing⟩ := by
  refine follows_bind (follows_writeLockfile own) ?_
  rintro (text | ⟨⟨⟩⟩) after written
  · exact Follows.bind_iff.mpr
      (Follows.bind_iff.mpr (follows_sys trivial
        (fun _ => follows_sys trivial (fun _ => trivial) fun _ => trivial) fun _ => trivial))
  · obtain rfl := written rfl
    have settled : Settled codec pid (.published (codec.modelDumpJson data)) :=
      .inr ⟨_, ⟨data, own, rfl⟩, rfl⟩
    refine follows_step fun converged => follows_orReturn ?_ fun _ _ =>
      follows_serveUntilStopped settled
    exact follows_deleteOwn settled fun _ => follows_step fun _ =>
      follows_sys trivial (fun _ => trivial) fun _ => trivial

theorem follows_runServeGateway {settings : ServeSettings} :
    Follows (monitor codec) (fun _ _ => True) (fun _ _ => True)
      (runServeGateway codec pid settings) ⟨pid, true, .nothing⟩ := by
  have shutdown : Follows (monitor codec) (fun _ _ => True) (fun _ _ => True)
      (step .gatewayShutdown) ⟨pid, true, .nothing⟩ :=
    follows_sys trivial (fun _ => trivial) fun _ => trivial
  refine follows_step fun _ => follows_orReturn trivial fun _ _ => ?_
  refine follows_step fun _ => follows_orReturn shutdown fun startedAt _ => ?_
  refine follows_step fun _ => follows_orReturn shutdown fun version _ => ?_
  refine follows_step fun _ => follows_orReturn follows_abandon fun initialized _ => ?_
  refine follows_orReturn follows_abandon fun _ _ => ?_
  refine follows_step fun _ => follows_orReturn follows_abandon fun _ _ => ?_
  refine follows_step fun _ => follows_orReturn shutdown fun port _ => ?_
  exact follows_step fun configPath => follows_publish rfl

theorem follows_discard {body : Prog Content α}
    (follows : Follows (monitor codec) (fun _ => Client) (fun _ => Client) body
      ⟨pid, false, .nothing⟩) :
    Follows (monitor codec) (fun _ _ => True) (fun _ _ => True) (discard body)
      ⟨pid, false, .nothing⟩ :=
  Follows.bind_iff.mpr (follows.mono (fun _ _ _ => trivial) fun _ _ _ => trivial)

/-- Every program keeps to the monitor. -/
theorem follows_program (cmd : Cmd) :
    Follows (monitor codec) (fun _ _ => True) (fun _ _ => True) (program codec pid cmd)
      ⟨pid, cmd.serves, .nothing⟩ := by
  have client : Client (⟨pid, false, .nothing⟩ : Progress Content) := rfl
  cases cmd with
  | serve settings => exact Follows.bind_iff.mpr follows_runServeGateway
  | stop rounds => exact follows_discard (follows_runStopCommand client)
  | discover names request rounds => exact follows_discard (follows_discoverOrAutostart client)
  | wait timeout expectedPid rounds => exact follows_discard (follows_waitFrom client)
  | clean => exact follows_discard (follows_deleteLockfileIfStale client)
  | read =>
      exact follows_discard ((follows_readLockfile client).mono (fun _ _ h => h.1) fun _ _ h => h)
  | unrelated => trivial

end Discipline

/-! ## The invariant of a run -/

section Runs

variable (codec : Codec Content)

open Coop.Host (Since own own_other own_called own_launched)

abbrev Event := Coop.Host.Event (host codec)

abbrev History := Coop.Host.History (host codec)

def watch : Coop.Host.Watch (host codec) (Progress Content) where
  toMonitor := monitor codec
  start p cmd := ⟨p, cmd.serves, .nothing⟩
  returns _ _ _ := True
  follows _ cmd := follows_program cmd

variable {codec}

/-- A lockfile is put in place. -/
def Publishes (event : Event codec) : Prop :=
  ∃ p cmd, event = .called p cmd .replace (.ok ())

/-- The lockfile, or that there is none, is read. -/
def Reads (event : Event codec) : Prop :=
  ∃ p cmd raw, event = .called p cmd .readText (.ok raw)

/-- The temporary file is written, well or badly. -/
def Writes (event : Event codec) : Prop :=
  ∃ p cmd payload outcome, event = .called p cmd (.writeTemp payload) outcome

def Removes (event : Event codec) : Prop :=
  ∃ p cmd, event = .called p cmd .unlink (.ok true)

/-- A process with the pid starts. -/
def Starts (pid : Int) (event : Event codec) : Prop :=
  ∃ (p : TaskId) (cmd : Cmd), 0 < p ∧ (p : Int) = pid ∧ event = .launched p cmd

/-- Happened other process did so. -/
def Another (p : TaskId) (kind : Event codec → Prop) (late : History codec) : Prop :=
  ∃ entry ∈ late, entry.2.process ≠ p ∧ kind entry.2

def Happened (kind : Event codec → Prop) (late : History codec) : Prop := ∃ entry ∈ late, kind entry.2

/-- Another process wrote the temporary file between the writing and the renaming of a gateway. -/
def Mixed (p : TaskId) (history : History codec) : Prop :=
  ∃ early late before between, Since p Publishes history early late ∧
    Since p Writes early before between ∧ Another p Writes between

/-- What holds of the files where a process rests its next step on this. -/
def Basis.Holds (history : History codec) (s : Files Content) (p : TaskId) :
    Basis Content → Prop
  | nothing => True
  | read raw => ∃ early late, Since p Reads history early late ∧
      (s.main = raw ∨ s.main = none ∨ Another p Publishes late)
  | gone raw pid => ∃ early late, Since p Reads history early late ∧
      (s.main = some raw ∨ s.main = none ∨ Another p Publishes late) ∧
      (Gone s pid ∨ Happened (Starts pid) late)
  | wrote payload => ∃ early late, Since p Writes history early late ∧
      (s.temp = some payload ∨ s.temp = none ∨ Another p Writes late)
  | published payload => ∃ early late, Since p Publishes history early late ∧
      (s.main = some payload ∨ s.main = none ∧ Happened Removes late ∨ Another p Publishes late ∨
        Mixed p history)

/-- What one step can do to the files. -/
structure Effect (s s' : Files Content) (event : Event codec) : Prop where
  main : s'.main = s.main ∨ s'.main = none ∧ Removes event ∨ Publishes event
  temp : s'.temp = s.temp ∨ s'.temp = none ∨ Writes event
  gone : ∀ pid, Gone s pid → Gone s' pid ∨ Starts pid event

variable {history : History codec} {s s' : Files Content} {event : Event codec} {p : TaskId}

theorem Happened.later {kind : Event codec → Prop} {late : History codec} (happened : Happened kind late) :
    Happened kind (late ++ [(s, event)]) := by
  obtain ⟨entry, among, fits⟩ := happened
  exact ⟨entry, List.mem_append_left _ among, fits⟩

theorem Happened.now {kind : Event codec → Prop} {late : History codec} (fits : kind event) :
    Happened kind (late ++ [(s, event)]) :=
  ⟨_, List.mem_append_right _ (List.mem_singleton_self _), fits⟩

theorem Another.later {kind : Event codec → Prop} {late : History codec}
    (another : Another p kind late) : Another p kind (late ++ [(s, event)]) := by
  obtain ⟨entry, among, fits⟩ := another
  exact ⟨entry, List.mem_append_left _ among, fits⟩

theorem Another.now {kind : Event codec → Prop} {late : History codec}
    (other : event.process ≠ p) (fits : kind event) : Another p kind (late ++ [(s, event)]) :=
  ⟨_, List.mem_append_right _ (List.mem_singleton_self _), other, fits⟩

/-- A step of the process that is none of those it may rest on. -/
structure Neutral (p : TaskId) (event : Event codec) : Prop where
  reads : ¬ Reads event
  writes : ¬ Writes event
  publishes : ¬ Publishes event
  launched : ∀ cmd, event ≠ .launched p cmd

/-- A step of another process, or a neutral one. -/
def Beside (p : TaskId) (event : Event codec) : Prop := event.process = p → Neutral p event

/-- What a process rests on survives the steps beside it. -/
theorem Basis.Holds.later {basis : Basis Content} (holds : basis.Holds history s p)
    (effect : Effect s s' event) (beside : Beside p event) :
    basis.Holds (history ++ [(s, event)]) s' p := by
  have main {raw : Option Content} {late : History codec}
      (kept : s.main = raw ∨ s.main = none ∨ Another p Publishes late) :
      s'.main = raw ∨ s'.main = none ∨ Another p Publishes (late ++ [(s, event)]) := by
    rcases effect.main with same | ⟨removed, -⟩ | publishes
    · rw [same]
      exact kept.imp_right (Or.imp_right Another.later)
    · exact .inr (.inl removed)
    · exact .inr (.inr (Another.now (fun mover => (beside mover).publishes publishes) publishes))
  cases basis with
  | nothing => exact trivial
  | read raw =>
      obtain ⟨early, late, since, kept⟩ := holds
      exact ⟨early, _, since.later fun mover => ⟨(beside mover).reads, (beside mover).launched⟩,
        main kept⟩
  | gone raw pid =>
      obtain ⟨early, late, since, kept, gone⟩ := holds
      refine ⟨early, _, since.later fun mover => ⟨(beside mover).reads, (beside mover).launched⟩,
        main kept, ?_⟩
      rcases gone with gone | started
      · exact (effect.gone pid gone).imp_right Happened.now
      · exact .inr started.later
  | wrote payload =>
      obtain ⟨early, late, since, kept⟩ := holds
      refine ⟨early, _, since.later fun mover => ⟨(beside mover).writes, (beside mover).launched⟩, ?_⟩
      rcases effect.temp with same | removed | writes
      · rw [same]
        exact kept.imp_right (Or.imp_right Another.later)
      · exact .inr (.inl removed)
      · exact .inr (.inr (Another.now (fun mover => (beside mover).writes writes) writes))
  | published payload =>
      obtain ⟨early, late, since, kept⟩ := holds
      have since' : Since p Publishes (history ++ [(s, event)]) early (late ++ [(s, event)]) :=
        since.later fun mover => ⟨(beside mover).publishes, (beside mover).launched⟩
      refine ⟨early, _, since', ?_⟩
      rcases kept with kept | ⟨none, removed⟩ | another | mixed
      · rcases effect.main with same | ⟨removed, removes⟩ | publishes
        · exact .inl (same.trans kept)
        · exact .inr (.inl ⟨removed, Happened.now removes⟩)
        · exact .inr (.inr (.inl
            (Another.now (fun mover => (beside mover).publishes publishes) publishes)))
      · rcases effect.main with same | ⟨gone, removes⟩ | publishes
        · exact .inr (.inl ⟨same.trans none, removed.later⟩)
        · exact .inr (.inl ⟨gone, Happened.now removes⟩)
        · exact .inr (.inr (.inl
            (Another.now (fun mover => (beside mover).publishes publishes) publishes)))
      · exact .inr (.inr (.inl another.later))
      · obtain ⟨early, late, before, between, since, rest⟩ := mixed
        exact .inr (.inr (.inr ⟨early, _, before, between,
          since.later fun mover => ⟨(beside mover).publishes, (beside mover).launched⟩, rest⟩))

/-! ## One step -/

/-- A step that leaves the files and the processes alone. -/
theorem effect_same {event : Event codec} (same : s' = s) : Effect s s' event where
  main := .inl (congrArg Files.main same)
  temp := .inl (congrArg Files.temp same)
  gone _ gone := .inl (same ▸ gone)

theorem effect_called {cmd : Cmd} {w : Call Content} {outcome : Except SystemException w.Result}
    (done : call p w s outcome s') : Effect s s' (.called p cmd w outcome : Event codec) := by
  have still {s' : Files Content} (same : s'.alive = s.alive) {event : Event codec} (pid : Int)
      (gone : Gone s pid) : Gone s' pid ∨ Starts pid event :=
    .inl fun q positive named => (congrFun same q).trans (gone q positive named)
  cases w with
  | writeTemp payload =>
      have writes : Writes (.called p cmd (.writeTemp payload) outcome : Event codec) :=
        ⟨p, cmd, payload, outcome, rfl⟩
      have same : s'.main = s.main ∧ s'.alive = s.alive := by
        cases outcome with
        | ok result =>
            obtain rfl := done
            exact ⟨rfl, rfl⟩
        | error exc =>
            rcases done with rfl | ⟨part, rfl⟩
            · exact ⟨rfl, rfl⟩
            · exact ⟨rfl, rfl⟩
      exact ⟨.inl same.1, .inr (.inr writes), still same.2⟩
  | replace =>
      cases outcome with
      | error exc => exact effect_same done
      | ok result =>
          obtain ⟨content, temp, rfl⟩ := done
          exact ⟨.inr (.inr ⟨p, cmd, rfl⟩), .inr (.inl rfl), still rfl⟩
  | unlinkTemp =>
      cases outcome with
      | error exc => exact effect_same done
      | ok result =>
          obtain rfl := done
          exact ⟨.inl rfl, .inr (.inl rfl), still rfl⟩
  | unlink =>
      cases outcome with
      | error exc => exact effect_same done
      | ok there =>
          obtain ⟨rfl, rfl⟩ := done
          refine ⟨?_, .inl rfl, still rfl⟩
          cases main : s.main with
          | none => exact .inl rfl
          | some content => exact .inr (.inl ⟨rfl, p, cmd, rfl⟩)
  | readText =>
      cases outcome with
      | error exc => exact effect_same done
      | ok raw => exact effect_same done.2
  | ps pid =>
      cases outcome with
      | error exc => exact effect_same done
      | ok answer => exact effect_same done.2
  | kill pid signal =>
      cases outcome with
      | error exc => exact effect_same done
      | ok answer => exact effect_same done.2
  | _ => cases outcome <;> exact effect_same done

theorem effect_launched {cmd : Cmd} :
    Effect s ((host codec).launch p cmd s) (.launched p cmd : Event codec) where
  main := .inl rfl
  temp := .inl rfl
  gone pid gone := by
    by_cases same : 0 < p ∧ (p : Int) = pid
    · exact .inr ⟨p, cmd, same.1, same.2, rfl⟩
    · refine .inl fun q positive named => ?_
      have different : q ≠ p := by
        rintro rfl
        exact same ⟨positive, named⟩
      exact (assign_of_ne _ different _).trans (gone q positive named)

theorem effect_closed {event : Event codec} : Effect s ((host codec).close p s) event where
  main := .inl rfl
  temp := .inl rfl
  gone pid gone := by
    refine .inl fun q positive named => ?_
    by_cases same : q = p
    · rw [same]
      exact assign_self ..
    · exact (assign_of_ne _ same _).trans (gone q positive named)

/-- What is known of a process and of the files. -/
structure Placing (history : History codec) (s : Files Content) (p : TaskId) (cmd : Cmd)
    (g : Progress Content) : Prop where
  named : g.pid = p
  role : g.serves = cmd.serves
  holds : g.basis.Holds history s p
  published : ∀ payload, g.basis = .published payload → g.serves = true ∧ Names codec p payload
  unpublished : (∀ payload, g.basis ≠ .published payload) →
    ∀ entry ∈ own p history, ¬ Publishes entry.2

theorem own_called_all {cmd : Cmd} {w : Call Content} {outcome : Except SystemException w.Result}
    {kind : Event codec → Prop} (all : ∀ entry ∈ own p history, ¬ kind entry.2)
    (now : ¬ kind (.called p cmd w outcome)) :
    ∀ entry ∈ own p (history ++ [(s, .called p cmd w outcome)]), ¬ kind entry.2 := by
  intro entry among
  rw [own_called] at among
  rcases List.mem_append.mp among with old | new
  · exact all entry old
  · obtain rfl := List.mem_singleton.mp new
    exact now

/-- Nobody else has anything to do with what a process rests on. -/
theorem Placing.other {cmd : Cmd} {g : Progress Content} (placing : Placing history s p cmd g)
    (effect : Effect s s' event) (elsewhere : event.process ≠ p) :
    Placing (history ++ [(s, event)]) s' p cmd g where
  named := placing.named
  role := placing.role
  holds := placing.holds.later effect fun mover => absurd mover elsewhere
  published := placing.published
  unpublished := by
    rw [own_other elsewhere]
    exact placing.unpublished

/-- A call that the process does not rest on. -/
theorem Placing.neutral {cmd : Cmd} {g : Progress Content} {w : Call Content}
    {outcome : Except SystemException w.Result} (placing : Placing history s p cmd g)
    (done : call p w s outcome s') (neutral : Neutral p (.called p cmd w outcome : Event codec)) :
    Placing (history ++ [(s, .called p cmd w outcome)]) s' p cmd g where
  named := placing.named
  role := placing.role
  holds := placing.holds.later (effect_called done) fun _ => neutral
  published := placing.published
  unpublished before := own_called_all (placing.unpublished before) neutral.publishes

/-- A call is neutral if it is neither a reading nor a writing nor a renaming that succeeds. -/
theorem neutral_called {cmd : Cmd} {w : Call Content} {outcome : Except SystemException w.Result}
    (reads : ¬ Reads (.called p cmd w outcome : Event codec))
    (writes : ¬ Writes (.called p cmd w outcome : Event codec))
    (publishes : ¬ Publishes (.called p cmd w outcome : Event codec)) :
    Neutral p (.called p cmd w outcome : Event codec) :=
  ⟨reads, writes, publishes, by rintro _ ⟨⟩⟩

/-- A look at the processes can only show that the one named by the text is gone. -/
theorem Placing.missing {cmd : Cmd} {g : Progress Content} {pid : Int}
    (placing : Placing history s p cmd g) (gone : Gone s pid) :
    Placing history s p cmd { g with basis := g.basis.missing pid } := by
  obtain ⟨q, serves, basis⟩ := g
  obtain ⟨named, role, holds, published, unpublished⟩ := placing
  cases basis with
  | read raw =>
      cases raw with
      | none => exact ⟨named, role, holds, published, unpublished⟩
      | some raw =>
          refine ⟨named, role, ?_, by rintro _ ⟨⟩, fun _ => unpublished (by rintro _ ⟨⟩)⟩
          obtain ⟨early, late, since, kept⟩ := holds
          exact ⟨early, late, since, kept, .inl gone⟩
  | _ => exact ⟨named, role, holds, published, unpublished⟩

/-- A process goes on with what it rests on. -/
theorem Placing.called {cmd : Cmd} {g : Progress Content} {w : Call Content}
    {outcome : Except SystemException w.Result} (placing : Placing history s p cmd g)
    (may : mayCall codec w g) (done : call p w s outcome s') :
    Placing (history ++ [(s, .called p cmd w outcome)]) s' p cmd
      { g with basis := afterCall w outcome.toOption g.basis } := by
  have same (neutral : Neutral p (.called p cmd w outcome : Event codec)) :=
    placing.neutral done neutral
  cases w with
  | readText =>
      cases outcome with
      | error exc => exact same (neutral_called (by rintro ⟨_, _, _, ⟨⟩⟩) (by rintro ⟨_, _, _, _, ⟨⟩⟩)
          (by rintro ⟨_, _, ⟨⟩⟩))
      | ok raw =>
          have client : g.serves = false := may
          have before (payload : Content) : g.basis ≠ .published payload := fun published =>
            Bool.false_ne_true (client.symm.trans (placing.published payload published).1)
          refine ⟨placing.named, placing.role, ?_, by rintro _ ⟨⟩, fun _ =>
            own_called_all (placing.unpublished before) (by rintro ⟨_, _, ⟨⟩⟩)⟩
          exact ⟨_, _, Since.now rfl ⟨p, cmd, raw, rfl⟩, .inl (by rw [done.1, done.2])⟩
  | writeTemp payload =>
      have before (other : Content) : g.basis ≠ .published other := by
        rw [may.2]
        rintro ⟨⟩
      have never : ∀ entry ∈ own p (history ++ [(s, .called p cmd (.writeTemp payload) outcome)]),
          ¬ Publishes entry.2 :=
        own_called_all (placing.unpublished before) (by rintro ⟨_, _, ⟨⟩⟩)
      cases outcome with
      | error exc =>
          refine ⟨placing.named, placing.role, ?_, ?_, fun _ => never⟩
          · change g.basis.Holds _ _ _
            rw [may.2]
            exact trivial
          · exact placing.published
      | ok result =>
          refine ⟨placing.named, placing.role, ?_, by rintro _ ⟨⟩, fun _ => never⟩
          obtain rfl := done
          exact ⟨_, _, Since.now rfl ⟨p, cmd, payload, .ok (), rfl⟩, .inl rfl⟩
  | replace =>
      obtain ⟨serves, payload, names, basis⟩ := may
      cases outcome with
      | error exc => exact same (neutral_called (by rintro ⟨_, _, _, ⟨⟩⟩) (by rintro ⟨_, _, _, _, ⟨⟩⟩)
          (by rintro ⟨_, _, ⟨⟩⟩))
      | ok result =>
          have holds := placing.holds
          rw [basis] at holds
          obtain ⟨early, late, since, kept⟩ := holds
          obtain ⟨content, temp, rfl⟩ := done
          have publishes : Publishes (.called p cmd .replace (.ok result) : Event codec) :=
            ⟨p, cmd, rfl⟩
          refine ⟨placing.named, placing.role, ?_, ?_, fun before => ?_⟩
          · dsimp only [afterCall, Except.toOption]
            rw [basis]
            refine ⟨_, _, Since.now rfl publishes, ?_⟩
            rcases kept with kept | none | another
            · exact .inl (temp.symm.trans kept)
            · rw [none] at temp
              cases temp
            · exact .inr (.inr (.inr ⟨_, _, early, late, Since.now rfl publishes, since, another⟩))
          · dsimp only [afterCall, Except.toOption]
            rw [basis]
            rintro _ ⟨⟩
            exact ⟨serves, placing.named ▸ names⟩
          · dsimp only [afterCall, Except.toOption] at before
            rw [basis] at before
            exact absurd rfl (before payload)
  | ps pid =>
      have neutral : Neutral p (.called p cmd (.ps pid) outcome : Event codec) :=
        neutral_called (by rintro ⟨_, _, _, ⟨⟩⟩) (by rintro ⟨_, _, _, _, ⟨⟩⟩) (by rintro ⟨_, _, ⟨⟩⟩)
      cases outcome with
      | error exc => exact same neutral
      | ok answer =>
          obtain ⟨returncode, stdout⟩ := answer
          obtain ⟨gone, rfl⟩ := done
          dsimp only [afterCall, Except.toOption]
          split
          · rename_i zombie
            obtain ⟨zero, zombie⟩ := Bool.and_eq_true_iff.mp zombie
            exact (same neutral).missing (gone (eq_of_beq zero) zombie)
          · exact same neutral
  | kill pid signal =>
      have neutral : Neutral p (.called p cmd (.kill pid signal) outcome : Event codec) :=
        neutral_called (by rintro ⟨_, _, _, ⟨⟩⟩) (by rintro ⟨_, _, _, _, ⟨⟩⟩) (by rintro ⟨_, _, ⟨⟩⟩)
      cases outcome with
      | error exc => exact same neutral
      | ok answer =>
          obtain ⟨gone, rfl⟩ := done
          dsimp only [afterCall, Except.toOption]
          split
          · rename_i missing
            exact (same neutral).missing (gone missing)
          · exact same neutral
  | _ =>
      cases outcome <;> exact same (neutral_called (by rintro ⟨_, _, _, ⟨⟩⟩)
        (by rintro ⟨_, _, _, _, ⟨⟩⟩) (by rintro ⟨_, _, ⟨⟩⟩))

/-- What is known holds of every process. -/
def Inv (history : History codec) (table : Coop.Host.Table (host codec) (Progress Content))
    (s : Files Content) : Prop :=
  ∀ p cmd g, table p = some (cmd, g) → Placing history s p cmd g

variable {table : Coop.Host.Table (host codec) (Progress Content)} {cmd : Cmd} {g : Progress Content}

theorem inv_initial {main : Option Content} :
    Inv ([] : History codec) (fun _ => none) (Files.initial main) := by
  intro p cmd g found
  cases found

theorem inv_launched (inv : Inv history table s) :
    Inv (history ++ [(s, .launched p cmd)])
      (assign table p (some (cmd, ⟨p, cmd.serves, .nothing⟩))) ((host codec).launch p cmd s) := by
  refine Coop.forall_assign (P := fun q entry => ∀ other g, entry = some (other, g) →
    Placing (history ++ [(s, .launched p cmd)]) ((host codec).launch p cmd s) q other g) ?_ ?_
  · rintro _ _ ⟨⟩
    refine ⟨rfl, rfl, trivial, by rintro _ ⟨⟩, fun _ entry among => ?_⟩
    rw [own_launched] at among
    cases among
  · intro q different other g entry
    exact (inv q other g entry).other effect_launched (Ne.symm different)

theorem inv_called {w : Call Content} {outcome : Except SystemException w.Result}
    (inv : Inv history table s) (found : table p = some (cmd, g)) (may : mayCall codec w g)
    (done : call p w s outcome s') :
    Inv (history ++ [(s, .called p cmd w outcome)])
      (assign table p (some (cmd, { g with basis := afterCall w outcome.toOption g.basis }))) s' := by
  refine Coop.forall_assign (P := fun q entry => ∀ other g, entry = some (other, g) →
    Placing (history ++ [(s, .called p cmd w outcome)]) s' q other g) ?_ ?_
  · rintro _ _ ⟨⟩
    exact (inv p cmd g found).called may done
  · intro q different other g entry
    exact (inv q other g entry).other (effect_called done) (Ne.symm different)

theorem inv_gone (inv : Inv history table s) (gone : event.process = p) :
    Inv (history ++ [(s, event)]) (assign table p none) ((host codec).close p s) := by
  refine Coop.forall_assign (P := fun q entry => ∀ other g, entry = some (other, g) →
    Placing (history ++ [(s, event)]) ((host codec).close p s) q other g) ?_ ?_
  · rintro _ _ ⟨⟩
  · intro q different other g entry
    exact (inv q other g entry).other effect_closed fun mover => different (mover.symm.trans gone)

theorem keeps : (watch codec).Keeps (fun _ _ _ => True) Inv where
  launched _ _ _ _ _ inv _ _ := inv_launched inv
  executed _ _ _ _ _ _ a := a.elim
  called _ _ _ _ _ _ _ _ _ inv found _ may done := inv_called inv found may done
  lapsed _ _ _ _ _ _ _ _ _ _ _ timeable := timeable.elim
  ended _ _ _ _ _ _ _ inv _ _ _ := inv_gone inv rfl
  killed _ _ _ _ _ _ inv _ _ := inv_gone inv rfl

/-! ## The main result -/

open Coop.Host (Run Step Group)

/-- How a process can come to remove the lockfile of another one that is there. -/
inductive Mishap (p : TaskId) (pid : Int) (history : History codec) (cmd : Cmd) : Prop
  /-- Since it read last, another lockfile was put in place, or a process with the pid started. -/
  | outdated {early late : History codec} (client : cmd.serves = false)
      (since : Since p Reads history early late)
      (moved : Another p Publishes late ∨ Happened (Starts pid) late)
  /-- A gateway gave up before it had put anything in place. -/
  | abandoned (gateway : cmd.serves = true) (never : ∀ entry ∈ own p history, ¬ Publishes entry.2)
  /-- Another gateway came after it. -/
  | replaced {early late : History codec} (gateway : cmd.serves = true)
      (since : Since p Publishes history early late) (another : Another p Publishes late)
  /-- What it put in place was not what it had written. -/
  | mixed (gateway : cmd.serves = true) (mixed : Mixed p history)

/-- A client that removes the lockfile of another process has been outrun. -/
theorem Placing.outdated {content : Content} {data : LockfileData} {q : TaskId}
    (placing : Placing history s p cmd g) (client : g.serves = false)
    (may : mayUnlink codec g) (main : s.main = some content)
    (valid : codec.modelValidateJson content = .ok data) (named : data.pid = q) (positive : 0 < q)
    (there : s.alive q = true) : Mishap p q history cmd := by
  rw [mayUnlink, client] at may
  obtain ⟨raw, read, before, basis⟩ := may
  have holds := placing.holds
  rw [basis] at holds
  obtain ⟨early, late, since, kept, gone⟩ := holds
  refine .outdated (placing.role.symm.trans client) since ?_
  rcases kept with kept | none | another
  · obtain rfl := Option.some.inj (main.symm.trans kept)
    obtain rfl := Except.ok.inj (valid.symm.trans before)
    rw [named] at gone
    refine .inr (gone.resolve_left fun gone => ?_)
    rw [gone q positive rfl] at there
    cases there
  · rw [none] at main
    cases main
  · exact .inl another

/-- So has a gateway, unless it never published. -/
theorem Placing.overtaken {content : Content} {data : LockfileData} {q : TaskId}
    (roundTrips : codec.RoundTrips) (placing : Placing history s p cmd g)
    (gateway : g.serves = true) (may : mayUnlink codec g) (main : s.main = some content)
    (valid : codec.modelValidateJson content = .ok data) (named : data.pid = q) (other : q ≠ p) :
    Mishap p q history cmd := by
  have serves : cmd.serves = true := placing.role.symm.trans gateway
  rw [mayUnlink, gateway] at may
  rcases may with basis | ⟨payload, ⟨written, pid, rfl⟩, basis⟩
  · refine .abandoned serves (placing.unpublished fun payload published => ?_)
    rw [basis] at published
    cases published
  · have holds := placing.holds
    rw [basis] at holds
    obtain ⟨early, late, since, kept⟩ := holds
    rcases kept with kept | ⟨none, -⟩ | another | mixed
    · obtain rfl := Option.some.inj (main.symm.trans kept)
      obtain rfl := Except.ok.inj (valid.symm.trans (roundTrips written))
      rw [named, placing.named] at pid
      exact absurd (Int.ofNat_inj.mp pid) other
    · rw [none] at main
      cases main
    · exact .replaced serves since another
    · exact .mixed serves mixed

/--
Whatever gateways, stops and clients do, and wherever they are killed: a process that
removes the lockfile of another one that is there has been outrun in one of four ways; and
what a gateway has put in place stays until it is removed or replaced, unless another
process had written the temporary file in between.
-/
theorem lockfile_ownership (codec : Codec Content) (roundTrips : codec.RoundTrips)
    {main : Option Content} {history : History codec} {grp : Group (host codec)}
    (run : Run (Files.initial main) (fun _ _ _ => True) history grp) :
    (∀ p cmd grp', Step grp (.called p cmd .unlink (.ok true)) grp' →
      ∀ content data, grp.state.main = some content →
        codec.modelValidateJson content = .ok data → ∀ q : TaskId, data.pid = q → 0 < q →
        q ≠ p → grp.state.alive q = true → Mishap p q history cmd) ∧
      ∀ p process, grp.running p = some process → (∃ entry ∈ own p history, Publishes entry.2) →
        ∃ early late, Since p Publishes history early late ∧
          ((∃ data : LockfileData, data.pid = p ∧
              grp.state.main = some (codec.modelDumpJson data)) ∨
            grp.state.main = none ∧ Happened Removes late ∨ Another p Publishes late ∨
              Mixed p history) := by
  obtain ⟨table, fits, inv⟩ := keeps.reached inv_initial run
  refine ⟨fun p cmd grp' taken content data found valid q named positive other there => ?removal,
    fun p process running published => ?stays⟩
  case removal =>
    obtain ⟨g, entry, may, -⟩ := Coop.Host.Watch.Fits.called fits taken
    have placing := inv p cmd g entry
    cases role : g.serves with
    | false => exact placing.outdated role may found valid named positive there
    | true => exact placing.overtaken roundTrips role may found valid named other
  case stays =>
    obtain ⟨cmd, rest⟩ := process
    obtain ⟨g, entry, -⟩ := (running ▸ fits p).entry
    have placing := inv p cmd g entry
    obtain ⟨payload, basis⟩ : ∃ payload, g.basis = .published payload := by
      by_contra none
      obtain ⟨entry, among, publishes⟩ := published
      exact placing.unpublished (fun payload basis => none ⟨payload, basis⟩) entry among publishes
    obtain ⟨-, data, pid, rfl⟩ := placing.published payload basis
    have holds := placing.holds
    rw [basis] at holds
    obtain ⟨early, late, since, kept⟩ := holds
    exact ⟨early, late, since, kept.imp_left fun kept => ⟨data, pid, kept⟩⟩

end Runs

/-! ## A gateway that gives up -/

def lockfileKeys : List String :=
  ["pid", "host", "port", "token", "started_at", "config_path", "version"]

def lockfileOfValues : List Json → Except String LockfileData
  | [ .num pid _, .str host, .num port _, .str token, .str startedAt, .str configPath
    , .str version ] => .ok { pid, host, port, token, startedAt, configPath, version }
  | _ => .error "validation error for LockfileData"

/-- JSON documents; a document is read where it is laid out as it is written. -/
def jsonCodec : Codec Json where
  modelDumpJson data := .obj (lockfileKeys.zip
    [ .num data.pid 0, .str data.host, .num data.port 0, .str data.token, .str data.startedAt
    , .str data.configPath, .str data.version ])
  modelValidateJson
    | .obj fields =>
        if fields.map Prod.fst = lockfileKeys then lockfileOfValues (fields.map Prod.snd)
        else .error "validation error for LockfileData"
    | _ => .error "validation error for LockfileData"

theorem jsonCodec_roundTrips : jsonCodec.RoundTrips := by
  intro data
  simp [jsonCodec, lockfileKeys, lockfileOfValues]

def firstSettings : ServeSettings := ⟨"127.0.0.1", "b3BlbiBzZXNhbWU"⟩

def secondSettings : ServeSettings := ⟨"127.0.0.1", "c2Vjb25k"⟩

/-- The lockfile of the first gateway, with pid 7. -/
def servingLockfile : LockfileData where
  pid := 7
  host := firstSettings.host
  port := 9020
  token := firstSettings.bearerToken
  startedAt := "2026-01-01T00:00:00Z"
  configPath := "/root/tela.yaml"
  version := "0.1.2"

/--
A gateway has put its lockfile in place; a second one finds its server uninitialized, and
removes the lockfile of the first.
-/
theorem lockfile_ownership_abandoned :
    ∃ (history : History jsonCodec) (grp : Coop.Host.Group (host jsonCodec)),
      Coop.Host.Run (Files.initial none) (fun _ _ _ => True) history grp ∧
      grp.state.main = some (jsonCodec.modelDumpJson servingLockfile) ∧
      grp.state.alive 7 = true ∧ Mishap 9 7 history (.serve secondSettings) := by
  have idle := Coop.Host.Reaches.none (H := host jsonCodec) (Files.initial none)
  have launched := idle.launch 7 (.serve firstSettings) rfl
  have prepared := launched.call 7 rfl (.ok (.ok ())) rfl
  have timed := prepared.call 7 rfl (.ok (.ok "2026-01-01T00:00:00Z")) rfl
  have versioned := timed.call 7 rfl (.ok (.ok "0.1.2")) rfl
  have asked := versioned.call 7 rfl (.ok (.ok true)) rfl
  have mounted := asked.call 7 rfl (.ok (.ok ())) rfl
  have bound := mounted.call 7 rfl (.ok (.ok 9020)) rfl
  have resolved := bound.call 7 rfl (.ok "/root/tela.yaml") rfl
  have directory := (resolved.call 7 rfl (.ok ()) rfl).call 7 rfl (.ok ()) rfl
  have written := (directory.call 7 rfl (.ok ()) rfl).call 7 rfl (.ok ()) rfl
  have published := written.call 7 rfl (.ok ()) ⟨_, rfl, rfl⟩
  have launched := published.launch 9 (.serve secondSettings) rfl
  have prepared := launched.call 9 rfl (.ok (.ok ())) rfl
  have timed := prepared.call 9 rfl (.ok (.ok "2026-01-02T00:00:00Z")) rfl
  have versioned := timed.call 9 rfl (.ok (.ok "0.1.2")) rfl
  have asked := versioned.call 9 rfl (.ok (.ok false)) rfl
  obtain ⟨history, run⟩ := asked.call 9 rfl (.ok ()) rfl
  refine ⟨history, _, run, rfl, rfl, ?_⟩
  exact (lockfile_ownership jsonCodec jsonCodec_roundTrips run).1 9 (.serve secondSettings) _
    (.called rfl ⟨rfl, rfl⟩) _ servingLockfile rfl rfl 7 rfl (by decide) (by decide) rfl

end Tela.Lockfile
