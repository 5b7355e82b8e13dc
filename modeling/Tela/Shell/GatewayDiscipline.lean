import Tela.Library.Monitor
import Tela.Shell.GatewaySystem

/-!
# What each gateway task may do, and when

A trace records which steps a task still owes: a count for a connection it has
added or removed, a session it must release. Every program pays what it owes
before it ends.
-/

namespace Tela

namespace Gateway

open Coop

/-- What a task serves and owes. -/
structure Trace where
  session : Option UpstreamSession := none
  /-- The identifier that the task's initialize has drawn, or whose registration it has found. -/
  named : Option String := none
  /-- The connection that the task's own initialize has added. -/
  admitted : Option String := none
  /-- The connection that the task's tools request has resolved. -/
  resolved : Option ConnectionContext := none
  idleLock : Bool := false
  /-- What the task has still to count: an addition (`true`) or a removal. -/
  owed : Option Bool := none
  /-- The bridge whose old session the task is about to release. -/
  releasing : Option String := none
  /-- An await that cannot fail has failed. -/
  interrupted : Bool := false

namespace Trace

/-- The task owes nothing. -/
structure Paid (g : Trace) : Prop where
  owed : g.owed = none
  releasing : g.releasing = none
  idleLock : g.idleLock = false

def Done (g : Trace) : Prop := g.interrupted = true ∨ g.Paid

end Trace

/-! ## The monitor -/

/-- The trace in which a block may run. -/
def Act.may : Act → Trace → Prop
  | removeRuntimeConnection _, g => g.Paid
  | addRuntimeConnection ctx, g => g.Paid ∧ g.named = some ctx.connectionId
  | captureSession connectionId session .initialized, g =>
      g.session = some session ∧ g.admitted = some connectionId
  | captureSession _ _ .adopted, _ => False
  | captureSession connectionId session .recaptured, g =>
      g.session = some session ∧
        ∃ conn, g.resolved = some conn ∧ conn.connectionId = connectionId
  | releaseSession connectionId, g => g.releasing = none ∨ g.releasing = some connectionId
  | disconnect _, g => g.Paid
  | sweepConnection _ _, g => g.Paid
  | ensureConnection session, g => g.session = some session
  | ensureBoundConnection session, g => g.session = some session
  | enforced session profileId, g =>
      g.session = some session ∧ ∃ conn, g.resolved = some conn ∧ conn.profileId = profileId
  | increment, g => g.owed = some true ∧ g.idleLock = true
  | decrement retired, g => g.owed = some false ∧ g.idleLock = true ∧ g.releasing = retired
  | releaseIdleLock, g => g.owed = none ∧ g.idleLock = true
  | _, _ => True

/-- What is owed after a block that says whether it must be counted. -/
def owing (counted added : Bool) : Option Bool := if counted then some added else none

/-- The trace after a block. -/
def Act.after : (a : Act) → a.Val → Trace → Trace
  | newConnectionId, connectionId, g => { g with named := some connectionId }
  | hasBridgeRegistration connectionId, .ok true, g => { g with named := some connectionId }
  | removeRuntimeConnection connectionId, removed, g =>
      { g with owed := owing removed.2 false, releasing := some connectionId }
  | addRuntimeConnection ctx, counted, g =>
      { g with owed := owing counted true, admitted := some ctx.connectionId }
  | releaseSession _, _, g => { g with releasing := none }
  | disconnect _, handled, g => { g with owed := owing (handled.toOption.any Prod.snd) false }
  | sweepConnection _ _, uncount, g => { g with owed := owing uncount false }
  | ensureConnection _, .ok conn, g => { g with resolved := some conn }
  | ensureBoundConnection _, .ok conn, g => { g with resolved := some conn }
  | increment, _, g => { g with owed := none }
  | decrement _, counted, g =>
      { g with owed := none, releasing := if counted then g.releasing else none }
  | releaseIdleLock, _, g => { g with idleLock := false }
  | _, _, g => g

/-- The trace in which a task may wait. -/
def Wait.may : Wait → Trace → Prop
  | idleLock, g => g.idleLock = false ∧ g.owed.isSome = true
  | _, g => g.owed = none

/-- The trace after a wait; no result stands for an exception. -/
def Wait.woken : (w : Wait) → Option w.Res → Trace → Trace
  | idleLock, some _, g => { g with idleLock := true }
  | idleLock, none, g => { g with interrupted := true }
  | timer _, none, g => { g with interrupted := true }
  | converged, none, g => { g with interrupted := true }
  | _, _, g => g

/-- Traces of gateway tasks. -/
def monitor : Monitor sig Trace where
  may := Act.may
  after := Act.after
  mayWait := Wait.may
  woken := Wait.woken
  mayTime _ := True
  mayTime_after _ := trivial
  mayTime_woken _ := trivial

/-! ## Every program keeps to it -/

variable {α β : Type} {g : Trace} {Q : α → Trace → Prop}

/-- The program keeps to the monitor and returns as stated. -/
abbrev Keeps (onRet : α → Trace → Prop) (x : Prog α) (g : Trace) : Prop :=
  Follows monitor onRet (fun _ => Trace.Done) x g

theorem keeps_act_bind {a : Act} {rest : a.Val → Prog α} :
    Keeps Q (act a >>= rest) g ↔ a.may g ∧ ∀ v, Keeps Q (rest v) (a.after v g) := Iff.rfl

theorem keeps_bind {x : Prog β} {rest : β → Prog α} :
    Keeps Q (x >>= rest) g ↔ Keeps (fun value g' => Keeps Q (rest value) g') x g :=
  Follows.bind_iff

/-- An await that cannot fail. -/
theorem keeps_pause_bind {w : Wait} {rest : w.Res → Prog α}
    (sure : (w.woken none g).interrupted = true) (may : w.may g)
    (next : ∀ result, Keeps Q (rest result) (w.woken (some result) g)) :
    Keeps Q (pause w >>= rest) g :=
  keeps_bind.mpr (Follows.await_iff.mpr ⟨may, next, fun _ => .inl sure⟩)

/-- An await that changes nothing, at the end of a program. -/
theorem keeps_pause {w : Wait} {Q : w.Res → Trace → Prop} (may : w.may g)
    (same : ∀ r, w.woken r g = g) (done : g.Done) (next : ∀ result, Q result g) :
    Keeps Q (pause w) g := by
  refine Follows.await_iff.mpr ⟨may, fun result => ?_, fun _ => ?_⟩
  · change Q result (w.woken (some result) g)
    rw [same]
    exact next result
  · change Trace.Done (w.woken none g)
    rwa [same]

theorem keeps_increment {rest : Unit → Prog α} (free : g.idleLock = false)
    (owed : g.owed = some true) (next : Keeps Q (rest ()) { g with owed := none }) :
    Keeps Q (increment >>= rest) g := by
  obtain ⟨session, named, admitted, resolved, idleLock, owed, releasing, interrupted⟩ := g
  cases free
  cases owed
  refine keeps_bind.mpr (keeps_pause_bind rfl ⟨rfl, rfl⟩ fun _ => ?_)
  refine keeps_act_bind.mpr ⟨⟨rfl, rfl⟩, fun cancelled => ?_⟩
  cases cancelled with
  | none => exact ⟨⟨rfl, rfl⟩, fun _ => next⟩
  | some timer =>
      refine ⟨rfl, ?_⟩
      rintro (exc | _)
      · exact .inl rfl
      · exact ⟨trivial, fun _ => ⟨⟨rfl, rfl⟩, fun _ => next⟩⟩

/-- A count that cannot go down ends the debt and the release as well. -/
theorem keeps_decrement {rest : Except String Unit → Prog α} {retired : Option String}
    (free : g.idleLock = false) (owed : g.owed = some false) (retires : g.releasing = retired)
    (counted : Keeps Q (rest (.ok ())) { g with owed := none })
    (underflow : ∀ error, Keeps Q (rest (.error error))
      { g with owed := none, releasing := none }) :
    Keeps Q (decrement retired >>= rest) g := by
  obtain ⟨session, named, admitted, resolved, idleLock, owed, releasing, interrupted⟩ := g
  cases free
  cases owed
  refine keeps_bind.mpr (keeps_pause_bind rfl ⟨rfl, rfl⟩ fun _ => ?_)
  refine keeps_act_bind.mpr ⟨⟨rfl, rfl, retires⟩, fun above => ?_⟩
  refine keeps_act_bind.mpr ⟨⟨rfl, rfl⟩, fun _ => ?_⟩
  cases above with
  | true => exact counted
  | false => exact underflow _

/-- A removal is uncounted when that is owed. -/
theorem keeps_decrement_if {counted : Bool} (releasing : g.releasing = none)
    (free : g.idleLock = false) (owed : g.owed = owing counted false) :
    Keeps (fun _ => Trace.Paid)
      (if counted then (do
        let _ ← decrement none
        return ()) else return ()) g := by
  cases counted with
  | true =>
      exact keeps_decrement free owed releasing ⟨rfl, releasing, free⟩ fun _ => ⟨rfl, rfl, free⟩
  | false => exact ⟨owed, releasing, free⟩

theorem paid_begin (session : Option UpstreamSession) : ({ session } : Trace).Paid :=
  ⟨rfl, rfl, rfl⟩

/-! ## The programs -/

/-- What the initialize handler leaves behind: it is paid, and has added what it returns. -/
def Initialized (result : Except String ConnectionContext) (g g' : Trace) : Prop :=
  g'.Paid ∧ g'.session = g.session ∧
    ∀ ctx, result = .ok ctx → g'.admitted = some ctx.connectionId

theorem initialized_error {error : String} {g g' : Trace} (paid : g'.Paid)
    (same : g'.session = g.session) : Initialized (.error error) g g' :=
  ⟨paid, same, fun _ found => nomatch found⟩

theorem keeps_admitConnection {platform : Platform} {config : TelaConfig}
    {clientInfo : JsonObject} {connectionId : String} (paid : g.Paid)
    (named : g.named = some connectionId) :
    Keeps (fun result g' => Initialized result g g')
      (admitConnection platform config clientInfo connectionId) g := by
  refine keeps_act_bind.mpr ⟨trivial, fun now => ?_⟩
  refine keeps_act_bind.mpr ⟨trivial, fun secrets => ?_⟩
  split
  · exact .inr paid
  · exact initialized_error paid rfl
  · have added (owed : Option Bool) (ctx : ConnectionContext) : Initialized (.ok ctx) g
        { g with owed := none, admitted := some ctx.connectionId } :=
      ⟨⟨rfl, paid.releasing, paid.idleLock⟩, rfl, by rintro _ ⟨⟩; rfl⟩
    refine keeps_act_bind.mpr ⟨⟨paid, named⟩, fun counted => ?_⟩
    cases counted with
    | false => exact added none _
    | true => exact keeps_increment paid.idleLock rfl (added none _)

theorem keeps_retireBridge {bridgeConnectionId : String} (paid : g.Paid) :
    Keeps (fun result g' => g'.Paid ∧ g'.session = g.session ∧
      (result = .ok () → g'.named = some bridgeConnectionId)) (retireBridge bridgeConnectionId) g := by
  refine keeps_act_bind.mpr ⟨trivial, fun registered => ?_⟩
  split
  · exact ⟨paid, rfl, nofun⟩
  · exact ⟨paid, rfl, nofun⟩
  · refine keeps_act_bind.mpr ⟨⟨paid.owed, paid.releasing, paid.idleLock⟩, fun removed => ?_⟩
    obtain ⟨removed, counted⟩ := removed
    cases counted with
    | false => exact ⟨.inr rfl, fun _ => ⟨⟨rfl, rfl, paid.idleLock⟩, rfl, fun _ => rfl⟩⟩
    | true =>
        refine keeps_decrement paid.idleLock rfl rfl ?_ fun error => ?_
        · exact ⟨.inr rfl, fun _ => ⟨⟨rfl, rfl, paid.idleLock⟩, rfl, fun _ => rfl⟩⟩
        · exact ⟨⟨rfl, rfl, paid.idleLock⟩, rfl, nofun⟩

theorem keeps_handleInitialize {platform : Platform} {clientInfo : JsonObject} (paid : g.Paid) :
    Keeps (fun result g' => Initialized result g g') (handleInitialize platform clientInfo) g := by
  refine keeps_act_bind.mpr ⟨trivial, fun config => ?_⟩
  split
  · exact initialized_error paid rfl
  · split
    · refine keeps_bind.mpr ((keeps_retireBridge paid).mono (fun result g' kept => ?_) fun _ _ h => h)
      obtain ⟨paid, same, named⟩ := kept
      split
      · exact initialized_error paid same
      · refine (keeps_admitConnection paid (named rfl)).mono (fun result g'' initialized => ?_)
          fun _ _ h => h
        exact ⟨initialized.1, initialized.2.1.trans same, initialized.2.2⟩
    · refine keeps_act_bind.mpr ⟨trivial, fun connectionId => ?_⟩
      exact keeps_admitConnection ⟨paid.owed, paid.releasing, paid.idleLock⟩ rfl

theorem keeps_receivedInitialize {platform : Platform} {session : UpstreamSession}
    {clientInfo : JsonObject} :
    Keeps (fun _ => Trace.Done) (receivedInitialize platform session clientInfo)
      { session := some session } := by
  refine keeps_bind.mpr ((keeps_handleInitialize (paid_begin _)).mono (fun result g' kept => ?_)
    fun _ _ h => h)
  obtain ⟨paid, same, added⟩ := kept
  split
  · exact keeps_pause paid.owed (fun _ => rfl) (.inr paid) fun _ => .inr paid
  · rename_i ctx
    refine keeps_act_bind.mpr ⟨⟨same, added ctx rfl⟩, fun captured => ?_⟩
    split
    · refine keeps_act_bind.mpr ⟨trivial, fun _ => ?_⟩
      exact keeps_pause paid.owed (fun _ => rfl) (.inr paid) fun _ => .inr paid
    · refine ⟨paid.owed, ?_⟩
      rintro (exc | _)
      · change Keeps _ (if exc.isException then _ else _) g'
        split
        · exact ⟨trivial, fun _ => .inr paid⟩
        · exact .inr paid
      · exact .inr paid

theorem keeps_waitForConvergence {rest : Unit → Prog α} (paid : g.owed = none)
    (next : Keeps Q (rest ()) g) : Keeps Q (waitForConvergence >>= rest) g := by
  refine keeps_bind.mpr (keeps_act_bind.mpr ⟨trivial, fun present => ?_⟩)
  cases present with
  | false => exact next
  | true =>
      refine ⟨paid, ?_⟩
      rintro (exc | _)
      · exact .inl rfl
      · exact next

theorem keeps_listTools {session : UpstreamSession} :
    Keeps (fun _ => Trace.Done) (listTools session) { session := some session } := by
  refine keeps_act_bind.mpr ⟨rfl, fun connection => ?_⟩
  cases connection with
  | error error => exact .inr (paid_begin _)
  | ok connection =>
      refine keeps_waitForConvergence rfl ⟨⟨rfl, connection, rfl, rfl⟩, fun _ => ?_⟩
      exact ⟨⟨rfl, connection, rfl, rfl⟩, fun _ => .inr ⟨rfl, rfl, rfl⟩⟩

theorem keeps_callTool {session : UpstreamSession} {builtin : Bool} :
    Keeps (fun _ => Trace.Done) (callTool session builtin) { session := some session } := by
  cases builtin with
  | true =>
      refine keeps_act_bind.mpr ⟨rfl, fun connection => ?_⟩
      cases connection with
      | error error => exact .inr ⟨rfl, rfl, rfl⟩
      | ok connection =>
          refine ⟨⟨rfl, connection, rfl, rfl⟩, fun _ => ?_⟩
          exact ⟨⟨rfl, connection, rfl, rfl⟩, fun _ => .inr ⟨rfl, rfl, rfl⟩⟩
  | false =>
      refine keeps_act_bind.mpr ⟨rfl, fun connection => ?_⟩
      cases connection with
      | error error => exact .inr ⟨rfl, rfl, rfl⟩
      | ok connection =>
          refine ⟨⟨rfl, connection, rfl, rfl⟩, fun _ => ?_⟩
          refine keeps_waitForConvergence rfl ?_
          exact ⟨⟨rfl, connection, rfl, rfl⟩, fun _ => .inr ⟨rfl, rfl, rfl⟩⟩

theorem keeps_disconnectRoute {connectionId : String} (paid : g.Paid) :
    Keeps (fun _ => Trace.Paid) (disconnectRoute connectionId) g := by
  refine keeps_act_bind.mpr ⟨paid, fun handled => ?_⟩
  cases handled with
  | error exc => exact .inr ⟨rfl, paid.releasing, paid.idleLock⟩
  | ok answered => exact keeps_decrement_if paid.releasing paid.idleLock rfl

theorem keeps_sweepRound {now : Int} {conn : ConnectionContext} (paid : g.Paid) :
    Keeps (fun _ => Trace.Paid) (sweepRound now conn) g := by
  refine keeps_act_bind.mpr ⟨paid, fun uncount => ?_⟩
  exact keeps_decrement_if paid.releasing paid.idleLock rfl

theorem keeps_sweep (paid : g.Paid) : Keeps (fun _ => Trace.Paid) sweep g := by
  refine keeps_act_bind.mpr ⟨trivial, fun connections => ?_⟩
  refine keeps_act_bind.mpr ⟨trivial, fun now => ?_⟩
  exact Follows.forM paid fun conn _ g paid => keeps_sweepRound paid

theorem keeps_notifyToolsChanged {connection : ConnectionContext} (paid : g.Paid) :
    Keeps (fun _ => Trace.Paid) (notifyToolsChanged connection) g := by
  refine keeps_act_bind.mpr ⟨trivial, fun session => ?_⟩
  split
  · exact paid
  · refine ⟨paid.owed, ?_⟩
    rintro (exc | _)
    · change Keeps _ (if exc.isException then _ else _) g
      split
      · exact ⟨.inl paid.releasing, fun _ => ⟨paid.owed, rfl, paid.idleLock⟩⟩
      · exact .inr paid
    · exact paid

theorem keeps_notifyAllConnections (paid : g.Paid) :
    Keeps (fun _ => Trace.Paid) notifyAllConnections g := by
  refine keeps_act_bind.mpr ⟨trivial, fun connections => ?_⟩
  exact Follows.forM paid fun conn _ g paid => keeps_notifyToolsChanged paid

/-- The trace with which a task starts. -/
def Req.begin : Req → Trace
  | .initializeRequest session _ => { session := some session }
  | .listTools session => { session := some session }
  | .callTool session _ => { session := some session }
  | _ => {}

theorem keeps_program (platform : Platform) (task : TaskId) (request : Req) :
    Keeps (fun _ => Trace.Done) (program platform task request) request.begin := by
  have ends {x : Prog Unit} {g : Trace} (keeps : Keeps (fun _ => Trace.Paid) x g) :
      Keeps (fun _ => Trace.Done) x g :=
    keeps.mono (fun _ _ paid => .inr paid) fun _ _ done => done
  have start := paid_begin none
  cases request with
  | clock now => exact .inr start
  | initializeRequest session clientInfo => exact keeps_receivedInitialize
  | listTools session => exact keeps_listTools
  | callTool session builtin => exact keeps_callTool
  | connect connectionId => exact ⟨trivial, fun _ => .inr start⟩
  | disconnect connectionId => exact ends (keeps_disconnectRoute start)
  | sweep => exact ends (keeps_sweep start)
  | notifyAllConnections => exact ends (keeps_notifyAllConnections start)
  | installIdleManager shutdownDisabled => exact ⟨trivial, fun _ => .inr start⟩
  | converged => exact ⟨trivial, fun _ => .inr start⟩
  | reload config => exact ⟨trivial, fun _ => .inr start⟩
  | timerExpired id => exact .inr start

/-- Every gateway task keeps to the monitor. -/
def discipline (platform : Platform) : Discipline (world platform) Trace where
  toMonitor := monitor
  idle := {}
  start _ request := request.begin
  done := Trace.Done
  follows := keeps_program platform

end Gateway

end Tela
