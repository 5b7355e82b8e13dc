import Tela.Library.Postcondition
import Tela.Shell.Effects

/-!
# How downstream programs end

Postconditions of the parts that several operations share. What other tasks may do
meanwhile is a relation that says nothing of locks, sessions and history.
-/

namespace Tela

open Coop

/-- The relation leaves everything but these parts of the state to anybody. -/
structure Lenient (rely : State → State → Prop) : Prop where
  rest : ∀ s s', s'.runtimeConfig = s.runtimeConfig → s'.registry = s.registry →
    s'.clients = s.clients → s'.startup = s.startup → s'.batches = s.batches →
    s.nextSerial ≤ s'.nextSerial → rely s s'
  trans : ∀ {s s₁ s'}, rely s s₁ → rely s₁ s' → rely s s'

/-- However the program ends among tasks that keep to the relation. -/
abbrev Leaves {α : Type} (rely : State → State → Prop) (task : TaskId)
    (heard : (w : Wait) → Except PyException w.Res → Prop)
    (post : Except PyException α → State → Prop) (x : Prog α) (s : State) : Prop :=
  Secures world rely task heard post x s

variable {α β : Type} {rely : State → State → Prop} {task : TaskId}
  {heard : (w : Wait) → Except PyException w.Res → Prop} {s s' : State}
  {post : Except PyException α → State → Prop}

namespace Lenient

theorem refl (lenient : Lenient rely) (s : State) : rely s s :=
  lenient.rest s s rfl rfl rfl rfl rfl (Nat.le_refl _)

theorem release (lenient : Lenient rely) (s : State) (task : TaskId) (lock : LockName) :
    rely s (s.releaseLock task lock) := by
  obtain ⟨_, _, same⟩ := State.releaseLock_frame s task lock
  rw [same]
  exact lenient.rest _ _ rfl rfl rfl rfl rfl (Nat.le_refl _)

/-- An await leaves the state to those that are under way. -/
theorem of_stops (lenient : Lenient rely) {w : Wait} {outcome : Except PyException w.Res}
    (stops : Stops world rely task heard w s outcome s') : rely s s' := by
  rcases stops.cases with ⟨_, _, entered⟩ | ⟨s₁, s₂, entered, kept, ended⟩
  · obtain ⟨_, _, _, rfl⟩ | ⟨_, rfl⟩ := State.enter_passed entered
    · exact lenient.rest _ _ rfl rfl rfl rfl rfl (Nat.le_refl _)
    · exact lenient.refl _
  · have before : rely s s₁ := by
      obtain ⟨_, _, rfl⟩ | ⟨_, rfl⟩ := State.enter_suspended entered
      · exact lenient.rest _ _ rfl rfl rfl rfl rfl (Nat.le_refl _)
      · exact lenient.refl _
    refine lenient.trans (lenient.trans before kept) ?_
    rcases ended with woken | ⟨_, _, _, lapsed⟩
    · obtain ⟨_, _, rfl⟩ := State.wake_frame woken
      exact lenient.rest _ _ rfl rfl rfl rfl rfl (Nat.le_refl _)
    · obtain ⟨_, _, rfl⟩ | ⟨_, rfl⟩ := State.lapse_locks lapsed
      · exact lenient.rest _ _ rfl rfl rfl rfl rfl (Nat.le_refl _)
      · exact lenient.refl _

end Lenient

/-! ## Rules -/

theorem leaves_bind {post : Except PyException β → State → Prop} {x : Prog α} {rest : α → Prog β}
    (first : Leaves rely task heard (Onward world rely task heard post rest) x s) :
    Leaves rely task heard post (x >>= rest) s :=
  Secures.bind first

theorem leaves_act_bind {a : Act} {rest : a.Val → Prog α}
    (next : Leaves rely task heard post (rest (State.exec task a s).1) (State.exec task a s).2) :
    Leaves rely task heard post (act a >>= rest) s := next

theorem leaves_act {a : Act} {post : Except PyException a.Val → State → Prop}
    (after : post (.ok (State.exec task a s).1) (State.exec task a s).2) :
    Leaves rely task heard post (act a) s := after

theorem leaves_pause {w : Wait} {post : Except PyException w.Res → State → Prop}
    (stopped : ∀ outcome s', Stops world rely task heard w s outcome s' → post outcome s') :
    Leaves rely task heard post (pause w) s :=
  Secures.await stopped

/-- Under a lock; only the wait for it may fail besides the body. -/
theorem leaves_withLock (lenient : Lenient rely) {lock : LockName} {body : Prog α}
    (refused : ∀ exc s', rely s s' → post (.error exc) s')
    (held : ∀ s', rely s s' →
      Leaves rely task heard (fun out s₁ => post out (s₁.releaseLock task lock)) body s') :
    Leaves rely task heard post (withLock lock body) s := by
  refine leaves_bind (leaves_pause fun outcome s' stops => ?_)
  have kept := lenient.of_stops stops
  cases outcome with
  | error exc => exact refused exc s' kept
  | ok _ =>
      refine Secures.ensure (Secures.mono (fun out s₁ ended => ?_) (held s' kept))
      exact ended

theorem leaves_closeHandle (lenient : Lenient rely) {handle : ClientHandle}
    {post : Except PyException Unit → State → Prop} (closed : ∀ s', rely s s' → post (.ok ()) s') :
    Leaves rely task heard post (closeHandleBestEffort handle) s := by
  refine leaves_act_bind (leaves_bind (Secures.attempt (leaves_pause fun outcome s' stops => ?_)))
  refine closed s' (lenient.trans ?_ (lenient.of_stops stops))
  exact lenient.rest _ _ rfl rfl rfl rfl rfl (Nat.le_refl _)

theorem leaves_closeHandles (lenient : Lenient rely) {handles : List ClientHandle}
    {post : Except PyException Unit → State → Prop} (closed : ∀ s', rely s s' → post (.ok ()) s') :
    Leaves rely task heard post (closeClientHandles handles) s := by
  refine @Secures.forM _ _ _ world rely task heard s handles closeHandleBestEffort (rely s)
    post (lenient.refl s) (fun handle s₁ kept => ?_) closed
  exact leaves_closeHandle lenient fun s' later => ⟨rfl, lenient.trans kept later⟩

/-- What a bounded body leaves, when a timeout in place of a cancellation makes no difference. -/
theorem leaves_waitFor_bind {post : Except PyException β → State → Prop}
    {middle : Except PyException α → State → Prop} {limit : Nat} {x : Prog α}
    {rest : Except PyException α → Prog β}
    (escapes : ∀ out s', middle out s' → middle (out.mapError timeoutEscape) s')
    (body : Leaves rely task heard middle x s)
    (after : ∀ out s', middle out s' → Leaves rely task heard post (rest out) s') :
    Leaves rely task heard post ((waitFor limit x).attempt >>= rest) s := by
  refine leaves_bind (Secures.attempt (Secures.within (Secures.mono (fun out s' ended => ?_) body)))
  exact ⟨after _ s' ended, after _ s' (escapes out s' ended)⟩

/-- The client is gone once the lock is had; nothing of its closing surfaces. -/
theorem leaves_dropClientForServer (lenient : Lenient rely) {serverName : String}
    {post : Except PyException Unit → State → Prop}
    (refused : ∀ exc s', rely s s' → post (.error exc) s')
    (dropped : ∀ held s', rely s held →
      rely ((held.dropClient serverName).2.releaseLock task .registry) s' → post (.ok ()) s') :
    Leaves rely task heard post (dropClientForServer serverName) s := by
  refine leaves_bind (leaves_withLock lenient refused fun held kept => ?_)
  refine leaves_act (a := .dropClient serverName) ?_
  change Onward world rely task heard post _ (.ok (held.clients.get? serverName)) _
  cases held.clients.get? serverName with
  | none => exact dropped held _ kept (lenient.refl _)
  | some handle => exact leaves_closeHandle lenient fun s' later => dropped held s' kept later

/-! ## Programs that leave nothing behind -/

/-- However the program ends, the relation holds between its ends. -/
def Calm {α : Type} (rely : State → State → Prop) (task : TaskId)
    (heard : (w : Wait) → Except PyException w.Res → Prop) (x : Prog α) : Prop :=
  ∀ s, Leaves rely task heard (fun _ s' => rely s s') x s

namespace Calm

variable {x : Prog α} {rest : α → Prog β}

theorem pure (lenient : Lenient rely) (value : α) :
    Calm rely task heard (Pure.pure value : Prog α) := lenient.refl

theorem raise (lenient : Lenient rely) (exc : PyException) :
    Calm rely task heard (.raise exc : Prog α) := lenient.refl

theorem bind (lenient : Lenient rely) (first : Calm rely task heard x)
    (second : ∀ value, Calm rely task heard (rest value)) : Calm rely task heard (x >>= rest) := by
  intro s
  refine leaves_bind (Secures.mono (fun out s₁ kept => ?_) (first s))
  cases out with
  | ok value => exact Secures.mono (fun _ _ later => lenient.trans kept later) (second value s₁)
  | error exc => exact kept

theorem attempt (calm : Calm rely task heard x) : Calm rely task heard x.attempt :=
  fun s => Secures.attempt (calm s)

theorem pause (lenient : Lenient rely) (w : Wait) : Calm rely task heard (Tela.pause w) :=
  fun _ => leaves_pause fun _ _ stops => lenient.of_stops stops

/-- A block that touches none of the parts the relation may speak of. -/
theorem act (lenient : Lenient rely) {a : Act}
    (quiet : ∀ s, (State.exec task a s).2.runtimeConfig = s.runtimeConfig ∧
      (State.exec task a s).2.registry = s.registry ∧
      (State.exec task a s).2.clients = s.clients ∧ (State.exec task a s).2.startup = s.startup ∧
      (State.exec task a s).2.batches = s.batches ∧
      s.nextSerial ≤ (State.exec task a s).2.nextSerial) : Calm rely task heard (Tela.act a) := by
  intro s
  obtain ⟨runtimeConfig, registry, clients, startup, batches, serial⟩ := quiet s
  exact lenient.rest _ _ runtimeConfig registry clients startup batches serial

theorem waitFor {limit : Nat} (calm : Calm rely task heard x) :
    Calm rely task heard (Tela.waitFor limit x) :=
  fun s => Secures.within (Secures.mono (fun _ _ kept => ⟨kept, kept⟩) (calm s))

theorem withLock (lenient : Lenient rely) {lock : LockName} (calm : Calm rely task heard x) :
    Calm rely task heard (Tela.withLock lock x) := by
  intro s
  refine leaves_withLock lenient (fun _ _ kept => kept) fun held kept => ?_
  exact Secures.mono (fun _ s₁ later =>
    lenient.trans (lenient.trans kept later) (lenient.release s₁ task lock)) (calm held)

theorem notifyRegistryToolDigest (lenient : Lenient rely) :
    Calm rely task heard Tela.notifyRegistryToolDigest := by
  refine bind lenient (act lenient fun _ => ⟨rfl, rfl, rfl, rfl, rfl, Nat.le_refl _⟩) ?_
  intro registered
  split
  · exact bind lenient (withLock lenient
      (act lenient fun _ => ⟨rfl, rfl, rfl, rfl, rfl, Nat.le_refl _⟩)) fun _ => pause lenient _
  · exact pure lenient ()

end Calm

/-! ## Opening a client -/

/--
The server was connected to, shook hands on the session of the handle, and listed
these tools there.
-/
structure ListedBy (heard : (w : Wait) → Except PyException w.Res → Prop) (serverName : String)
    (handle : ClientHandle) (rawTools : List RawTool) : Prop where
  connected : heard (.connectTransport serverName) (.ok ())
  handshake : heard (.handshake handle.session) (.ok handle.instructions)
  listed : heard (.listTools handle.session) (.ok rawTools)

/--
A client that was opened has shaken hands on its session, and has the next number of some
state in between.
-/
def Opened (rely : State → State → Prop) (heard : (w : Wait) → Except PyException w.Res → Prop)
    (serverName : String) (s : State) :
    Except PyException (Except String ClientHandle) → State → Prop
  | .ok (.ok handle), s' => rely s s' ∧ (∃ s₁, rely s s₁ ∧ handle.serial = s₁.nextSerial) ∧
      heard (.connectTransport serverName) (.ok ()) ∧
        heard (.handshake handle.session) (.ok handle.instructions)
  | _, s' => rely s s'

theorem Opened.kept {serverName : String} {out : Except PyException (Except String ClientHandle)}
    (opened : Opened rely heard serverName s out s') : rely s s' := by
  cases out with
  | error exc => exact opened
  | ok result =>
      cases result with
      | error error => exact opened
      | ok handle => exact opened.1

theorem Opened.mapError {serverName : String}
    {out : Except PyException (Except String ClientHandle)}
    (opened : Opened rely heard serverName s out s') (escape : PyException → PyException) :
    Opened rely heard serverName s (out.mapError escape) s' := by
  cases out <;> exact opened

/-- A failed connect is never a success. -/
theorem leaves_abandonConnect (lenient : Lenient rely) {serverName : String} {s₁ : State}
    (kept : rely s s₁) (session : Option SessionId) (failure : PyException → String)
    (exc : PyException) :
    Leaves rely task heard (Opened rely heard serverName s) (abandonConnect session failure exc)
      s₁ := by
  have close {s₂ : State} (kept : rely s s₂) :
      Leaves rely task heard (Opened rely heard serverName s) (if exc.isCancelled then do
        let _ ← (pause .aclose).attempt
        .raise exc
      else do
        pause .aclose
        return .error (failure exc)) s₂ := by
    split
    · refine leaves_bind (Secures.attempt (leaves_pause fun outcome s' stops => ?_))
      exact lenient.trans kept (lenient.of_stops stops)
    · refine leaves_bind (leaves_pause fun outcome s' stops => ?_)
      have later := lenient.trans kept (lenient.of_stops stops)
      cases outcome <;> exact later
  unfold abandonConnect
  cases session with
  | none => exact close kept
  | some session =>
      exact leaves_act_bind (close (lenient.trans kept
        (lenient.rest _ _ rfl rfl rfl rfl rfl (Nat.le_refl _))))

theorem leaves_openTransportClient (lenient : Lenient rely) (serverName : String)
    (serverConfig : ServerConfig) (failure : PyException → String) :
    Leaves rely task heard (Opened rely heard serverName s)
      (openTransportClient serverName serverConfig failure) s := by
  refine leaves_bind (Secures.attempt (leaves_pause fun connected s₁ stops => ?_))
  have first := lenient.of_stops stops
  cases connected with
  | error exc => exact leaves_abandonConnect lenient first none failure exc
  | ok _ =>
      have connected := stops.hears
      refine leaves_act_bind (leaves_bind (Secures.attempt
        (leaves_pause fun initialized s₂ stops => ?_)))
      have opened : rely s (s₁.openSession serverName serverConfig).2 :=
        lenient.trans first (lenient.rest _ _ rfl rfl rfl rfl rfl (Nat.le_refl _))
      have second : rely s s₂ := lenient.trans opened (lenient.of_stops stops)
      cases initialized with
      | error exc => exact leaves_abandonConnect lenient second _ failure exc
      | ok instructions =>
          exact ⟨lenient.trans second (lenient.rest _ _ rfl rfl rfl rfl rfl (Nat.le_succ _)),
            ⟨s₂, second, rfl⟩, connected, stops.hears⟩

theorem leaves_openClientForServer (lenient : Lenient rely) (serverName : String)
    (serverConfig : ServerConfig) :
    Leaves rely task heard (Opened rely heard serverName s)
      (openClientForServer serverName serverConfig) s := by
  have refused (error : String) :
      Leaves rely task heard (Opened rely heard serverName s)
        (return .error error : Prog (Except String ClientHandle)) s :=
    lenient.refl s
  unfold openClientForServer
  split
  · exact refused _
  · split
    · exact leaves_openTransportClient lenient serverName serverConfig _
    · split
      · unfold openSseClient
        split
        · exact refused _
        · exact leaves_openTransportClient lenient serverName serverConfig _
      · unfold openStreamableHttpClient
        split
        · exact refused _
        · exact leaves_openTransportClient lenient serverName serverConfig _

/-! ## Listing tools -/

/-- A list that was enumerated is what the session answered. -/
def Enumerated (rely : State → State → Prop)
    (heard : (w : Wait) → Except PyException w.Res → Prop) (session : SessionId) (s : State) :
    Except PyException (Except String (List RawTool)) → State → Prop
  | .ok (.ok rawTools), s' => rely s s' ∧ heard (.listTools session) (.ok rawTools)
  | _, s' => rely s s'

theorem Enumerated.kept {session : SessionId}
    {out : Except PyException (Except String (List RawTool))}
    (enumerated : Enumerated rely heard session s out s') : rely s s' := by
  cases out with
  | error exc => exact enumerated
  | ok result =>
      cases result with
      | error error => exact enumerated
      | ok rawTools => exact enumerated.1

theorem Enumerated.mapError {session : SessionId}
    {out : Except PyException (Except String (List RawTool))}
    (enumerated : Enumerated rely heard session s out s') (escape : PyException → PyException) :
    Enumerated rely heard session s (out.mapError escape) s' := by
  cases out <;> exact enumerated

theorem leaves_enumerateTools (lenient : Lenient rely) (session : SessionId) :
    Leaves rely task heard (Enumerated rely heard session s) (enumerateTools session) s := by
  refine leaves_bind (Secures.attempt (leaves_pause fun listed s₁ stops => ?_))
  have kept := lenient.of_stops stops
  cases listed with
  | ok rawTools => exact ⟨kept, stops.hears⟩
  | error exc =>
      change Leaves _ task heard _ (if exc.isException then _ else _) s₁
      split <;> exact kept

theorem leaves_enumerateClientTools (lenient : Lenient rely) (serverName : String)
    (handle : ClientHandle) :
    Leaves rely task heard (Enumerated rely heard handle.session s)
      (enumerateClientTools serverName handle) s := by
  refine leaves_bind (Secures.mono (fun out s₁ enumerated => ?_)
    (leaves_enumerateTools lenient handle.session))
  cases out with
  | error exc => exact enumerated
  | ok listed => cases listed <;> exact enumerated

/-! ## Connecting a server -/

/-- What a server was started with is what it answered. -/
def HandsOver (heard : (w : Wait) → Except PyException w.Res → Prop) (serverName : String) :
    Except PyException (Except String ConnectedServerData) → Prop
  | .ok (.ok startup) => startup.serverName = serverName ∧
      ∃ handle, startup.clientHandle = some handle ∧
        ListedBy heard serverName handle startup.rawTools
  | _ => True

theorem leaves_connectServerTools (lenient : Lenient rely) {serverName : String}
    {handle : ClientHandle} (connected : heard (.connectTransport serverName) (.ok ()))
    (handshake : heard (.handshake handle.session) (.ok handle.instructions)) :
    Leaves rely task heard (fun out _ => HandsOver heard serverName out)
      (connectServerTools serverName handle) s := by
  refine leaves_act_bind (leaves_waitFor_bind (fun out s' ended => ended.mapError _)
    (leaves_enumerateTools lenient handle.session) fun out s₁ enumerated => ?_)
  cases out with
  | error exc =>
      dsimp only
      split
      · exact leaves_bind (leaves_closeHandle lenient fun _ _ => trivial)
      · split
        · refine leaves_bind (leaves_closeHandle lenient fun s₂ _ => leaves_act_bind ?_)
          split <;> trivial
        · trivial
  | ok listed =>
      cases listed with
      | error error => exact leaves_bind (leaves_closeHandle lenient fun _ _ => trivial)
      | ok rawTools => exact ⟨rfl, handle, rfl, connected, handshake, enumerated.2⟩

/-- A coroutine that starts a server hands over what the server answered. -/
theorem leaves_connectServer (lenient : Lenient rely) (serverName : String)
    (serverConfig : ServerConfig) :
    Leaves rely task heard (fun out _ => HandsOver heard serverName out)
      (connectServer serverName serverConfig) s := by
  refine leaves_act_bind (leaves_waitFor_bind (fun out s' opened => opened.mapError _)
    (leaves_openClientForServer lenient serverName serverConfig) fun out s₁ opened => ?_)
  cases out with
  | error exc =>
      dsimp only
      split
      · trivial
      · split
        · refine leaves_act_bind ?_
          split <;> trivial
        · trivial
  | ok result =>
      cases result with
      | error error => trivial
      | ok handle =>
          obtain ⟨-, -, connected, handshake⟩ := opened
          exact leaves_connectServerTools lenient connected handshake

end Tela
