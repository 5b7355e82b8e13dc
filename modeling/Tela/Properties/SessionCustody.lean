import Tela.Library.Play
import Tela.Shell.Disciplined

/-!
# Custody of client sessions

A task has a session in its custody from the moment it opens the session or takes its
handle out of the client map until it has closed it, installed it in the map or handed
it on. Whatever the tasks around it and the downstream servers answer, an operation
closes and installs only what is in its custody, and keeps nothing when it returns.
-/

namespace Tela.SessionCustody

open Coop (Coro Follows Monitor Player Move)

/-- The sessions a task must dispose of. -/
structure Custody where
  held : List SessionId := []
  /-- Sessions whose transport is being closed. -/
  closing : List SessionId := []
  /-- The `gather` whose results the task has not yet fetched. -/
  gathering : Option BatchId := none
  /-- The servers of that `gather`, in their order. -/
  spawned : List String := []
  /-- The server of the coroutine of a `gather`. -/
  job : Option String := none
  /-- Every result of a `gather` names the server it was asked for. -/
  matched : Bool := true

def handlesOf (startups : List ConnectedServerData) : List ClientHandle :=
  startups.filterMap ConnectedServerData.clientHandle

def sessionsOf (handles : List ClientHandle) : List SessionId := handles.map ClientHandle.session

/-- The startups among the results of a `gather`. -/
def started (results : List (Except String ConnectedServerData)) : List ConnectedServerData :=
  results.filterMap Except.toOption

/-- The startup that the coroutine of a `gather` hands over. -/
def reported : Except PyException (Except String ConnectedServerData) → List ConnectedServerData
  | .ok (.ok startup) => [startup]
  | _ => []

/-- The results stand in the order of the servers and name them. -/
def answers : List String → List (Except String ConnectedServerData) → Bool
  | [], [] => true
  | serverName :: serverNames, result :: results =>
      result.toOption.all (fun startup => startup.serverName = serverName) &&
        answers serverNames results
  | _, _ => false

/-- What a block takes into custody and what it gives away. -/
def afterBlock : (a : Act) → a.Val → Custody → Custody
  | .openSession _ _, session, g => { g with held := session :: g.held }
  | .newHandle session _, handle, g => { g with held := handle.session :: g.held.erase session }
  | .beginClose session, _, g =>
      { g with held := g.held.erase session, closing := session :: g.closing }
  | .takeClients, handles, g => { g with held := sessionsOf handles ++ g.held }
  | .dropClient _, handle, g => { g with held := sessionsOf handle.toList ++ g.held }
  | .swapClient _ handle, old, g =>
      { g with held := sessionsOf old.toList ++ g.held.erase handle.session }
  | .spawn servers, batch, g => { g with gathering := some batch, spawned := servers.keys }
  | .takeJob _ _, job, g => { g with job := job.map Prod.fst }
  | .report _ _ outcome, _, g =>
      { g with held := g.held.diff (sessionsOf (handlesOf (reported outcome))) }
  | .jobResults _, results, g =>
      { g with
        held := sessionsOf (handlesOf (started results)) ++ g.held
        gathering := none
        matched := g.matched && answers g.spawned results }
  | .publish _ connected _ _, _, g =>
      { g with held := g.held.diff (sessionsOf (handlesOf connected.values)) }
  | _, _, g => g

/-- Once the transport stack is closed, or its closing has failed, nothing is closing. -/
def afterAwait : Wait → Custody → Custody
  | .aclose, g => { g with closing := [] }
  | _, g => g

/-- A task closes, installs and reports what it has in its custody, under the right name. -/
def mayRun : Act → Custody → Prop
  | .newHandle session _, g => session ∈ g.held
  | .beginClose session, g => session ∈ g.held
  | .swapClient _ handle, g => handle.session ∈ g.held
  | .report _ _ outcome, g =>
      ∀ startup ∈ reported outcome, g.job = some startup.serverName ∧
        ∃ handle, startup.clientHandle = some handle ∧ handle.session ∈ g.held
  | .jobResults batch, g => g.gathering = some batch
  | .publish _ connected _ _, g => (sessionsOf (handlesOf connected.values)).Subperm g.held
  | _, _ => True

def monitor : Monitor sig Custody where
  may := mayRun
  after := afterBlock
  mayWait _ _ := True
  woken w _ := afterAwait w
  mayTime _ := True
  mayTime_after := id
  mayTime_woken := id

/-- Nothing is left to be closed. -/
structure Custody.Clear (g : Custody) : Prop where
  held : g.held = []
  closing : g.closing = []

/-- The task has these sessions and closes none. -/
def Custody.having (g : Custody) (held : List SessionId) : Custody :=
  { g with held := held, closing := [] }

/-! ## Blocks, waits and locks -/

section Rules

variable {α β : Type} {g : Custody} {Q : α → Custody → Prop} {E : PyException → Custody → Prop}

/-- The program keeps custody and ends as stated. -/
abbrev Guards (onRet : α → Custody → Prop) (onRaise : PyException → Custody → Prop) (x : Prog α)
    (g : Custody) : Prop :=
  Follows monitor onRet onRaise x g

theorem guards_act {a : Act} {Q : a.Val → Custody → Prop} :
    Guards Q E (act a) g ↔ mayRun a g ∧ ∀ v, Q v (afterBlock a v g) := Iff.rfl

theorem guards_act_bind {a : Act} {rest : a.Val → Prog α} :
    Guards Q E (act a >>= rest) g ↔
      mayRun a g ∧ ∀ v, Guards Q E (rest v) (afterBlock a v g) := Iff.rfl

theorem guards_bind {x : Prog β} {rest : β → Prog α} :
    Guards Q E (x >>= rest) g ↔ Guards (fun value g' => Guards Q E (rest value) g') E x g :=
  Follows.bind_iff

theorem guards_attempt_bind {x : Prog β} {rest : Except PyException β → Prog α} :
    Guards Q E (x.attempt >>= rest) g ↔
      Guards (fun value g' => Guards Q E (rest (.ok value)) g')
        (fun exc g' => Guards Q E (rest (.error exc)) g') x g :=
  Follows.bind_iff.trans Follows.attempt_iff

theorem guards_pause {w : Wait} {Q : w.Res → Custody → Prop} (ok : ∀ result, Q result (afterAwait w g))
    (failed : ∀ exc, E exc (afterAwait w g)) : Guards Q E (pause w) g :=
  Follows.await_iff.mpr ⟨trivial, ok, failed⟩

theorem guards_pause_bind {w : Wait} {rest : w.Res → Prog α}
    (ok : ∀ result, Guards Q E (rest result) (afterAwait w g))
    (failed : ∀ exc, E exc (afterAwait w g)) : Guards Q E (pause w >>= rest) g :=
  guards_bind.mpr (guards_pause ok failed)

theorem guards_pause_attempt_bind {w : Wait} {rest : Except PyException w.Res → Prog α}
    (ended : ∀ outcome, Guards Q E (rest outcome) (afterAwait w g)) :
    Guards Q E ((pause w).attempt >>= rest) g :=
  guards_attempt_bind.mpr (guards_pause (fun _ => ended _) fun _ => ended _)

theorem guards_waitFor {limit : Nat} {body : Prog α}
    (inner : Guards Q (fun exc g' => E exc g' ∧ E (timeoutEscape exc) g') body g) :
    Guards Q E (waitFor limit body) g :=
  Follows.within trivial inner

/-- Taking and releasing a lock changes no custody. -/
theorem guards_withLock {lock : LockName} {body : Prog α} (inner : Guards Q E body g)
    (interrupted : ∀ exc, E exc g) : Guards Q E (withLock lock body) g := by
  refine guards_pause_bind (fun _ => ?_) interrupted
  refine Follows.ensure (inner.mono (fun value g' h => ?_) fun exc g' h => ?_)
  · exact ⟨trivial, fun _ => h⟩
  · exact ⟨trivial, fun _ => h⟩

end Rules

/-! ## Clients -/

section Clients

variable {g : Custody} {held : List SessionId} {serverName : String}

theorem guards_close {handle : ClientHandle} {Q : Unit → Custody → Prop}
    {E : PyException → Custody → Prop} (mine : handle.session ∈ held)
    (post : Q () (g.having (held.erase handle.session))) :
    Guards Q E (closeHandleBestEffort handle) (g.having held) :=
  guards_act_bind.mpr ⟨mine, fun _ => guards_pause_attempt_bind fun _ => post⟩

/-- A newly opened client is closed again. -/
theorem guards_closeNew {handle : ClientHandle} {Q : Unit → Custody → Prop}
    {E : PyException → Custody → Prop} (post : Q () (g.having held)) :
    Guards Q E (closeHandleBestEffort handle) (g.having (handle.session :: held)) := by
  refine guards_close (List.mem_cons_self ..) ?_
  rwa [List.erase_cons_head]

theorem diff_append (sessions rest : List SessionId) : (sessions ++ rest).diff sessions = rest := by
  induction sessions with
  | nil => rfl
  | cons session sessions ih => rw [List.diff_cons, List.cons_append, List.erase_cons_head, ih]

theorem diff_of_eq {sessions held : List SessionId} (same : held = sessions) :
    held.diff sessions = [] := by
  simpa [same] using diff_append sessions []

theorem guards_closeAll {handles : List ClientHandle} {Q : Unit → Custody → Prop}
    {E : PyException → Custody → Prop} (mine : (sessionsOf handles).Subperm held)
    (post : Q () (g.having (held.diff (sessionsOf handles)))) :
    Guards Q E (closeClientHandles handles) (g.having held) := by
  induction handles generalizing held with
  | nil => exact post
  | cons handle handles ih =>
      change Guards Q E (closeHandleBestEffort handle >>= fun _ => closeClientHandles handles) _
      refine guards_bind.mpr (guards_close (mine.subset (List.mem_cons_self ..)) (ih ?_ ?_))
      · have rest := mine.erase handle.session
        rwa [sessionsOf, List.map_cons, List.erase_cons_head] at rest
      · rwa [← List.diff_cons]

theorem guards_abandonConnect (session : Option SessionId) {failure : PyException → String}
    {exc : PyException} {Q : Except String ClientHandle → Custody → Prop}
    {E : PyException → Custody → Prop} (onError : ∀ error, Q (.error error) (g.having held))
    (onRaise : ∀ exc, E exc (g.having held)) :
    Guards Q E (abandonConnect session failure exc) (g.having (session.toList ++ held)) := by
  have close {g' : Custody} (same : afterAwait .aclose g' = g.having held) : Guards Q E
      (if exc.isCancelled then do
        let _ ← (pause .aclose).attempt
        .raise exc
      else do
        pause .aclose
        return .error (failure exc)) g' := by
    split
    · refine guards_pause_attempt_bind fun _ => ?_
      rw [same]
      exact onRaise exc
    · refine guards_pause_bind (fun _ => ?_) fun raised => ?_
      · rw [same]
        exact onError _
      · rw [same]
        exact onRaise raised
  unfold abandonConnect
  cases session with
  | none => exact close rfl
  | some session =>
      refine guards_act_bind.mpr ⟨List.mem_cons_self .., fun _ => close ?_⟩
      change (g.having ((session :: held).erase session)) = g.having held
      rw [List.erase_cons_head]

/-- What opening a client leaves: its session on success, and nothing more otherwise. -/
theorem guards_openTransportClient {serverConfig : ServerConfig} {failure : PyException → String}
    {Q : Except String ClientHandle → Custody → Prop} {E : PyException → Custody → Prop}
    (onOk : ∀ handle, Q (.ok handle) (g.having (handle.session :: held)))
    (onError : ∀ error, Q (.error error) (g.having held))
    (onRaise : ∀ exc, E exc (g.having held)) :
    Guards Q E (openTransportClient serverName serverConfig failure) (g.having held) := by
  refine guards_pause_attempt_bind fun connected => ?_
  cases connected with
  | error exc =>
      exact guards_abandonConnect none onError onRaise
  | ok _ =>
      refine guards_act_bind.mpr ⟨trivial, fun session => ?_⟩
      refine guards_pause_attempt_bind fun initialized => ?_
      cases initialized with
      | error exc =>
          exact guards_abandonConnect (some session) onError onRaise
      | ok instructions =>
          refine guards_act_bind.mpr ⟨List.mem_cons_self .., fun handle => ?_⟩
          change Q (.ok handle) (g.having (handle.session :: (session :: held).erase session))
          rw [List.erase_cons_head]
          exact onOk handle

theorem guards_openClientForServer {serverConfig : ServerConfig}
    {Q : Except String ClientHandle → Custody → Prop} {E : PyException → Custody → Prop}
    (onOk : ∀ handle, Q (.ok handle) (g.having (handle.session :: held)))
    (onError : ∀ error, Q (.error error) (g.having held))
    (onRaise : ∀ exc, E exc (g.having held)) :
    Guards Q E (openClientForServer serverName serverConfig) (g.having held) := by
  have transport (failure : PyException → String) :
      Guards Q E (openTransportClient serverName serverConfig failure) (g.having held) :=
    guards_openTransportClient onOk onError onRaise
  unfold openClientForServer
  split
  · exact onError _
  · split
    · exact transport _
    · split
      · unfold openSseClient
        split
        · exact onError _
        · exact transport _
      · unfold openStreamableHttpClient
        split
        · exact onError _
        · exact transport _

/-- Listing tools raises nothing but a cancellation. -/
theorem guards_enumerateTools {session : SessionId}
    {Q : Except String (List RawTool) → Custody → Prop} {E : PyException → Custody → Prop}
    (onRet : ∀ result, Q result g) (onRaise : ∀ exc, exc.isException = false → E exc g) :
    Guards Q E (enumerateTools session) g := by
  refine guards_pause_attempt_bind fun listed => ?_
  cases listed with
  | ok rawTools => exact onRet _
  | error exc =>
      change Guards Q E (if _ then _ else _) g
      split
      · exact onRet _
      · rename_i cancelled
        exact onRaise exc (Bool.not_eq_true _ ▸ cancelled)

theorem guards_enumerateClientTools {handle : ClientHandle}
    {Q : Except String (List RawTool) → Custody → Prop} {E : PyException → Custody → Prop}
    (onRet : ∀ result, Q result g) (onRaise : ∀ exc, exc.isException = false → E exc g) :
    Guards Q E (enumerateClientTools serverName handle) g := by
  refine guards_bind.mpr (guards_enumerateTools (fun result => ?_) onRaise)
  cases result with
  | error error => exact onRet _
  | ok rawTools => exact onRet _

end Clients

/-! ## Startup -/

section Startup

variable {g : Custody} {serverName : String} {servers : Dict String ServerConfig}

/-- A startup that names its server and brings the client in custody. -/
def Brings (g : Custody) (serverName : String) (result : Except String ConnectedServerData)
    (g' : Custody) : Prop :=
  match result with
  | .ok startup => startup.serverName = serverName ∧
      ∃ handle, startup.clientHandle = some handle ∧ g' = g.having [handle.session]
  | .error _ => g' = g.having []

theorem guards_connectServerTools {handle : ClientHandle} :
    Guards (Brings g serverName) (fun _ g' => g' = g.having [])
      (connectServerTools serverName handle) (g.having [handle.session]) := by
  refine guards_act_bind.mpr ⟨trivial, fun now => ?_⟩
  refine guards_attempt_bind.mpr (guards_waitFor (guards_enumerateTools (fun result => ?_) ?_))
  · cases result with
    | error error => exact guards_bind.mpr (guards_closeNew rfl)
    | ok rawTools => exact ⟨rfl, handle, rfl, rfl⟩
  · intro exc cancelled
    have isCancelled : exc.isCancelled = true := by
      simpa [PyException.isException, PyException.isCancelled] using cancelled
    refine ⟨?_, ?_⟩
    · have late : exc.isTimeout = false := by
        simp only [PyException.isCancelled, beq_iff_eq] at isCancelled
        simp [PyException.isTimeout, isCancelled]
      dsimp only
      rw [late, isCancelled]
      refine guards_bind.mpr (guards_closeNew (guards_act_bind.mpr ⟨trivial, fun external => ?_⟩))
      cases external with
      | true => exact rfl
      | false => exact rfl
    · have late : (timeoutEscape exc).isTimeout = true := by
        rw [timeoutEscape, if_pos isCancelled]
        rfl
      dsimp only
      rw [late]
      exact guards_bind.mpr (guards_closeNew rfl)

theorem guards_connectServer {serverConfig : ServerConfig} :
    Guards (Brings g serverName) (fun _ g' => g' = g.having [])
      (connectServer serverName serverConfig) (g.having []) := by
  refine guards_act_bind.mpr ⟨trivial, fun now => ?_⟩
  have failed (exc : PyException) : Guards (Brings g serverName) (fun _ g' => g' = g.having [])
      (if exc.isTimeout then
        return .error (s!"DOWNSTREAM_CONNECT_FAILED: provider_initialize_timeout:{serverName} "
          ++ "timeout_seconds=30.0")
      else if exc.isCancelled then do
        let external : Bool ← act .externallyCancelled
        if external then .raise exc
        else return .error ("DOWNSTREAM_CONNECT_FAILED: " ++
          s!"provider_initialize_cancelled:{serverName} {exc.text}")
      else .raise exc) (g.having []) := by
    split
    · exact rfl
    · split
      · refine guards_act_bind.mpr ⟨trivial, fun external => ?_⟩
        cases external with
        | true => exact rfl
        | false => exact rfl
      · exact rfl
  refine guards_attempt_bind.mpr (guards_waitFor (guards_openClientForServer ?_ ?_ ?_))
  · intro handle
    exact guards_connectServerTools
  · intro error
    exact rfl
  · intro exc
    exact ⟨failed exc, failed _⟩

/-- Every startup that answers for its server is sorted in, and none is sorted over another. -/
theorem values_sortStartup {serverNames : List String}
    {results : List (Except String ConnectedServerData)} {startups : Startups}
    (matched : answers serverNames results = true) (distinct : serverNames.Nodup)
    (fresh : ∀ name ∈ serverNames, name ∉ startups.1.keys) :
    ((serverNames.zip results).foldl sortStartup startups).1.values =
      startups.1.values ++ started results := by
  induction serverNames generalizing results startups with
  | nil =>
      cases results with
      | nil => exact (List.append_nil _).symm
      | cons result results => cases matched
  | cons name names ih =>
      obtain ⟨single, distinct⟩ := List.nodup_cons.mp distinct
      have later := fun other among => fresh other (List.mem_cons_of_mem name among)
      cases results with
      | nil => cases matched
      | cons result results =>
          obtain ⟨own, rest⟩ := Bool.and_eq_true_iff.mp matched
          rw [List.zip_cons_cons, List.foldl_cons]
          cases result with
          | error error => exact ih rest distinct later
          | ok startup =>
              have named : startup.serverName = name := by simpa [Except.toOption] using own
              refine (ih rest distinct ?_).trans ?_
              · intro other among
                change other ∉ (startups.1.set startup.serverName startup).keys
                rw [Dict.mem_keys_set, not_or, named]
                refine ⟨?_, later other among⟩
                rintro rfl
                exact single among
              · change (startups.1.set startup.serverName startup).values ++ started results = _
                rw [Dict.values_set_of_not_mem (named ▸ fresh name (List.mem_cons_self ..)),
                  List.append_assoc]
                rfl

theorem values_sortStartups {results : List (Except String ConnectedServerData)}
    (matched : answers servers.keys results = true) :
    (sortStartups servers.keys results).1.values = started results :=
  values_sortStartup matched servers.keys_nodup fun _ _ => List.not_mem_nil

theorem values_set_subperm {ν : Type} {dict : Dict String ν} {key : String} {value : ν} :
    (dict.set key value).values.Subperm (dict.values ++ [value]) := by
  have loop (entries : List (String × ν)) : ((OrderedDict.put entries key value).map
      Prod.snd).Subperm (entries.map Prod.snd ++ [value]) := by
    induction entries with
    | nil => exact .refl _
    | cons entry rest ih =>
        rw [OrderedDict.put]
        split
        · refine List.Subperm.trans ?_ (List.sublist_cons_self _ _).subperm
          exact (List.perm_append_singleton value _).symm.subperm
        · exact (List.subperm_cons entry.2).mpr ih
  exact loop dict.entries

/-- Each startup that is sorted in is one of the results. -/
theorem subperm_sortStartup {serverNames : List String}
    {results : List (Except String ConnectedServerData)} {startups : Startups} :
    ((serverNames.zip results).foldl sortStartup startups).1.values.Subperm
      (startups.1.values ++ started results) := by
  induction serverNames generalizing results startups with
  | nil => exact (List.sublist_append_left _ _).subperm
  | cons name names ih =>
      cases results with
      | nil => exact (List.sublist_append_left _ _).subperm
      | cons result results =>
          rw [List.zip_cons_cons, List.foldl_cons]
          cases result with
          | error error => exact ih
          | ok startup =>
              refine ih.trans ?_
              change ((startups.1.set startup.serverName startup).values ++ started results).Subperm
                (startups.1.values ++ ([startup] ++ started results))
              rw [← List.append_assoc]
              exact (List.subperm_append_right _).mpr values_set_subperm

theorem subperm_sortStartups {serverNames : List String}
    {results : List (Except String ConnectedServerData)} :
    (sortStartups serverNames results).1.values.Subperm (started results) :=
  @subperm_sortStartup serverNames results (∅, ∅)

theorem sessions_subperm {first second : List ConnectedServerData} (sub : first.Subperm second) :
    (sessionsOf (handlesOf first)).Subperm (sessionsOf (handlesOf second)) := by
  obtain ⟨middle, perm, sublist⟩ := sub
  exact ⟨sessionsOf (handlesOf middle), (perm.filterMap _).map _, (sublist.filterMap _).map _⟩

theorem handlesOf_usePreEnumerated {serverNames : List String}
    {toolLists : Dict String (List RawTool)} :
    handlesOf (usePreEnumerated serverNames toolLists).1.values = [] := by
  refine List.filterMap_eq_nil_iff.mpr fun startup among => ?_
  obtain ⟨⟨name, _⟩, listed, rfl⟩ := List.mem_map.mp among
  exact (startup_of_usePreEnumerated name _ (Dict.get?_eq_some_iff.mpr listed)).2

/-- What the startup of some servers leaves: the clients of those that started. -/
def Ready (startups : Startups) (g : Custody) : Prop :=
  ∃ (base : Custody) (held : List SessionId), g = base.having held ∧
    (sessionsOf (handlesOf startups.1.values)).Subperm held ∧
    (base.matched = true → held = sessionsOf (handlesOf startups.1.values))

theorem guards_startServers {toolLists : Option (Dict String (List RawTool))} :
    Guards Ready (fun _ _ => True) (startServers servers toolLists) (g.having []) := by
  cases toolLists with
  | some toolLists =>
      refine ⟨g, [], rfl, ?_⟩
      rw [handlesOf_usePreEnumerated]
      exact ⟨.refl _, fun _ => rfl⟩
  | none =>
      refine guards_act_bind.mpr ⟨trivial, fun batch => guards_pause_bind (fun _ => ?_) fun _ => trivial⟩
      refine guards_act_bind.mpr ⟨rfl, fun results => ?_⟩
      refine ⟨{ g with
          gathering := none, spawned := servers.keys
          matched := g.matched && answers servers.keys results },
        sessionsOf (handlesOf (started results)), ?_, ?_, fun matched => ?_⟩
      · change Custody.mk (_ ++ []) _ _ _ _ _ = _
        rw [List.append_nil]
        rfl
      · exact sessions_subperm subperm_sortStartups
      · rw [values_sortStartups (Bool.and_eq_true_iff.mp matched).2]

/-- An operation over the whole client map leaves nothing, when its startups were matched. -/
def Left {α : Type} (_ : α) (g : Custody) : Prop := g.matched = true → g.Clear

theorem guards_publishStartups {startups : Startups} (ready : Ready startups g) :
    Guards Left (fun _ _ => True) (publishStartups servers startups.1 startups.2) g := by
  obtain ⟨base, held, rfl, mine, own⟩ := ready
  unfold publishStartups
  cases startups.1.entries.foldlM (resolveStartup servers) ∅ with
  | error exc => exact trivial
  | ok allResolved =>
      dsimp only
      cases detectConflicts allResolved with
      | cons conflict conflicts =>
          refine guards_bind.mpr (guards_closeAll mine ?_)
          refine guards_act_bind.mpr ⟨trivial, fun _ matched => ⟨?_, rfl⟩⟩
          exact diff_of_eq (own matched)
      | nil =>
          exact guards_act_bind.mpr ⟨mine, fun _ matched => ⟨diff_of_eq (own matched), rfl⟩⟩

theorem guards_closeAllClientsLocked {Q : Unit → Custody → Prop}
    {E : PyException → Custody → Prop} (post : Q () (g.having [])) :
    Guards Q E closeAllClientsLocked (g.having []) := by
  refine guards_act_bind.mpr ⟨trivial, fun handles => ?_⟩
  change Guards Q E (closeClientHandles handles) (g.having (sessionsOf handles ++ []))
  rw [List.append_nil]
  refine guards_closeAll (.refl _) ?_
  rwa [diff_of_eq rfl]

theorem guards_connectAll {toolLists : Option (Dict String (List RawTool))} :
    Guards Left (fun _ _ => True) (connectAll servers toolLists) (g.having []) := by
  refine guards_withLock ?_ fun _ => trivial
  refine guards_bind.mpr (guards_closeAllClientsLocked ?_)
  refine guards_act_bind.mpr ⟨trivial, fun _ => guards_bind.mpr ?_⟩
  exact guards_startServers.mono (fun startups _ ready => guards_publishStartups ready) fun _ _ h => h

theorem guards_disconnectAll {Q : Except String Unit → Custody → Prop}
    {E : PyException → Custody → Prop} (post : ∀ result, Q result (g.having []))
    (interrupted : ∀ exc, E exc (g.having [])) :
    Guards Q E disconnectAll (g.having []) := by
  refine guards_bind.mpr (guards_withLock ?_ interrupted)
  refine guards_bind.mpr (guards_closeAllClientsLocked ?_)
  exact ⟨trivial, fun _ => post _⟩

end Startup

/-! ## Convergence and reload -/

section Reload

variable {g : Custody} {serverName : String} {serverConfig : ServerConfig}
  {rawTools : List RawTool}

/-- The program touches no session. -/
abbrev Neutral {α : Type} (x : Prog α) (g : Custody) : Prop :=
  Guards (fun _ g' => g' = g) (fun _ g' => g' = g) x g

/-- What a program that touches no session is followed by. -/
theorem Neutral.then {α : Type} {x : Prog α} {Q : α → Custody → Prop}
    {E : PyException → Custody → Prop} (neutral : Neutral x g) (ok : ∀ value, Q value g)
    (failed : ∀ exc, E exc g) : Guards Q E x g := by
  refine neutral.mono (fun value g' same => ?_) fun exc g' same => ?_
  · subst same
    exact ok value
  · subst same
    exact failed exc

theorem neutral_reEnumerate : Neutral (reEnumerate serverName) g := by
  refine guards_withLock (guards_act_bind.mpr ⟨trivial, fun client => ?_⟩) fun _ => rfl
  cases client with
  | none => exact rfl
  | some client =>
      refine guards_act_bind.mpr ⟨trivial, fun config => ?_⟩
      cases config with
      | none => exact rfl
      | some config =>
          dsimp only
          cases config.servers.get? serverName with
          | none => exact rfl
          | some serverConfig =>
              refine guards_bind.mpr (guards_enumerateTools (fun result => ?_) fun _ _ => rfl)
              cases result with
              | error error => exact rfl
              | ok rawTools =>
                  refine guards_act_bind.mpr ⟨trivial, fun outcome => ?_⟩
                  cases outcome with
                  | error exc => exact rfl
                  | ok outcome => cases outcome <;> exact rfl

theorem neutral_converge {trigger : ConvergenceTrigger} :
    Neutral (convergeSingleServerUpdate serverName serverConfig rawTools trigger) g := by
  refine guards_withLock (guards_act_bind.mpr ⟨trivial, fun outcome => ?_⟩) fun _ => rfl
  cases outcome with
  | error exc => exact rfl
  | ok outcome => cases outcome <;> exact rfl

theorem neutral_notify : Neutral notifyRegistryToolDigest g := by
  refine guards_act_bind.mpr ⟨trivial, fun registered => ?_⟩
  cases registered with
  | false => exact rfl
  | true =>
      refine guards_bind.mpr (guards_withLock (guards_act.mpr ⟨trivial, fun names => ?_⟩) fun _ => rfl)
      exact guards_pause (fun _ => rfl) fun _ => rfl

theorem neutral_settle {outcome : SingleServerConvergenceResult} :
    Neutral (settleConvergence outcome) g := by
  unfold settleConvergence
  split
  · exact guards_pause_bind (fun _ => rfl) fun _ => rfl
  · exact guards_bind.mpr (neutral_notify.then (fun _ => rfl) fun _ => rfl)

theorem neutral_onToolsChanged : Neutral (onToolsChanged serverName serverConfig rawTools) g :=
  guards_bind.mpr (neutral_converge.then (fun _ => neutral_settle) fun _ => rfl)

theorem neutral_onServerReconnect :
    Neutral (onServerReconnect serverName serverConfig rawTools) g :=
  guards_bind.mpr (neutral_converge.then (fun _ => neutral_settle) fun _ => rfl)

theorem neutral_revertReload {oldConfig : TelaConfig} {snap : DownstreamRegistry} :
    Neutral (revertReload oldConfig snap) g :=
  guards_bind.mpr (guards_withLock (guards_act.mpr ⟨trivial, fun _ => ⟨trivial, fun _ => rfl⟩⟩)
    fun _ => rfl)

theorem guards_reconnectServers {oldConfig newConfig : TelaConfig} :
    Guards Left (fun _ _ => True) (reconnectServers oldConfig newConfig) (g.having []) := by
  refine guards_bind.mpr (guards_withLock (guards_act.mpr ⟨trivial, fun snap => ?_⟩) fun _ => trivial)
  refine guards_bind.mpr (guards_disconnectAll (fun _ => ?_) fun _ => trivial)
  refine guards_bind.mpr (guards_connectAll.mono (fun result g' left => ?_) fun _ _ h => h)
  cases result with
  | ok _ =>
      exact guards_bind.mpr (neutral_notify.then (fun _ => left) fun _ => trivial)
  | error error =>
      dsimp only
      split
      · exact guards_bind.mpr (neutral_revertReload.then (fun _ => left) fun _ => trivial)
      · exact left

theorem guards_onConfigChanged {newConfig : TelaConfig} :
    Guards Left (fun _ _ => True) (onConfigChanged newConfig) (g.having []) := by
  refine guards_act_bind.mpr ⟨trivial, fun oldConfig => guards_act_bind.mpr ⟨trivial, fun _ => ?_⟩⟩
  have unchanged : Left (α := Except String Unit) (.ok ()) (g.having []) := fun _ => ⟨rfl, rfl⟩
  cases oldConfig with
  | none => exact unchanged
  | some oldConfig =>
      dsimp only
      split
      · exact guards_reconnectServers
      · exact unchanged

end Reload

/-! ## Recovery and calls -/

section Recovery

variable {g : Custody} {serverName : String} {deadline : Nat}

/-- A recovery that raises may leave the client it opened. -/
def LeftOne (g : Custody) (_ : PyException) (g' : Custody) : Prop :=
  ∃ held, g' = g.having held ∧ held.length ≤ 1

theorem leftOne_nil {exc : PyException} : LeftOne g exc (g.having []) := ⟨[], rfl, Nat.zero_le 1⟩

theorem leftOne_new {exc : PyException} (session : SessionId) :
    LeftOne g exc (g.having [session]) := ⟨[session], rfl, Nat.le_refl 1⟩

/-- A part of a recovery that leaves nothing when it returns. -/
abbrev Recovers {α : Type} (x : Prog α) (g g' : Custody) : Prop :=
  Guards (fun _ g'' => g'' = g.having []) (LeftOne g) x g'

theorem neutral_getRuntimeServerConfig : Neutral (getRuntimeServerConfig serverName) g :=
  guards_act_bind.mpr ⟨trivial, fun _ => rfl⟩

theorem neutral_acquireRecoveryLock : Neutral (acquireRecoveryLock serverName deadline) g := by
  refine guards_bind.mpr (guards_withLock (guards_act.mpr ⟨trivial, fun fetched => ?_⟩) fun _ => rfl)
  refine guards_act_bind.mpr ⟨trivial, fun now => ?_⟩
  change Guards _ _ (if _ then _ else _) g
  split
  · exact rfl
  · have late (exc : PyException) : Guards (fun _ g' => g' = g) (fun _ g' => g' = g)
        (if exc.isTimeout then
          return .error (recoveryError serverName .recoveryTimeout "Recovery lock wait timed out")
        else .raise exc : Prog (Except TelaError (LockId × Bool))) g := by
      split <;> exact rfl
    refine guards_attempt_bind.mpr (guards_waitFor (guards_pause (fun _ => rfl) fun exc => ?_))
    exact ⟨late exc, late _⟩

theorem recovers_dropClient : Recovers (dropClientForServer serverName) g (g.having []) := by
  refine guards_bind.mpr (guards_withLock (guards_act.mpr ⟨trivial, fun handle => ?_⟩)
    fun _ => leftOne_nil)
  cases handle with
  | none => exact rfl
  | some handle => exact guards_closeNew rfl

theorem recovers_failMissingConfig {error : TelaError} :
    Recovers (failMissingConfig serverName error) g (g.having []) := by
  unfold failMissingConfig
  split
  · refine guards_bind.mpr (recovers_dropClient.mono (fun _ g' same => ?_) fun _ _ h => h)
    subst same
    exact rfl
  · exact rfl

theorem recovers_failAfterOpen {handle : ClientHandle} {stage : RecoveryStage} {text : String} :
    Recovers (failAfterOpen serverName handle stage text) g (g.having [handle.session]) :=
  guards_bind.mpr (guards_closeNew rfl)

theorem neutral_rollbackTools {previous : List ResolvedTool} :
    Neutral (rollbackTools serverName previous) g :=
  guards_withLock (guards_act.mpr ⟨trivial, fun _ => rfl⟩) fun _ => rfl

theorem recovers_swapRecoveredClient {latest : ServerConfig} {handle : ClientHandle}
    {previous : List ResolvedTool} :
    Recovers (swapRecoveredClient serverName latest handle previous) g
      (g.having [handle.session]) := by
  have undo {rest : Prog RecoveryOutcome} (after : Recovers rest g (g.having [])) :
      Recovers (do
        closeHandleBestEffort handle
        rollbackTools serverName previous
        rest) g (g.having [handle.session]) :=
    guards_bind.mpr (guards_closeNew (guards_bind.mpr
      (neutral_rollbackTools.then (fun _ => after) fun _ => leftOne_nil)))
  refine guards_bind.mpr (neutral_getRuntimeServerConfig.then (fun config => ?_)
    fun _ => leftOne_new _)
  cases config with
  | error error => exact undo recovers_failMissingConfig
  | ok preSwapConfig =>
      dsimp only
      split
      · exact undo rfl
      · refine guards_bind.mpr (guards_withLock (guards_act.mpr
          ⟨List.mem_cons_self .., fun old => ?_⟩) fun _ => leftOne_new _)
        have swapped : afterBlock (.swapClient serverName handle) old (g.having [handle.session]) =
            g.having (sessionsOf old.toList) := by
          change g.having (sessionsOf old.toList ++ [handle.session].erase handle.session) = _
          rw [List.erase_cons_head, List.append_nil]
        rw [swapped]
        cases old with
        | none => exact rfl
        | some old => exact guards_bind.mpr (guards_closeNew rfl)

/-- A timeout after the client was opened closes it; no other exception does. -/
theorem recovers_late {handle : ClientHandle} {exc : PyException} {late : String} :
    Recovers
      (if exc.isTimeout then failAfterOpen serverName handle .recoveryTimeout late
      else .raise exc) g (g.having [handle.session]) := by
  split
  · exact recovers_failAfterOpen
  · exact leftOne_new _

theorem recovers_converge {latest : ServerConfig} {handle : ClientHandle}
    {rawTools : List RawTool} :
    Recovers (convergeRecovered serverName deadline latest handle rawTools) g
      (g.having [handle.session]) := by
  refine guards_bind.mpr (guards_withLock (guards_act.mpr ⟨trivial, fun previous => ?_⟩)
    fun _ => leftOne_new _)
  refine guards_act_bind.mpr ⟨trivial, fun now => ?_⟩
  change Guards _ _ (if _ then _ else _) _
  split
  · exact recovers_failAfterOpen
  · refine guards_attempt_bind.mpr (guards_waitFor
      (neutral_onServerReconnect.then (fun result => ?_) fun _ => ⟨recovers_late, recovers_late⟩))
    cases result with
    | error error => exact recovers_failAfterOpen
    | ok _ => exact recovers_swapRecoveredClient

theorem recovers_checkEnumerated {serverConfig : ServerConfig} {handle : ClientHandle}
    {rawTools : List RawTool} :
    Recovers (checkEnumeratedConfig serverName deadline serverConfig handle rawTools) g
      (g.having [handle.session]) := by
  refine guards_bind.mpr (neutral_getRuntimeServerConfig.then (fun config => ?_)
    fun _ => leftOne_new _)
  cases config with
  | error error => exact guards_bind.mpr (guards_closeNew recovers_failMissingConfig)
  | ok latest =>
      dsimp only
      split
      · exact recovers_failAfterOpen
      · exact recovers_converge

theorem recovers_enumerate {serverConfig : ServerConfig} {handle : ClientHandle} :
    Recovers (enumerateRecovered serverName deadline serverConfig handle) g
      (g.having [handle.session]) := by
  refine guards_act_bind.mpr ⟨trivial, fun now => ?_⟩
  change Guards _ _ (if _ then _ else _) _
  split
  · exact recovers_failAfterOpen
  · refine guards_attempt_bind.mpr (guards_waitFor
      (guards_enumerateClientTools (fun result => ?_) fun _ _ => ⟨recovers_late, recovers_late⟩))
    cases result with
    | error error => exact recovers_failAfterOpen
    | ok rawTools => exact recovers_checkEnumerated

theorem recovers_reopen {serverConfig : ServerConfig} :
    Recovers (reopenClient serverName deadline serverConfig) g (g.having []) := by
  have late (exc : PyException) : Recovers
      (if exc.isTimeout then
        return (.error (recoveryError serverName .recoveryTimeout
          "Recovery timeout exhausted while reconnecting"), false)
      else .raise exc : Prog RecoveryOutcome) g (g.having []) := by
    split
    · exact rfl
    · exact leftOne_nil
  refine guards_act_bind.mpr ⟨trivial, fun now => ?_⟩
  change Guards _ _ (if _ then _ else _) _
  split
  · exact rfl
  · refine guards_attempt_bind.mpr (guards_waitFor (guards_openClientForServer ?_ ?_ ?_))
    · intro handle
      exact recovers_enumerate
    · intro error
      exact rfl
    · intro exc
      exact ⟨late exc, late _⟩

theorem recovers_locked {waitContended : Bool} :
    Recovers (recoverLocked serverName deadline waitContended) g (g.having []) := by
  refine guards_bind.mpr (neutral_getRuntimeServerConfig.then (fun config => ?_)
    fun _ => leftOne_nil)
  cases config with
  | error error => exact recovers_failMissingConfig
  | ok serverConfig =>
      cases waitContended with
      | false => exact recovers_reopen
      | true =>
          refine guards_bind.mpr (guards_withLock (guards_act.mpr ⟨trivial, fun found => ?_⟩)
            fun _ => leftOne_nil)
          change Guards _ _ (if _ then _ else _) _
          split
          · exact rfl
          · exact recovers_reopen

theorem recovers_recoverServerClient :
    Recovers (recoverServerClient serverName deadline) g (g.having []) := by
  refine guards_bind.mpr (neutral_acquireRecoveryLock.then (fun acquired => ?_)
    fun _ => leftOne_nil)
  cases acquired with
  | error error => exact rfl
  | ok lock =>
      refine guards_attempt_bind.mpr (recovers_locked.mono (fun outcome g' same => ?_)
        fun exc g' left => ⟨trivial, fun _ => left⟩)
      subst same
      obtain ⟨result, shouldPruneLock⟩ := outcome
      refine guards_act_bind.mpr ⟨trivial, fun _ => ?_⟩
      change Guards _ _ (if shouldPruneLock = true then _ else _) _
      split
      · exact guards_bind.mpr (guards_withLock (guards_act.mpr ⟨trivial, fun _ => rfl⟩)
          fun _ => leftOne_nil)
      · exact rfl

/-- A program that recovers a client and then touches no session. -/
theorem recovers_then {α : Type} {rest : Except TelaError Unit → Prog α}
    (after : ∀ result, Neutral (rest result) (g.having [])) :
    Recovers (recoverServerClient serverName deadline >>= rest) g (g.having []) := by
  refine guards_bind.mpr (recovers_recoverServerClient.mono (fun result g' same => ?_)
    fun _ _ h => h)
  subst same
  exact (after result).mono (fun _ _ h => h) fun _ _ same => ⟨[], same, Nat.zero_le 1⟩

theorem neutral_readClient :
    Neutral (withLock .registry (act (.readClient serverName))) g :=
  guards_withLock (guards_act.mpr ⟨trivial, fun _ => rfl⟩) fun _ => rfl

theorem recovers_handleReconnect {serverConfig : ServerConfig} :
    Recovers (handleReconnect serverName serverConfig) g (g.having []) := by
  refine guards_act_bind.mpr ⟨trivial, fun now => guards_act_bind.mpr ⟨trivial, fun _ => ?_⟩⟩
  refine recovers_then fun result => ?_
  cases result with
  | error error => exact rfl
  | ok _ => exact guards_act_bind.mpr ⟨trivial, fun _ => rfl⟩

theorem neutral_handleToolsListChanged {serverConfig : ServerConfig} :
    Neutral (handleToolsListChanged serverName serverConfig) g := by
  refine guards_bind.mpr (neutral_readClient.then (fun client => ?_) fun _ => rfl)
  cases client with
  | none => exact rfl
  | some client =>
      refine guards_bind.mpr (guards_enumerateClientTools (fun result => ?_) fun _ _ => rfl)
      cases result with
      | error error => exact rfl
      | ok rawTools => exact guards_bind.mpr (neutral_onToolsChanged.then (fun _ => rfl) fun _ => rfl)

theorem neutral_retryCall {toolName : String} {arguments : JsonObject} :
    Neutral (retryCall serverName toolName arguments deadline) g := by
  refine guards_bind.mpr (neutral_readClient.then (fun client => ?_) fun _ => rfl)
  cases client with
  | none => exact rfl
  | some client =>
      refine guards_act_bind.mpr ⟨trivial, fun now => ?_⟩
      change Guards _ _ (if _ then _ else _) _
      split
      · exact rfl
      · have failed (exc : PyException) : Neutral
            (if exc.isTimeout then
              return .error (recoveryError serverName .recoveryTimeout
                "Recovery timeout exhausted during retry")
            else if exc.isException then
              return .error (recoveryError serverName .retryFailed (getExceptionText exc))
            else .raise exc : Prog (Except TelaError Json)) g := by
          split
          · exact rfl
          · split <;> exact rfl
        refine guards_attempt_bind.mpr (guards_waitFor (guards_pause (fun _ => rfl) fun exc => ?_))
        exact ⟨failed exc, failed _⟩

theorem recovers_recoverAndRetry {toolName : String} {arguments : JsonObject} :
    Recovers (recoverAndRetry serverName toolName arguments deadline) g (g.having []) := by
  refine guards_act_bind.mpr ⟨trivial, fun _ => recovers_then fun result => ?_⟩
  cases result with
  | error error => exact rfl
  | ok _ => exact guards_act_bind.mpr ⟨trivial, fun _ => neutral_retryCall⟩

theorem recovers_callTool {toolName : String} {arguments : JsonObject} :
    Recovers (callTool serverName toolName arguments) g (g.having []) := by
  refine guards_bind.mpr (neutral_readClient.then (fun client => ?_) fun _ => leftOne_nil)
  refine guards_act_bind.mpr ⟨trivial, fun started => ?_⟩
  cases client with
  | none => exact recovers_recoverAndRetry
  | some client =>
      refine guards_pause_attempt_bind fun called => ?_
      cases called with
      | ok payload => exact rfl
      | error exc =>
          dsimp only
          split
          · split
            · exact recovers_recoverAndRetry
            · exact rfl
          · exact leftOne_nil

end Recovery

/-! ## Every operation -/

section Operations

variable {g : Custody}

/-- What a task of the downstream layer has in its custody when it returns. -/
abbrev Settles (x : Prog Unit) (g : Custody) : Prop := Guards Left (fun _ _ => True) x g

theorem Left.having {α : Type} {value : α} : Left value (g.having []) := fun _ => ⟨rfl, rfl⟩

theorem Neutral.settles {α : Type} {x : Prog α} (neutral : Neutral x (g.having [])) :
    Settles (discard x) (g.having []) :=
  guards_bind.mpr (neutral.then (fun _ => Left.having) fun _ => trivial)

theorem Recovers.settles {α : Type} {x : Prog α} (recovers : Recovers x g (g.having [])) :
    Guards Left (fun _ _ => True) x (g.having []) := by
  refine recovers.mono (fun _ g' same => ?_) fun _ _ _ => trivial
  subst same
  exact Left.having

theorem settles_messageHandler {serverName : String} {serverConfig : ServerConfig}
    {message : Message} :
    Settles (messageHandler serverName serverConfig message) (g.having []) := by
  refine guards_act_bind.mpr ⟨trivial, fun _ => ?_⟩
  cases message with
  | error => exact recovers_handleReconnect.settles
  | toolListChanged => exact neutral_handleToolsListChanged.then (fun _ => Left.having) fun _ => trivial
  | other => exact Left.having

theorem settles_handleMessage {session : SessionId} {message : Message} :
    Settles (handleMessage session message) (g.having []) := by
  refine guards_act_bind.mpr ⟨trivial, fun closure => ?_⟩
  cases closure with
  | none => exact ⟨trivial, fun _ => Left.having⟩
  | some closure =>
      refine Follows.ensure (settles_messageHandler.mono (fun _ g' left => ?_) fun _ _ _ => ?_)
      · exact ⟨trivial, fun _ => left⟩
      · exact ⟨trivial, fun _ => trivial⟩

/-- A coroutine of a `gather` hands its client on with its report. -/
theorem settles_runJob {batch : BatchId} {index : Nat} :
    Settles (runJob batch index) (g.having []) := by
  refine guards_act_bind.mpr ⟨trivial, fun job => ?_⟩
  cases job with
  | none => exact ⟨by rintro _ ⟨⟩, fun _ => Left.having⟩
  | some job =>
      obtain ⟨serverName, serverConfig⟩ := job
      refine guards_attempt_bind.mpr ((guards_connectServer (g := { g with job := some serverName })
        ).mono (fun result g' brings => ?_) fun exc g' same => ?_)
      · cases result with
        | error error =>
            obtain rfl : g' = _ := brings
            exact ⟨by rintro _ ⟨⟩, fun _ => Left.having⟩
        | ok startup =>
            obtain ⟨named, handle, handed, rfl⟩ := brings
            refine ⟨?_, fun _ _ => ⟨?_, rfl⟩⟩
            · intro other among
              obtain rfl := List.mem_singleton.mp among
              exact ⟨congrArg some named.symm, handle, handed, List.mem_singleton_self _⟩
            · refine diff_of_eq ?_
              simp only [reported, handlesOf, sessionsOf, List.filterMap_cons, handed]
              rfl
      · subst same
        exact ⟨by rintro _ ⟨⟩, fun _ => Left.having⟩

theorem settles_program (task : Coop.TaskId) (request : Req) :
    Settles (program task request) (g.having []) := by
  have forget {α : Type} {x : Prog α} (settles : Guards Left (fun _ _ => True) x (g.having [])) :
      Settles (discard x) (g.having []) := guards_bind.mpr settles
  cases request with
  | tick milliseconds => exact Left.having
  | connectAll servers toolLists => exact forget guards_connectAll
  | disconnectAll => exact forget (guards_disconnectAll (fun _ => Left.having) fun _ => trivial)
  | reEnumerate serverName => exact neutral_reEnumerate.settles
  | configChanged newConfig => exact forget guards_onConfigChanged
  | callTool serverName toolName arguments => exact forget recovers_callTool.settles
  | toolsChanged serverName serverConfig rawTools => exact neutral_onToolsChanged.settles
  | serverReconnect serverName serverConfig rawTools => exact neutral_onServerReconnect.settles
  | deliver session message => exact settles_handleMessage
  | connectServer batch index => exact settles_runJob

end Operations

/-- What a task has in its custody after its moves. -/
def custody (moves : List (Move sig PyException)) : Custody := monitor.trace {} moves

/--
Whatever the servers, the other tasks and the time limits do, an operation of the
downstream layer closes, installs and reports only sessions in its custody, and when it
returns it has closed or handed on all of them, as long as the coroutines of its `gather`
answered for their servers; each of them does.
-/
theorem session_custody (player : Player sig PyException) (task : Coop.TaskId) (request : Req) :
    monitor.AllowsAll {} ((program task request).play player []).2 ∧
      (((program task request).play player []).1 = .ok () →
        (custody ((program task request).play player []).2).matched = true →
          (custody ((program task request).play player []).2).Clear) := by
  obtain ⟨all, ended⟩ := Follows.play player
    (settles_program (g := {}) task request : Follows monitor _ _ _ _) Monitor.allowsAll_nil
  refine ⟨all, fun returned matched => ?_⟩
  rw [returned] at ended
  exact ended matched

/--
A recovery closes, besides the client it replaces, each session it opens exactly when it
does not install it; when it raises, at most the session it opened is left.
-/
theorem recovery_custody (player : Player sig PyException) (serverName : String)
    (deadline : Nat) :
    monitor.AllowsAll {} ((recoverServerClient serverName deadline).play player []).2 ∧
      match ((recoverServerClient serverName deadline).play player []).1 with
      | .ok _ => (custody ((recoverServerClient serverName deadline).play player []).2).Clear
      | .error _ =>
          (custody ((recoverServerClient serverName deadline).play player []).2).held.length ≤ 1 ∧
            (custody ((recoverServerClient serverName deadline).play player []).2).closing = [] := by
  obtain ⟨all, ended⟩ := Follows.play player
    (recovers_recoverServerClient (g := {}) : Follows monitor _ _ _ _) Monitor.allowsAll_nil
  refine ⟨all, ?_⟩
  cases outcome : ((recoverServerClient serverName deadline).play player []).1 with
  | ok result =>
      rw [outcome] at ended
      have same : custody ((recoverServerClient serverName deadline).play player []).2 =
          Custody.having {} [] := ended
      dsimp only
      rw [same]
      exact ⟨rfl, rfl⟩
  | error exc =>
      rw [outcome] at ended
      obtain ⟨held, same, few⟩ := ended
      have left : custody ((recoverServerClient serverName deadline).play player []).2 =
          Custody.having {} held := same
      dsimp only
      rw [left]
      exact ⟨few, rfl⟩

end Tela.SessionCustody
