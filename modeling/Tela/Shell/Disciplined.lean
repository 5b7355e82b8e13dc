import Tela.Shell.Discipline

/-!
# Every downstream program keeps the discipline

One lemma for each program, in the order of the programs. A lemma asks for what
the program needs of its trace and says which traces it can end in.
-/

namespace Tela

open Coop Trace

variable {α : Type} {g : Trace}

/-- The program keeps to the monitor and ends as stated. -/
abbrev Keeps (onRet : α → Trace → Prop) (onRaise : PyException → Trace → Prop) (x : Prog α)
    (g : Trace) : Prop :=
  Follows monitor onRet onRaise x g

/-! ## Blocks, waits and locks -/

theorem keeps_act {a : Act} {Q : a.Val → Trace → Prop} {E : PyException → Trace → Prop} :
    Keeps Q E (act a) g ↔ a.may g ∧ ∀ v, Q v (a.after v g) := Iff.rfl

theorem keeps_act_bind {a : Act} {rest : a.Val → Prog α} {Q : α → Trace → Prop}
    {E : PyException → Trace → Prop} :
    Keeps Q E (act a >>= rest) g ↔ a.may g ∧ ∀ v, Keeps Q E (rest v) (a.after v g) := Iff.rfl

theorem keeps_bind {β : Type} {x : Prog β} {rest : β → Prog α} {Q : α → Trace → Prop}
    {E : PyException → Trace → Prop} :
    Keeps Q E (x >>= rest) g ↔ Keeps (fun value g' => Keeps Q E (rest value) g') E x g :=
  Follows.bind_iff

theorem keeps_attempt_bind {β : Type} {x : Prog β} {rest : Except PyException β → Prog α}
    {Q : α → Trace → Prop} {E : PyException → Trace → Prop} :
    Keeps Q E (x.attempt >>= rest) g ↔
      Keeps (fun value g' => Keeps Q E (rest (.ok value)) g')
        (fun exc g' => Keeps Q E (rest (.error exc)) g') x g :=
  Follows.bind_iff.trans Follows.attempt_iff

theorem keeps_pause {w : Wait} {Q : w.Res → Trace → Prop} {E : PyException → Trace → Prop} :
    Keeps Q E (pause w) g ↔
      w.may g ∧ (∀ result, Q result (w.woken (some result) g)) ∧
        ∀ exc, E exc (w.woken none g) :=
  Follows.await_iff

theorem keeps_pause_bind {w : Wait} {rest : w.Res → Prog α} {Q : α → Trace → Prop}
    {E : PyException → Trace → Prop} :
    Keeps Q E (pause w >>= rest) g ↔
      w.may g ∧ (∀ result, Keeps Q E (rest result) (w.woken (some result) g)) ∧
        ∀ exc, E exc (w.woken none g) :=
  keeps_bind.trans keeps_pause

theorem keeps_pause_attempt_bind {w : Wait} {rest : Except PyException w.Res → Prog α}
    {Q : α → Trace → Prop} {E : PyException → Trace → Prop} :
    Keeps Q E ((pause w).attempt >>= rest) g ↔
      w.may g ∧ (∀ result, Keeps Q E (rest (.ok result)) (w.woken (some result) g)) ∧
        ∀ exc, Keeps Q E (rest (.error exc)) (w.woken none g) :=
  keeps_attempt_bind.trans keeps_pause

/-- A section under the registry lock. -/
theorem keeps_withRegistry {body : Prog α} {Q : α → Trace → Prop}
    {E : PyException → Trace → Prop} (free : g.Free)
    (inner : Keeps (fun value g' => g'.registry = true ∧ Q value g'.unlocked)
      (fun exc g' => g'.registry = true ∧ E exc g'.unlocked) body g.locked)
    (interrupted : ∀ exc, E exc (g.interrupt true)) :
    Keeps Q E (withLock .registry body) g := by
  refine keeps_pause_bind.mpr ⟨free, fun _ => ?_, interrupted⟩
  refine Follows.ensure (inner.mono (fun value g' h => ?_) fun exc g' h => ?_)
  · exact keeps_act.mpr ⟨h.1, fun _ => h.2⟩
  · exact keeps_act.mpr ⟨h.1, fun _ => h.2⟩

/-- One block under the registry lock. -/
theorem keeps_withRegistry_act (a : Act) {Q : a.Val → Trace → Prop}
    {E : PyException → Trace → Prop} (free : g.Free) (may : a.may g.locked)
    (held : ∀ v, (a.after v g.locked).registry = true)
    (post : ∀ v, Q v (a.after v g.locked).unlocked)
    (interrupted : ∀ exc, E exc (g.interrupt true)) :
    Keeps Q E (withLock .registry (act a)) g :=
  keeps_withRegistry free (keeps_act.mpr ⟨may, fun v => ⟨held v, post v⟩⟩) interrupted

/-- A body under a time limit. -/
theorem keeps_waitFor {limit : Nat} {body : Prog α} {Q : α → Trace → Prop}
    {E : PyException → Trace → Prop} (timeable : g.role ≠ .reload)
    (inner : Keeps Q (fun exc g' => E exc g' ∧ E (timeoutEscape exc) g') body g) :
    Keeps Q E (waitFor limit body) g :=
  Follows.within timeable inner

/-! ## Clients -/

theorem keeps_closeHandle {handle : ClientHandle} {Q : Unit → Trace → Prop}
    {E : PyException → Trace → Prop} (settled : g.Settled) (post : Q () g) :
    Keeps Q E (closeHandleBestEffort handle) g := by
  refine keeps_act_bind.mpr ⟨trivial, fun _ => ?_⟩
  exact keeps_pause_attempt_bind.mpr ⟨settled, fun _ => post, fun _ => post⟩

theorem keeps_closeClientHandles {handles : List ClientHandle} {Q : Unit → Trace → Prop}
    {E : PyException → Trace → Prop} (settled : g.Settled) (post : Q () g) :
    Keeps Q E (closeClientHandles handles) g := by
  have loop : Keeps (fun _ g' => g' = g) E (handles.forM closeHandleBestEffort) g := by
    refine Follows.forM rfl fun handle _ g' same => ?_
    subst same
    exact keeps_closeHandle settled rfl
  refine loop.mono (fun _ g' same => ?_) fun _ _ h => h
  subst same
  exact post

theorem keeps_abandonConnect {session : Option SessionId} {failure : PyException → String}
    {exc : PyException} {Q : Except String ClientHandle → Trace → Prop}
    {E : PyException → Trace → Prop} (settled : g.Settled)
    (onError : ∀ error, Q (.error error) g) (onRaise : ∀ exc, E exc g) :
    Keeps Q E (abandonConnect session failure exc) g := by
  unfold abandonConnect
  have close : Keeps Q E
      (if exc.isCancelled then do
        let _ ← (pause .aclose).attempt
        .raise exc
      else do
        pause .aclose
        return .error (failure exc)) g := by
    split
    · exact keeps_pause_attempt_bind.mpr ⟨settled, fun _ => onRaise exc, fun _ => onRaise exc⟩
    · exact keeps_pause_bind.mpr ⟨settled, fun _ => onError _, onRaise⟩
  cases session with
  | none => exact close
  | some session => exact keeps_act_bind.mpr ⟨trivial, fun _ => close⟩

/-- Opening a client leaves the target and, on success, the opened handle. -/
theorem keeps_openTransportClient {serverName : String} {serverConfig : ServerConfig}
    {failure : PyException → String} {Q : Except String ClientHandle → Trace → Prop}
    {E : PyException → Trace → Prop} (settled : g.Settled)
    (onOk : ∀ handle, Q (.ok handle)
      { g with target := some (serverName, handle.session), opened := some handle })
    (onError : ∀ error target, Q (.error error) { g with target := target })
    (onRaise : ∀ exc target, E exc { g with target := target }) :
    Keeps Q E (openTransportClient serverName serverConfig failure) g := by
  refine keeps_pause_attempt_bind.mpr ⟨settled, fun _ => ?_, fun exc => ?_⟩
  · refine keeps_act_bind.mpr ⟨trivial, fun session => ?_⟩
    have settled' : Settled { g with target := some (serverName, session) } :=
      ⟨settled.recovery, settled.shortcut, settled.config, settled.role, settled.swapped⟩
    refine keeps_pause_attempt_bind.mpr ⟨settled', fun instructions => ?_, fun exc => ?_⟩
    · exact keeps_act_bind.mpr ⟨⟨serverName, rfl⟩, fun handle => onOk handle⟩
    · exact keeps_abandonConnect settled' (fun _ => onError _ _) fun _ => onRaise _ _
  · exact keeps_abandonConnect settled (fun _ => onError _ g.target) fun _ => onRaise _ g.target

theorem keeps_openClientForServer {serverName : String} {serverConfig : ServerConfig}
    {Q : Except String ClientHandle → Trace → Prop}
    {E : PyException → Trace → Prop} (settled : g.Settled)
    (onOk : ∀ handle, Q (.ok handle)
      { g with target := some (serverName, handle.session), opened := some handle })
    (onError : ∀ error target, Q (.error error) { g with target := target })
    (onRaise : ∀ exc target, E exc { g with target := target }) :
    Keeps Q E (openClientForServer serverName serverConfig) g := by
  have transport (failure : PyException → String) :
      Keeps Q E (openTransportClient serverName serverConfig failure) g :=
    keeps_openTransportClient settled onOk onError onRaise
  unfold openClientForServer
  split
  · exact onError _ g.target
  · split
    · exact transport _
    · split
      · unfold openSseClient
        split
        · exact onError _ g.target
        · exact transport _
      · unfold openStreamableHttpClient
        split
        · exact onError _ g.target
        · exact transport _

theorem keeps_enumerateTools {server : String} {session : SessionId}
    {Q : Except String (List RawTool) → Trace → Prop} {E : PyException → Trace → Prop}
    (settled : g.Settled) (target : g.target = some (server, session))
    (onOk : ∀ rawTools, Q (.ok rawTools) { g with listed := some (server, rawTools) })
    (onError : ∀ error, Q (.error error) g) (onRaise : ∀ exc, E exc g) :
    Keeps Q E (enumerateTools session) g := by
  refine keeps_pause_attempt_bind.mpr ⟨⟨settled, server, target⟩, fun rawTools => ?_, fun exc => ?_⟩
  · have listed : Wait.woken (.listTools session) (some rawTools) g =
        { g with listed := some (server, rawTools) } := by
      simp [Wait.woken, target]
    rw [listed]
    exact onOk rawTools
  · change Keeps Q E (if _ then _ else _) g
    split
    · exact onError _
    · exact onRaise exc

theorem keeps_enumerateClientTools {server : String} {handle : ClientHandle}
    {Q : Except String (List RawTool) → Trace → Prop} {E : PyException → Trace → Prop}
    (settled : g.Settled) (target : g.target = some (server, handle.session))
    (onOk : ∀ rawTools, Q (.ok rawTools) { g with listed := some (server, rawTools) })
    (onError : ∀ error, Q (.error error) g) (onRaise : ∀ exc, E exc g) :
    Keeps Q E (enumerateClientTools server handle) g := by
  refine keeps_bind.mpr ?_
  exact keeps_enumerateTools settled target onOk (fun _ => onError _) onRaise

/-! ## Startup -/

/-- How a coroutine of a `gather` may end that started from `origin`. -/
abbrev KeepsWorking (origin : Trace) (x : Prog (Except String ConnectedServerData))
    (g : Trace) : Prop :=
  Keeps (fun result g' => Steady origin g' ∧ g'.Reportable (.ok result))
    (fun _ g' => Steady origin g') x g

variable {origin : Trace}

theorem reportable_error (g : Trace) (error : String) : g.Reportable (.ok (.error error)) :=
  fun _ same => by cases same

theorem keepsWorking_error {error : String} (steady : Steady origin g) :
    KeepsWorking origin (pure (.error error)) g :=
  ⟨steady, reportable_error g error⟩

theorem keepsWorking_close {handle : ClientHandle}
    {rest : Prog (Except String ConnectedServerData)} (settled : g.Settled)
    (closed : KeepsWorking origin rest g) :
    KeepsWorking origin (closeHandleBestEffort handle >>= fun _ => rest) g :=
  keeps_bind.mpr (keeps_closeHandle settled closed)

theorem keepsWorking_cancelled {exc : PyException} {error : String}
    (steady : Steady origin g) :
    KeepsWorking origin (do
      let external : Bool ← act .externallyCancelled
      if external then .raise exc else return .error error) g := by
  refine keeps_act_bind.mpr ⟨trivial, fun external => ?_⟩
  change Keeps _ _ (if external = true then _ else _) g
  split
  · exact steady
  · exact keepsWorking_error steady

theorem keeps_connectServerTools {serverName : String} {handle : ClientHandle}
    (steady : Steady origin g) (settled : g.Settled) (timeable : g.role ≠ .reload)
    (target : g.target = some (serverName, handle.session)) (opened : g.opened = some handle) :
    KeepsWorking origin (connectServerTools serverName handle) g := by
  refine keeps_act_bind.mpr ⟨trivial, fun started => ?_⟩
  have failed (exc : PyException) : KeepsWorking origin
      (if exc.isTimeout then do
        closeHandleBestEffort handle
        return .error (s!"DOWNSTREAM_CONNECT_FAILED: provider_tools_list_timeout:{serverName} "
          ++ "timeout_seconds=30.0")
      else if exc.isCancelled then do
        closeHandleBestEffort handle
        let external : Bool ← act .externallyCancelled
        if external then .raise exc
        else return .error ("DOWNSTREAM_CONNECT_FAILED: " ++
          s!"provider_tools_list_cancelled:{serverName} {exc.text}")
      else .raise exc) g := by
    split
    · exact keepsWorking_close settled (keepsWorking_error steady)
    · split
      · exact keepsWorking_close settled (keepsWorking_cancelled steady)
      · exact steady
  refine keeps_attempt_bind.mpr (keeps_waitFor timeable ?_)
  refine keeps_enumerateTools settled target (fun rawTools => ?_) (fun error => ?_)
    (fun exc => ⟨failed exc, failed _⟩)
  · refine ⟨steady.trans ⟨⟨rfl, rfl, rfl, rfl, rfl, rfl, rfl⟩, rfl, rfl⟩, fun startup same => ?_⟩
    cases same
    exact ⟨rfl, opened.symm⟩
  · exact keepsWorking_close settled (keepsWorking_error steady)

theorem keeps_connectServer {serverName : String} {serverConfig : ServerConfig}
    (settled : g.Settled) (timeable : g.role ≠ .reload) :
    KeepsWorking g (connectServer serverName serverConfig) g := by
  refine keeps_act_bind.mpr ⟨trivial, fun started => ?_⟩
  have failed (exc : PyException) {g' : Trace} (steady : Steady g g') : KeepsWorking g
      (if exc.isTimeout then
        return .error (s!"DOWNSTREAM_CONNECT_FAILED: provider_initialize_timeout:{serverName} "
          ++ "timeout_seconds=30.0")
      else if exc.isCancelled then do
        let external : Bool ← act .externallyCancelled
        if external then .raise exc
        else return .error ("DOWNSTREAM_CONNECT_FAILED: " ++
          s!"provider_initialize_cancelled:{serverName} {exc.text}")
      else .raise exc) g' := by
    split
    · exact keepsWorking_error steady
    · split
      · exact keepsWorking_cancelled steady
      · exact steady
  refine keeps_attempt_bind.mpr (keeps_waitFor timeable ?_)
  have steady (target : Option (String × SessionId)) :
      Steady g { g with target := target } := ⟨⟨rfl, rfl, rfl, rfl, rfl, rfl, rfl⟩, rfl, rfl⟩
  refine keeps_openClientForServer settled (fun handle => ?_) (fun error target => ?_)
    (fun exc target => ⟨failed exc (steady target), failed _ (steady target)⟩)
  · have settled' : Settled
        { g with target := some (serverName, handle.session), opened := some handle } :=
      ⟨settled.recovery, settled.shortcut, settled.config, settled.role, settled.swapped⟩
    exact keeps_connectServerTools ⟨⟨rfl, rfl, rfl, rfl, rfl, rfl, rfl⟩, rfl, rfl⟩ settled'
      timeable rfl rfl
  · exact ⟨steady target, reportable_error _ _⟩

theorem startup_of_sortStartups {serverNames : List String}
    {results : List (Except String ConnectedServerData)} :
    ∀ name startup, (sortStartups serverNames results).1.get? name = some startup →
      startup.serverName = name ∧ .ok startup ∈ results := by
  refine List.foldlRecOn (motive := fun startups : Startups => ∀ name startup,
    startups.1.get? name = some startup → startup.serverName = name ∧ .ok startup ∈ results)
    _ sortStartup ?_ ?_
  · intro name startup found
    cases found
  intro startups before entry member name startup found
  obtain ⟨serverName, result⟩ := entry
  have listed := (List.of_mem_zip member).2
  cases result with
  | error error => exact before name startup found
  | ok started =>
      change (startups.1.set started.serverName started).get? name = some startup at found
      rw [Dict.get?_set] at found
      split at found
      · rename_i same
        cases found
        exact ⟨same.symm, listed⟩
      · exact before name startup found

theorem startup_of_usePreEnumerated {serverNames : List String}
    {toolLists : Dict String (List RawTool)} :
    ∀ name startup, (usePreEnumerated serverNames toolLists).1.get? name = some startup →
      startup.serverName = name ∧ startup.clientHandle = none := by
  refine List.foldlRecOn (motive := fun startups : Startups => ∀ name startup,
    startups.1.get? name = some startup →
      startup.serverName = name ∧ startup.clientHandle = none)
    _ (usePreEnumeratedList toolLists) ?_ ?_
  · intro name startup found
    cases found
  intro startups before serverName _ name startup found
  unfold usePreEnumeratedList at found
  split at found
  · exact before name startup found
  · rw [Dict.get?_set] at found
    split at found
    · rename_i same
      cases found
      exact ⟨same.symm, rfl⟩
    · exact before name startup found

/-- The resolution loop resolves each startup under the settings of its server, and no more. -/
theorem resolveStartup_foldlM {servers : Dict String ServerConfig}
    {entries : List (String × ConnectedServerData)} {acc result : Dict String (List ResolvedTool)}
    (nodup : (entries.map Prod.fst).Nodup)
    (done : entries.foldlM (resolveStartup servers) acc = .ok result) :
    (∀ name, name ∉ entries.map Prod.fst → result.get? name = acc.get? name) ∧
      ∀ name startup, (name, startup) ∈ entries →
        ∃ serverConfig tools, servers.get? name = some serverConfig ∧
          result.get? name = some tools ∧
          resolveTools name serverConfig startup.rawTools = .ok tools := by
  induction entries generalizing acc with
  | nil =>
      cases done
      exact ⟨fun _ _ => rfl, fun _ _ member => by cases member⟩
  | cons entry rest ih =>
      obtain ⟨name, startup⟩ := entry
      obtain ⟨fresh, tail⟩ := List.nodup_cons.mp nodup
      rw [List.foldlM_cons] at done
      cases step : resolveStartup servers acc (name, startup) with
      | error exc =>
          rw [step] at done
          cases done
      | ok next =>
          rw [step] at done
          obtain ⟨untouched, later⟩ := ih tail done
          unfold resolveStartup at step
          split at step
          · cases step
          · rename_i serverConfig configured
            cases outcome : resolveTools name serverConfig startup.rawTools with
            | error exc =>
                rw [outcome] at step
                cases step
            | ok tools =>
                rw [outcome] at step
                cases step
                refine ⟨fun other absent => ?_, fun other started member => ?_⟩
                · rw [List.map_cons, List.mem_cons, not_or] at absent
                  rw [untouched other absent.2, Dict.get?_set_of_ne _ absent.1]
                · obtain same | member := List.mem_cons.mp member
                  · cases same
                    exact ⟨serverConfig, tools, configured,
                      by rw [untouched name fresh, Dict.get?_set_self], outcome⟩
                  · exact later other started member

theorem resolved_of_foldlM {servers : Dict String ServerConfig}
    {connected : Dict String ConnectedServerData}
    {allResolved : Dict String (List ResolvedTool)}
    (resolved : connected.entries.foldlM (resolveStartup servers) ∅ = .ok allResolved)
    {serverName : String} {startup : ConnectedServerData}
    (found : connected.get? serverName = some startup) :
    ∃ serverConfig tools, servers.get? serverName = some serverConfig ∧
      allResolved.get? serverName = some tools ∧
      resolveTools serverName serverConfig startup.rawTools = .ok tools :=
  (resolveStartup_foldlM connected.nodup resolved).2 _ _ (Dict.get?_eq_some_iff.mp found)

/-- A trace whose registry section of `connect_all` is over. -/
structure Connected (g g' : Trace) : Prop extends Frame g g' where
  ahead : g'.ahead = false

theorem keeps_startServers {servers : Dict String ServerConfig}
    {toolLists : Option (Dict String (List RawTool))} (settled : g.Settled)
    (registry : g.registry = true) (cleared : g.cleared = true)
    (notWorker : ∀ batch index, g.role ≠ .worker batch index)
    (given : toolLists.isSome = true → g.role ≠ .reload) :
    Keeps (fun startups g' => Steady g g' ∧ ∀ serverName startup,
        startups.1.get? serverName = some startup → g'.Started serverName startup)
      (fun _ g' => Steady g g') (startServers servers toolLists) g := by
  cases toolLists with
  | some toolLists =>
      refine ⟨.refl g, fun serverName startup found => ?_⟩
      obtain ⟨same, bare⟩ := startup_of_usePreEnumerated _ _ found
      exact ⟨same, .inr ⟨bare, given rfl⟩⟩
  | none =>
      refine keeps_act_bind.mpr ⟨⟨registry, cleared⟩, fun batch => ?_⟩
      have settled' : Settled { g with batch := some batch } :=
        ⟨settled.recovery, settled.shortcut, settled.config, settled.role, settled.swapped⟩
      refine keeps_pause_bind.mpr ⟨⟨settled', rfl, registry, cleared, notWorker⟩,
        fun _ => ?_, fun _ => ?_⟩
      · refine keeps_act_bind.mpr ⟨rfl, fun results => ?_⟩
        refine ⟨⟨⟨rfl, rfl, rfl, rfl, rfl, rfl, rfl⟩, rfl, rfl⟩, fun serverName startup found => ?_⟩
        obtain ⟨same, listed⟩ := startup_of_sortStartups _ _ found
        exact ⟨same, .inl ⟨results, rfl, listed⟩⟩
      · exact ⟨⟨rfl, rfl, rfl, rfl, rfl, rfl, rfl⟩, rfl, rfl⟩

theorem keeps_publishStartups {servers : Dict String ServerConfig}
    {connected : Dict String ConnectedServerData}
    {failures : Dict String ProviderStartupFailure} (settled : g.Settled)
    (registry : g.registry = true) (cleared : g.cleared = true)
    (started : ∀ serverName startup, connected.get? serverName = some startup →
      g.Started serverName startup) :
    Keeps (fun _ g' => g' = g ∨ g' = { g with cleared := false }) (fun _ g' => g' = g)
      (publishStartups servers connected failures) g := by
  unfold publishStartups
  split
  · exact rfl
  · rename_i allResolved resolved
    split
    · refine keeps_bind.mpr (keeps_closeClientHandles settled ?_)
      exact keeps_act_bind.mpr ⟨⟨registry, cleared⟩, fun _ => .inl rfl⟩
    · rename_i clean
      refine keeps_act_bind.mpr ⟨⟨registry, cleared, settled.shortcut, clean,
        fun serverName startup found => ?_⟩,
        fun _ => .inr rfl⟩
      exact ⟨started serverName startup found, resolved_of_foldlM resolved found⟩

theorem keeps_closeAllClientsLocked {Q : Unit → Trace → Prop}
    {E : PyException → Trace → Prop} (settled : g.Settled) (registry : g.registry = true)
    (post : Q () g) : Keeps Q E closeAllClientsLocked g :=
  keeps_act_bind.mpr ⟨⟨registry, settled.shortcut⟩, fun _ => keeps_closeClientHandles settled post⟩

theorem keeps_connectAllLocked {servers : Dict String ServerConfig}
    {toolLists : Option (Dict String (List RawTool))} (settled : g.Settled)
    (registry : g.registry = true) (notWorker : ∀ batch index, g.role ≠ .worker batch index)
    (given : toolLists.isSome = true → g.role ≠ .reload) :
    Keeps (fun _ => Connected g) (fun _ => Connected g) (connectAllLocked servers toolLists) g := by
  refine keeps_bind.mpr (keeps_closeAllClientsLocked settled registry ?_)
  refine keeps_act_bind.mpr ⟨registry, fun _ => ?_⟩
  let reset : Trace :=
    { g with cleared := true, ahead := false, batch := none, results := none }
  have settled' : reset.Settled :=
    ⟨settled.recovery, settled.shortcut, settled.config, settled.role, settled.swapped⟩
  have connected {g' : Trace} (steady : Steady reset g') : Connected g g' :=
    ⟨⟨steady.role, steady.registry, steady.recovery, steady.shortcut, steady.swapped,
      steady.config, steady.snapshot⟩, steady.ahead⟩
  refine keeps_bind.mpr ((keeps_startServers settled' registry rfl notWorker given).mono ?_ ?_)
  · rintro startups g' ⟨steady, started⟩
    refine (keeps_publishStartups (steady.settled settled') (steady.registry.trans registry)
      steady.cleared started).mono ?_ ?_
    · rintro _ g'' (rfl | rfl)
      · exact connected steady
      · have now := connected steady
        exact ⟨⟨now.role, now.registry, now.recovery, now.shortcut, now.swapped, now.config,
          now.snapshot⟩, now.ahead⟩
    · rintro _ g'' rfl
      exact connected steady
  · exact fun _ g' steady => connected steady

/-- Either the registry section ran to its end, or the lock was never acquired. -/
theorem keeps_connectAll {servers : Dict String ServerConfig}
    {toolLists : Option (Dict String (List RawTool))} {Q : Except String Unit → Trace → Prop}
    {E : PyException → Trace → Prop} (free : g.Free)
    (given : toolLists.isSome = true → g.role ≠ .reload)
    (onRet : ∀ result g', Connected g g' → g'.Free → Q result g')
    (onRaise : ∀ exc g', Connected g g' → g'.Free → E exc g')
    (interrupted : ∀ exc, E exc (g.interrupt true)) :
    Keeps Q E (connectAll servers toolLists) g := by
  have settled : g.locked.Settled :=
    ⟨free.recovery, free.shortcut, free.config, free.role, free.swapped⟩
  have past {g' : Trace} (now : Connected g.locked g') : Connected g g'.unlocked :=
    ⟨⟨now.role, free.registry.symm, now.recovery, now.shortcut, now.swapped, now.config,
      now.snapshot⟩, now.ahead⟩
  refine keeps_withRegistry free ((keeps_connectAllLocked settled rfl free.notWorker given).mono ?_ ?_)
    interrupted
  · exact fun result g' now =>
      ⟨now.registry, onRet _ _ (past now) ((past now).free free rfl)⟩
  · exact fun exc g' now =>
      ⟨now.registry, onRaise _ _ (past now) ((past now).free free rfl)⟩

theorem keeps_disconnectAll {Q : Except String Unit → Trace → Prop}
    {E : PyException → Trace → Prop} (free : g.Free) (none_ : g.recovery = none)
    (onRet : ∀ result, Q result g)
    (interrupted : ∀ exc, E exc (g.interrupt true)) : Keeps Q E disconnectAll g := by
  have settled : g.locked.Settled :=
    ⟨free.recovery, free.shortcut, free.config, free.role, free.swapped⟩
  refine keeps_bind.mpr (keeps_withRegistry free ?_ interrupted)
  refine keeps_bind.mpr (keeps_closeAllClientsLocked settled rfl ?_)
  refine keeps_act.mpr ⟨⟨rfl, none_⟩, fun _ => ⟨rfl, ?_⟩⟩
  change Q _ g.locked.unlocked
  rw [unlocked_locked free]
  exact onRet _

/-! ## Convergence and reload -/

/-- A trace in which a task may end. -/
structure Trace.Done (g : Trace) : Prop where
  registry : g.registry = false
  recovery : ∀ hold, g.recovery = some hold → hold.acquired = false
  role : ∀ session message, g.role ≠ .handler session message
  ahead : g.ahead = true → g.interrupted = true
  reported : ∀ batch index, g.role = .worker batch index → g.reported = true

theorem Trace.Frame.done {g' : Trace} (frame : Frame g g') (free : g.Free)
    (recovery : g.recovery = none) (role : ∀ session message, g.role ≠ .handler session message)
    (ahead : g'.ahead = true → g'.interrupted = true) : g'.Done where
  registry := frame.registry.trans free.registry
  recovery hold held := by
    rw [frame.recovery, recovery] at held
    cases held
  role := by rw [frame.role]; exact role
  ahead := ahead
  reported batch index same := absurd (frame.role.symm.trans same) (free.notWorker batch index)

theorem keeps_getRuntimeConfig {rest : Option TelaConfig → Prog α} {Q : α → Trace → Prop}
    {E : PyException → Trace → Prop} (other : g.role ≠ .reload)
    (post : ∀ config, Keeps Q E (rest config) g) :
    Keeps Q E (act .getRuntimeConfig >>= rest) g := by
  refine keeps_act_bind.mpr ⟨trivial, fun config => ?_⟩
  have same : Act.after .getRuntimeConfig config g = g := if_neg other
  rw [same]
  exact post config

theorem keeps_reEnumerateLocked {serverName : String} (settled : g.Settled)
    (registry : g.registry = true) (cleared : g.cleared = false) (other : g.role ≠ .reload) :
    Keeps (fun _ => Steady g) (fun _ => Steady g) (reEnumerateLocked serverName) g := by
  refine keeps_act_bind.mpr ⟨registry, fun client => ?_⟩
  cases client with
  | none => exact ⟨⟨rfl, rfl, rfl, rfl, rfl, rfl, rfl⟩, rfl, rfl⟩
  | some client =>
      let targeted : Trace := { g with target := some (serverName, client.session) }
      have steady : Steady g targeted := ⟨⟨rfl, rfl, rfl, rfl, rfl, rfl, rfl⟩, rfl, rfl⟩
      refine keeps_getRuntimeConfig (g := targeted) other fun config => ?_
      cases config with
      | none => exact steady
      | some config =>
          dsimp only
          split
          · exact steady
          · refine keeps_bind.mpr (keeps_enumerateTools (steady.settled settled) rfl ?_ ?_ ?_)
            · intro rawTools
              refine keeps_act_bind.mpr ⟨⟨registry, cleared, rfl, fun same => by cases same⟩, ?_⟩
              have listed : Steady g { targeted with listed := some (serverName, rawTools) } :=
                ⟨⟨rfl, rfl, rfl, rfl, rfl, rfl, rfl⟩, rfl, rfl⟩
              rintro (exc | (conflicts | resolved)) <;> exact listed
            · exact fun _ => steady
            · exact fun _ => steady

/-- The kernel leaves the trace as it was. -/
theorem keeps_convergeSingleServerUpdate {serverName : String} {serverConfig : ServerConfig}
    {rawTools : List RawTool} {trigger : ConvergenceTrigger}
    {Q : SingleServerConvergenceResult → Trace → Prop} {E : PyException → Trace → Prop}
    (free : g.Free) (listed : g.listed = some (serverName, rawTools))
    (reconnects : trigger = .reconnect → g.Recovers serverName ∨ g.role = .plain)
    (onRet : ∀ outcome, Q outcome g) (onRaise : ∀ exc flag, E exc (g.interrupt flag)) :
    Keeps Q E (convergeSingleServerUpdate serverName serverConfig rawTools trigger) g := by
  have back : g.locked.unlocked = g := unlocked_locked free
  refine keeps_withRegistry free ?_ fun exc => onRaise exc true
  refine keeps_act_bind.mpr ⟨⟨rfl, free.cleared, listed, reconnects⟩, ?_⟩
  rintro (exc | (conflicts | resolved))
  · refine ⟨rfl, ?_⟩
    change E exc g.locked.unlocked
    rw [back]
    exact onRaise exc g.interrupted
  · refine ⟨rfl, ?_⟩
    change Q _ g.locked.unlocked
    rw [back]
    exact onRet _
  · refine ⟨rfl, ?_⟩
    change Q _ g.locked.unlocked
    rw [back]
    exact onRet _

theorem keeps_notifyRegistryToolDigest {Q : Unit → Trace → Prop}
    {E : PyException → Trace → Prop} (free : g.Free) (onRet : Q () g)
    (onRaise : ∀ exc flag, E exc (g.interrupt flag)) : Keeps Q E notifyRegistryToolDigest g := by
  refine keeps_act_bind.mpr ⟨trivial, fun registered => ?_⟩
  change Keeps Q E (if registered = true then _ else _) g
  split
  · refine keeps_bind.mpr (keeps_withRegistry_act .exposedToolNames free rfl (fun _ => rfl)
      (fun names => ?_)
      fun exc => onRaise exc true)
    change Keeps Q E _ g.locked.unlocked
    rw [unlocked_locked free]
    exact keeps_pause.mpr ⟨free.toSettled, fun _ => onRet, fun exc => onRaise exc g.interrupted⟩
  · exact onRet

theorem keeps_settleConvergence {outcome : SingleServerConvergenceResult}
    {Q : Except String Unit → Trace → Prop} {E : PyException → Trace → Prop} (free : g.Free)
    (onRet : ∀ result, Q result g) (onRaise : ∀ exc flag, E exc (g.interrupt flag)) :
    Keeps Q E (settleConvergence outcome) g := by
  unfold settleConvergence
  split
  · exact keeps_pause_bind.mpr ⟨free.toSettled, fun _ => onRet _,
      fun exc => onRaise exc g.interrupted⟩
  · exact keeps_bind.mpr (keeps_notifyRegistryToolDigest free (onRet _) onRaise)

theorem keeps_onToolsChanged {serverName : String} {serverConfig : ServerConfig}
    {rawTools : List RawTool} {Q : Except String Unit → Trace → Prop}
    {E : PyException → Trace → Prop} (free : g.Free)
    (listed : g.listed = some (serverName, rawTools)) (onRet : ∀ result, Q result g)
    (onRaise : ∀ exc flag, E exc (g.interrupt flag)) :
    Keeps Q E (onToolsChanged serverName serverConfig rawTools) g :=
  keeps_bind.mpr (keeps_convergeSingleServerUpdate free listed (fun same => by cases same)
    (fun _ => keeps_settleConvergence free onRet onRaise) onRaise)

theorem keeps_onServerReconnect {serverName : String} {serverConfig : ServerConfig}
    {rawTools : List RawTool} {Q : Except String Unit → Trace → Prop}
    {E : PyException → Trace → Prop} (free : g.Free)
    (listed : g.listed = some (serverName, rawTools))
    (reconnects : g.Recovers serverName ∨ g.role = .plain) (onRet : ∀ result, Q result g)
    (onRaise : ∀ exc flag, E exc (g.interrupt flag)) :
    Keeps Q E (onServerReconnect serverName serverConfig rawTools) g :=
  keeps_bind.mpr (keeps_convergeSingleServerUpdate free listed (fun _ => reconnects)
    (fun _ => keeps_settleConvergence free onRet onRaise) onRaise)

theorem keeps_revertReload {oldConfig : TelaConfig} {snap : DownstreamRegistry}
    {Q : Unit → Trace → Prop} {E : PyException → Trace → Prop} (free : g.Free)
    (role : g.role = .reload) (snapshot : g.snapshot = some snap)
    (onRet : Q () { g with ahead := false, config := none })
    (onRaise : ∀ exc, E exc (g.interrupt true)) :
    Keeps Q E (revertReload oldConfig snap) g := by
  refine keeps_bind.mpr (keeps_withRegistry_act (.restoreRegistry snap) free
    ⟨rfl, snapshot, role, free.cleared⟩ (fun _ => rfl) (fun _ => ?_) onRaise)
  change Keeps Q E _ { g.locked.unlocked with ahead := true }
  rw [unlocked_locked free]
  exact keeps_act.mpr ⟨⟨role, .inr rfl⟩, fun _ => onRet⟩

/-- A reload ends with the registry reset, or was interrupted before that. -/
theorem keeps_reconnectServers {oldConfig newConfig : TelaConfig} (free : g.Free)
    (role : g.role = .reload) (none_ : g.recovery = none) :
    Keeps (fun _ => Trace.Done) (fun _ => Trace.Done) (reconnectServers oldConfig newConfig) g := by
  have handles (session : SessionId) (message : Message) : g.role ≠ .handler session message := by
    simp [role]
  refine keeps_bind.mpr (keeps_withRegistry_act .snapshotRegistry free rfl (fun _ => rfl)
    (fun snap => ?_) fun exc => ?_)
  · change Keeps _ _ _ { g.locked.unlocked with snapshot := some snap }
    rw [unlocked_locked free]
    let snapped : Trace := { g with snapshot := some snap }
    have free' : snapped.Free :=
      ⟨⟨free.recovery, free.shortcut, free.config, free.role, free.swapped⟩, free.registry, free.cleared,
        free.notWorker⟩
    have done {g' : Trace} (frame : Frame snapped g')
        (ahead : g'.ahead = true → g'.interrupted = true) : g'.Done :=
      frame.done free' none_ handles ahead
    have reset {g' : Trace} (connected : Connected snapped g') : g'.Done :=
      done connected.toFrame fun ahead => by simp [connected.ahead] at ahead
    refine keeps_bind.mpr (keeps_disconnectAll free' none_ (fun _ => ?_) fun exc => ?_)
    · refine keeps_bind.mpr (keeps_connectAll free' (fun given => by cases given) ?_ ?_ ?_)
      · intro result g' connected freed
        cases result with
        | error error =>
            change Keeps _ _ (if _ then _ else _) g'
            split
            · refine keeps_bind.mpr (keeps_revertReload freed (connected.role.trans role)
                connected.snapshot ?_ fun _ => ?_)
              · exact done (connected.toFrame.trans
                  ⟨rfl, rfl, rfl, rfl, rfl, freed.config.symm, rfl⟩) nofun
              · exact done (connected.toFrame.trans ⟨rfl, rfl, rfl, rfl, rfl, rfl, rfl⟩)
                  fun _ => rfl
            · exact reset connected
        | ok value =>
            refine keeps_bind.mpr (keeps_notifyRegistryToolDigest freed (reset connected) ?_)
            exact fun exc flag => reset
              ⟨connected.toFrame.trans ⟨rfl, rfl, rfl, rfl, rfl, rfl, rfl⟩, connected.ahead⟩
      · exact fun _ g' connected _ => reset connected
      · exact fun _ => done ⟨rfl, rfl, rfl, rfl, rfl, rfl, rfl⟩ fun _ => rfl
    · exact done ⟨rfl, rfl, rfl, rfl, rfl, rfl, rfl⟩ fun _ => rfl
  · exact Frame.done (g := g) ⟨rfl, rfl, rfl, rfl, rfl, rfl, rfl⟩ free none_ handles fun _ => rfl

theorem keeps_onConfigChanged {newConfig : TelaConfig} :
    Keeps (fun _ => Trace.Done) (fun _ => Trace.Done) (onConfigChanged newConfig)
      { role := .reload } := by
  have free (ahead : Bool) : Free { role := .reload, ahead := ahead } :=
    ⟨⟨fun _ held => (nomatch held), rfl, rfl, fun _ same => (nomatch same), nofun⟩, rfl, rfl,
      fun _ _ same => (nomatch same)⟩
  have done : Trace.Done { role := .reload } :=
    ⟨rfl, fun _ held => (nomatch held), fun _ _ same => (nomatch same), nofun, fun _ _ => nofun⟩
  refine keeps_act_bind.mpr ⟨trivial, fun oldConfig => ?_⟩
  refine keeps_act_bind.mpr ⟨⟨rfl, .inl rfl⟩, fun _ => ?_⟩
  cases oldConfig with
  | none => exact done
  | some oldConfig =>
      change Keeps _ _ (if serversDiffer oldConfig.servers newConfig.servers = true then _ else _)
        { role := .reload, ahead := serversDiffer oldConfig.servers newConfig.servers }
      split
      · rename_i differ
        rw [differ]
        exact keeps_reconnectServers (free true) rfl rfl
      · rename_i same
        rw [Bool.not_eq_true] at same
        rw [same]
        exact done

/-! ## Recovery -/

/-- A trace after a recovery that did not succeed: at most a lock that was only looked up. -/
def Trace.Failed (g g' : Trace) : Prop :=
  ∃ recovery, (∀ hold, recovery = some hold → hold.acquired = false) ∧
    Steady { g with recovery := recovery } g'

/-- A trace after a recovery that succeeded. -/
def Trace.Recovered (g : Trace) (server : String) (g' : Trace) : Prop :=
  ∃ before, Steady g before ∧
    ((∃ handle, g' = { before with shortcut := some (server, handle) }) ∨
      g' = { before with swapped := some server })

theorem not_reload_of_recovers {role : Role} (recovers : role.recovers = true) :
    role ≠ .reload := by
  rintro rfl
  cases recovers

theorem unswapped (free : g.Free) (none_ : g.recovery = none) : g.swapped = none := by
  cases swapped : g.swapped with
  | none => rfl
  | some server =>
      obtain ⟨lock, held⟩ := free.swapped server swapped
      rw [none_] at held
      cases held

theorem keeps_acquireRecoveryLock {serverName : String} {deadline : Nat}
    {Q : Except TelaError (LockId × Bool) → Trace → Prop} {E : PyException → Trace → Prop}
    (free : g.Free) (none_ : g.recovery = none) (recoverer : g.role.recovers = true)
    (onOk : ∀ lock contended, Q (.ok (lock, contended))
      { g with recovery := some ⟨serverName, lock, true⟩ })
    (onError : ∀ error g', Failed g g' → Q (.error error) g')
    (onRaise : ∀ exc g', Failed g g' → E exc g') :
    Keeps Q E (acquireRecoveryLock serverName deadline) g := by
  have clean := unswapped free none_
  have timeable := not_reload_of_recovers recoverer
  refine keeps_bind.mpr (keeps_withRegistry_act (.fetchRecoveryLock serverName) free
    ⟨rfl, none_⟩ (fun _ => rfl) ?_ fun exc => ?_)
  · rintro ⟨lock, contended⟩
    change Keeps Q E _ { g.locked.unlocked with recovery := some ⟨serverName, lock, false⟩ }
    rw [unlocked_locked free]
    let fetched : Trace := { g with recovery := some ⟨serverName, lock, false⟩ }
    have failed : Failed g fetched :=
      ⟨_, fun hold same => by (cases same; rfl), .refl _⟩
    have unlocked : Failed g { fetched with recovery := none } :=
      ⟨none, nofun, .refl _⟩
    refine keeps_act_bind.mpr ⟨trivial, fun now => ?_⟩
    change Keeps Q E (if deadline ≤ now then _ else _) fetched
    split
    · exact onError _ _ failed
    · have raised (exc : PyException) : Keeps Q E
          (if exc.isTimeout then
            return .error (recoveryError serverName .recoveryTimeout
              "Recovery lock wait timed out")
          else .raise exc) { fetched with recovery := none } := by
        split
        · exact onError _ _ unlocked
        · exact onRaise _ _ unlocked
      refine keeps_attempt_bind.mpr (keeps_waitFor timeable (keeps_pause.mpr ⟨?_, ?_, ?_⟩))
      · exact ⟨⟨serverName, rfl⟩, free.registry, free.shortcut, free.config, clean, recoverer⟩
      · exact fun _ => onOk lock contended
      · exact fun exc => ⟨raised exc, raised _⟩
  · refine onRaise exc _ ⟨none, nofun, ?_⟩
    exact ⟨⟨rfl, rfl, none_, rfl, rfl, rfl, rfl⟩, rfl, rfl⟩

/-- How a recovery under its lock may end that started from `origin`. -/
abbrev KeepsRecovering (origin : Trace) (serverName : String) (x : Prog RecoveryOutcome)
    (g : Trace) : Prop :=
  Keeps
    (fun outcome g' =>
      match outcome.1 with
      | .ok () => outcome.2 = false ∧ Recovered origin serverName g'
      | .error _ => Steady origin g')
    (fun _ g' => Steady origin g') x g

section Recovery

variable {serverName : String} {deadline : Nat} {newHandle : ClientHandle}

theorem steady_interrupt (steady : Steady origin g) (flag : Bool) :
    Steady origin (g.interrupt flag) :=
  steady.trans ⟨⟨rfl, rfl, rfl, rfl, rfl, rfl, rfl⟩, rfl, rfl⟩

theorem keeps_failMissingConfig {error : TelaError} (free : g.Free) (steady : Steady origin g) :
    KeepsRecovering origin serverName (failMissingConfig serverName error) g := by
  unfold failMissingConfig
  split
  · refine keeps_bind.mpr (keeps_bind.mpr (keeps_withRegistry_act (.dropClient serverName) free
      ⟨rfl, free.shortcut⟩ (fun _ => rfl) (fun handle => ?_) fun _ => steady_interrupt steady true))
    change Keeps _ _ _ g.locked.unlocked
    rw [unlocked_locked free]
    cases handle with
    | none => exact steady
    | some handle => exact keeps_closeHandle free.toSettled steady
  · exact steady

theorem keeps_failAfterOpen {stage : RecoveryStage} {underlyingError : String}
    (settled : g.Settled) (steady : Steady origin g) :
    KeepsRecovering origin serverName
      (failAfterOpen serverName newHandle stage underlyingError) g :=
  keeps_bind.mpr (keeps_closeHandle settled steady)

theorem keeps_rollbackTools {previousTools : List ResolvedTool} {Q : Unit → Trace → Prop}
    {E : PyException → Trace → Prop} (free : g.Free)
    (previous : g.previous = some (serverName, previousTools)) (recovers : g.Recovers serverName)
    (post : Q () g) (onRaise : ∀ exc, E exc (g.interrupt true)) :
    Keeps Q E (rollbackTools serverName previousTools) g := by
  refine keeps_withRegistry_act (.rollback serverName previousTools) free
    ⟨rfl, free.cleared, previous, recovers⟩ (fun _ => rfl) (fun _ => ?_) onRaise
  change Q () g.locked.unlocked
  rw [unlocked_locked free]
  exact post

theorem keeps_swapRecoveredClient {latestServerConfig : ServerConfig}
    {previousTools : List ResolvedTool} (free : g.Free) (other : g.role ≠ .reload)
    (steady : Steady origin g) (opened : g.opened = some newHandle)
    (previous : g.previous = some (serverName, previousTools))
    (recovers : g.Recovers serverName) :
    KeepsRecovering origin serverName
      (swapRecoveredClient serverName latestServerConfig newHandle previousTools) g := by
  have rolledBack {rest : Prog RecoveryOutcome} (kept : KeepsRecovering origin serverName rest g) :
      KeepsRecovering origin serverName (do
        closeHandleBestEffort newHandle
        rollbackTools serverName previousTools
        rest) g :=
    keeps_bind.mpr (keeps_closeHandle free.toSettled (keeps_bind.mpr
      (keeps_rollbackTools free previous recovers kept fun _ => steady_interrupt steady true)))
  refine keeps_getRuntimeConfig other fun config => ?_
  dsimp only
  split
  · exact rolledBack (keeps_failMissingConfig free steady)
  · split
    · exact rolledBack (show KeepsRecovering _ _ (pure _) g from steady)
    · refine keeps_bind.mpr (keeps_withRegistry_act (.swapClient serverName newHandle) free
        ⟨rfl, free.cleared, free.shortcut, opened, recovers⟩ (fun _ => rfl) (fun oldHandle => ?_)
        fun _ => steady_interrupt steady true)
      change Keeps _ _ _ { g.locked.unlocked with swapped := some serverName }
      rw [unlocked_locked free]
      let swapped : Trace := { g with swapped := some serverName }
      have success : Recovered origin serverName swapped := ⟨g, steady, .inr rfl⟩
      have settled : swapped.Settled :=
        ⟨free.recovery, free.shortcut, free.config, free.role, fun server same => by
          cases same
          exact recovers⟩
      cases oldHandle with
      | none => exact ⟨rfl, success⟩
      | some handle => exact keeps_bind.mpr (keeps_closeHandle settled ⟨rfl, success⟩)

theorem keeps_convergeRecovered {latestServerConfig : ServerConfig} {rawTools : List RawTool}
    (free : g.Free) (timeable : g.role ≠ .reload) (steady : Steady origin g)
    (opened : g.opened = some newHandle) (listed : g.listed = some (serverName, rawTools))
    (recovers : g.Recovers serverName) :
    KeepsRecovering origin serverName
      (convergeRecovered serverName deadline latestServerConfig newHandle rawTools) g := by
  refine keeps_bind.mpr (keeps_withRegistry_act (.readTools serverName) free rfl (fun _ => rfl)
    (fun previousTools => ?_) fun _ => steady_interrupt steady true)
  change Keeps _ _ _ { g.locked.unlocked with previous := some (serverName, previousTools) }
  rw [unlocked_locked free]
  let saved : Trace := { g with previous := some (serverName, previousTools) }
  have steady' : Steady origin saved :=
    steady.trans ⟨⟨rfl, rfl, rfl, rfl, rfl, rfl, rfl⟩, rfl, rfl⟩
  have free' : saved.Free :=
    ⟨⟨free.recovery, free.shortcut, free.config, free.role, free.swapped⟩, free.registry, free.cleared,
      free.notWorker⟩
  refine keeps_act_bind.mpr ⟨trivial, fun now => ?_⟩
  change Keeps _ _ (if deadline ≤ now then _ else _) saved
  split
  · exact keeps_failAfterOpen free'.toSettled steady'
  · have raised (exc : PyException) (flag : Bool) : KeepsRecovering origin serverName
        (if exc.isTimeout then
          failAfterOpen serverName newHandle .recoveryTimeout
            "Recovery timeout exhausted during convergence"
        else .raise exc) (saved.interrupt flag) := by
      have settled : (saved.interrupt flag).Settled :=
        ⟨free.recovery, free.shortcut, free.config, free.role, free.swapped⟩
      split
      · exact keeps_failAfterOpen settled (steady_interrupt steady' flag)
      · exact steady_interrupt steady' flag
    refine keeps_attempt_bind.mpr (keeps_waitFor timeable
      (keeps_onServerReconnect free' listed (.inl recovers) ?_
        fun exc flag => ⟨raised exc flag, raised _ flag⟩))
    rintro (error | ⟨⟩)
    · exact keeps_failAfterOpen free'.toSettled steady'
    · exact keeps_swapRecoveredClient free' timeable steady' opened rfl recovers

theorem keeps_checkEnumeratedConfig {serverConfig : ServerConfig} {rawTools : List RawTool}
    (free : g.Free) (timeable : g.role ≠ .reload) (steady : Steady origin g)
    (opened : g.opened = some newHandle) (listed : g.listed = some (serverName, rawTools))
    (recovers : g.Recovers serverName) :
    KeepsRecovering origin serverName
      (checkEnumeratedConfig serverName deadline serverConfig newHandle rawTools) g := by
  refine keeps_getRuntimeConfig timeable fun config => ?_
  dsimp only
  split
  · exact keeps_bind.mpr (keeps_closeHandle free.toSettled (keeps_failMissingConfig free steady))
  · split
    · exact keeps_failAfterOpen free.toSettled steady
    · exact keeps_convergeRecovered free timeable steady opened listed recovers

theorem keeps_enumerateRecovered {serverConfig : ServerConfig} (free : g.Free)
    (timeable : g.role ≠ .reload) (steady : Steady origin g)
    (target : g.target = some (serverName, newHandle.session))
    (opened : g.opened = some newHandle) (recovers : g.Recovers serverName) :
    KeepsRecovering origin serverName
      (enumerateRecovered serverName deadline serverConfig newHandle) g := by
  refine keeps_act_bind.mpr ⟨trivial, fun now => ?_⟩
  change Keeps _ _ (if deadline ≤ now then _ else _) g
  split
  · exact keeps_failAfterOpen free.toSettled steady
  · have raised (exc : PyException) : KeepsRecovering origin serverName
        (if exc.isTimeout then
          failAfterOpen serverName newHandle .recoveryTimeout
            "Recovery timeout exhausted while enumerating tools"
        else .raise exc) g := by
      split
      · exact keeps_failAfterOpen free.toSettled steady
      · exact steady
    refine keeps_attempt_bind.mpr (keeps_waitFor timeable
      (keeps_enumerateClientTools free.toSettled target (fun rawTools => ?_) (fun error => ?_)
        fun exc => ⟨raised exc, raised _⟩))
    · have free' : Free { g with listed := some (serverName, rawTools) } :=
        ⟨⟨free.recovery, free.shortcut, free.config, free.role, free.swapped⟩, free.registry, free.cleared,
          free.notWorker⟩
      exact keeps_checkEnumeratedConfig free' timeable
        (steady.trans ⟨⟨rfl, rfl, rfl, rfl, rfl, rfl, rfl⟩, rfl, rfl⟩) opened rfl recovers
    · exact keeps_failAfterOpen free.toSettled steady

theorem keeps_reopenClient {serverConfig : ServerConfig} (free : g.Free)
    (timeable : g.role ≠ .reload) (recovers : g.Recovers serverName) :
    KeepsRecovering g serverName (reopenClient serverName deadline serverConfig) g := by
  refine keeps_act_bind.mpr ⟨trivial, fun now => ?_⟩
  change Keeps _ _ (if deadline ≤ now then _ else _) g
  have steady (target : Option (String × SessionId)) : Steady g { g with target := target } :=
    ⟨⟨rfl, rfl, rfl, rfl, rfl, rfl, rfl⟩, rfl, rfl⟩
  split
  · exact Steady.refl g
  · have raised (exc : PyException) (target : Option (String × SessionId)) :
        KeepsRecovering g serverName
          (if exc.isTimeout then
            return (.error (recoveryError serverName .recoveryTimeout
              "Recovery timeout exhausted while reconnecting"), false)
          else .raise exc) { g with target := target } := by
      split
      · exact steady target
      · exact steady target
    refine keeps_attempt_bind.mpr (keeps_waitFor timeable
      (keeps_openClientForServer free.toSettled (fun handle => ?_)
        (fun error target => steady target) fun exc target => ⟨raised exc target, raised _ target⟩))
    refine keeps_enumerateRecovered ?_ timeable ?_ rfl rfl recovers
    · exact ⟨⟨free.recovery, free.shortcut, free.config, free.role, free.swapped⟩, free.registry, free.cleared,
        free.notWorker⟩
    · exact ⟨⟨rfl, rfl, rfl, rfl, rfl, rfl, rfl⟩, rfl, rfl⟩

theorem keeps_recoverLocked {contended : Bool} (free : g.Free) (timeable : g.role ≠ .reload)
    (recovers : g.Recovers serverName) :
    KeepsRecovering g serverName (recoverLocked serverName deadline contended) g := by
  refine keeps_getRuntimeConfig timeable fun config => ?_
  dsimp only
  split
  · exact keeps_failMissingConfig free (.refl g)
  · split
    · refine keeps_bind.mpr (keeps_withRegistry_act (.readClientAndTools serverName) free rfl
        (fun _ => rfl) ?_ fun _ => steady_interrupt (.refl g) true)
      rintro ⟨currentHandle, currentRegistry⟩
      change Keeps _ _ (if (currentHandle.isSome && currentRegistry.isSome) = true then _ else _)
        { g.locked.unlocked with
          shortcut := currentRegistry.bind fun _ =>
            currentHandle.map fun client => (serverName, client) }
      rw [unlocked_locked free]
      split
      · rename_i both
        obtain ⟨handle, rfl⟩ := Option.isSome_iff_exists.mp (Bool.and_eq_true_iff.mp both).1
        obtain ⟨tools, rfl⟩ := Option.isSome_iff_exists.mp (Bool.and_eq_true_iff.mp both).2
        exact ⟨rfl, g, .refl g, .inl ⟨handle, rfl⟩⟩
      · rename_i missing
        have none_ : (currentRegistry.bind fun _ =>
            currentHandle.map fun client => (serverName, client)) = none := by
          cases currentHandle <;> cases currentRegistry <;> simp at missing ⊢
        have same : { g with shortcut := none } = g := by
          have := free.shortcut
          cases g
          cases this
          rfl
        rw [none_, same]
        exact keeps_reopenClient free timeable recovers
    · exact keeps_reopenClient free timeable recovers

theorem keeps_recoverServerClient {Q : Except TelaError Unit → Trace → Prop}
    {E : PyException → Trace → Prop} (free : g.Free) (none_ : g.recovery = none)
    (recoverer : g.role.recovers = true)
    (onOk : ∀ g', Recovered g serverName g' → Q (.ok ()) g')
    (onError : ∀ error g', Failed g g' → Q (.error error) g')
    (onRaise : ∀ exc g', Failed g g' → E exc g') :
    Keeps Q E (recoverServerClient serverName deadline) g := by
  refine keeps_bind.mpr (keeps_acquireRecoveryLock free none_ recoverer ?_ onError onRaise)
  intro lock contended
  let held : Trace := { g with recovery := some ⟨serverName, lock, true⟩ }
  have free' : held.Free :=
    ⟨⟨fun hold same => by (cases same; rfl), free.shortcut, free.config, free.role,
        fun server same => by cases (unswapped free none_).symm.trans same⟩, free.registry,
      free.cleared, free.notWorker⟩
  have released {g' : Trace} (steady : Steady held g') : Steady g { g' with recovery := none } :=
    ⟨⟨steady.role, steady.registry, none_.symm, steady.shortcut, steady.swapped, steady.config,
      steady.snapshot⟩, steady.cleared, steady.ahead⟩
  have failed {g' : Trace} (steady : Steady g g') : Failed g g' := by
    refine ⟨none, nofun, ?_⟩
    exact ⟨⟨steady.role, steady.registry, steady.recovery.trans none_, steady.shortcut,
      steady.swapped, steady.config, steady.snapshot⟩, steady.cleared, steady.ahead⟩
  refine keeps_attempt_bind.mpr ((keeps_recoverLocked free' (not_reload_of_recovers recoverer)
    ⟨lock, rfl⟩).mono ?_ ?_)
  · rintro ⟨result, prune⟩ g' ended
    cases result with
    | ok value =>
        obtain ⟨rfl, before, steady, how⟩ := ended
        refine keeps_act_bind.mpr ⟨⟨serverName, ?_⟩, fun _ => ?_⟩
        · obtain ⟨handle, rfl⟩ | rfl := how <;> exact steady.recovery
        · refine onOk _ ⟨_, released steady, ?_⟩
          obtain ⟨handle, rfl⟩ | rfl := how
          · exact .inl ⟨handle, rfl⟩
          · exact .inr rfl
    | error error =>
        have steady : Steady held g' := ended
        refine keeps_act_bind.mpr ⟨⟨serverName, steady.recovery⟩, fun _ => ?_⟩
        let unheld : Trace := { g' with recovery := none }
        have unlocked : unheld.Free := (released steady).free free
          (steady.cleared.trans free.cleared)
        change Keeps Q E (if prune = true then _ else _) unheld
        split
        · refine keeps_bind.mpr (keeps_withRegistry_act (.pruneRecoveryLock serverName) unlocked
            ⟨rfl, rfl⟩ (fun _ => rfl) (fun _ => ?_) fun exc => ?_)
          · change Keeps Q E _ unheld.locked.unlocked
            rw [unlocked_locked unlocked]
            exact onError error _ (failed (released steady))
          · exact onRaise exc _ (failed (steady_interrupt (released steady) true))
        · exact onError error _ (failed (released steady))
  · intro exc g' steady
    exact keeps_act_bind.mpr ⟨⟨serverName, steady.recovery⟩, fun _ =>
      onRaise exc _ (failed (released steady))⟩

end Recovery

/-! ## Handlers and calls -/

theorem Trace.Steady.failed {g' : Trace} (steady : Steady g g') (none_ : g.recovery = none) :
    Failed g g' :=
  ⟨none, nofun, ⟨steady.role, steady.registry, steady.recovery.trans none_, steady.shortcut,
    steady.swapped, steady.config, steady.snapshot⟩, steady.cleared, steady.ahead⟩

theorem Trace.Failed.after {g' g'' : Trace} (failed : Failed g' g'') (steady : Steady g g') :
    Failed g g'' := by
  obtain ⟨recovery, unacquired, later⟩ := failed
  refine ⟨recovery, unacquired, ⟨later.role.trans steady.role, ?_, later.recovery, ?_, ?_, ?_, ?_⟩,
    later.cleared.trans steady.cleared, later.ahead.trans steady.ahead⟩
  · exact later.registry.trans steady.registry
  · exact later.shortcut.trans steady.shortcut
  · exact later.swapped.trans steady.swapped
  · exact later.config.trans steady.config
  · exact later.snapshot.trans steady.snapshot

/-- A task that only recovers ends with nothing but a lock it may have looked up. -/
theorem Trace.Failed.done {g' : Trace} (failed : Failed g g') (free : g.Free)
    (ahead : g.ahead = false) (role : ∀ session message, g'.role ≠ .handler session message) :
    g'.Done := by
  obtain ⟨recovery, unacquired, steady⟩ := failed
  refine ⟨steady.registry.trans free.registry, fun hold held => ?_, role, fun now => ?_, ?_⟩
  · rw [steady.recovery] at held
    exact unacquired hold held
  · rw [steady.ahead.trans ahead] at now
    cases now
  · exact fun batch index same =>
      absurd (steady.role.symm.trans same) (free.notWorker batch index)

/-- A program that leaves its locks and carried decisions as they were. -/
abbrev KeepsTrace (x : Prog α) (g : Trace) : Prop :=
  Keeps (fun _ => Failed g) (fun _ => Failed g) x g

section Tasks

variable {serverName : String} {deadline : Nat}

/-- A recovery after a failed attempt, with what follows its success. -/
theorem keeps_recoverThen {onFail : TelaError → Prog α} {rest : Prog α}
    {Q : α → Trace → Prop} {E : PyException → Trace → Prop} (free : g.Free)
    (none_ : g.recovery = none) (swapped : g.swapped = none)
    (recoverer : g.role.recovers = true)
    (onOk : ∀ g', Steady g g' → Keeps Q E rest g')
    (onError : ∀ error g', Failed g g' → Keeps Q E (onFail error) g')
    (onRaise : ∀ exc g', Failed g g' → E exc g') :
    Keeps Q E (do
      act .attemptFailed
      match ← recoverServerClient serverName deadline with
      | .error error => onFail error
      | .ok () => do
          act (.recovered serverName)
          rest) g := by
  refine keeps_act_bind.mpr ⟨⟨swapped, free.shortcut, none_⟩, fun _ => ?_⟩
  let attempt : Trace := { g with opened := none }
  have steady : Steady g attempt := ⟨⟨rfl, rfl, rfl, rfl, rfl, rfl, rfl⟩, rfl, rfl⟩
  have free' : attempt.Free := steady.free free free.cleared
  refine keeps_bind.mpr (keeps_recoverServerClient free' none_ recoverer ?_
    (fun error g' failed => onError error g' (failed.after steady))
    fun exc g' failed => onRaise exc g' (failed.after steady))
  rintro g' ⟨before, same, how⟩
  have settled : Steady g { g' with shortcut := none, swapped := none } := by
    obtain ⟨handle, rfl⟩ | rfl := how
    · exact ⟨⟨same.role, same.registry, same.recovery, free.shortcut.symm, swapped.symm,
        same.config, same.snapshot⟩, same.cleared, same.ahead⟩
    · exact ⟨⟨same.role, same.registry, same.recovery, free.shortcut.symm, swapped.symm,
        same.config, same.snapshot⟩, same.cleared, same.ahead⟩
  refine keeps_act_bind.mpr ⟨?_, fun _ => onOk _ settled⟩
  obtain ⟨handle, rfl⟩ | rfl := how
  · exact .inl ⟨handle, rfl⟩
  · exact .inr rfl

theorem keeps_handleReconnect {serverConfig : ServerConfig} (free : g.Free)
    (none_ : g.recovery = none) (swapped : g.swapped = none)
    (recoverer : g.role.recovers = true) :
    KeepsTrace (handleReconnect serverName serverConfig) g := by
  refine keeps_act_bind.mpr ⟨trivial, fun now => ?_⟩
  exact keeps_recoverThen free none_ swapped recoverer
    (fun g' steady => steady.failed none_) (fun error g' failed => failed)
    fun exc g' failed => failed

/-- Looking up the client of a server, with what follows. -/
theorem keeps_readClient {rest : Option ClientHandle → Prog α} {Q : α → Trace → Prop}
    {E : PyException → Trace → Prop} (free : g.Free)
    (post : ∀ client, Keeps Q E (rest client)
      { g with target := client.map fun client => (serverName, client.session) })
    (onRaise : ∀ exc, E exc (g.interrupt true)) :
    Keeps Q E (withLock .registry (act (.readClient serverName)) >>= rest) g := by
  refine keeps_bind.mpr (keeps_withRegistry_act (.readClient serverName) free rfl (fun _ => rfl)
    (fun client => ?_) onRaise)
  change Keeps Q E _ { g.locked.unlocked with
    target := client.map fun client => (serverName, client.session) }
  rw [unlocked_locked free]
  exact post client

theorem keeps_handleToolsListChanged {serverConfig : ServerConfig} (free : g.Free)
    (none_ : g.recovery = none) :
    KeepsTrace (handleToolsListChanged serverName serverConfig) g := by
  have failed {g' : Trace} (steady : Steady g g') : Failed g g' := steady.failed none_
  refine keeps_readClient free (fun client => ?_) fun _ =>
    failed (steady_interrupt (.refl g) true)
  cases client with
  | none => exact failed ⟨⟨rfl, rfl, rfl, rfl, rfl, rfl, rfl⟩, rfl, rfl⟩
  | some client =>
      let targeted : Trace := { g with target := some (serverName, client.session) }
      have steady : Steady g targeted := ⟨⟨rfl, rfl, rfl, rfl, rfl, rfl, rfl⟩, rfl, rfl⟩
      refine keeps_bind.mpr (keeps_enumerateClientTools (steady.settled free.toSettled) rfl
        (fun rawTools => ?_) (fun error => failed steady) fun exc => failed steady)
      let listed : Trace := { targeted with listed := some (serverName, rawTools) }
      have steady' : Steady g listed := ⟨⟨rfl, rfl, rfl, rfl, rfl, rfl, rfl⟩, rfl, rfl⟩
      exact keeps_bind.mpr (keeps_onToolsChanged (steady'.free free free.cleared) rfl
        (fun _ => failed steady') fun exc flag => failed (steady_interrupt steady' flag))

theorem keeps_retryCall {toolName : String} {arguments : JsonObject} (free : g.Free)
    (none_ : g.recovery = none) (timeable : g.role ≠ .reload) :
    KeepsTrace (retryCall serverName toolName arguments deadline) g := by
  have failed {g' : Trace} (steady : Steady g g') : Failed g g' := steady.failed none_
  refine keeps_readClient free (fun client => ?_) fun _ =>
    failed (steady_interrupt (.refl g) true)
  cases client with
  | none => exact failed ⟨⟨rfl, rfl, rfl, rfl, rfl, rfl, rfl⟩, rfl, rfl⟩
  | some client =>
      let targeted : Trace := { g with target := some (serverName, client.session) }
      have steady : Steady g targeted := ⟨⟨rfl, rfl, rfl, rfl, rfl, rfl, rfl⟩, rfl, rfl⟩
      refine keeps_act_bind.mpr ⟨trivial, fun now => ?_⟩
      change Keeps _ _ (if deadline ≤ now then _ else _) targeted
      split
      · exact failed steady
      · have raised (exc : PyException) :
            Keeps (fun _ => Failed g) (fun _ => Failed g)
              (if exc.isTimeout then
                return .error (recoveryError serverName .recoveryTimeout
                  "Recovery timeout exhausted during retry")
              else if exc.isException then
                return .error (recoveryError serverName .retryFailed (getExceptionText exc))
              else (.raise exc : Prog (Except TelaError Json))) targeted := by
          split
          · exact failed steady
          · split <;> exact failed steady
        refine keeps_attempt_bind.mpr (keeps_waitFor timeable (keeps_pause.mpr ⟨?_, ?_, ?_⟩))
        · exact steady.settled free.toSettled
        · exact fun _ => failed steady
        · exact fun exc => ⟨raised exc, raised _⟩

theorem keeps_recoverAndRetry {toolName : String} {arguments : JsonObject} (free : g.Free)
    (none_ : g.recovery = none) (swapped : g.swapped = none)
    (recoverer : g.role.recovers = true) :
    KeepsTrace (recoverAndRetry serverName toolName arguments deadline) g := by
  refine keeps_recoverThen free none_ swapped recoverer (fun g' steady => ?_)
    (fun error g' failed => failed) fun exc g' failed => failed
  have free' : g'.Free := steady.free free (steady.cleared.trans free.cleared)
  refine (keeps_retryCall free' (steady.recovery.trans none_)
    (steady.role ▸ not_reload_of_recovers recoverer)).mono ?_ ?_
  · exact fun _ _ failed => failed.after steady
  · exact fun _ _ failed => failed.after steady

theorem keeps_callTool {toolName : String} {arguments : JsonObject} (free : g.Free)
    (none_ : g.recovery = none) (swapped : g.swapped = none)
    (recoverer : g.role.recovers = true) :
    KeepsTrace (callTool serverName toolName arguments) g := by
  have failed {g' : Trace} (steady : Steady g g') : Failed g g' := steady.failed none_
  refine keeps_readClient free (fun client => ?_) fun _ =>
    failed (steady_interrupt (.refl g) true)
  let targeted : Trace :=
    { g with target := client.map fun client => (serverName, client.session) }
  have steady : Steady g targeted := ⟨⟨rfl, rfl, rfl, rfl, rfl, rfl, rfl⟩, rfl, rfl⟩
  have free' : targeted.Free := steady.free free free.cleared
  have recovering (deadline : Nat) : Keeps (fun _ => Failed g) (fun _ => Failed g)
      (recoverAndRetry serverName toolName arguments deadline) targeted :=
    (keeps_recoverAndRetry free' none_ swapped recoverer).mono
      (fun _ _ failed => failed.after steady) fun _ _ failed => failed.after steady
  refine keeps_act_bind.mpr ⟨trivial, fun started => ?_⟩
  cases client with
  | none => exact recovering _
  | some client =>
      refine keeps_pause_attempt_bind.mpr ⟨free'.toSettled, fun _ => failed steady,
        fun exc => ?_⟩
      change Keeps _ _ (if exc.isException = true then _ else _) targeted
      split
      · split
        · exact recovering _
        · exact failed steady
      · exact failed steady

/-! ## Tasks -/

/-- The trace of a task that has just started. -/
def Trace.begin (role : Role) : Trace := { role := role }

theorem free_begin {role : Role} (handled : ∀ session, role ≠ .handler session .other)
    (notWorker : ∀ batch index, role ≠ .worker batch index) : (Trace.begin role).Free :=
  ⟨⟨nofun, rfl, rfl, handled, nofun⟩, rfl, rfl, notWorker⟩

theorem keeps_messageHandler {serverConfig : ServerConfig} {session : SessionId}
    {message : Message} :
    KeepsTrace (messageHandler serverName serverConfig message)
      (Trace.begin (.handler session message)) := by
  refine keeps_act_bind.mpr ⟨trivial, fun _ => ?_⟩
  cases message with
  | error =>
      exact keeps_handleReconnect (free_begin (fun _ => nofun) fun _ _ => nofun) rfl rfl rfl
  | toolListChanged =>
      exact keeps_handleToolsListChanged (free_begin (fun _ => nofun) fun _ _ => nofun) rfl
  | other => exact Steady.failed (.refl _) rfl

theorem keeps_handleMessage {session : SessionId} {message : Message} :
    Keeps (fun _ => Trace.Done) (fun _ => Trace.Done) (handleMessage session message)
      (Trace.begin (.handler session message)) := by
  have done {g' : Trace} (failed : Failed (Trace.begin (.handler session message)) g') :
      Trace.Done { g' with role := .plain } := by
    obtain ⟨recovery, unacquired, steady⟩ := failed
    refine ⟨steady.registry, fun hold held => ?_, fun _ _ => nofun, fun now => ?_,
      fun _ _ => nofun⟩
    · exact unacquired hold (steady.recovery.symm.trans held)
    · exact Bool.noConfusion (steady.ahead.symm.trans now)
  have ended {g' : Trace} (failed : Failed (Trace.begin (.handler session message)) g') :
      Keeps (fun _ => Trace.Done) (fun _ => Trace.Done) (act (.handlerDone session)) g' := by
    refine keeps_act.mpr ⟨⟨message, ?_⟩, fun _ => done failed⟩
    obtain ⟨recovery, unacquired, steady⟩ := failed
    exact steady.role
  refine keeps_act_bind.mpr ⟨⟨message, rfl⟩, fun closure => ?_⟩
  cases closure with
  | none => exact ended (Steady.failed (.refl _) rfl)
  | some closure =>
      refine Follows.ensure (keeps_messageHandler.mono ?_ ?_)
      · exact fun _ _ failed => ended failed
      · exact fun _ _ failed => ended failed

theorem keeps_runJob {batch : BatchId} {index : Nat} :
    Keeps (fun _ => Trace.Done) (fun _ => Trace.Done) (runJob batch index)
      (Trace.begin (.worker batch index)) := by
  have done {g' : Trace} (steady : Steady (Trace.begin (.worker batch index)) g') :
      Trace.Done { g' with reported := true } := by
    refine ⟨steady.registry, fun hold held => ?_, fun session message same => ?_, fun now => ?_,
      fun _ _ _ => rfl⟩
    · exact nomatch (steady.recovery.symm.trans held)
    · exact nomatch (steady.role.symm.trans same)
    · exact Bool.noConfusion (steady.ahead.symm.trans now)
  refine keeps_act_bind.mpr ⟨rfl, fun job => ?_⟩
  cases job with
  | none => exact keeps_act.mpr ⟨⟨rfl, fun _ same => by (cases same)⟩, fun _ => done (.refl _)⟩
  | some job =>
      have settled : (Trace.begin (.worker batch index)).Settled :=
        ⟨nofun, rfl, rfl, fun _ => nofun, nofun⟩
      refine keeps_attempt_bind.mpr ((keeps_connectServer settled nofun).mono ?_ ?_)
      · rintro result g' ⟨steady, reportable⟩
        exact keeps_act.mpr ⟨⟨steady.role, reportable⟩, fun _ => done steady⟩
      · exact fun exc g' steady => keeps_act.mpr
          ⟨⟨steady.role, fun _ same => by (cases same)⟩, fun _ => done steady⟩

theorem keeps_discard {x : Prog α} {Q E : Trace → Prop}
    (inner : Keeps (fun _ => Q) (fun _ => E) x g) :
    Keeps (fun _ => Q) (fun _ => E) (discard x) g :=
  keeps_bind.mpr inner

end Tasks

/-- The trace in which the task of a request starts. -/
def Req.begin : Req → Trace
  | .configChanged _ => .begin .reload
  | .callTool _ _ _ => .begin .caller
  | .toolsChanged serverName _ rawTools =>
      { Trace.begin .plain with listed := some (serverName, rawTools) }
  | .serverReconnect serverName _ rawTools =>
      { Trace.begin .plain with listed := some (serverName, rawTools) }
  | .deliver session message => .begin (.handler session message)
  | .connectServer batch index => .begin (.worker batch index)
  | _ => .begin .plain

theorem keeps_program (task : TaskId) (request : Req) :
    Keeps (fun _ => Trace.Done) (fun _ => Trace.Done) (program task request) request.begin := by
  have free : (Trace.begin .plain).Free := free_begin (fun _ => nofun) fun _ _ => nofun
  have done {g : Trace} (frame : Frame (Trace.begin .plain) g)
      (ahead : g.ahead = true → g.interrupted = true) : g.Done :=
    frame.done free rfl (fun _ _ => nofun) ahead
  have started : (Trace.begin .plain).Done := done (.refl _) nofun
  cases request with
  | tick milliseconds => exact started
  | connectAll servers toolLists =>
      refine keeps_discard (keeps_connectAll free (fun _ => nofun) ?_ ?_ ?_)
      · exact fun _ g' connected _ => done connected.toFrame fun now =>
          Bool.noConfusion (connected.ahead.symm.trans now)
      · exact fun _ g' connected _ => done connected.toFrame fun now =>
          Bool.noConfusion (connected.ahead.symm.trans now)
      · exact fun _ => done ⟨rfl, rfl, rfl, rfl, rfl, rfl, rfl⟩ nofun
  | disconnectAll =>
      refine keeps_discard (keeps_disconnectAll free rfl (fun _ => started) fun _ => ?_)
      exact done ⟨rfl, rfl, rfl, rfl, rfl, rfl, rfl⟩ nofun
  | reEnumerate serverName =>
      have past {g' : Trace} (steady : Steady (Trace.begin .plain).locked g') :
          g'.registry = true ∧ g'.unlocked.Done :=
        ⟨steady.registry, done ⟨steady.role, rfl, steady.recovery, steady.shortcut,
          steady.swapped, steady.config, steady.snapshot⟩ fun now =>
            Bool.noConfusion (steady.ahead.symm.trans now)⟩
      refine keeps_discard (keeps_withRegistry free ((keeps_reEnumerateLocked ?_ rfl rfl ?_).mono
        (fun _ _ steady => past steady) fun _ _ steady => past steady) fun _ => ?_)
      · exact ⟨nofun, rfl, rfl, fun _ => nofun, nofun⟩
      · exact nofun
      · exact done ⟨rfl, rfl, rfl, rfl, rfl, rfl, rfl⟩ nofun
  | configChanged newConfig => exact keeps_discard keeps_onConfigChanged
  | callTool serverName toolName arguments =>
      have calls : (Trace.begin .caller).Free := free_begin (fun _ => nofun) fun _ _ => nofun
      have ended {g' : Trace} (failed : Failed (Trace.begin .caller) g') : g'.Done := by
        refine failed.done calls rfl fun session message same => ?_
        obtain ⟨recovery, unacquired, steady⟩ := failed
        exact nomatch (steady.role.symm.trans same)
      refine keeps_discard ((keeps_callTool calls rfl rfl rfl).mono ?_ ?_)
      · exact fun _ _ failed => ended failed
      · exact fun _ _ failed => ended failed
  | toolsChanged serverName serverConfig rawTools =>
      let listed : Trace := { Trace.begin .plain with listed := some (serverName, rawTools) }
      have free' : listed.Free := ⟨⟨nofun, rfl, rfl, fun _ => nofun, nofun⟩, rfl, rfl, fun _ _ => nofun⟩
      refine keeps_discard (keeps_onToolsChanged free' rfl (fun _ => ?_) fun _ flag => ?_)
      · exact done ⟨rfl, rfl, rfl, rfl, rfl, rfl, rfl⟩ nofun
      · exact done ⟨rfl, rfl, rfl, rfl, rfl, rfl, rfl⟩ nofun
  | serverReconnect serverName serverConfig rawTools =>
      let listed : Trace := { Trace.begin .plain with listed := some (serverName, rawTools) }
      have free' : listed.Free := ⟨⟨nofun, rfl, rfl, fun _ => nofun, nofun⟩, rfl, rfl, fun _ _ => nofun⟩
      refine keeps_discard (keeps_onServerReconnect free' rfl (.inr rfl) (fun _ => ?_)
        fun _ flag => ?_)
      · exact done ⟨rfl, rfl, rfl, rfl, rfl, rfl, rfl⟩ nofun
      · exact done ⟨rfl, rfl, rfl, rfl, rfl, rfl, rfl⟩ nofun
  | deliver session message => exact keeps_handleMessage
  | connectServer batch index => exact keeps_runJob

/-- Every program of the downstream layer keeps to the monitor. -/
def discipline : Discipline world Trace where
  toMonitor := monitor
  idle := {}
  start _ request := request.begin
  done := Trace.Done
  follows := keeps_program

end Tela
