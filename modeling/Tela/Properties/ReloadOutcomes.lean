import Tela.Properties.RegistryUniqueness
import Tela.Properties.SessionCustody
import Tela.Properties.SingleFlight
import Tela.Shell.Postconditions

/-!
# How a reload ends

With no other operation under way, a startup publishes exactly what its servers
answered or nothing, and a reload goes through, takes itself back, or is broken off by
an exception at one of three points.
-/

namespace Tela

open Coop
open SessionCustody (answers)

/-! ## What the servers come to -/

/-- How one coroutine of a `gather` ends, and the answers that it has heard by then. -/
structure ServerRun where
  answers : List (Answer sig PyException)
  outcome : Except PyException (Except String ConnectedServerData)

namespace ServerRun

/-- The server has been started. -/
def startup (run : ServerRun) : Option ConnectedServerData :=
  match run.outcome with
  | .ok (.ok startup) => some startup
  | _ => none

/-- The server could not be started. -/
def failure (run : ServerRun) (serverName : String) : Option ProviderStartupFailure :=
  match run.outcome with
  | .ok (.error error) => some (startupFailureFromError serverName error)
  | _ => none

end ServerRun

/-- Each server is started by one coroutine, whatever others do meanwhile. -/
def Starts (servers : Dict String ServerConfig) (runs : String → ServerRun) : Prop :=
  ∀ name serverConfig, servers.get? name = some serverConfig → ∃ task s s',
    Hears world (fun _ _ => True) task (connectServer name serverConfig) s (runs name).answers
      (runs name).outcome s'

/-- A server has been started under its own name with what its session listed. -/
theorem Starts.handsOver {servers : Dict String ServerConfig} {runs : String → ServerRun}
    (starts : Starts servers runs) {name : String} {startup : ConnectedServerData}
    (among : name ∈ servers.keys) (started : (runs name).startup = some startup) :
    startup.serverName = name ∧ ∃ handle, startup.clientHandle = some handle ∧
      ListedBy (Heard (runs name).answers) name handle startup.rawTools := by
  have lenient : Lenient fun _ _ => True := ⟨fun _ _ _ _ _ _ _ _ => trivial, fun _ _ => trivial⟩
  obtain ⟨serverConfig, configured⟩ := Option.isSome_iff_exists.mp (Dict.mem_keys_iff.mp among)
  obtain ⟨task, s, s', ran⟩ := starts name serverConfig configured
  have handed := Secures.of_heard (leaves_connectServer lenient name serverConfig) ran
  unfold ServerRun.startup at started
  split at started
  · rename_i returned
    rw [returned] at handed
    cases started
    exact handed
  · cases started

/-! ## Nothing else is under way -/

/-- Every coroutine that has reported has come to what its server comes to. -/
def Batch.Reports (runs : String → ServerRun) (batch : Batch) : Prop :=
  ∀ job ∈ batch.jobs, ∀ outcome, job.outcome = some outcome →
    outcome = (runs job.serverName).outcome

/-- Only the coroutines of a `gather`, message delivery and the locks have gone on. -/
structure Undisturbed (runs : String → ServerRun) (s s' : State) : Prop where
  runtimeConfig : s'.runtimeConfig = s.runtimeConfig
  registry : s'.registry = s.registry
  clients : s'.clients = s.clients
  startup : s'.startup = s.startup
  jobs : ∀ batch, (s'.batches batch).jobs.map Job.serverName =
    (s.batches batch).jobs.map Job.serverName
  reports : ∀ batch, (s.batches batch).Reports runs → (s'.batches batch).Reports runs

namespace Undisturbed

variable {runs : String → ServerRun} {s s₁ s' : State}

theorem trans (first : Undisturbed runs s s₁) (second : Undisturbed runs s₁ s') :
    Undisturbed runs s s' where
  runtimeConfig := second.runtimeConfig.trans first.runtimeConfig
  registry := second.registry.trans first.registry
  clients := second.clients.trans first.clients
  startup := second.startup.trans first.startup
  jobs batch := (second.jobs batch).trans (first.jobs batch)
  reports batch := second.reports batch ∘ first.reports batch

theorem lenient : Lenient (Undisturbed runs) where
  rest s s' runtimeConfig registry clients startup batches _ :=
    ⟨runtimeConfig, registry, clients, startup, fun _ => by rw [batches],
      fun _ => by rw [batches]; exact id⟩
  trans := trans

theorem release (s : State) (task : TaskId) (lock : LockName) :
    Undisturbed runs s (s.releaseLock task lock) := lenient.release s task lock

end Undisturbed

/-! ## Startups -/

/-- Each of these servers is started or has failed as it came to be. -/
structure Accounted (runs : String → ServerRun) (serverNames : List String)
    (startups : Startups) : Prop where
  started : ∀ name, startups.1.get? name =
    if name ∈ serverNames then (runs name).startup else none
  failed : ∀ name, startups.2.get? name =
    if name ∈ serverNames then (runs name).failure name else none
  order : startups.1.keys = serverNames.filter fun name => (runs name).startup.isSome
  ended : ∀ name ∈ serverNames, ∃ result, (runs name).outcome = .ok result

namespace Accounted

variable {runs : String → ServerRun} {serverNames : List String} {startups : Startups}
  {serverName : String}

theorem empty : Accounted runs [] (∅, ∅) where
  started name := rfl
  failed name := rfl
  order := rfl
  ended name among := by cases among

/-- A server that is sorted in adds its own entry to one of the two. -/
theorem get?_set {ν : Type} {dict : Dict String ν} {value : String → Option ν}
    (known : ∀ name, dict.get? name = if name ∈ serverNames then value name else none)
    {entry : ν} (own : value serverName = some entry) (name : String) :
    (dict.set serverName entry).get? name =
      if name ∈ serverNames ++ [serverName] then value name else none := by
  rw [Dict.get?_set, known name]
  simp only [List.mem_append, List.mem_singleton]
  by_cases same : name = serverName
  · rw [if_pos same, if_pos (.inr same), same, own]
  · simp only [same, if_false, or_false]

theorem get?_none {ν : Type} {dict : Dict String ν} {value : String → Option ν}
    (known : ∀ name, dict.get? name = if name ∈ serverNames then value name else none)
    (absent : value serverName = none) (name : String) :
    dict.get? name = if name ∈ serverNames ++ [serverName] then value name else none := by
  rw [known name]
  simp only [List.mem_append, List.mem_singleton]
  by_cases same : name = serverName
  · rw [same, absent, ite_self, ite_self]
  · simp only [same, or_false]

theorem ended_append (accounted : Accounted runs serverNames startups)
    {result : Except String ConnectedServerData} (outcome : (runs serverName).outcome = .ok result) :
    ∀ name ∈ serverNames ++ [serverName], ∃ result, (runs name).outcome = .ok result := by
  intro name among
  obtain among | same := List.mem_append.mp among
  · exact accounted.ended name among
  · rw [List.mem_singleton.mp same]
    exact ⟨result, outcome⟩

theorem start (accounted : Accounted runs serverNames startups) (later : serverName ∉ serverNames)
    {startup : ConnectedServerData} (outcome : (runs serverName).outcome = .ok (.ok startup)) :
    Accounted runs (serverNames ++ [serverName])
      (startups.1.set serverName startup, startups.2) := by
  have own : (runs serverName).startup = some startup := by rw [ServerRun.startup, outcome]
  have absent : serverName ∉ startups.1.keys := by
    rw [accounted.order]
    exact fun among => later (List.mem_of_mem_filter among)
  refine ⟨get?_set accounted.started own, get?_none accounted.failed ?_, ?_,
    accounted.ended_append outcome⟩
  · rw [ServerRun.failure, outcome]
  · rw [Dict.keys_set_of_not_mem absent, accounted.order, List.filter_append]
    simp [own]

theorem fail (accounted : Accounted runs serverNames startups) {error : String}
    (outcome : (runs serverName).outcome = .ok (.error error)) :
    Accounted runs (serverNames ++ [serverName])
      (startups.1, startups.2.set serverName (startupFailureFromError serverName error)) := by
  have absent : (runs serverName).startup = none := by rw [ServerRun.startup, outcome]
  refine ⟨get?_none accounted.started absent, get?_set accounted.failed ?_, ?_,
    accounted.ended_append outcome⟩
  · rw [ServerRun.failure, outcome]
  · rw [accounted.order, List.filter_append]
    simp [absent]

/-- Sorting what the servers came to accounts for each of them. -/
theorem sorted {done names : List String} {results : List (Except String ConnectedServerData)}
    (accounted : Accounted runs done startups) (nodup : (done ++ names).Nodup)
    (handed : results.map Except.ok = names.map fun name => (runs name).outcome)
    (own : ∀ name ∈ names, ∀ startup, (runs name).startup = some startup →
      startup.serverName = name) :
    Accounted runs (done ++ names) ((names.zip results).foldl sortStartup startups) := by
  induction names generalizing done results startups with
  | nil =>
      rw [List.append_nil]
      exact accounted
  | cons name names ih =>
      cases results with
      | nil => cases handed
      | cons result results =>
          obtain ⟨outcome, handed⟩ := List.cons.inj handed
          have later : name ∉ done := fun among =>
            (List.nodup_append.mp nodup).2.2 name among name (List.mem_cons_self ..) rfl
          rw [← List.singleton_append, ← List.append_assoc] at nodup ⊢
          rw [List.singleton_append, List.zip_cons_cons, List.foldl_cons]
          refine ih ?_ nodup handed fun other among => own other (List.mem_cons_of_mem _ among)
          have outcome : (runs name).outcome = .ok result := outcome.symm
          cases result with
          | error error => exact accounted.fail outcome
          | ok startup =>
              have named : startup.serverName = name := by
                refine own name (List.mem_cons_self ..) startup ?_
                rw [ServerRun.startup, outcome]
              have started := accounted.start later outcome
              rwa [← named] at started ⊢

end Accounted

/-- Once every coroutine has handed over, the results are what the servers came to, in order. -/
theorem jobResults_of_reports {runs : String → ServerRun} {s : State} {batch : BatchId}
    (reports : (s.batches batch).Reports runs)
    (finished : ∀ job ∈ (s.batches batch).jobs, ∃ result, job.outcome = some (.ok result)) :
    (s.jobResults batch).map Except.ok =
      ((s.batches batch).jobs.map Job.serverName).map fun name => (runs name).outcome := by
  unfold State.jobResults
  unfold Batch.Reports at reports
  generalize (s.batches batch).jobs = jobs at reports finished
  induction jobs with
  | nil => rfl
  | cons job jobs ih =>
      obtain ⟨result, handed⟩ := finished job (List.mem_cons_self ..)
      rw [List.map_cons, List.map_cons, List.filterMap_cons, handed]
      refine congrArg₂ List.cons (reports job (List.mem_cons_self ..) _ handed) (ih ?_ ?_)
      · exact fun other among => reports other (List.mem_cons_of_mem _ among)
      · exact fun other among => finished other (List.mem_cons_of_mem _ among)

/-- A `gather` that returns has the outcome of every coroutine. -/
theorem finished_of_gathered {rely : State → State → Prop} {task : TaskId}
    {heard : (w : Wait) → Except PyException w.Res → Prop} {s s' : State} {batch : BatchId}
    (stops : Stops world rely task heard (.gather batch) s (.ok ()) s') :
    ∀ job ∈ (s'.batches batch).jobs, ∃ result, job.outcome = some (.ok result) := by
  rcases stops.cases with ⟨result, _, entered⟩ | ⟨s₁, s₂, _, _, woken | ⟨_, _, same, _⟩⟩
  · have passes : State.enter task (.gather batch) s = (some result, s') := entered
    simp only [State.enter] at passes
    split at passes
    · rename_i nothing
      obtain rfl := (Prod.mk.inj passes).2
      intro job among
      rw [List.isEmpty_iff.mp nothing] at among
      cases among
    · cases (Prod.mk.inj passes).1
  · obtain ⟨all, same⟩ := Option.ite_none_right_eq_some.mp woken
    cases same
    intro job among
    have handed := List.all_eq_true.mp all job among
    cases outcome : job.outcome with
    | none =>
        rw [outcome] at handed
        cases handed
    | some ended =>
        cases ended with
        | error exc =>
            rw [outcome] at handed
            cases handed
        | ok result => exact ⟨result, rfl⟩
  · cases same

/-! ## `connect_all` -/

section Connect

variable {task : TaskId} {s s₁ s' : State} {servers : Dict String ServerConfig}
  {runs : String → ServerRun}
  {heard : (w : Wait) → Except PyException w.Res → Prop}

/-- The tools that a server answered with, under its settings. -/
def toolsAnswered (servers : Dict String ServerConfig) (runs : String → ServerRun)
    (name : String) : Option (List ResolvedTool) :=
  (servers.get? name).bind fun serverConfig => (runs name).startup.bind fun startup =>
    (resolveTools name serverConfig startup.rawTools).toOption

/-- The registry, the clients and the startup record are what the servers answered. -/
structure Published (servers : Dict String ServerConfig) (runs : String → ServerRun)
    (s : State) : Prop where
  tools : ∀ name, s.registry.getAllTools.get? name = toolsAnswered servers runs name
  registered : ∀ name, s.registry.getAllTools.contains name =
    (servers.contains name && (runs name).startup.isSome)
  consistent : s.registry.Consistent
  clean : detectConflicts s.registry.getAllTools = []
  clients : ∀ name, s.clients.get? name =
    if name ∈ servers.keys then (runs name).startup.bind ConnectedServerData.clientHandle else none
  listed : ∀ name ∈ servers.keys, ∀ startup, (runs name).startup = some startup →
    ∃ handle, startup.clientHandle = some handle ∧
      ListedBy (Heard (runs name).answers) name handle startup.rawTools
  attempted : s.startup.attempted = servers.keys
  successful : s.startup.successful =
    servers.keys.filter fun name => (runs name).startup.isSome
  failed : ∀ name, s.startup.failed.get? name =
    if name ∈ servers.keys then (runs name).failure name else none
  ended : ∀ name ∈ servers.keys, ∃ result, (runs name).outcome = .ok result
  complete : s.startup.complete = true

/-- The tools of two of the servers, or of one and the gateway, collide. -/
def Collides (servers : Dict String ServerConfig) (runs : String → ServerRun) : Prop :=
  ∃ allResolved : Dict String (List ResolvedTool),
    (∀ name, allResolved.get? name = toolsAnswered servers runs name) ∧
      detectConflicts allResolved ≠ []

/-- `connect_all` has cleared everything and is starting the servers. -/
structure Emptied (servers : Dict String ServerConfig) (s s' : State) : Prop where
  runtimeConfig : s'.runtimeConfig = s.runtimeConfig
  registry : s'.registry = {}
  clients : s'.clients = ∅
  startup : s'.startup = ⟨servers.keys, [], ∅, servers.keys, servers.keys.isEmpty⟩

/-- Every way in which `connect_all` ends. -/
inductive ConnectEnd (servers : Dict String ServerConfig) (runs : String → ServerRun) (s : State) :
    Except PyException (Except String Unit) → State → Prop
  | published {s' : State} (done : Published servers runs s')
      (runtimeConfig : s'.runtimeConfig = s.runtimeConfig) :
      ConnectEnd servers runs s (.ok (.ok ())) s'
  | conflict {s' : State} {description : String} (collides : Collides servers runs)
      (runtimeConfig : s'.runtimeConfig = s.runtimeConfig) (registry : s'.registry = {})
      (clients : s'.clients = ∅) (successful : s'.startup.successful = [])
      (complete : s'.startup.complete = true) :
      ConnectEnd servers runs s (.ok (.error ("TOOL_CONFLICT: " ++ description))) s'
  | refused {s' : State} {exc : PyException} (kept : Undisturbed runs s s') :
      ConnectEnd servers runs s (.error exc) s'
  | broken {s' : State} {exc : PyException} (emptied : Emptied servers s s') :
      ConnectEnd servers runs s (.error exc) s'

theorem Emptied.later (emptied : Emptied servers s s₁) (kept : Undisturbed runs s₁ s') :
    Emptied servers s s' :=
  ⟨kept.runtimeConfig.trans emptied.runtimeConfig, kept.registry.trans emptied.registry,
    kept.clients.trans emptied.clients, kept.startup.trans emptied.startup⟩

theorem Published.later (done : Published servers runs s₁) (kept : Undisturbed runs s₁ s') :
    Published servers runs s' where
  tools := by rw [kept.registry]; exact done.tools
  registered := by rw [kept.registry]; exact done.registered
  consistent := by rw [kept.registry]; exact done.consistent
  clean := by rw [kept.registry]; exact done.clean
  clients := by rw [kept.clients]; exact done.clients
  listed := done.listed
  attempted := by rw [kept.startup]; exact done.attempted
  successful := by rw [kept.startup]; exact done.successful
  failed := by rw [kept.startup]; exact done.failed
  ended := done.ended
  complete := by rw [kept.startup]; exact done.complete

theorem ConnectEnd.later {out : Except PyException (Except String Unit)}
    (ended : ConnectEnd servers runs s out s₁) (kept : Undisturbed runs s₁ s') :
    ConnectEnd servers runs s out s' := by
  cases ended with
  | published done runtimeConfig =>
      exact .published (done.later kept) (kept.runtimeConfig.trans runtimeConfig)
  | conflict collides runtimeConfig registry clients successful complete =>
      exact .conflict collides (kept.runtimeConfig.trans runtimeConfig)
        (kept.registry.trans registry) (kept.clients.trans clients) (kept.startup ▸ successful)
        (kept.startup ▸ complete)
  | refused before => exact .refused (before.trans kept)
  | broken emptied => exact .broken (emptied.later kept)

/-- The servers have been started, or waiting for them has raised. -/
def Sorted (servers : Dict String ServerConfig) (runs : String → ServerRun) (s : State) :
    Except PyException Startups → State → Prop
  | .ok startups, s' => Emptied servers s s' ∧ Accounted runs servers.keys startups
  | .error _, s' => Emptied servers s s'

theorem leaves_startServers (starts : Starts servers runs) (emptied : Emptied servers s s₁) :
    Leaves (Undisturbed runs) task heard (Sorted servers runs s) (startServers servers none)
      s₁ := by
  refine leaves_act_bind (leaves_bind (leaves_pause fun outcome s' stops => ?_))
  have kept := Undisturbed.lenient.of_stops stops
  have spawned : Emptied servers s (s₁.spawn servers).2 :=
    ⟨emptied.runtimeConfig, emptied.registry, emptied.clients, emptied.startup⟩
  have still : Emptied servers s s' := spawned.later kept
  cases outcome with
  | error exc => exact still
  | ok value =>
      have spawned : ((s₁.spawn servers).2.batches s₁.nextBatch).jobs =
          servers.entries.map fun entry => ⟨entry.1, entry.2, none, none⟩ :=
        congrArg Batch.jobs (assign_self ..)
      have names : (s'.batches s₁.nextBatch).jobs.map Job.serverName = servers.keys := by
        refine (kept.jobs _).trans ((congrArg (List.map Job.serverName) spawned).trans ?_)
        rw [List.map_map]
        rfl
      have reports : (s'.batches s₁.nextBatch).Reports runs := by
        refine kept.reports _ fun job among outcome handed => ?_
        change job ∈ ((s₁.spawn servers).2.batches s₁.nextBatch).jobs at among
        rw [spawned, List.mem_map] at among
        obtain ⟨entry, -, rfl⟩ := among
        cases handed
      have handed := jobResults_of_reports reports (finished_of_gathered stops)
      rw [names] at handed
      exact ⟨still, Accounted.empty.sorted servers.keys_nodup handed fun name among startup started =>
        (starts.handsOver among started).1⟩

theorem clients_publishing {allResolved : Dict String (List ResolvedTool)} {name : String}
    {entries : List (String × ConnectedServerData)} (nodup : (entries.map Prod.fst).Nodup)
    (s : State) :
    (entries.foldl (State.publishServer servers allResolved) s).clients.get? name =
      ((OrderedDict.look entries name).bind ConnectedServerData.clientHandle).or
        (s.clients.get? name) := by
  induction entries generalizing s with
  | nil => rfl
  | cons entry entries ih =>
      obtain ⟨key, startup⟩ := entry
      obtain ⟨single, nodup⟩ := List.nodup_cons.mp nodup
      rw [List.foldl_cons, ih nodup, OrderedDict.look]
      by_cases same : key = name
      · subst same
        have absent : OrderedDict.look entries key = none := by
          refine Option.not_isSome_iff_eq_none.mp fun present => single ?_
          exact OrderedDict.look_isSome_iff.mp present
        rw [absent, if_pos rfl]
        unfold State.publishServer
        cases handed : startup.clientHandle with
        | none => simp [handed]
        | some handle => simp [handed]
      · rw [if_neg same]
        congr 1
        unfold State.publishServer
        cases handed : startup.clientHandle with
        | none => rfl
        | some handle => exact Dict.get?_set_of_ne _ (Ne.symm same) handle

theorem startup_publishing {allResolved : Dict String (List ResolvedTool)}
    (entries : List (String × ConnectedServerData)) (s : State) :
    (entries.foldl (State.publishServer servers allResolved) s).startup = s.startup := by
  induction entries generalizing s with
  | nil => rfl
  | cons entry entries ih => exact ih _

section Publish

variable {startups : Startups} {allResolved : Dict String (List ResolvedTool)}

theorem Accounted.mem_keys {serverNames : List String} {name : String}
    {startup : ConnectedServerData} (accounted : Accounted runs serverNames startups)
    (found : startups.1.get? name = some startup) :
    name ∈ serverNames ∧ (runs name).startup = some startup := by
  rw [accounted.started] at found
  exact Option.ite_none_right_eq_some.mp found

/-- The resolution loop resolves what the servers answered. -/
theorem allResolved_eq (accounted : Accounted runs servers.keys startups)
    (resolved : startups.1.entries.foldlM (resolveStartup servers) ∅ = .ok allResolved)
    (name : String) : allResolved.get? name = toolsAnswered servers runs name := by
  obtain ⟨absent, present⟩ := resolveStartup_foldlM startups.1.nodup resolved
  unfold toolsAnswered
  cases found : startups.1.get? name with
  | none =>
      rw [absent name (Dict.get?_eq_none_iff.mp found), Dict.get?_empty]
      cases configured : servers.get? name with
      | none => rfl
      | some serverConfig =>
          rw [accounted.started, if_pos (Dict.mem_keys_of_get? configured)] at found
          rw [Option.bind_some, found]
          rfl
  | some startup =>
      obtain ⟨serverConfig, list, configured, kept, resolution⟩ :=
        present name startup (Dict.get?_eq_some_iff.mp found)
      rw [configured, Option.bind_some, (accounted.mem_keys found).2, Option.bind_some, resolution,
        kept]
      rfl

/-- A server is registered with its tools, exactly when it has been started. -/
theorem tools_published
    (resolved : startups.1.entries.foldlM (resolveStartup servers) ∅ = .ok allResolved)
    (name : String) :
    (publishLists allResolved startups.1.keys {}).getAllTools.get? name =
      allResolved.get? name := by
  obtain ⟨absent, present⟩ := resolveStartup_foldlM startups.1.nodup resolved
  refine (tools_publishLists ..).trans ?_
  split
  · rename_i among
    obtain ⟨startup, found⟩ := Option.isSome_iff_exists.mp (Dict.mem_keys_iff.mp among)
    obtain ⟨_, list, -, kept, -⟩ := present name startup (Dict.get?_eq_some_iff.mp found)
    rw [kept]
    rfl
  · rename_i missing
    exact (absent name missing).symm

theorem registered_published (accounted : Accounted runs servers.keys startups) (name : String) :
    (publishLists allResolved startups.1.keys {}).getAllTools.contains name =
      (servers.contains name && (runs name).startup.isSome) := by
  have among : name ∈ startups.1.keys ↔
      (servers.contains name && (runs name).startup.isSome) = true := by
    rw [accounted.order, List.mem_filter, Dict.mem_keys_iff, Bool.and_eq_true]
    exact Iff.rfl
  have listed : (publishLists allResolved startups.1.keys {}).getAllTools.get? name =
      if name ∈ startups.1.keys then some ((allResolved.get? name).getD []) else none :=
    tools_publishLists ..
  rw [Dict.contains, Bool.eq_iff_iff, ← among, listed]
  split
  · rename_i present
    exact iff_of_true rfl present
  · rename_i missing
    exact iff_of_false Bool.false_ne_true missing

/-- The client of a server that has been started, and of no other. -/
theorem clients_published (emptied : Emptied servers s s₁)
    (accounted : Accounted runs servers.keys startups) (name : String) :
    (s₁.publish servers startups.1 allResolved startups.2).clients.get? name =
      if name ∈ servers.keys then (runs name).startup.bind ConnectedServerData.clientHandle
      else none := by
  refine (clients_publishing startups.1.nodup s₁).trans ?_
  rw [emptied.clients]
  refine Option.or_none.trans ?_
  refine (congrArg (Option.bind · ConnectedServerData.clientHandle)
    (accounted.started name)).trans ?_
  split <;> rfl

/-- Everything that starts is published at once. -/
theorem published (starts : Starts servers runs) (emptied : Emptied servers s s₁)
    (accounted : Accounted runs servers.keys startups)
    (resolved : startups.1.entries.foldlM (resolveStartup servers) ∅ = .ok allResolved)
    (clean : detectConflicts allResolved = []) :
    Published servers runs (s₁.publish servers startups.1 allResolved startups.2) := by
  have registry : (s₁.publish servers startups.1 allResolved startups.2).registry =
      publishLists allResolved startups.1.keys {} := by
    rw [registry_publish, emptied.registry]
  have startup : (s₁.publish servers startups.1 allResolved startups.2).startup =
      ⟨servers.keys, startups.1.keys, startups.2, [], true⟩ := by
    change StartupTracking.mk _ _ _ _ _ = _
    rw [startup_publishing, emptied.startup]
  have tools := tools_published resolved
  obtain ⟨unique, unreserved⟩ := detectConflicts_eq_nil_iff.mp clean
  have consistent := consistent_publishLists unique startups.1.keys
  refine
    { tools := fun name => ?_, registered := fun name => ?_, consistent := ?_, clean := ?_,
      clients := clients_published emptied accounted,
      listed := fun name among startup started => (starts.handsOver among started).2,
      attempted := by rw [startup], successful := by rw [startup]; exact accounted.order,
      failed := by rw [startup]; exact accounted.failed, ended := accounted.ended,
      complete := by rw [startup] }
  · rw [registry, tools, allResolved_eq accounted resolved]
  · rw [registry]
    exact registered_published accounted name
  · rw [registry]
    exact consistent
  · rw [registry]
    refine detectConflicts_eq_nil_iff.mpr ⟨consistent.unique, fun name list tool found => ?_⟩
    rw [tools] at found
    exact unreserved name list tool found

theorem leaves_publishStartups (starts : Starts servers runs) (emptied : Emptied servers s s₁)
    (accounted : Accounted runs servers.keys startups) :
    Leaves (Undisturbed runs) task heard (ConnectEnd servers runs s)
      (publishStartups servers startups.1 startups.2) s₁ := by
  unfold publishStartups
  cases resolved : startups.1.entries.foldlM (resolveStartup servers) ∅ with
  | error exc => exact .broken emptied
  | ok allResolved =>
      dsimp only
      cases conflicts : detectConflicts allResolved with
      | nil =>
          refine .published (published starts emptied accounted resolved conflicts) ?_
          obtain ⟨_, _, _, _, _, same⟩ := State.publish_frame servers startups.1 allResolved
            startups.2 s₁
          exact (congrArg State.runtimeConfig same).trans emptied.runtimeConfig
      | cons conflict conflicts' =>
          refine leaves_bind (leaves_closeHandles Undisturbed.lenient fun s' kept => ?_)
          have still := emptied.later kept
          have collides : Collides servers runs := by
            refine ⟨allResolved, allResolved_eq accounted resolved, ?_⟩
            rw [conflicts]
            exact List.cons_ne_nil _ _
          exact .conflict collides still.runtimeConfig rfl still.clients rfl rfl

end Publish

theorem leaves_connectAll (starts : Starts servers runs) :
    Leaves (Undisturbed runs) task heard (ConnectEnd servers runs s) (connectAll servers none)
      s := by
  refine leaves_withLock Undisturbed.lenient (fun exc s' kept => .refused kept) fun held kept => ?_
  have ended {out : Except PyException (Except String Unit)} {s' : State}
      (done : ConnectEnd servers runs s out s') :
      ConnectEnd servers runs s out (s'.releaseLock task .registry) :=
    done.later (.release ..)
  refine leaves_bind (leaves_act_bind (leaves_closeHandles Undisturbed.lenient fun closed later => ?_))
  refine leaves_act_bind (leaves_bind (Secures.mono (fun out s' sorted => ?_)
    (leaves_startServers (s := s) starts ?_)))
  · cases out with
    | error exc => exact ended (.broken sorted)
    | ok startups =>
        exact Secures.mono (fun _ _ => ended) (leaves_publishStartups starts sorted.1 sorted.2)
  · exact ⟨later.runtimeConfig.trans kept.runtimeConfig, rfl, later.clients, rfl⟩

end Connect

/-! ## `on_config_changed` -/

section Reload

variable {task : TaskId} {s s₁ s' : State} {newConfig : TelaConfig} {runs : String → ServerRun}
  {heard : (w : Wait) → Except PyException w.Res → Prop}

/-- Every way in which a reload from the first state ends. -/
inductive ReloadEnd (newConfig : TelaConfig) (runs : String → ServerRun) (s : State) :
    Except PyException (Except String Unit) → State → Prop
  /-- No server has changed. -/
  | adopted {s' : State}
      (same : ∀ old, s.runtimeConfig = some old →
        serversDiffer old.servers newConfig.servers = false)
      (runtimeConfig : s'.runtimeConfig = some newConfig) (registry : s'.registry = s.registry)
      (clients : s'.clients = s.clients) (startup : s'.startup = s.startup) :
      ReloadEnd newConfig runs s (.ok (.ok ())) s'
  | reconnected {s' : State}
      (differ : ∃ old, s.runtimeConfig = some old ∧
        serversDiffer old.servers newConfig.servers = true)
      (runtimeConfig : s'.runtimeConfig = some newConfig)
      (done : Published newConfig.servers runs s') :
      ReloadEnd newConfig runs s (.ok (.ok ())) s'
  /-- The names of the new tools collide; all clients are gone. -/
  | takenBack {s' : State} {description : String} (collides : Collides newConfig.servers runs)
      (runtimeConfig : s'.runtimeConfig = s.runtimeConfig) (registry : s'.registry = s.registry)
      (clients : s'.clients = ∅) (successful : s'.startup.successful = [])
      (complete : s'.startup.complete = true) :
      ReloadEnd newConfig runs s (.ok (.error ("TOOL_CONFLICT: " ++ description))) s'
  /-- Broken off before anything was disconnected. -/
  | early {s' : State} {exc : PyException} (runtimeConfig : s'.runtimeConfig = some newConfig)
      (registry : s'.registry = s.registry) (clients : s'.clients = s.clients) :
      ReloadEnd newConfig runs s (.error exc) s'
  /-- Broken off between disconnecting and publishing, or while being taken back. -/
  | midway {s' : State} {exc : PyException} (runtimeConfig : s'.runtimeConfig = some newConfig)
      (registry : s'.registry = {}) (clients : s'.clients = ∅)
      (successful : s'.startup.successful = []) :
      ReloadEnd newConfig runs s (.error exc) s'
  /-- Published, but the listeners could not be told. -/
  | unnotified {s' : State} {exc : PyException}
      (runtimeConfig : s'.runtimeConfig = some newConfig)
      (done : Published newConfig.servers runs s') :
      ReloadEnd newConfig runs s (.error exc) s'

/-- `disconnect_all` waits for the lock in vain, or forgets every server. -/
def Disconnected (runs : String → ServerRun) (s : State) :
    Except PyException (Except String Unit) → State → Prop
  | .ok _, s' => s'.runtimeConfig = s.runtimeConfig ∧ s'.registry = {} ∧ s'.clients = ∅ ∧
      s'.startup.successful = []
  | .error _, s' => Undisturbed runs s s'

theorem leaves_disconnectAll :
    Leaves (Undisturbed runs) task heard (Disconnected runs s) disconnectAll s := by
  refine leaves_bind (leaves_withLock Undisturbed.lenient (fun exc s' kept => kept)
    fun held kept => ?_)
  refine leaves_bind (leaves_act_bind (leaves_closeHandles Undisturbed.lenient
    fun closed later => ?_))
  have config : closed.runtimeConfig = s.runtimeConfig :=
    later.runtimeConfig.trans kept.runtimeConfig
  exact ⟨config, rfl, later.clients, rfl⟩

theorem toolConflict_starts (description : String) :
    Text.startsWith ("TOOL_CONFLICT: " ++ description) "TOOL_CONFLICT" = true := by
  refine Text.startsWith_iff.mpr ⟨": ".toList ++ description.toList, ?_⟩
  rw [String.toList_append, ← List.append_assoc]
  rfl

/-- The reload takes itself back, or is broken off at the lock. -/
theorem leaves_revertReload {old : TelaConfig} {description : String}
    (before : s.runtimeConfig = some old) (collides : Collides newConfig.servers runs)
    (runtimeConfig : s₁.runtimeConfig = some newConfig) (registry : s₁.registry = {})
    (clients : s₁.clients = ∅) (successful : s₁.startup.successful = [])
    (complete : s₁.startup.complete = true) :
    Leaves (Undisturbed runs) task heard (ReloadEnd newConfig runs s) (do
      revertReload old s.registry
      return .error ("TOOL_CONFLICT: " ++ description)) s₁ := by
  refine leaves_bind (leaves_bind (leaves_withLock Undisturbed.lenient (fun exc s' kept => ?_)
    fun held kept => ?_))
  · exact .midway (kept.runtimeConfig.trans runtimeConfig) (kept.registry.trans registry)
      (kept.clients.trans clients) (kept.startup ▸ successful)
  · exact .takenBack collides before.symm rfl (kept.clients.trans clients)
      (kept.startup ▸ successful) (kept.startup ▸ complete)

theorem leaves_reconnectServers {old : TelaConfig} (starts : Starts newConfig.servers runs)
    (before : s.runtimeConfig = some old)
    (differ : serversDiffer old.servers newConfig.servers = true)
    (runtimeConfig : s₁.runtimeConfig = some newConfig) (registry : s₁.registry = s.registry)
    (clients : s₁.clients = s.clients) :
    Leaves (Undisturbed runs) task heard (ReloadEnd newConfig runs s)
      (reconnectServers old newConfig) s₁ := by
  refine leaves_bind (leaves_withLock Undisturbed.lenient (fun exc s' kept => ?_)
    fun held kept => ?_)
  · exact .early (kept.runtimeConfig.trans runtimeConfig) (kept.registry.trans registry)
      (kept.clients.trans clients)
  have snap : (world.exec task .snapshotRegistry held).1 = s.registry :=
    kept.registry.trans registry
  have released := kept.trans (.release held task .registry)
  refine leaves_bind (Secures.mono (fun out s₂ disconnected => ?_) leaves_disconnectAll)
  cases out with
  | error exc =>
      have still := released.trans disconnected
      exact .early (still.runtimeConfig.trans runtimeConfig) (still.registry.trans registry)
        (still.clients.trans clients)
  | ok result =>
      obtain ⟨same, gone, none, nobody⟩ := disconnected
      have config : s₂.runtimeConfig = some newConfig :=
        same.trans (released.runtimeConfig.trans runtimeConfig)
      refine leaves_bind (Secures.mono (fun out s₃ connected => ?_) (leaves_connectAll starts))
      cases connected with
      | published done kept =>
          have now : s₃.runtimeConfig = some newConfig := kept.trans config
          refine leaves_bind (Secures.mono (fun out s₄ told => ?_)
            (Calm.notifyRegistryToolDigest Undisturbed.lenient s₃))
          cases out with
          | ok _ =>
              exact .reconnected ⟨old, before, differ⟩ (told.runtimeConfig.trans now)
                (done.later told)
          | error exc => exact .unnotified (told.runtimeConfig.trans now) (done.later told)
      | conflict collides kept empty noClients successful complete =>
          rename_i description
          change Leaves (Undisturbed runs) task heard (ReloadEnd newConfig runs s)
            (if Text.startsWith ("TOOL_CONFLICT: " ++ description) "TOOL_CONFLICT" = true then _
            else _) s₃
          rw [if_pos (toolConflict_starts description), snap]
          exact leaves_revertReload before collides (kept.trans config) empty noClients successful
            complete
      | refused kept =>
          exact .midway (kept.runtimeConfig.trans config) (kept.registry.trans gone)
            (kept.clients.trans none) (kept.startup ▸ nobody)
      | broken emptied =>
          exact .midway (emptied.runtimeConfig.trans config) emptied.registry emptied.clients
            (congrArg StartupTracking.successful emptied.startup)

theorem leaves_onConfigChanged (starts : Starts newConfig.servers runs) :
    Leaves (Undisturbed runs) task heard (ReloadEnd newConfig runs s) (onConfigChanged newConfig)
      s := by
  refine leaves_act_bind (leaves_act_bind ?_)
  have read : (State.exec task .getRuntimeConfig s).1 = s.runtimeConfig := rfl
  obtain ⟨pending, frame⟩ := State.getRuntimeConfig_frame s task
  have same : (State.exec task .getRuntimeConfig s).2 =
      { s with history := { s.history with pending := pending } } := frame
  rw [read, same]
  cases before : s.runtimeConfig with
  | none =>
      refine .adopted (fun old found => ?_) rfl rfl rfl rfl
      rw [before] at found
      cases found
  | some old =>
      dsimp only
      by_cases differ : serversDiffer old.servers newConfig.servers = true
      · rw [if_pos differ]
        exact leaves_reconnectServers starts before differ rfl rfl rfl
      · rw [if_neg differ]
        refine .adopted (fun other found => ?_) rfl rfl rfl rfl
        rw [before] at found
        cases found
        exact Bool.eq_false_iff.mpr differ

/--
With no other operation under way a reload ends in one of six ways. One that returns
success has published exactly what its servers answered, if any has changed; one that
reports a conflict has met one, and has put the configuration and the registry back but not
the clients; one that raises leaves the new configuration over the old registry, an
empty one or the new one.
-/
theorem reload_outcomes {out : Except PyException (Except String Unit)}
    (starts : Starts newConfig.servers runs)
    (ran : Solo world (Undisturbed runs) task (onConfigChanged newConfig) s out s') :
    ReloadEnd newConfig runs s out s' :=
  Secures.solo (leaves_onConfigChanged starts) ran

end Reload

/-! ## A server comes up and another does not -/

/-- A gateway with one server connected. -/
def servingFiles : State :=
  { State.launch (some filesConfig) false with
    registry := ({} : DownstreamRegistry).register "files"
      [{ name := "read", serverName := "files", family := "read" }]
    clients := .ofList [("files", ⟨0, none, 0⟩)] }

/-- Every await is answered at once, in this way. -/
def answersAtOnce (answer : (w : Wait) → Except PyException w.Res) (w : Wait) (s : State) :
    Option (Except PyException w.Res × State) :=
  (State.wake 0 w (answer w) s).map fun s' => (answer w, s')

/-- No transport can be opened. -/
def refusing : (w : Wait) → Except PyException w.Res
  | .connectTransport _ => .error ⟨.other, "OSError", "refused"⟩
  | w => answering [] w

def startedFiles : ConnectedServerData :=
  { serverName := "files", rawTools := [writeTool], clientHandle := some ⟨0, none, 0⟩ }

/-- `files` is started, and no other server. -/
def handedOver (serverName : String) : Except String ConnectedServerData :=
  if serverName = "files" then .ok startedFiles
  else .error (connectFailed serverName "stdio" "refused")

/-- The coroutines of a `gather` hand over what they came to. -/
def State.handOver (s : State) (batch : BatchId) : State :=
  { s with
    batches := assign s.batches batch
      { s.batches batch with
        jobs := (s.batches batch).jobs.map fun job =>
          { job with outcome := some (.ok (handedOver job.serverName)) } } }

/-- Closing works, and every `gather` is handed over to. -/
def gathersAtOnce : (w : Wait) → State → Option (Except PyException w.Res × State)
  | .aclose, s => some (.ok (), s)
  | .gather batch, s => some (.ok (), s.handOver batch)
  | _, _ => none

theorem jobs_handOver (s : State) (batch : BatchId) :
    ((s.handOver batch).batches batch).jobs = (s.batches batch).jobs.map fun job =>
      { job with outcome := some (.ok (handedOver job.serverName)) } :=
  congrArg Batch.jobs (assign_self ..)

theorem batches_handOver_of_ne (s : State) {batch other : BatchId} (apart : other ≠ batch) :
    (s.handOver batch).batches other = s.batches other := assign_of_ne _ apart _

theorem reported_of_handOver {s : State} {batch : BatchId} {job : Job}
    (among : job ∈ ((s.handOver batch).batches batch).jobs) :
    job.outcome = some (.ok (handedOver job.serverName)) := by
  rw [jobs_handOver, List.mem_map] at among
  obtain ⟨_, -, rfl⟩ := among
  rfl

theorem wake_handOver (s : State) (batch : BatchId) :
    State.wake 0 (.gather batch) (.ok ()) (s.handOver batch) = some (s.handOver batch) := by
  refine if_pos (List.all_eq_true.mpr fun job among => ?_)
  rw [reported_of_handOver among]

theorem undisturbed_handOver {runs : String → ServerRun}
    (came : ∀ serverName, (runs serverName).outcome = .ok (handedOver serverName)) (s : State)
    (batch : BatchId) : Undisturbed runs s (s.handOver batch) := by
  refine ⟨rfl, rfl, rfl, rfl, fun other => ?_, fun other reports => ?_⟩
  · by_cases same : other = batch
    · subst same
      rw [jobs_handOver, List.map_map]
      rfl
    · rw [batches_handOver_of_ne s same]
  · by_cases same : other = batch
    · subst same
      intro job among outcome reported
      rw [reported_of_handOver among] at reported
      rw [came, Option.some.inj reported]
    · rw [batches_handOver_of_ne s same]
      exact reports

theorem answersAtOnce_solo {α : Type} {x : Prog α} {rely : State → State → Prop}
    (lenient : Lenient rely) {answer : (w : Wait) → Except PyException w.Res} {s s' : State}
    {out : Except PyException α}
    (driven : x.drive world 0 (answersAtOnce answer) s = some (out, s')) :
    Solo world rely 0 x s out s' := by
  refine Solo.of_drive (fun w s outcome s' answered => ?_) driven
  obtain ⟨next, woken, same⟩ := Option.map_eq_some_iff.mp answered
  cases same
  exact ⟨s, lenient.refl s, woken⟩

theorem gathersAtOnce_solo {α : Type} {x : Prog α} {runs : String → ServerRun}
    (came : ∀ serverName, (runs serverName).outcome = .ok (handedOver serverName)) {s s' : State}
    {out : Except PyException α} (driven : x.drive world 0 gathersAtOnce s = some (out, s')) :
    Solo world (Undisturbed runs) 0 x s out s' := by
  refine Solo.of_drive (fun w s outcome s' answered => ?_) driven
  cases w with
  | aclose =>
      cases answered
      exact ⟨_, Undisturbed.lenient.refl _, rfl⟩
  | gather batch =>
      cases answered
      exact ⟨_, undisturbed_handOver came s batch, wake_handOver s batch⟩
  | _ => cases answered

/-- Coroutines of the two servers come to what is handed over. -/
theorem starts_bothConfig : ∃ runs, Starts bothConfig.servers runs ∧
    ∀ serverName, (runs serverName).outcome = .ok (handedOver serverName) := by
  have lenient : Lenient fun _ _ => True := ⟨fun _ _ _ _ _ _ _ _ => trivial, fun _ _ => trivial⟩
  have hears {serverName : String} {serverConfig : ServerConfig}
      {answer : (w : Wait) → Except PyException w.Res}
      (came : ((connectServer serverName serverConfig).drive world 0 (answersAtOnce answer) {}).map
        Prod.fst = some (.ok (handedOver serverName))) :
      ∃ answers s', Hears world (fun _ _ => True) 0 (connectServer serverName serverConfig) {} answers
        (.ok (handedOver serverName)) s' := by
    obtain ⟨⟨_, s'⟩, driven, rfl⟩ := Option.map_eq_some_iff.mp came
    obtain ⟨answers, ran⟩ := solo_iff_hears.mp (answersAtOnce_solo lenient driven)
    exact ⟨answers, s', ran⟩
  obtain ⟨files, s₁, filesRan⟩ := @hears "files" filesServer (answering [writeTool]) rfl
  obtain ⟨mirror, s₂, mirrorRan⟩ := @hears "mirror" mirrorServer refusing rfl
  refine ⟨fun serverName =>
    ⟨if serverName = "files" then files else mirror, .ok (handedOver serverName)⟩, ?_, fun _ => rfl⟩
  intro name serverConfig configured
  have listed := Dict.get?_eq_some_iff.mp configured
  have entries : bothConfig.servers.entries = [("files", filesServer), ("mirror", mirrorServer)] :=
    rfl
  rw [entries] at listed
  obtain same | same := List.mem_pair.mp listed
  · cases same
    exact ⟨0, {}, s₁, filesRan⟩
  · cases same
    exact ⟨0, {}, s₂, mirrorRan⟩

/-- A reload that adds a server which does not come up, and lists the tools of the other anew. -/
theorem reload_outcomes_relisted :
    ∃ runs s', Starts bothConfig.servers runs ∧
      Solo world (Undisturbed runs) 0 (onConfigChanged bothConfig) servingFiles (.ok (.ok ())) s' ∧
      ReloadEnd bothConfig runs servingFiles (.ok (.ok ())) s' ∧
      (s'.registry.getAllTools.get? "files").map (fun tools => tools.map ResolvedTool.name) =
        some ["write"] ∧
      s'.clients.get? "files" = some ⟨0, none, 0⟩ ∧ s'.clients.get? "mirror" = none ∧
      s'.startup.successful = ["files"] ∧ (s'.startup.failed.get? "mirror").isSome = true := by
  have done : ((onConfigChanged bothConfig).drive world 0 gathersAtOnce servingFiles).any
      (fun ended => ended.1 = .ok (.ok ())) = true := by decide +kernel
  obtain ⟨⟨out, s'⟩, driven, same⟩ := (Option.any_eq_true _ _).mp done
  obtain rfl : out = .ok (.ok ()) := of_decide_eq_true same
  obtain ⟨runs, starts, came⟩ := starts_bothConfig
  have ran := gathersAtOnce_solo came driven
  have ended := reload_outcomes starts ran
  refine ⟨runs, s', starts, ran, ended, ?_⟩
  cases ended with
  | adopted same =>
      have differ : serversDiffer filesConfig.servers bothConfig.servers = true := by
        decide +kernel
      rw [same filesConfig rfl] at differ
      cases differ
  | reconnected differ runtimeConfig published =>
      have startup (serverName : String) :
          (runs serverName).startup = (handedOver serverName).toOption := by
        unfold ServerRun.startup
        rw [came]
        cases handedOver serverName <;> rfl
      refine ⟨?_, ?_, ?_, ?_, ?_⟩
      · rw [published.tools, toolsAnswered, startup]
        decide +kernel
      · rw [published.clients, startup]
        decide +kernel
      · rw [published.clients, startup]
        decide +kernel
      · rw [published.successful]
        simp only [startup]
        decide +kernel
      · rw [published.failed, ServerRun.failure, came]
        decide +kernel

end Tela
