import Tela.Properties.ReloadOutcomes

/-!
# How a recovery ends

While nobody else writes the tools or the client of its server, and whatever becomes
of the configuration, a recovery puts a new client in place together with the tools that
it listed, or leaves both, or breaks off between registering and swapping.
-/

namespace Tela

open Coop

/-! ## One server among others -/

def State.toolsOf (s : State) (serverName : String) : Option (List ResolvedTool) :=
  s.registry.getAllTools.get? serverName

def State.clientOf (s : State) (serverName : String) : Option ClientHandle :=
  s.clients.get? serverName

/-- The configuration serves the server with these settings. -/
def Serves (config : Option TelaConfig) (serverName : String) (serverConfig : ServerConfig) : Prop :=
  (config.bind fun config => config.servers.get? serverName) = some serverConfig

def Unserved (config : Option TelaConfig) (serverName : String) : Prop :=
  (config.bind fun config => config.servers.get? serverName) = none

/-- Others leave the server alone and take the configuration only to known ones. -/
structure Apart (serverName : String) (known : Option TelaConfig → Prop) (s s' : State) : Prop where
  tools : s'.toolsOf serverName = s.toolsOf serverName
  client : s'.clientOf serverName = s.clientOf serverName
  config : known s.runtimeConfig → known s'.runtimeConfig
  serial : s.nextSerial ≤ s'.nextSerial

section Recovery

variable {serverName : String} {known : Option TelaConfig → Prop} {task : TaskId}
  {heard : (w : Wait) → Except PyException w.Res → Prop} {s s₁ s₂ s' : State} {deadline : Nat}

theorem Apart.lenient : Lenient (Apart serverName known) where
  rest s s' runtimeConfig registry clients _ _ serial := by
    refine ⟨?_, ?_, ?_, serial⟩
    · rw [State.toolsOf, registry, State.toolsOf]
    · rw [State.clientOf, clients, State.clientOf]
    · rw [runtimeConfig]
      exact id
  trans first second :=
    ⟨second.tools.trans first.tools, second.client.trans first.client,
      second.config ∘ first.config, first.serial.trans second.serial⟩

/-- Of the two parts of the server only these have changed. -/
structure Became (serverName : String) (known : Option TelaConfig → Prop) (s : State)
    (tools : Option (List ResolvedTool)) (client : Option ClientHandle) (s' : State) : Prop where
  tools : s'.toolsOf serverName = tools
  client : s'.clientOf serverName = client
  config : known s'.runtimeConfig
  serial : s.nextSerial ≤ s'.nextSerial

theorem Became.later {tools : Option (List ResolvedTool)} {client : Option ClientHandle}
    (became : Became serverName known s tools client s₁) (apart : Apart serverName known s₁ s') :
    Became serverName known s tools client s' :=
  ⟨apart.tools.trans became.tools, apart.client.trans became.client,
    apart.config became.config, became.serial.trans apart.serial⟩

/-- Nothing has changed so far. -/
abbrev Same (serverName : String) (known : Option TelaConfig → Prop) (s s' : State) : Prop :=
  Became serverName known s (s.toolsOf serverName) (s.clientOf serverName) s'

/-- What a recovery that could not finish its convergence in time reports. -/
def lateConvergence (serverName : String) : TelaError :=
  recoveryError serverName .recoveryTimeout "Recovery timeout exhausted during convergence"

/-- Every way in which a recovery from the first state ends. -/
inductive RecoveryEnd (serverName : String) (known : Option TelaConfig → Prop)
    (heard : (w : Wait) → Except PyException w.Res → Prop) (s : State) :
    Except PyException (Except TelaError Unit) → State → Prop
  /-- Another recovery had come first, and left a client and tools. -/
  | reused {s' : State} (tools : (s.toolsOf serverName).isSome = true)
      (client : (s.clientOf serverName).isSome = true) (same : Same serverName known s s') :
      RecoveryEnd serverName known heard s (.ok (.ok ())) s'
  | recovered {s' : State} {config : Option TelaConfig} {serverConfig : ServerConfig}
      {rawTools : List RawTool} {resolved : List ResolvedTool} {handle : ClientHandle}
      (held : known config) (serves : Serves config serverName serverConfig)
      (listed : ListedBy heard serverName handle rawTools)
      (resolution : resolveTools serverName serverConfig rawTools = .ok resolved)
      (new : s.nextSerial ≤ handle.serial)
      (became : Became serverName known s (some resolved) (some handle) s') :
      RecoveryEnd serverName known heard s (.ok (.ok ())) s'
  | failed {s' : State} {out : Except PyException (Except TelaError Unit)}
      (failed : out ≠ .ok (.ok ())) (same : Same serverName known s s') :
      RecoveryEnd serverName known heard s out s'
  /-- The settings are gone, and with them the client; the tools stay. -/
  | dropped {s' : State} {config : Option TelaConfig}
      {out : Except PyException (Except TelaError Unit)} (failed : out ≠ .ok (.ok ()))
      (held : known config) (gone : Unserved config serverName)
      (tools : s'.toolsOf serverName = s.toolsOf serverName ∨
        s'.toolsOf serverName = (s.toolsOf serverName).filter fun tools => !tools.isEmpty)
      (client : s'.clientOf serverName = none) : RecoveryEnd serverName known heard s out s'
  /-- The settings changed at the last moment; an empty list is not put back. -/
  | rolledBack {s' : State} {out : Except PyException (Except TelaError Unit)}
      (failed : out ≠ .ok (.ok ()))
      (tools : s'.toolsOf serverName = (s.toolsOf serverName).filter fun tools => !tools.isEmpty)
      (client : s'.clientOf serverName = s.clientOf serverName) :
      RecoveryEnd serverName known heard s out s'
  /-- The tools are those of a client that is not in place. -/
  | halfway {s' : State} {config : Option TelaConfig} {serverConfig : ServerConfig}
      {rawTools : List RawTool} {resolved : List ResolvedTool} {handle : ClientHandle}
      {out : Except PyException (Except TelaError Unit)}
      (held : known config) (serves : Serves config serverName serverConfig)
      (listed : ListedBy heard serverName handle rawTools)
      (resolution : resolveTools serverName serverConfig rawTools = .ok resolved)
      (tools : s'.toolsOf serverName = some resolved)
      (client : s'.clientOf serverName = s.clientOf serverName)
      (why : (∃ exc, out = .error exc) ∨ out = .ok (.error (lateConvergence serverName))) :
      RecoveryEnd serverName known heard s out s'

theorem RecoveryEnd.later {out : Except PyException (Except TelaError Unit)}
    (ended : RecoveryEnd serverName known heard s out s₁) (apart : Apart serverName known s₁ s') :
    RecoveryEnd serverName known heard s out s' := by
  cases ended with
  | reused tools client same => exact .reused tools client (same.later apart)
  | recovered held serves listed resolution new became =>
      exact .recovered held serves listed resolution new (became.later apart)
  | failed failed same => exact .failed failed (same.later apart)
  | dropped failed held gone tools client =>
      refine .dropped failed held gone ?_ (apart.client.trans client)
      rw [apart.tools]
      exact tools
  | rolledBack failed tools client =>
      exact .rolledBack failed (apart.tools.trans tools) (apart.client.trans client)
  | halfway held serves listed resolution tools client why =>
      exact .halfway held serves listed resolution (apart.tools.trans tools)
        (apart.client.trans client) why

/-- A failed recovery may raise on its way out. -/
theorem RecoveryEnd.raise {out : Except PyException (Except TelaError Unit)}
    (ended : RecoveryEnd serverName known heard s out s') (bad : out ≠ .ok (.ok ()))
    (exc : PyException) : RecoveryEnd serverName known heard s (.error exc) s' := by
  have failed : (.error exc : Except PyException (Except TelaError Unit)) ≠ .ok (.ok ()) := by
    rintro ⟨⟩
  cases ended with
  | reused tools client same => exact absurd rfl bad
  | recovered held serves listed resolution new became => exact absurd rfl bad
  | failed _ same => exact .failed failed same
  | dropped _ held gone tools client => exact .dropped failed held gone tools client
  | rolledBack _ tools client => exact .rolledBack failed tools client
  | halfway held serves listed resolution tools client why =>
      exact .halfway held serves listed resolution tools client (.inl ⟨exc, rfl⟩)

/-! ## Parts -/

theorem leaves_getRuntimeServerConfig {post : Except PyException (Except TelaError ServerConfig) →
      State → Prop}
    (found : ∀ serverConfig s', Serves s.runtimeConfig serverName serverConfig →
      Apart serverName known s s' → post (.ok (.ok serverConfig)) s')
    (missing : ∀ error s', Unserved s.runtimeConfig serverName → error.configMissing = true →
      Apart serverName known s s' → post (.ok (.error error)) s') :
    Leaves (Apart serverName known) task heard post (getRuntimeServerConfig serverName) s := by
  have apart : Apart serverName known s (s.getRuntimeConfig task).2 := by
    obtain ⟨pending, frame⟩ := s.getRuntimeConfig_frame task
    rw [frame]
    exact Apart.lenient.rest _ _ rfl rfl rfl rfl rfl (Nat.le_refl _)
  change post (.ok (runtimeServerConfig serverName s.runtimeConfig)) (s.getRuntimeConfig task).2
  unfold runtimeServerConfig
  cases loaded : s.runtimeConfig with
  | none => exact missing _ _ (by rw [loaded]; rfl) (by simp) apart
  | some config =>
      dsimp only
      cases served : config.servers.get? serverName with
      | none => exact missing _ _ (by rw [loaded]; exact served) (by simp) apart
      | some serverConfig => exact found serverConfig _ (by rw [loaded]; exact served) apart

/-- The outcome of a recovery that still holds the recovery lock. -/
def LockedEnd (serverName : String) (known : Option TelaConfig → Prop)
    (heard : (w : Wait) → Except PyException w.Res → Prop) (s : State) :
    Except PyException RecoveryOutcome → State → Prop
  | .error exc, s' => RecoveryEnd serverName known heard s (.error exc) s'
  | .ok (result, shouldPrune), s' =>
      RecoveryEnd serverName known heard s (.ok result) s' ∧ (shouldPrune = true → result ≠ .ok ())

/-- The tools before a recovery, or what a rollback makes of them. -/
abbrev Restored (serverName : String) (s s' : State) : Prop :=
  s'.toolsOf serverName = s.toolsOf serverName ∨
    s'.toolsOf serverName = (s.toolsOf serverName).filter fun tools => !tools.isEmpty

theorem ended_of_restored {out : Except PyException (Except TelaError Unit)}
    (failed : out ≠ .ok (.ok ())) (tools : Restored serverName s s')
    (client : s'.clientOf serverName = s.clientOf serverName) (config : known s'.runtimeConfig)
    (serial : s.nextSerial ≤ s'.nextSerial) : RecoveryEnd serverName known heard s out s' := by
  obtain same | filtered := tools
  · exact .failed failed ⟨same, client, config, serial⟩
  · exact .rolledBack failed filtered client

/-- The settings are gone: the client is dropped, unless the lock cannot be had. -/
theorem leaves_failMissingConfig {error : TelaError} {config : Option TelaConfig}
    (held : known config) (gone : Unserved config serverName)
    (missing : error.configMissing = true) (tools : Restored serverName s s₁)
    (client : s₁.clientOf serverName = s.clientOf serverName)
    (allowed : known s₁.runtimeConfig) (serial : s.nextSerial ≤ s₁.nextSerial) :
    Leaves (Apart serverName known) task heard (LockedEnd serverName known heard s)
      (failMissingConfig serverName error) s₁ := by
  have restored {s' : State} (apart : Apart serverName known s₁ s') : Restored serverName s s' := by
    rw [Restored, apart.tools]
    exact tools
  unfold failMissingConfig
  rw [if_pos missing]
  refine leaves_bind (leaves_dropClientForServer Apart.lenient (fun exc s' apart => ?_)
    fun inside s' apart later => ?_)
  · exact ended_of_restored (by rintro ⟨⟩) (restored apart) (apart.client.trans client)
      (apart.config allowed) (serial.trans apart.serial)
  · have dropped : (inside.clients.erase serverName).get? serverName = none := by
      rw [Dict.get?_erase, if_pos rfl]
    have kept : Restored serverName s inside := restored apart
    refine ⟨.dropped (by rintro ⟨⟩) held gone ?_ (later.client.trans dropped), by rintro - ⟨⟩⟩
    rw [later.tools]
    exact kept

theorem failed_of_same {error : TelaError} (same : Same serverName known s s') :
    LockedEnd serverName known heard s (.ok (.error error, false)) s' :=
  ⟨.failed (by rintro ⟨⟩) same, by rintro ⟨⟩⟩

/-- The new client is closed and the recovery is given up. -/
theorem leaves_failAfterOpen {handle : ClientHandle} {stage : RecoveryStage}
    {underlyingError : String} {post : Except PyException RecoveryOutcome → State → Prop}
    (ended : ∀ s', Apart serverName known s₁ s' →
      post (.ok (.error (recoveryError serverName stage underlyingError), false)) s') :
    Leaves (Apart serverName known) task heard post
      (failAfterOpen serverName handle stage underlyingError) s₁ :=
  leaves_bind (leaves_closeHandle Apart.lenient ended)

/-! ## Rolling back and swapping -/

/-- The list of the server that the tools before give when they are put back. -/
abbrev filtered (tools : Option (List ResolvedTool)) : Option (List ResolvedTool) :=
  tools.filter fun tools => !tools.isEmpty

theorem tools_rollback (s₁ : State) (tools : Option (List ResolvedTool)) :
    (s₁.rollback task serverName (tools.getD [])).toolsOf serverName = filtered tools := by
  change (if (tools.getD []).isEmpty then s₁.registry.unregister serverName
    else s₁.registry.register serverName (tools.getD [])).getAllTools.get? serverName = _
  cases tools with
  | none => exact (DownstreamRegistry.tools_unregister ..).trans (if_pos rfl)
  | some list =>
      cases list with
      | nil => exact (DownstreamRegistry.tools_unregister ..).trans (if_pos rfl)
      | cons tool tools => exact (DownstreamRegistry.tools_register ..).trans (if_pos rfl)

theorem leaves_rollbackTools {post : Except PyException Unit → State → Prop}
    (refused : ∀ exc s', Apart serverName known s₁ s' → post (.error exc) s')
    (rolled : ∀ s', s'.toolsOf serverName = filtered (s.toolsOf serverName) →
      s'.clientOf serverName = s₁.clientOf serverName →
      (known s₁.runtimeConfig → known s'.runtimeConfig) → s₁.nextSerial ≤ s'.nextSerial →
      post (.ok ()) s') :
    Leaves (Apart serverName known) task heard post
      (rollbackTools serverName ((s.toolsOf serverName).getD [])) s₁ := by
  refine leaves_withLock Apart.lenient refused fun held apart => ?_
  have tools := @tools_rollback serverName task held (s.toolsOf serverName)
  exact rolled _ tools apart.client apart.config apart.serial

section Converged

variable {config : Option TelaConfig} {serverConfig : ServerConfig} {rawTools : List RawTool}
  {resolved : List ResolvedTool} {handle : ClientHandle}

/-- The registry has the tools of a client that is not yet in place. -/
structure Converged (serverName : String) (known : Option TelaConfig → Prop)
    (heard : (w : Wait) → Except PyException w.Res → Prop) (s : State)
    (config : Option TelaConfig) (serverConfig : ServerConfig) (handle : ClientHandle)
    (rawTools : List RawTool) (resolved : List ResolvedTool) (s' : State) : Prop where
  held : known config
  serves : Serves config serverName serverConfig
  listed : ListedBy heard serverName handle rawTools
  resolution : resolveTools serverName serverConfig rawTools = .ok resolved
  became : Became serverName known s (some resolved) (s.clientOf serverName) s'

theorem Converged.later
    (converged : Converged serverName known heard s config serverConfig handle rawTools resolved s₁)
    (apart : Apart serverName known s₁ s') :
    Converged serverName known heard s config serverConfig handle rawTools resolved s' :=
  { converged with became := converged.became.later apart }

theorem Converged.halfway {out : Except PyException (Except TelaError Unit)}
    (converged : Converged serverName known heard s config serverConfig handle rawTools resolved s')
    (why : (∃ exc, out = .error exc) ∨ out = .ok (.error (lateConvergence serverName))) :
    RecoveryEnd serverName known heard s out s' :=
  .halfway converged.held converged.serves converged.listed converged.resolution
    converged.became.tools converged.became.client why

/-- The settings have changed since the tools were registered. -/
theorem leaves_withdraw {rest : Prog RecoveryOutcome}
    (converged : Converged serverName known heard s config serverConfig handle rawTools resolved s₁)
    (after : ∀ s', s'.toolsOf serverName = filtered (s.toolsOf serverName) →
      s'.clientOf serverName = s.clientOf serverName → known s'.runtimeConfig →
      s.nextSerial ≤ s'.nextSerial →
      Leaves (Apart serverName known) task heard (LockedEnd serverName known heard s) rest s') :
    Leaves (Apart serverName known) task heard (LockedEnd serverName known heard s) (do
      closeHandleBestEffort handle
      rollbackTools serverName ((s.toolsOf serverName).getD [])
      rest) s₁ := by
  refine leaves_bind (leaves_closeHandle Apart.lenient fun closed apart => ?_)
  have still := converged.later apart
  refine leaves_bind (leaves_rollbackTools (fun exc s' later => ?_)
    fun s' tools client config' serial => ?_)
  · exact (still.later later).halfway (.inl ⟨exc, rfl⟩)
  · exact after s' tools (client.trans still.became.client) (config' still.became.config)
      (still.became.serial.trans serial)

theorem leaves_swapRecoveredClient
    (converged : Converged serverName known heard s config serverConfig handle rawTools resolved s₁)
    (new : s.nextSerial ≤ handle.serial) :
    Leaves (Apart serverName known) task heard (LockedEnd serverName known heard s)
      (swapRecoveredClient serverName serverConfig handle ((s.toolsOf serverName).getD [])) s₁ := by
  refine leaves_bind (leaves_getRuntimeServerConfig (fun preSwap s₂ serves apart => ?_)
    fun error s₂ gone missing apart => ?_)
  · have still := converged.later apart
    change Leaves _ task heard _ (if ¬ preSwap.Same serverConfig then _ else _) s₂
    split
    · refine leaves_withdraw still fun s' tools client _ _ => ?_
      exact ⟨.rolledBack (by rintro ⟨⟩) tools client, by rintro ⟨⟩⟩
    · refine leaves_bind (leaves_withLock Apart.lenient (fun exc s' later => ?_)
        fun inside later => ?_)
      · exact (still.later later).halfway (.inl ⟨exc, rfl⟩)
      · have inPlace := still.later later
        have swapped : Became serverName known s (some resolved) (some handle)
            ((inside.swapClient serverName handle).2.releaseLock task .registry) := by
          refine ⟨inPlace.became.tools, ?_, inPlace.became.config, inPlace.became.serial⟩
          exact (Dict.get?_set ..).trans (if_pos rfl)
        have ended {s' : State} (calm : Apart serverName known
            ((inside.swapClient serverName handle).2.releaseLock task .registry) s') :
            LockedEnd serverName known heard s (.ok (.ok (), false)) s' :=
          ⟨.recovered converged.held converged.serves converged.listed converged.resolution new
            (swapped.later calm), by rintro ⟨⟩⟩
        refine leaves_act (a := .swapClient serverName handle) ?_
        change Onward world _ task heard (LockedEnd serverName known heard s) _
          (.ok (inside.clients.get? serverName)) _
        cases inside.clients.get? serverName with
        | none => exact ended (Apart.lenient.refl _)
        | some old => exact leaves_bind (leaves_closeHandle Apart.lenient fun s' calm => ended calm)
  · have still := converged.later apart
    refine leaves_withdraw still fun s' tools client allowed serial => ?_
    exact leaves_failMissingConfig converged.became.config gone missing (.inr tools) client allowed
      serial

/-! ## Converging -/

/-- How the update of the registry ends inside a recovery. -/
def Reconverged (serverName : String) (known : Option TelaConfig → Prop)
    (heard : (w : Wait) → Except PyException w.Res → Prop) (s : State)
    (config : Option TelaConfig) (serverConfig : ServerConfig) (handle : ClientHandle)
    (rawTools : List RawTool) :
    Except PyException (Except String Unit) → State → Prop
  | .ok (.ok ()), s' =>
      ∃ resolved, Converged serverName known heard s config serverConfig handle rawTools resolved s'
  | .ok (.error _), s' => Same serverName known s s'
  | .error _, s' => Same serverName known s s' ∨
      ∃ resolved, Converged serverName known heard s config serverConfig handle rawTools resolved s'

theorem tools_converge_refused {registry : DownstreamRegistry} {conflicts : List ToolConflict}
    (update : (registry.converge serverName serverConfig rawTools).1 = .ok (.error conflicts)) :
    (registry.converge serverName serverConfig rawTools).2 = registry := by
  unfold DownstreamRegistry.converge at update ⊢
  cases resolution : resolveTools serverName serverConfig rawTools with
  | error exc => rfl
  | ok resolved =>
      rw [resolution] at update
      dsimp only at update ⊢
      split at update
      · cases update
      · rfl

theorem tools_converge_raised {registry : DownstreamRegistry} {exc : PyException}
    (update : (registry.converge serverName serverConfig rawTools).1 = .error exc) :
    (registry.converge serverName serverConfig rawTools).2 = registry := by
  unfold DownstreamRegistry.converge at update ⊢
  cases resolution : resolveTools serverName serverConfig rawTools with
  | error exc => rfl
  | ok resolved =>
      rw [resolution] at update
      dsimp only at update
      split at update <;> cases update

theorem tools_converge_applied {registry : DownstreamRegistry}
    (update : (registry.converge serverName serverConfig rawTools).1 = .ok (.ok resolved)) :
    resolveTools serverName serverConfig rawTools = .ok resolved ∧
      (registry.converge serverName serverConfig rawTools).2.getAllTools.get? serverName =
        some resolved := by
  unfold DownstreamRegistry.converge at update ⊢
  cases resolution : resolveTools serverName serverConfig rawTools with
  | error exc =>
      rw [resolution] at update
      cases update
  | ok list =>
      rw [resolution] at update
      dsimp only at update ⊢
      split at update
      · cases update
        exact ⟨rfl, (DownstreamRegistry.tools_register ..).trans (if_pos rfl)⟩
      · cases update

theorem leaves_onServerReconnect (held : known config)
    (serves : Serves config serverName serverConfig)
    (listed : ListedBy heard serverName handle rawTools) (same : Same serverName known s s₁) :
    Leaves (Apart serverName known) task heard
      (Reconverged serverName known heard s config serverConfig handle rawTools)
      (onServerReconnect serverName serverConfig rawTools) s₁ := by
  refine leaves_bind (leaves_withLock Apart.lenient (fun exc s' apart => ?_) fun inside apart => ?_)
  · exact .inl (same.later apart)
  have before := same.later apart
  have updated {tools : Option (List ResolvedTool)}
      (now : (inside.registry.converge serverName serverConfig rawTools).2.getAllTools.get?
        serverName = tools) :
      Became serverName known s tools (s.clientOf serverName)
        ((inside.converge task .reconnect serverName serverConfig rawTools).2.releaseLock task
          .registry) :=
    ⟨now, before.client, before.config, before.serial⟩
  refine leaves_act_bind ?_
  have read : (State.exec task (.converge .reconnect serverName serverConfig rawTools) inside).1 =
      (inside.registry.converge serverName serverConfig rawTools).1 := rfl
  rw [read]
  cases update : (inside.registry.converge serverName serverConfig rawTools).1 with
  | error exc =>
      have still : (inside.registry.converge serverName serverConfig rawTools).2.getAllTools.get?
          serverName = s.toolsOf serverName := by
        rw [tools_converge_raised update]
        exact before.tools
      exact .inl (updated still)
  | ok verdict =>
      cases verdict with
      | error conflicts =>
          have still : (inside.registry.converge serverName serverConfig
              rawTools).2.getAllTools.get? serverName = s.toolsOf serverName := by
            rw [tools_converge_refused update]
            exact before.tools
          refine leaves_bind (leaves_pause fun outcome s' stops => ?_)
          have later := (updated still).later (Apart.lenient.of_stops stops)
          cases outcome with
          | error exc => exact .inl later
          | ok _ => exact later
      | ok resolved =>
          obtain ⟨resolution, now⟩ := tools_converge_applied update
          have converged : Converged serverName known heard s config serverConfig handle rawTools resolved
              ((inside.converge task .reconnect serverName serverConfig rawTools).2.releaseLock
                task .registry) := ⟨held, serves, listed, resolution, updated now⟩
          refine leaves_bind (Secures.mono (fun out s' told => ?_)
            (Calm.notifyRegistryToolDigest Apart.lenient _))
          cases out with
          | error exc => exact .inr ⟨resolved, converged.later told⟩
          | ok _ => exact ⟨resolved, converged.later told⟩

/-- The registry is converged to what the new client listed, then the client is swapped in. -/
theorem leaves_convergeRecovered (held : known config)
    (serves : Serves config serverName serverConfig)
    (listed : ListedBy heard serverName handle rawTools) (same : Same serverName known s s₁)
    (new : s.nextSerial ≤ handle.serial) :
    Leaves (Apart serverName known) task heard (LockedEnd serverName known heard s)
      (convergeRecovered serverName deadline serverConfig handle rawTools) s₁ := by
  refine leaves_bind (leaves_withLock Apart.lenient (fun exc s' apart => ?_) fun inside apart => ?_)
  · exact .failed (by rintro ⟨⟩) (same.later apart)
  refine leaves_act (a := .readTools serverName) ?_
  have before := same.later (Apart.lenient.trans apart (Apart.lenient.release inside task .registry))
  have read : (State.exec task (.readTools serverName) inside).1 =
      (s.toolsOf serverName).getD [] := by
    rw [← (same.later apart).tools]
    rfl
  change Onward world _ task heard (LockedEnd serverName known heard s) _
    (.ok (State.exec task (.readTools serverName) inside).1) _
  rw [read]
  refine leaves_act_bind ?_
  split
  · exact leaves_failAfterOpen fun s' calm => failed_of_same (before.later calm)
  refine leaves_waitFor_bind (fun out s' ended => ?_) (leaves_onServerReconnect held serves listed before)
    fun out s₂ ended => ?_
  · cases out <;> exact ended
  cases out with
  | error exc =>
      dsimp only
      split
      · refine leaves_failAfterOpen fun s' calm => ?_
        obtain unchanged | ⟨resolved, converged⟩ := ended
        · exact failed_of_same (unchanged.later calm)
        · exact ⟨(converged.later calm).halfway (.inr rfl), by rintro ⟨⟩⟩
      · obtain unchanged | ⟨resolved, converged⟩ := ended
        · exact .failed (by rintro ⟨⟩) unchanged
        · exact converged.halfway (.inl ⟨exc, rfl⟩)
  | ok result =>
      cases result with
      | error error => exact leaves_failAfterOpen fun s' calm => failed_of_same (ended.later calm)
      | ok _ =>
          obtain ⟨resolved, converged⟩ := ended
          exact leaves_swapRecoveredClient converged new

end Converged

/-- The settings must still be those that the client was opened with. -/
theorem leaves_checkEnumeratedConfig {serverConfig : ServerConfig} {handle : ClientHandle}
    {rawTools : List RawTool} (listed : ListedBy heard serverName handle rawTools)
    (same : Same serverName known s s₁) (new : s.nextSerial ≤ handle.serial) :
    Leaves (Apart serverName known) task heard (LockedEnd serverName known heard s)
      (checkEnumeratedConfig serverName deadline serverConfig handle rawTools) s₁ := by
  refine leaves_bind (leaves_getRuntimeServerConfig (fun latest s₂ serves apart => ?_)
    fun error s₂ gone missing apart => ?_)
  · have still := same.later apart
    change Leaves _ task heard _ (if ¬ latest.Same serverConfig then _ else _) s₂
    split
    · exact leaves_failAfterOpen fun s' calm => failed_of_same (still.later calm)
    · exact leaves_convergeRecovered same.config serves listed still new
  · refine leaves_bind (leaves_closeHandle Apart.lenient fun s' calm => ?_)
    have still := (same.later apart).later calm
    exact leaves_failMissingConfig same.config gone missing (.inl still.tools) still.client
      still.config still.serial

/-- The tools are those that the session of the new client lists. -/
theorem leaves_enumerateRecovered {serverConfig : ServerConfig} {handle : ClientHandle}
    (connected : heard (.connectTransport serverName) (.ok ()))
    (handshake : heard (.handshake handle.session) (.ok handle.instructions))
    (same : Same serverName known s s₁) (new : s.nextSerial ≤ handle.serial) :
    Leaves (Apart serverName known) task heard (LockedEnd serverName known heard s)
      (enumerateRecovered serverName deadline serverConfig handle) s₁ := by
  refine leaves_act_bind ?_
  split
  · exact leaves_failAfterOpen fun s' calm => failed_of_same (same.later calm)
  refine leaves_waitFor_bind (fun out s' ended => ended.mapError _)
    (leaves_enumerateClientTools Apart.lenient serverName handle) fun out s₂ enumerated => ?_
  have still := same.later enumerated.kept
  cases out with
  | error exc =>
      dsimp only
      split
      · exact leaves_failAfterOpen fun s' calm => failed_of_same (still.later calm)
      · exact .failed (by rintro ⟨⟩) still
  | ok result =>
      cases result with
      | error error => exact leaves_failAfterOpen fun s' calm => failed_of_same (still.later calm)
      | ok rawTools =>
          exact leaves_checkEnumeratedConfig ⟨connected, handshake, enumerated.2⟩ still new

theorem leaves_reopenClient {serverConfig : ServerConfig} (same : Same serverName known s s₁) :
    Leaves (Apart serverName known) task heard (LockedEnd serverName known heard s)
      (reopenClient serverName deadline serverConfig) s₁ := by
  refine leaves_act_bind ?_
  split
  · exact failed_of_same same
  refine leaves_waitFor_bind (fun out s' opened => opened.mapError _)
    (leaves_openClientForServer Apart.lenient serverName serverConfig) fun out s₂ opened => ?_
  have still := same.later opened.kept
  cases out with
  | error exc =>
      dsimp only
      split
      · exact failed_of_same still
      · exact .failed (by rintro ⟨⟩) still
  | ok result =>
      cases result with
      | error error => exact failed_of_same still
      | ok handle =>
          obtain ⟨-, ⟨between, apart, serial⟩, connected, handshake⟩ := opened
          exact leaves_enumerateRecovered connected handshake still
            (serial ▸ same.serial.trans apart.serial)

theorem leaves_recoverLocked {waitContended : Bool} (same : Same serverName known s s₁) :
    Leaves (Apart serverName known) task heard (LockedEnd serverName known heard s)
      (recoverLocked serverName deadline waitContended) s₁ := by
  refine leaves_bind (leaves_getRuntimeServerConfig (fun serverConfig s₂ serves apart => ?_)
    fun error s₂ gone missing apart => ?_)
  · have still := same.later apart
    change Leaves _ task heard _ (if waitContended = true then _ else _) s₂
    split
    · refine leaves_bind (leaves_withLock Apart.lenient (fun exc s' later => ?_)
        fun inside later => ?_)
      · exact .failed (by rintro ⟨⟩) (still.later later)
      · have found := still.later later
        have now := found.later (Apart.lenient.release inside task .registry)
        refine leaves_act (a := .readClientAndTools serverName) ?_
        change Leaves _ task heard (LockedEnd serverName known heard s)
          (if ((inside.clientOf serverName).isSome && (inside.toolsOf serverName).isSome) = true
            then _ else _) (inside.releaseLock task .registry)
        split
        · rename_i present
          obtain ⟨client, tools⟩ := Bool.and_eq_true_iff.mp present
          rw [found.client] at client
          rw [found.tools] at tools
          exact ⟨.reused tools client now, by rintro ⟨⟩⟩
        · exact leaves_reopenClient now
    · exact leaves_reopenClient still
  · have still := same.later apart
    exact leaves_failMissingConfig same.config gone missing (.inl still.tools) still.client
      still.config still.serial

/-- Waiting for the recovery lock changes nothing. -/
theorem calm_acquireRecoveryLock :
    Calm (Apart serverName known) task heard (acquireRecoveryLock serverName deadline) := by
  have fetch : Calm (Apart serverName known) task heard (act (.fetchRecoveryLock serverName)) := by
    refine Calm.act Apart.lenient fun s => ?_
    obtain ⟨_, _, frame⟩ := s.fetchRecoveryLock_frame serverName
    have same : (State.exec task (.fetchRecoveryLock serverName) s).2 = _ := frame
    rw [same]
    exact ⟨rfl, rfl, rfl, rfl, rfl, Nat.le_refl _⟩
  refine Calm.bind Apart.lenient (Calm.withLock Apart.lenient fetch) fun looked => ?_
  refine Calm.bind Apart.lenient
    (Calm.act Apart.lenient fun _ => ⟨rfl, rfl, rfl, rfl, rfl, Nat.le_refl _⟩) fun now => ?_
  split
  · exact Calm.pure Apart.lenient _
  · refine Calm.bind Apart.lenient
      (Calm.attempt (Calm.waitFor (Calm.pause Apart.lenient _))) fun outcome => ?_
    cases outcome with
    | error exc =>
        dsimp only
        split
        · exact Calm.pure Apart.lenient _
        · exact Calm.raise Apart.lenient exc
    | ok _ => exact Calm.pure Apart.lenient _

theorem leaves_finishRecovery {lock : LockId} {outcome : Except PyException RecoveryOutcome}
    (ended : LockedEnd serverName known heard s outcome s₁) :
    Leaves (Apart serverName known) task heard (RecoveryEnd serverName known heard s)
      (finishRecovery serverName lock outcome) s₁ := by
  have released : Apart serverName known s₁ (s₁.releaseLock task (.recovery lock)) :=
    Apart.lenient.release s₁ task (.recovery lock)
  refine leaves_act_bind ?_
  cases outcome with
  | error exc => exact RecoveryEnd.later ended released
  | ok outcome =>
      obtain ⟨result, shouldPruneLock⟩ := outcome
      obtain ⟨ended, failed⟩ := ended
      have now := ended.later released
      cases shouldPruneLock with
      | false => exact now
      | true =>
          have prune : Calm (Apart serverName known) task heard (pruneRecoveryLockIfUnused serverName) := by
            refine Calm.withLock Apart.lenient (Calm.act Apart.lenient fun s => ?_)
            obtain ⟨_, frame⟩ := s.pruneRecoveryLock_frame serverName
            have same : (State.exec task (.pruneRecoveryLock serverName) s).2 = _ := frame
            rw [same]
            exact ⟨rfl, rfl, rfl, rfl, rfl, Nat.le_refl _⟩
          refine leaves_bind (Secures.mono (fun out s' calm => ?_) (prune _))
          have still := now.later calm
          cases out with
          | error exc =>
              refine still.raise (fun good => failed rfl ?_) exc
              exact Except.ok.inj good
          | ok _ => exact still

theorem leaves_recoverServerClient (allowed : known s.runtimeConfig) :
    Leaves (Apart serverName known) task heard (RecoveryEnd serverName known heard s)
      (recoverServerClient serverName deadline) s := by
  have start : Same serverName known s s := ⟨rfl, rfl, allowed, Nat.le_refl _⟩
  refine leaves_bind (Secures.mono (fun out s₁ calm => ?_) (calm_acquireRecoveryLock s))
  have same := start.later calm
  cases out with
  | error exc => exact .failed (by rintro ⟨⟩) same
  | ok acquired =>
      cases acquired with
      | error error => exact .failed (by rintro ⟨⟩) same
      | ok held =>
          refine leaves_bind (Secures.attempt (Secures.mono (fun outcome s₂ ended => ?_)
            (leaves_recoverLocked same)))
          exact leaves_finishRecovery ended

/--
As long as others leave the tools and the client of its server alone and take the
configuration only to known ones, a recovery that succeeds has a new client with the tools
that this client listed, or had found both; one that fails leaves both, apart from a client
without settings and an empty list, unless time or an exception came between its
registering and swapping.
-/
theorem recovery_outcomes {answers : List (Answer sig PyException)}
    {out : Except PyException (Except TelaError Unit)} (allowed : known s.runtimeConfig)
    (ran : Hears world (Apart serverName known) task (recoverServerClient serverName deadline) s
      answers out s') : RecoveryEnd serverName known (Heard answers) s out s' :=
  Secures.of_heard (leaves_recoverServerClient allowed) ran

end Recovery

/-! ## A client is replaced -/

/-- A gateway whose only client, the first it opened, has died. -/
def lostFiles : State := { servingFiles with nextSession := 1, nextSerial := 1 }

/-- The new client lists another tool than the old one did. -/
theorem recovery_outcomes_replaced :
    ∃ answers s', Hears world (Apart "files" (· = some filesConfig)) 0
        (recoverServerClient "files" 1) lostFiles answers (.ok (.ok ())) s' ∧
      RecoveryEnd "files" (· = some filesConfig) (Heard answers) lostFiles (.ok (.ok ())) s' ∧
      (s'.clientOf "files").map ClientHandle.serial = some 1 ∧
        (s'.toolsOf "files").map (fun tools => tools.map ResolvedTool.name) = some ["write"] := by
  have done : ((recoverServerClient "files" 1).drive world 0
      (answersAtOnce (answering [writeTool])) lostFiles).any (fun ended =>
        ended.1.toOption.any (fun result => result.toOption.isSome) &&
        (State.clientOf ended.2 "files").map ClientHandle.serial = some 1 &&
        (State.toolsOf ended.2 "files").map (fun tools => tools.map ResolvedTool.name) =
          some ["write"]) = true := by decide +kernel
  obtain ⟨⟨out, s'⟩, driven, now⟩ := (Option.any_eq_true _ _).mp done
  obtain ⟨now, tools⟩ := Bool.and_eq_true_iff.mp now
  obtain ⟨returned, client⟩ := Bool.and_eq_true_iff.mp now
  obtain rfl : out = .ok (.ok ()) := by
    cases out with
    | error exc => cases returned
    | ok result =>
        cases result with
        | error error => cases returned
        | ok _ => rfl
  obtain ⟨answers, ran⟩ := solo_iff_hears.mp (answersAtOnce_solo Apart.lenient driven)
  exact ⟨answers, s', ran, recovery_outcomes rfl ran, of_decide_eq_true client,
    of_decide_eq_true tools⟩

end Tela
