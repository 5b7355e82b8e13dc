import Tela.Commands.DoctorCommand
import Tela.Commands.StatusCommand
import Tela.Library.Play

/-!
# Operator recovery

What doctor and status do, whatever the lockfile, the gateway, the registry and the other
processes answer: what makes them raise, and what recovery starts, reports and records.
-/

namespace Tela.Operator

open Coop (Coro Follows Monitor Player Move)

/-! ## Inputs that make a command raise -/

section Inputs

variable (setting : Setting)

/-- The file is there and is no UTF-8. -/
def LockfileReading.unreadable : LockfileReading → Bool
  | .content bytes _ => (Text.readText bytes).isNone
  | _ => false

def unreadableLog (file : Option (List UInt8)) : Bool :=
  file.any fun bytes => (Text.readText bytes).isNone

/-- The heartbeat of a live attachment is a time outside the range of dates. -/
def overflows (attachment : ClientAttachment) : Bool :=
  liveStates.contains attachment.runtimeState &&
    match setting.fromIsoFormat (Text.replace attachment.lastHeartbeat "Z" "+00:00") with
    | none => false
    | some parsed =>
        let instant := parsed.localTime - parsed.offset.getD 0
        !(decide (0 ≤ instant) && decide (instant < datetimeRange))

/-- What the text of a body is loaded as, if it is a text. -/
def loaded (bytes : List UInt8) : Option (Except LoadFailure Json) :=
  (Text.decodeUtf8 bytes).map setting.loads

/-- The body is JSON but no object, or fails in a way that a probe does not expect. -/
def outlandish : HttpReply → Bool
  | .ok (.error (.raised _)) => true
  | .ok (.ok bytes) =>
      match loaded setting bytes with
      | some (.ok (.obj _)) => false
      | some (.ok _) => true
      | some (.error (.raised _)) => true
      | _ => false
  | _ => false

/-- The object in the body. -/
def served : HttpReply → Option JsonObject
  | .ok (.ok bytes) =>
      match loaded setting bytes with
      | some (.ok (.obj fields)) => some (.ofList fields)
      | _ => none
  | _ => none

/-- The body is an object whose state is `ready`. -/
def readsReady (reply : HttpReply) : Bool :=
  (served setting reply).any fun fields => (fields.get? "state").bind Json.str? = some "ready"

/-- A step raises exactly when its input is of the kind. -/
def RaisesWhen {ε α : Type} (bad : Bool) (outcome : Except ε α) : Prop :=
  (bad = true ∧ ∃ exc, outcome = .error exc) ∨ bad = false ∧ ∃ value, outcome = .ok value

theorem readLockfile_raises (reading : LockfileReading) :
    RaisesWhen reading.unreadable (readLockfile setting.validateLockfile reading) := by
  cases reading with
  | missing => exact .inr ⟨rfl, _, rfl⟩
  | failed text => exact .inr ⟨rfl, _, rfl⟩
  | content bytes stale =>
      simp only [LockfileReading.unreadable, readLockfile]
      cases Text.readText bytes with
      | none => exact .inl ⟨rfl, _, rfl⟩
      | some raw =>
          dsimp only
          cases setting.validateLockfile raw with
          | error text => exact .inr ⟨rfl, _, rfl⟩
          | ok data => exact .inr ⟨rfl, _, rfl⟩

theorem readRuntimeEvents_raises (file : Option (List UInt8)) :
    RaisesWhen (unreadableLog file)
      (EventLog.readRuntimeEvents setting.validateEvent none file) := by
  cases file with
  | none => exact .inr ⟨rfl, _, rfl⟩
  | some bytes =>
      simp only [unreadableLog, EventLog.readRuntimeEvents, Option.any_some]
      cases Text.readText bytes with
      | none => exact .inl ⟨rfl, _, rfl⟩
      | some text => exact .inr ⟨rfl, _, rfl⟩

theorem heartbeatIsFresh_raises (now : Int) (attachment : ClientAttachment)
    (live : liveStates.contains attachment.runtimeState = true) :
    RaisesWhen (overflows setting attachment)
      (attachmentHeartbeatIsFresh setting.fromIsoFormat attachment now) := by
  simp only [overflows, attachmentHeartbeatIsFresh, heartbeatTimestamp, live, Bool.true_and]
  cases setting.fromIsoFormat (Text.replace attachment.lastHeartbeat "Z" "+00:00") with
  | none => exact .inr ⟨rfl, _, rfl⟩
  | some parsed =>
      dsimp only
      by_cases inside : 0 ≤ parsed.localTime - parsed.offset.getD 0 ∧
          parsed.localTime - parsed.offset.getD 0 < datetimeRange
      · rw [if_pos inside, decide_eq_true inside.1, decide_eq_true inside.2]
        exact .inr ⟨rfl, _, rfl⟩
      · rw [if_neg inside, ← Bool.decide_and, decide_eq_false inside]
        exact .inl ⟨rfl, _, rfl⟩

theorem aliveIds_raises (now : Int) (attachments : List ClientAttachment) :
    RaisesWhen (attachments.any (overflows setting))
      (aliveIds setting.fromIsoFormat now attachments) := by
  induction attachments with
  | nil => exact .inr ⟨rfl, _, rfl⟩
  | cons attachment rest ih =>
      rw [List.any_cons, aliveIds]
      cases live : liveStates.contains attachment.runtimeState with
      | false =>
          have calm : overflows setting attachment = false := by
            rw [overflows, live]
            rfl
          rw [calm]
          exact ih
      | true =>
          rcases heartbeatIsFresh_raises setting now attachment live with
            ⟨bad, exc, raised⟩ | ⟨calm, fresh, ran⟩
          · rw [bad, raised]
            exact .inl ⟨rfl, exc, rfl⟩
          · rw [calm, ran]
            rcases ih with ⟨bad, exc, raised⟩ | ⟨calm', ids, ran'⟩
            · rw [bad, raised]
              exact .inl ⟨rfl, exc, rfl⟩
            · rw [calm', ran']
              exact .inr ⟨rfl, _, rfl⟩

/-- The ways in which a body ends up: as an object, as another value or a failure that a probe
does not expect, or as one that it does. -/
theorem loadBody_cases (body : Except SystemException (List UInt8)) :
    (outlandish setting (.ok body) = false ∧
        ∃ fields, served setting (.ok body) = some (.ofList fields) ∧
          loadBody setting.loads body = .ok (.ok (.obj fields))) ∨
      (outlandish setting (.ok body) = true ∧ served setting (.ok body) = none ∧
        ((∃ exc, loadBody setting.loads body = .error exc) ∨
          ∃ json exc, loadBody setting.loads body = .ok (.ok json) ∧ fieldsOf json = .error exc)) ∨
      outlandish setting (.ok body) = false ∧ served setting (.ok body) = none ∧
        ∃ text, loadBody setting.loads body = .ok (.error text) := by
  cases body with
  | error exc =>
      cases exc with
      | osError text => exact .inr (.inr ⟨rfl, rfl, text, rfl⟩)
      | raised exc => exact .inr (.inl ⟨rfl, rfl, .inl ⟨_, rfl⟩⟩)
  | ok bytes =>
      simp only [outlandish, served, loadBody, loaded]
      cases Text.decodeUtf8 bytes with
      | none => exact .inr (.inr ⟨rfl, rfl, _, rfl⟩)
      | some text =>
          dsimp only [Option.map_some]
          cases setting.loads text with
          | error failure =>
              cases failure with
              | decodeError text => exact .inr (.inr ⟨rfl, rfl, _, rfl⟩)
              | raised exc => exact .inr (.inl ⟨rfl, rfl, .inl ⟨_, rfl⟩⟩)
          | ok json =>
              cases json with
              | obj fields => exact .inl ⟨rfl, fields, rfl, rfl⟩
              | _ => exact .inr (.inl ⟨rfl, rfl, .inr ⟨_, _, rfl, rfl⟩⟩)

theorem doctorReading_raises (reply : HttpReply) :
    RaisesWhen (outlandish setting reply) (doctorReading setting reply) := by
  cases reply with
  | error text => exact .inr ⟨rfl, _, rfl⟩
  | ok body =>
      rw [doctorReading]
      rcases loadBody_cases setting body with ⟨calm, fields, -, load⟩ | ⟨bad, -, fails⟩ |
        ⟨calm, -, text, load⟩
      · rw [calm, load]
        exact .inr ⟨rfl, _, rfl⟩
      · rw [bad]
        rcases fails with ⟨exc, load⟩ | ⟨json, exc, load, get⟩
        · rw [load]
          exact .inl ⟨rfl, _, rfl⟩
        · rw [load]
          refine .inl ⟨rfl, exc, ?_⟩
          simp only [bind, Except.bind, get]
      · rw [calm, load]
        exact .inr ⟨rfl, _, rfl⟩

/-- A probe observes `ready` exactly when the body says so. -/
theorem doctorReading_state {reply : HttpReply} {observation : DoctorProbeObservation}
    (read : doctorReading setting reply = .ok observation) :
    observation.state = some "ready" ↔ readsReady setting reply = true := by
  have unknown (error : Option String) :
      (unknownObservation error).state = some "ready" ↔ false = true := by
    constructor
    · intro same
      exact absurd (Option.some.inj same) (by decide)
    · exact nofun
  cases reply with
  | error text =>
      cases read
      exact unknown _
  | ok body =>
      rw [doctorReading] at read
      rw [readsReady]
      rcases loadBody_cases setting body with ⟨-, fields, object, load⟩ | ⟨-, object, fails⟩ |
        ⟨-, object, text, load⟩
      · rw [load] at read
        cases read
        rw [object, Option.any_some, decide_eq_true_iff, observationOf]
        cases ((Dict.ofList fields).get? "state").bind Json.str? with
        | none => simp
        | some state => simp
      · rcases fails with ⟨exc, load⟩ | ⟨json, exc, load, get⟩
        · rw [load] at read
          cases read
        · rw [load] at read
          simp only [bind, Except.bind, get] at read
          cases read
      · rw [load] at read
        cases read
        rw [object]
        exact unknown _

end Inputs

/-! ## Where a recovery stands -/

/-- What the moves of doctor come to. -/
structure Standing where
  /-- A call raised, or gave what makes the command raise. -/
  troubled : Bool := false
  /-- The last answer to a probe was an object whose state is `ready`. -/
  ready : Bool := false
  started : Nat := 0
  /-- The events that were handed to the log. -/
  asked : List RuntimeEvent := []
  /-- The kinds of those that are in the log. -/
  appended : List RuntimeEventKind := []
  printed : List DoctorResult := []

section Recovery

variable (setting : Setting)

/-- What a call gives makes doctor raise; no result stands for an exception. -/
def troubles : (w : Call) → Option w.Result → Bool
  | .readLockfile, some reading => LockfileReading.unreadable reading
  | .readRuntimeEvents, some file => unreadableLog file
  | .readAttachmentRegistry, some (.ok registry) => registry.attachments.any (overflows setting)
  | .probe _ _, some reply => outlandish setting reply
  | _, none => true
  | _, some _ => false

/-- The kind of an event that came into the log. -/
def logged (event : RuntimeEvent) (fault : Option EventLog.WriteFault) : List RuntimeEventKind :=
  match (EventLog.appendRuntimeEvent setting.floatText event fault none).1 with
  | .ok () => [event.kind]
  | .error _ => []

def note : (w : Call) → Option w.Result → Standing → Standing
  | .probe _ _, some reply, g => { g with ready := readsReady setting reply }
  | .autostartServe _ _, _, g => { g with started := g.started + 1 }
  | .appendRuntimeEvent event, some fault, g =>
      { g with
        asked := g.asked ++ [event]
        appended := g.appended ++ logged setting event fault }
  | .printDoctor _ result, some _, g => { g with printed := g.printed ++ [result] }
  | _, _, g => g

def afterCall (w : Call) (result : Option w.Result) (g : Standing) : Standing :=
  { note setting w result g with troubled := g.troubled || troubles setting w result }

/-- One gateway is started at most, after a probe, and not after one that read `ready`. -/
def mayCall : Call → Standing → Prop
  | .autostartServe _ _, g => g.started = 0 ∧ g.ready = false ∧ g.asked ≠ []
  | _, _ => True

def monitor : Monitor sig Standing where
  may _ _ := True
  after a _ _ := nomatch a
  mayWait := mayCall
  woken := afterCall setting
  mayTime _ := False
  mayTime_after := id
  mayTime_woken := id

/-- What makes a command raise has come to light. -/
def Troubled (_ : SystemException) (g : Standing) : Prop := g.troubled = true

variable {setting} {α : Type} {g : Standing}

theorem follows_sys {w : Call} {onRet : w.Result → Standing → Prop}
    {onRaise : SystemException → Standing → Prop} (may : mayCall w g)
    (ok : ∀ result, onRet result (afterCall setting w (some result) g))
    (failed : ∀ exc, onRaise exc (afterCall setting w none g)) :
    Follows (monitor setting) onRet onRaise (sys w) g :=
  Follows.await_iff.mpr ⟨may, ok, failed⟩

theorem follows_bind {β : Type} {x : Prog α} {rest : α → Prog β} {mid : α → Standing → Prop}
    {onRet : β → Standing → Prop} {onRaise : SystemException → Standing → Prop}
    (first : Follows (monitor setting) mid onRaise x g)
    (second : ∀ value g, mid value g → Follows (monitor setting) onRet onRaise (rest value) g) :
    Follows (monitor setting) onRet onRaise (x >>= rest) g :=
  Follows.bind_iff.mpr (first.mono second fun _ _ h => h)

theorem troubled_of_none (w : Call) : (afterCall setting w none g).troubled = true := by
  cases w <;> exact Bool.or_true _

/-- A call that only reads, and whose result makes nothing raise, changes nothing. -/
theorem afterCall_quiet {w : Call} {result : Option w.Result} (still : note setting w result g = g)
    (quiet : troubles setting w result = false) : afterCall setting w result g = g := by
  rw [afterCall, still, quiet, Bool.or_false]

/-- A call whose result is read by a step that raises exactly when the result is trouble. -/
theorem follows_reading {w : Call} {step : w.Result → Except SystemException α}
    {onRet : α → Standing → Prop} (calm : g.troubled = false) (may : mayCall w g)
    (raises : ∀ result, RaisesWhen (troubles setting w (some result)) (step result))
    (ok : ∀ result value, step result = .ok value →
      onRet value { note setting w (some result) g with troubled := false }) :
    Follows (monitor setting) onRet Troubled
      ((sys w).bind fun result => Coro.ofExcept (step result)) g := by
  apply Follows.bind_iff.mpr
  refine follows_sys may (fun result => ?_) fun _ => troubled_of_none w
  rw [Follows.ofExcept_iff]
  rcases raises result with ⟨bad, exc, raised⟩ | ⟨quiet, value, ran⟩
  · rw [raised]
    change (g.troubled || troubles setting w (some result)) = true
    rw [bad, Bool.or_true]
  · rw [ran, afterCall, calm, quiet]
    exact ok result value ran

/-- Recovery is under way: what it recorded so far are probes. -/
structure Probing (probes started : Nat) (ready : Bool) (g : Standing) : Prop where
  calm : g.troubled = false
  ready : g.ready = ready
  started : g.started = started
  printed : g.printed = []
  recorded : g.asked.map (·.kind) = List.replicate probes .recoveryProbe

/-- The event that ends a recovery; a runtime that was ready needs none. -/
def ending (summary : DoctorRecoverySummary) : List RuntimeEventKind :=
  if summary.alreadyReady then []
  else if summary.recoverySucceeded then [.recoverySucceeded]
  else [.recoveryFailed]

/-- The kinds of the events of a recovery: one probe or more, and the end. -/
def Ordered (summary : DoctorRecoverySummary) (kinds : List RuntimeEventKind) : Prop :=
  ∃ probes, kinds = List.replicate (probes + 1) .recoveryProbe ++ ending summary

structure Recovered (summary : DoctorRecoverySummary) (g : Standing) : Prop where
  calm : g.troubled = false
  printed : g.printed = []
  truthful : (summary.alreadyReady || summary.recoverySucceeded) = g.ready
  ordered : Ordered summary (g.asked.map (·.kind))

/-! ## The steps of a recovery -/

theorem follows_discovery (calm : g.troubled = false) {onRet : DoctorDiscovery → Standing → Prop}
    (ok : ∀ discovery, onRet discovery g) :
    Follows (monitor setting) onRet Troubled (readDoctorDiscovery setting) g := by
  have same : { g with troubled := false } = g := by rw [← calm]
  apply Follows.bind_iff.mpr
  refine follows_reading calm (by trivial) (readLockfile_raises setting) fun _ value _ => ?_
  change onRet (discoveryOf value) { g with troubled := false }
  rw [same]
  exact ok (discoveryOf value)

theorem follows_append {kind : RuntimeEventKind} {details : JsonObject}
    {eventsAppended : List String} {onRet : List String → Standing → Prop}
    (ok : ∀ names event appended, event.kind = kind →
      onRet names { g with asked := g.asked ++ [event], appended := appended }) :
    Follows (monitor setting) onRet Troubled
      (appendDoctorEvent setting kind details eventsAppended) g := by
  apply Follows.bind_iff.mpr
  refine follows_sys (by trivial) (fun timestamp => ?_) fun _ => troubled_of_none _
  rw [afterCall_quiet rfl rfl]
  apply Follows.bind_iff.mpr
  refine follows_sys (by trivial) (fun fault => ?_) fun _ => troubled_of_none _
  rw [afterCall, troubles, Bool.or_false]
  · split
    · exact ok _ _ _ rfl
    · exact ok _ _ _ rfl
  all_goals exact nofun

/-- What an event adds to what was recorded. -/
theorem kinds_append {kind : RuntimeEventKind} {event : RuntimeEvent} {asked : List RuntimeEvent}
    {kinds : List RuntimeEventKind} (recorded : asked.map (·.kind) = kinds)
    (same : event.kind = kind) : (asked ++ [event]).map (·.kind) = kinds ++ [kind] := by
  rw [List.map_append, recorded, List.map_singleton, same]

/-- A probe without a request reads no state `ready`; one with a request reads what was served. -/
theorem follows_probe {discovery : DoctorDiscovery} {probeTimeout : Int} (calm : g.troubled = false)
    (unready : g.ready = false) {onRet : DoctorProbeObservation → Standing → Prop}
    (ok : ∀ observation, onRet observation
      { g with ready := decide (observation.state = some "ready") }) :
    Follows (monitor setting) onRet Troubled
      (probeDoctorRuntime setting discovery probeTimeout) g := by
  have silent (observation : DoctorProbeObservation)
      (other : observation.state ≠ some "ready") : onRet observation g := by
    have same : { g with ready := decide (observation.state = some "ready") } = g := by
      rw [decide_eq_false other, ← unready]
    rw [← same]
    exact ok observation
  rw [probeDoctorRuntime]
  split
  · exact silent _ (by simp)
  · cases discovery.lockfileData with
    | none => exact silent _ (by simp)
    | some data =>
        dsimp only
        split
        · exact silent _ (by simp)
        · refine follows_reading calm (by trivial) (doctorReading_raises setting) ?_
          intro reply observation read
          change onRet observation { g with troubled := false, ready := readsReady setting reply }
          have same : readsReady setting reply = decide (observation.state = some "ready") := by
            rw [Bool.eq_iff_iff, decide_eq_true_iff]
            exact (doctorReading_state setting read).symm
          rw [same, ← calm]
          exact ok observation

theorem follows_probeAndRecord {discovery : DoctorDiscovery} {probeTimeout : Int}
    {eventsAppended : List String} {probes started : Nat}
    (probing : Probing probes started false g) :
    Follows (monitor setting)
      (fun outcome => Probing (probes + 1) started (decide (outcome.1.state = some "ready")))
      Troubled (probeAndRecord setting discovery probeTimeout eventsAppended) g := by
  apply Follows.bind_iff.mpr
  refine follows_probe probing.calm probing.ready fun observation => ?_
  apply Follows.bind_iff.mpr
  refine follows_append fun names event appended same => ?_
  refine ⟨probing.calm, rfl, probing.started, probing.printed, ?_⟩
  rw [List.replicate_succ']
  exact kinds_append probing.recorded same

/-- The last event of a recovery that ended so. -/
theorem follows_end {kind : RuntimeEventKind} {details : JsonObject}
    {eventsAppended : List String} {summary : List String → DoctorRecoverySummary}
    {probes started : Nat} {ready : Bool} (probing : Probing (probes + 1) started ready g)
    (truthful : ∀ names, ((summary names).alreadyReady || (summary names).recoverySucceeded) = ready)
    (ended : ∀ names, ending (summary names) = [kind]) :
    Follows (monitor setting) Recovered Troubled
      ((appendDoctorEvent setting kind details eventsAppended).bind fun names =>
        Coro.ret (summary names)) g := by
  apply Follows.bind_iff.mpr
  refine follows_append fun names event appended same => ?_
  refine ⟨probing.calm, probing.printed, (truthful names).trans probing.ready.symm, probes, ?_⟩
  rw [ended names]
  exact kinds_append probing.recorded same

theorem follows_fail {staleCleanup : Option Bool} {coldStartAttempted : Bool}
    {actions eventsAppended : List String} {error : String} {probes started : Nat}
    (probing : Probing (probes + 1) started false g) :
    Follows (monitor setting) Recovered Troubled
      (failRecovery setting staleCleanup coldStartAttempted actions eventsAppended error) g :=
  follows_end probing (fun _ => rfl) fun _ => rfl

theorem follows_coldStart {probeTimeout recoverTimeout : Int} {staleCleanup : Option Bool}
    {actions eventsAppended : List String} {probes : Nat}
    (probing : Probing (probes + 1) 0 false g) :
    Follows (monitor setting) Recovered Troubled
      (coldStart setting probeTimeout recoverTimeout staleCleanup actions eventsAppended) g := by
  have probed : g.asked ≠ [] := by
    intro none
    have recorded := probing.recorded
    rw [none] at recorded
    cases recorded
  apply Follows.bind_iff.mpr
  refine follows_sys ⟨probing.started, probing.ready, probed⟩ (fun start => ?_)
    fun _ => troubled_of_none _
  have begun : Probing (probes + 1) 1 false
      (afterCall setting (.autostartServe "tela.yaml" none) (some start) g) :=
    ⟨(Bool.or_false _).trans probing.calm, probing.ready, congrArg (· + 1) probing.started,
      probing.printed, probing.recorded⟩
  dsimp only
  cases succeeded start with
  | none => exact follows_fail begun
  | some pid =>
      apply Follows.bind_iff.mpr
      refine follows_sys (by trivial) (fun live => ?_) fun _ => troubled_of_none _
      rw [afterCall_quiet rfl rfl]
      cases succeeded live with
      | none => exact follows_fail begun
      | some data =>
          refine follows_bind (follows_probeAndRecord begun) fun outcome g' probed' => ?_
          split
          · rename_i ready
            rw [decide_eq_true ready] at probed'
            exact follows_end probed' (fun _ => rfl) fun _ => rfl
          · rename_i unready
            rw [decide_eq_false unready] at probed'
            exact follows_fail probed'

theorem recovered_alreadyReady {staleCleanup : Option Bool} {actions eventsAppended : List String}
    {probes started : Nat} (probing : Probing (probes + 1) started true g) :
    Recovered (alreadyReady staleCleanup actions eventsAppended) g :=
  ⟨probing.calm, probing.printed, probing.ready.symm, probes,
    probing.recorded.trans (List.append_nil _).symm⟩

/-- Every exit of a recovery: the first probe, a failed cleanup, a lockfile that was replaced, or
a cold start. -/
theorem follows_recover {discovery : DoctorDiscovery} {probeTimeout recoverTimeout : Int}
    (probing : Probing 0 0 false g) :
    Follows (monitor setting) Recovered Troubled
      (recoverDoctorRuntime setting discovery probeTimeout recoverTimeout) g := by
  refine follows_bind (follows_probeAndRecord probing) fun first g₁ probed => ?_
  dsimp only
  split
  · rename_i ready
    rw [decide_eq_true ready] at probed
    exact recovered_alreadyReady probed
  · rename_i unready
    rw [decide_eq_false unready] at probed
    split
    · apply Follows.bind_iff.mpr
      refine follows_sys (by trivial) (fun cleanup => ?_) fun _ => troubled_of_none _
      rw [afterCall_quiet rfl rfl]
      cases cleanup.error with
      | some error => exact follows_fail probed
      | none =>
          dsimp only
          split
          · exact follows_coldStart probed
          · apply Follows.bind_iff.mpr
            refine follows_discovery probed.calm fun refreshed => ?_
            refine follows_bind (follows_probeAndRecord probed) fun second g₂ probed' => ?_
            split
            · rename_i ready
              rw [decide_eq_true ready] at probed'
              exact recovered_alreadyReady probed'
            · rename_i unready
              rw [decide_eq_false unready] at probed'
              exact follows_coldStart probed'
    · exact follows_coldStart probed

theorem follows_runtimeEvents {onRet : DoctorRuntimeEventsSummary → Standing → Prop}
    (ok : ∀ summary, onRet summary g) :
    Follows (monitor setting) onRet Troubled (readDoctorRuntimeEvents setting) g := by
  apply Follows.bind_iff.mpr
  refine follows_sys (by trivial) (fun file => ?_) fun _ => troubled_of_none _
  rcases readRuntimeEvents_raises setting file with ⟨bad, exc, raised⟩ | ⟨quiet, reading, ran⟩
  · rw [raised]
    change (g.troubled || unreadableLog file) = true
    rw [bad, Bool.or_true]
  · have still : afterCall setting .readRuntimeEvents (some file) g = g :=
      afterCall_quiet rfl quiet
    rw [ran, still]
    exact ok _

theorem follows_attachments {runtimeEvents : DoctorRuntimeEventsSummary}
    {onRet : DoctorAttachmentSummary → Standing → Prop} (ok : ∀ summary, onRet summary g) :
    Follows (monitor setting) onRet Troubled
      (readDoctorAttachmentSummary setting runtimeEvents) g := by
  apply Follows.bind_iff.mpr
  refine follows_sys (by trivial) (fun registry => ?_) fun _ => troubled_of_none _
  cases registry with
  | error error =>
      rw [afterCall_quiet rfl rfl]
      exact ok _
  | ok registry =>
      -- The heartbeats are read after the clock, which tells nothing of them.
      apply Follows.bind_iff.mpr
      refine follows_sys (by trivial) (fun now => ?_) fun _ => troubled_of_none _
      rw [afterCall_quiet rfl rfl]
      rcases aliveIds_raises setting now registry.attachments with
        ⟨bad, exc, raised⟩ | ⟨quiet, ids, ran⟩
      · rw [raised]
        change (g.troubled || registry.attachments.any (overflows setting)) = true
        rw [bad, Bool.or_true]
      · have still : afterCall setting .readAttachmentRegistry (some (.ok registry)) g = g :=
          afterCall_quiet rfl quiet
        rw [ran, still]
        exact ok _

/-- A recovery that came to its end: one report that tells how it went. -/
structure Reported (g : Standing) (kinds : List RuntimeEventKind) (report : DoctorResult) :
    Prop where
  printed : g.printed = [report]
  truthful : (report.recovery.alreadyReady || report.recovery.recoverySucceeded) = g.ready
  ordered : Ordered report.recovery kinds

theorem follows_doctorCommand {jsonOutput : Bool} {probeTimeout recoverTimeout : Option Int} :
    Follows (monitor setting)
      (fun _ g => g.troubled = false ∧ ∃ report, Reported g (g.asked.map (·.kind)) report)
      Troubled (doctorCommand setting jsonOutput true probeTimeout recoverTimeout) {} := by
  have start : Probing 0 0 false {} := ⟨rfl, rfl, rfl, rfl, rfl⟩
  rw [doctorCommand, Bool.not_true, Bool.and_false, if_neg (by decide)]
  apply Follows.bind_iff.mpr
  apply Follows.bind_iff.mpr
  refine follows_discovery start.calm fun discovery => ?_
  apply Follows.bind_iff.mpr
  refine follows_runtimeEvents fun runtimeEvents => ?_
  apply Follows.bind_iff.mpr
  refine follows_attachments fun attachments => ?_
  rw [if_pos rfl]
  refine follows_bind (follows_recover start) fun recovery g recovered => ?_
  apply Follows.bind_iff.mpr
  refine follows_discovery recovered.calm fun refreshed => ?_
  refine follows_sys (by trivial) (fun _ => ?_) fun _ => troubled_of_none _
  refine ⟨(Bool.or_false _).trans recovered.calm, _, congrArg (· ++ [_]) recovered.printed, ?_, ?_⟩
  · exact recovered.truthful
  · exact recovered.ordered

/-! ## The events that the answers give -/

/-- What the answers so far come to: the last observation, the next event, and those before. -/
structure Account where
  observed : DoctorProbeObservation := unknownObservation none
  next : RuntimeEventKind × JsonObject := (.recoveryProbe, ∅)
  given : List RuntimeEvent := []
  /-- The events that were handed to the log. -/
  asked : List RuntimeEvent := []

def absentObservation (error : String) : DoctorProbeObservation := ⟨some "absent", none, some error⟩

/-- An observation is recorded next. -/
def Account.observe (observation : DoctorProbeObservation) (h : Account) : Account :=
  { h with
    observed := observation
    next := (.recoveryProbe, .ofList
      [ ("state", nullOr observation.state)
      , ("degraded_reason", nullOr observation.degradedReason)
      , ("error", nullOr observation.error) ]) }

def failing (error : String) : RuntimeEventKind × JsonObject :=
  (.recoveryFailed, .ofList [("error", .str error)])

/-- The end of a recovery whose last probe observed this. -/
def closing (observation : DoctorProbeObservation) : RuntimeEventKind × JsonObject :=
  let state := textOr observation.state "unknown"
  if observation.state = some "ready" then (.recoverySucceeded, .ofList [("state", .str "ready")])
  else failing (textOr observation.error s!"RECOVERY_NOT_READY: {state}")

theorem doctor_identified : "doctor" ≠ "" := by decide

theorem doctor_kindNamed : "tela_cli" ≠ "" := by decide

def stampedEvent (timestamp : {text : String // text ≠ ""}) (next : RuntimeEventKind × JsonObject) :
    RuntimeEvent where
  kind := next.1
  clientId := "doctor"
  clientKind := "tela_cli"
  timestamp := timestamp.val
  details := next.2
  identified := doctor_identified
  kindNamed := doctor_kindNamed
  dated := timestamp.property

variable (setting) in
/-- What an answer adds; the clock is read where an event is made. -/
def hear : (w : Call) → Option w.Result → Account → Account
  | .readLockfile, some reading, h =>
      match readLockfile setting.validateLockfile reading with
      | .ok (.error error) => h.observe (absentObservation error)
      | _ => h
  | .probe _ _, some reply, h =>
      match doctorReading setting reply with
      | .ok observation => h.observe observation
      | .error _ => h
  | .deleteLockfileIfStale, some cleanup, h =>
      { h with next := failing (textOr cleanup.error "LOCKFILE_STALE_CLEANUP_ERROR") }
  | .autostartServe _ _, some start, h =>
      { h with next := failing (textOr start.error "COLD_START_FAILED") }
  | .waitForLiveLockfile _ _, some live, h =>
      { h with next := failing (textOr live.error "COLD_START_FAILED") }
  | .timestamp, some timestamp, h =>
      { h with
        given := h.given ++ [stampedEvent timestamp h.next]
        next := closing h.observed }
  | .appendRuntimeEvent event, some _, h => { h with asked := h.asked ++ [event] }
  | _, _, h => h

/-- Each event is handed to the log once it is given, and before the next one. -/
def mayHear : Call → Account → Prop
  | .timestamp, h => h.given = h.asked
  | .appendRuntimeEvent event, h => h.given = h.asked ++ [event]
  | _, _ => True

variable (setting) in
def account : Monitor sig Account where
  may _ _ := True
  after a _ _ := nomatch a
  mayWait := mayHear
  woken := hear setting
  mayTime _ := False
  mayTime_after := id
  mayTime_woken := id

variable (setting) in
/-- The events for which the answers of a run give the texts. -/
def given (moves : List (Move sig SystemException)) : List RuntimeEvent :=
  ((account setting).trace {} moves).given

/-- All that was given was handed to the log. -/
def Account.Level (h : Account) : Prop := h.given = h.asked

/-- The discovery is what the last lockfile told, and an absent one will be recorded so. -/
def Discovers (discovery : DoctorDiscovery) (h : Account) : Prop :=
  ∃ result, discovery = discoveryOf result ∧
    ∀ error, result = .error error → h.observe (absentObservation error) = h

/-- Nothing is known of an account where a call raised. -/
abbrev Accounts {α : Type} (setting : Setting) (onRet : α → Account → Prop) (x : Prog α)
    (h : Account) : Prop :=
  Follows (account setting) onRet (fun _ _ => True) x h

variable {h : Account}

theorem accounts_sys {w : Call} {onRet : w.Result → Account → Prop} (may : mayHear w h)
    (ok : ∀ result, onRet result (hear setting w (some result) h)) :
    Accounts setting onRet (sys w) h :=
  Follows.await_iff.mpr ⟨may, ok, fun _ => trivial⟩

theorem accounts_bind {β : Type} {x : Prog α} {rest : α → Prog β} {mid : α → Account → Prop}
    {onRet : β → Account → Prop} (first : Accounts setting mid x h)
    (second : ∀ value h, mid value h → Accounts setting onRet (rest value) h) :
    Accounts setting onRet (x >>= rest) h :=
  Follows.bind_iff.mpr (first.mono second fun _ _ _ => trivial)

/-- What a pure step returns, if it does. -/
theorem accounts_ofExcept {outcome : Except SystemException α} {onRet : α → Account → Prop}
    (ok : ∀ value, outcome = .ok value → onRet value h) :
    Accounts setting onRet (Coro.ofExcept outcome) h := by
  cases outcome with
  | ok value => exact ok value rfl
  | error exc => trivial

theorem accounts_discovery (level : h.Level) :
    Accounts setting (fun discovery h => h.Level ∧ Discovers discovery h)
      (readDoctorDiscovery setting) h := by
  apply Follows.bind_iff.mpr
  apply Follows.bind_iff.mpr
  refine accounts_sys (by trivial) fun reading => ?_
  refine accounts_ofExcept fun result read => ?_
  change Account.Level (hear setting .readLockfile (some reading) h) ∧
    Discovers (discoveryOf result) (hear setting .readLockfile (some reading) h)
  unfold hear
  dsimp only
  rw [read]
  cases result with
  | ok data => exact ⟨level, .ok data, rfl, nofun⟩
  | error error =>
      refine ⟨level, .error error, rfl, ?_⟩
      rintro _ ⟨⟩
      rfl

theorem accounts_append {kind : RuntimeEventKind} {details : JsonObject}
    {eventsAppended : List String} (level : h.Level) (next : h.next = (kind, details)) :
    Accounts setting (fun _ h' => h'.Level ∧ h'.observed = h.observed ∧ h'.next = closing h.observed)
      (appendDoctorEvent setting kind details eventsAppended) h := by
  apply Follows.bind_iff.mpr
  refine accounts_sys level fun timestamp => ?_
  let event := stampedEvent timestamp (kind, details)
  have heard : hear setting .timestamp (some timestamp) h =
      { h with given := h.given ++ [event], next := closing h.observed } := by
    rw [hear, next]
  rw [heard]
  apply Follows.bind_iff.mpr
  refine accounts_sys (congrArg (· ++ [event]) level) fun fault => ?_
  have even : h.given ++ [event] = h.asked ++ [event] := congrArg (· ++ [event]) level
  split
  · exact ⟨even, rfl, rfl⟩
  · exact ⟨even, rfl, rfl⟩

/-- A probe is recorded as it was observed. -/
theorem accounts_probe {discovery : DoctorDiscovery} {probeTimeout : Int} (level : h.Level)
    (discovers : Discovers discovery h) :
    Accounts setting (fun observation h' => h'.Level ∧ h'.observe observation = h')
      (probeDoctorRuntime setting discovery probeTimeout) h := by
  obtain ⟨result, rfl, absent⟩ := discovers
  cases result with
  | error error =>
      rw [probeDoctorRuntime, discoveryOf]
      split
      · exact ⟨level, absent error rfl⟩
      · exact ⟨level, absent error rfl⟩
  | ok data =>
      rw [probeDoctorRuntime, discoveryOf]
      apply Follows.bind_iff.mpr
      refine accounts_sys (by trivial) fun reply => ?_
      refine accounts_ofExcept fun observation read => ?_
      have heard : hear setting (.probe data probeTimeout) (some reply) h = h.observe observation := by
        rw [hear, read]
      rw [heard]
      exact ⟨level, rfl⟩

theorem accounts_probeAndRecord {discovery : DoctorDiscovery} {probeTimeout : Int}
    {eventsAppended : List String} (level : h.Level) (discovers : Discovers discovery h) :
    Accounts setting (fun outcome h' => h'.Level ∧ h'.next = closing outcome.1)
      (probeAndRecord setting discovery probeTimeout eventsAppended) h := by
  refine accounts_bind (accounts_probe level discovers) ?_
  rintro observation h' ⟨level', recorded⟩
  have next : h'.next = (h'.observe observation).next := by rw [recorded]
  have observed : h'.observed = observation := by rw [← recorded]; rfl
  refine accounts_bind (accounts_append level' next) ?_
  rintro names h'' ⟨level'', -, closes⟩
  exact ⟨level'', closes.trans (congrArg closing observed)⟩

theorem accounts_fail {staleCleanup : Option Bool} {coldStartAttempted : Bool}
    {actions eventsAppended : List String} {error : String} (level : h.Level)
    (next : h.next = failing error) :
    Accounts setting (fun _ h' => h'.Level)
      (failRecovery setting staleCleanup coldStartAttempted actions eventsAppended error) h :=
  accounts_bind (accounts_append level next) fun _ _ kept => kept.1

theorem accounts_coldStart {probeTimeout recoverTimeout : Int} {staleCleanup : Option Bool}
    {actions eventsAppended : List String} (level : h.Level) :
    Accounts setting (fun _ h' => h'.Level)
      (coldStart setting probeTimeout recoverTimeout staleCleanup actions eventsAppended) h := by
  apply Follows.bind_iff.mpr
  refine accounts_sys (by trivial) fun start => ?_
  dsimp only
  cases succeeded start with
  | none => exact accounts_fail level rfl
  | some pid =>
      apply Follows.bind_iff.mpr
      refine accounts_sys (by trivial) fun live => ?_
      cases succeeded live with
      | none => exact accounts_fail level rfl
      | some data =>
          refine accounts_bind (accounts_probeAndRecord level ⟨.ok data, rfl, nofun⟩) ?_
          rintro ⟨observation, names⟩ h' ⟨level', next⟩
          dsimp only at next ⊢
          split
          · rename_i ready
            rw [closing, if_pos ready] at next
            exact accounts_bind (accounts_append level' next) fun _ _ kept => kept.1
          · rename_i unready
            rw [closing, if_neg unready] at next
            exact accounts_fail level' next

theorem accounts_recover {discovery : DoctorDiscovery} {probeTimeout recoverTimeout : Int}
    (level : h.Level) (discovers : Discovers discovery h) :
    Accounts setting (fun _ h' => h'.Level)
      (recoverDoctorRuntime setting discovery probeTimeout recoverTimeout) h := by
  refine accounts_bind (accounts_probeAndRecord level discovers) ?_
  rintro first h₁ ⟨level₁, -⟩
  dsimp only
  split
  · exact level₁
  · split
    · apply Follows.bind_iff.mpr
      refine accounts_sys (by trivial) fun cleanup => ?_
      cases refused : cleanup.error with
      | some error =>
          refine accounts_fail level₁ ?_
          rw [hear, refused]
      | none =>
          dsimp only
          split
          · exact accounts_coldStart level₁
          · refine accounts_bind (accounts_discovery level₁) ?_
            rintro refreshed h₂ ⟨level₂, discovers₂⟩
            refine accounts_bind (accounts_probeAndRecord level₂ discovers₂) ?_
            rintro second h₃ ⟨level₃, -⟩
            split
            · exact level₃
            · exact accounts_coldStart level₃
    · exact accounts_coldStart level₁

theorem accounts_runtimeEvents :
    Accounts setting (fun _ h' => h' = h) (readDoctorRuntimeEvents setting) h := by
  apply Follows.bind_iff.mpr
  refine accounts_sys (by trivial) fun file => ?_
  split
  · rfl
  · trivial

theorem accounts_attachments {runtimeEvents : DoctorRuntimeEventsSummary} :
    Accounts setting (fun _ h' => h' = h) (readDoctorAttachmentSummary setting runtimeEvents) h := by
  apply Follows.bind_iff.mpr
  refine accounts_sys (by trivial) fun registry => ?_
  split
  · rfl
  · apply Follows.bind_iff.mpr
    refine accounts_sys (by trivial) fun now => ?_
    split
    · trivial
    · rfl

theorem accounts_doctorCommand {jsonOutput : Bool} {probeTimeout recoverTimeout : Option Int} :
    Accounts setting (fun _ h => h.Level)
      (doctorCommand setting jsonOutput true probeTimeout recoverTimeout) {} := by
  rw [doctorCommand, Bool.not_true, Bool.and_false, if_neg (by decide)]
  apply Follows.bind_iff.mpr
  refine accounts_bind (accounts_discovery rfl) ?_
  rintro discovery h₁ ⟨level, discovers⟩
  refine accounts_bind accounts_runtimeEvents ?_
  rintro runtimeEvents _ rfl
  refine accounts_bind accounts_attachments ?_
  rintro attachments _ rfl
  rw [if_pos rfl]
  refine accounts_bind (accounts_recover level discovers) fun recovery h₂ level₂ => ?_
  refine accounts_bind (accounts_discovery level₂) ?_
  rintro refreshed h₃ ⟨level₃, -⟩
  exact accounts_sys (by trivial) fun _ => level₃

theorem asked_readLockfile (reading : LockfileReading) :
    (hear setting .readLockfile (some reading) h).asked = h.asked := by
  unfold hear
  dsimp only
  split <;> rfl

theorem asked_probe (data : LockfileData) (timeout : Int) (reply : HttpReply) :
    (hear setting (.probe data timeout) (some reply) h).asked = h.asked := by
  unfold hear
  dsimp only
  split <;> rfl

/-- Both accounts of a run hold the same events. -/
theorem trace_asked {moves : List (Move sig SystemException)} (same : g.asked = h.asked) :
    ((monitor setting).trace g moves).asked = ((account setting).trace h moves).asked := by
  induction moves generalizing g h with
  | nil => exact same
  | cons move rest ih =>
      apply ih
      cases move with
      | acted a => exact nomatch a
      | lapsed w => cases w <;> exact same
      | waited w outcome =>
          cases outcome with
          | error exc => cases w <;> exact same
          | ok result =>
              cases w with
              | appendRuntimeEvent event => exact congrArg (· ++ [event]) same
              | readLockfile => exact same.trans (asked_readLockfile result).symm
              | probe data timeout => exact same.trans (asked_probe data timeout result).symm
              | _ => exact same

/-! ## Whole runs of doctor -/

variable (setting)

/-- The line of the event is no longer than the log admits. -/
def fits (event : RuntimeEvent) : Bool :=
  decide ((Text.utf8 (EventLog.runtimeEventJsonl setting.floatText event)).length ≤
    EventLog.maxRuntimeEventBytes)

/-- Some probe fits, and so does the end of the recovery if it has one. -/
def Fitting (events : List RuntimeEvent) : Prop :=
  (∃ event ∈ events, event.kind = .recoveryProbe ∧ fits setting event = true) ∧
    ∀ event ∈ events, event.kind ≠ .recoveryProbe → fits setting event = true

instance (events : List RuntimeEvent) : Decidable (Fitting setting events) :=
  inferInstanceAs (Decidable (_ ∧ _))

def moveTroubles : Move sig SystemException → Bool
  | .acted a _ => nomatch a
  | .waited w outcome => troubles setting w outcome.toOption
  | .lapsed w => troubles setting w none

/-- An append met no fault. -/
def Written : Move sig SystemException → Prop
  | .waited (.appendRuntimeEvent _) outcome => outcome = .ok none
  | _ => True

/-- The log holds the events that fit. -/
def Logged (g : Standing) : Prop :=
  g.appended = (g.asked.filter (fits setting)).map (·.kind)

/-- Doctor returned; it started a gateway once at most, after a probe that did not read `ready`;
its report is true of the last probe, and the events in the log are in order. -/
structure Truthful (outcome : Except SystemException (Except String Int))
    (moves : List (Move sig SystemException)) : Prop where
  returned : ∃ result, outcome = .ok result
  starts : (monitor setting).AllowsAll {} moves
  reported : ∃ report, Reported ((monitor setting).trace {} moves)
    ((monitor setting).trace {} moves).appended report

variable {setting}

theorem logged_of_written (event : RuntimeEvent) :
    logged setting event none = if fits setting event then [event.kind] else [] := by
  rw [logged, EventLog.appendRuntimeEvent, EventLog.runtimeEventPayload, fits]
  by_cases large : EventLog.maxRuntimeEventBytes <
      (Text.utf8 (EventLog.runtimeEventJsonl setting.floatText event)).length
  · rw [if_pos large, decide_eq_false (by omega)]
    rfl
  · rw [if_neg large, decide_eq_true (by omega)]
    rfl

theorem trace_troubled (moves : List (Move sig SystemException)) :
    ((monitor setting).trace g moves).troubled =
      (g.troubled || moves.any (moveTroubles setting)) := by
  refine Monitor.trace_flag Standing.troubled (fun g move => ?_) g moves
  cases move with
  | acted a => exact nomatch a
  | waited w outcome => rfl
  | lapsed w => rfl

theorem logged_of_moves {moves : List (Move sig SystemException)}
    (written : ∀ move ∈ moves, Written move) :
    Logged setting ((monitor setting).trace {} moves) := by
  apply Monitor.trace_keeps (show Logged setting {} from rfl)
  intro g move among kept
  cases move with
  | acted a => exact nomatch a
  | lapsed w => cases w <;> exact kept
  | waited w outcome =>
      cases w with
      | appendRuntimeEvent event =>
          cases written _ among
          change g.appended ++ logged setting event none = _
          rw [logged_of_written, kept]
          change _ = ((g.asked ++ [event]).filter (fits setting)).map (·.kind)
          rw [List.filter_append, List.map_append, List.filter_singleton]
          cases fits setting event <;> rfl
      | _ => cases outcome <;> exact kept

theorem ending_other (summary : DoctorRecoverySummary) :
    ∀ kind ∈ ending summary, kind ≠ .recoveryProbe := by
  intro kind among
  rw [ending] at among
  split_ifs at among <;> simp_all

/-- Events in order stay in order, when those that do not fit are left out, if and only if one
probe is left and the end as well. -/
theorem ordered_filter_iff {summary : DoctorRecoverySummary} {asked : List RuntimeEvent}
    (ordered : Ordered summary (asked.map (·.kind))) :
    Ordered summary ((asked.filter (fits setting)).map (·.kind)) ↔ Fitting setting asked := by
  obtain ⟨probes, same⟩ := ordered
  obtain ⟨first, last, rfl, probed, ended⟩ := List.map_eq_append_iff.mp same
  have ofFirst : ∀ event ∈ first, event.kind = .recoveryProbe := by
    intro event among
    apply List.eq_of_mem_replicate
    rw [← probed]
    exact List.mem_map_of_mem among
  have ofLast : ∀ event ∈ last, event.kind ≠ .recoveryProbe := by
    intro event among
    apply ending_other summary
    rw [← ended]
    exact List.mem_map_of_mem among
  have keptProbes : (first.filter (fits setting)).map (·.kind) =
      List.replicate (first.filter (fits setting)).length .recoveryProbe := by
    apply List.map_eq_replicate_iff.mpr
    intro event among
    exact ofFirst event (List.mem_of_mem_filter among)
  rw [Ordered, List.filter_append, List.map_append, keptProbes]
  constructor
  · rintro ⟨left, same'⟩
    have unprobed : (.recoveryProbe : RuntimeEventKind) ∉ ending summary :=
      fun among => ending_other summary _ among rfl
    have unprobed' : .recoveryProbe ∉ (last.filter (fits setting)).map (·.kind) := by
      intro among
      obtain ⟨event, kept, probe⟩ := List.mem_map.mp among
      exact ofLast event (List.mem_of_mem_filter kept) probe
    have counted : (first.filter (fits setting)).length = left + 1 := by
      have counts := congrArg (List.count .recoveryProbe) same'
      rw [List.count_append, List.count_append, List.count_replicate_self,
        List.count_replicate_self, List.count_eq_zero_of_not_mem unprobed,
        List.count_eq_zero_of_not_mem unprobed'] at counts
      exact counts
    rw [counted] at same'
    have ends := List.append_cancel_left same'
    constructor
    · have some : 0 < (first.filter (fits setting)).length := by omega
      obtain ⟨event, kept⟩ := List.exists_mem_of_length_pos some
      obtain ⟨among, fit⟩ := List.mem_filter.mp kept
      exact ⟨event, List.mem_append_left _ among, ofFirst event among, fit⟩
    · intro event among other
      have lengths := congrArg List.length (ends.trans ended.symm)
      rw [List.length_map, List.length_map] at lengths
      obtain before | among := List.mem_append.mp among
      · exact absurd (ofFirst event before) other
      · exact List.length_filter_eq_length_iff.mp lengths event among
  · rintro ⟨⟨event, among, probe, fit⟩, rest⟩
    have all : last.filter (fits setting) = last := by
      apply List.filter_eq_self.mpr
      intro event among
      exact rest event (List.mem_append_right _ among) (ofLast event among)
    have before : event ∈ first := by
      obtain before | after := List.mem_append.mp among
      · exact before
      · exact absurd probe (ofLast event after)
    have some : 0 < (first.filter (fits setting)).length :=
      List.length_pos_of_mem (List.mem_filter.mpr ⟨before, fit⟩)
    refine ⟨(first.filter (fits setting)).length - 1, ?_⟩
    rw [all, ended, Nat.sub_add_cancel some]

theorem calm_iff {moves : List (Move sig SystemException)} :
    (∀ move ∈ moves, moveTroubles setting move = false) ↔
      ((monitor setting).trace {} moves).troubled = false := by
  rw [trace_troubled, Bool.false_or, List.any_eq_false]
  simp only [Bool.not_eq_true]

end Recovery

section Runs

variable (setting : Setting) (player : Player sig SystemException) (jsonOutput : Bool)
  (probeTimeout recoverTimeout : Option Int)

/-- `doctor --recover` in an environment: how it ends, and all it called. -/
def doctorRun : Except SystemException (Except String Int) × List (Move sig SystemException) :=
  (doctorCommand setting jsonOutput true probeTimeout recoverTimeout).play player []

theorem doctorRun_written
    (written : ∀ moves event, player.wait moves (.appendRuntimeEvent event) = .ok none) :
    ∀ move ∈ (doctorRun setting player jsonOutput probeTimeout recoverTimeout).2, Written move := by
  refine Coro.forall_play player ?_ ?_ ?_ _ (List.forall_mem_nil _)
  · intro moves a
    exact nomatch a
  · intro moves w
    cases w with
    | appendRuntimeEvent event => exact written moves event
    | _ => trivial
  · exact fun _ => trivial

/-- A recovery is truthful if and only if nothing it was answered is trouble, and the texts fit. -/
theorem doctorRun_truthful_iff
    (written : ∀ moves event, player.wait moves (.appendRuntimeEvent event) = .ok none) :
    let run := doctorRun setting player jsonOutput probeTimeout recoverTimeout
    Truthful setting run.1 run.2 ↔
      (∀ move ∈ run.2, moveTroubles setting move = false) ∧
        Fitting setting (given setting run.2) := by
  intro run
  obtain ⟨allowed, ended⟩ := Follows.play player
    (follows_doctorCommand : Follows (monitor setting) _ _
      (doctorCommand setting jsonOutput true probeTimeout recoverTimeout) _) Monitor.allowsAll_nil
  obtain ⟨-, level⟩ := Follows.play player
    (accounts_doctorCommand : Accounts setting _
      (doctorCommand setting jsonOutput true probeTimeout recoverTimeout) _) Monitor.allowsAll_nil
  have kept : Logged setting ((monitor setting).trace {} run.2) :=
    logged_of_moves (doctorRun_written setting player jsonOutput probeTimeout recoverTimeout written)
  have same : run = (doctorCommand setting jsonOutput true probeTimeout recoverTimeout).play player [] :=
    rfl
  rw [← same] at allowed ended level
  clear_value run
  obtain ⟨outcome, moves⟩ := run
  rw [calm_iff]
  cases outcome with
  | error exc =>
      have bad : ((monitor setting).trace {} moves).troubled = true := ended
      constructor
      · rintro ⟨⟨result, ⟨⟩⟩, -⟩
      · rintro ⟨calm, -⟩
        rw [bad] at calm
        cases calm
  | ok result =>
      obtain ⟨calm, report, printed, truthful, ordered⟩ := ended
      have handed : ((monitor setting).trace {} moves).asked = given setting moves :=
        (trace_asked rfl).trans (Eq.symm level)
      rw [← handed, ← ordered_filter_iff ordered, ← kept]
      constructor
      · rintro ⟨-, -, report', printed', -, ordered'⟩
        rw [printed] at printed'
        cases printed'
        exact ⟨calm, ordered'⟩
      · rintro ⟨-, inOrder⟩
        exact ⟨⟨result, rfl⟩, allowed, report, printed, truthful, inOrder⟩

end Runs

/-! ## Status -/

section Status

variable (setting : Setting)

/-- The classifier takes the state. -/
def admitted (state : Json) : Bool := state.isNull || state.str?.isSome

/-- The body is an object whose state is neither `null` nor a string. -/
def misstates (reply : HttpReply) : Bool :=
  (served setting reply).any fun fields => !admitted ((fields.get? "state").getD (.str "unknown"))

/-- The text of the body makes the loader fail in a way that nothing expects. -/
def overloads : HttpReply → Bool
  | .ok (.ok bytes) =>
      match loaded setting bytes with
      | some (.error (.raised _)) => true
      | _ => false
  | _ => false

/-- What a call gives makes status raise. -/
def upsets : (w : Call) → Option w.Result → Bool
  | .readLockfile, some reading => LockfileReading.unreadable reading
  | .probe _ _, some reply => outlandish setting reply || misstates setting reply
  | .query _, some reply => overloads setting reply
  | _, none => true
  | _, some _ => false

/-- The calls that start a process or change a file. -/
def writes : Call → Bool
  | .deleteLockfileIfStale => true
  | .autostartServe _ _ => true
  | .appendRuntimeEvent _ => true
  | _ => false

/-- The trace value tells whether something upset status. -/
def observer : Monitor sig Bool where
  may _ _ := True
  after a _ _ := nomatch a
  mayWait w _ := writes w = false
  woken w result upset := upset || upsets setting w result
  mayTime _ := False
  mayTime_after := id
  mayTime_woken := id

variable {setting} {α : Type}

theorem upset_of_none (w : Call) (upset : Bool) : (upset || upsets setting w none) = true := by
  cases w <;> exact Bool.or_true _

/-- A call that writes nothing, and a result that may or may not upset what reads it. -/
theorem observes_sys {w : Call} {onRet : w.Result → Bool → Prop} (reads : writes w = false)
    (ok : ∀ result, onRet result (upsets setting w (some result))) :
    Follows (observer setting) onRet (fun _ upset => upset = true) (sys w) false := by
  refine Follows.await_iff.mpr ⟨reads, fun result => ?_, fun _ => upset_of_none w false⟩
  change onRet result (false || upsets setting w (some result))
  rw [Bool.false_or]
  exact ok result

/-- The step that reads the result raises exactly when the result upsets. -/
theorem observes_reading {w : Call} {step : w.Result → Except SystemException α}
    {onRet : α → Bool → Prop} (reads : writes w = false)
    (ok : ∀ result, match step result with
      | .ok value => onRet value (upsets setting w (some result))
      | .error _ => upsets setting w (some result) = true) :
    Follows (observer setting) onRet (fun _ upset => upset = true)
      ((sys w).bind fun result => Coro.ofExcept (step result)) false := by
  apply Follows.bind_iff.mpr
  refine observes_sys reads fun result => ?_
  rw [Follows.ofExcept_iff]
  have outcome := ok result
  cases read : step result with
  | ok value =>
      rw [read] at outcome
      exact outcome
  | error exc =>
      rw [read] at outcome
      exact outcome

theorem observes_lockfile {onRet : Except String LockfileData → Bool → Prop}
    (ok : ∀ value, onRet value false) :
    Follows (observer setting) onRet (fun _ upset => upset = true) (readLockfileNow setting)
      false := by
  refine observes_reading (by rfl) fun reading => ?_
  rcases readLockfile_raises setting reading with ⟨bad, exc, raised⟩ | ⟨quiet, value, ran⟩
  · rw [raised]
    exact bad
  · rw [ran]
    change onRet value reading.unreadable
    rw [quiet]
    exact ok value

/-- A probe raises for an outlandish body; else it hands the state on as it is. -/
theorem statusReading_cases (setting : Setting) (reply : HttpReply) :
    match statusReading setting reply with
    | .ok observation => (outlandish setting reply || misstates setting reply) =
        !admitted observation.probedState
    | .error _ => (outlandish setting reply || misstates setting reply) = true := by
  cases reply with
  | error text => rfl
  | ok body =>
      rw [statusReading, misstates]
      rcases loadBody_cases setting body with ⟨calm, fields, object, load⟩ | ⟨bad, -, fails⟩ |
        ⟨calm, object, text, load⟩
      · rw [load, calm, object]
        rfl
      · rw [bad, Bool.true_or]
        rcases fails with ⟨exc, load⟩ | ⟨json, exc, load, get⟩
        · rw [load]
          rfl
        · rw [load]
          simp only [bind, Except.bind, get]
      · rw [load, calm, object]
        rfl

theorem observes_probe {discovery : StatusDiscovery} {probe : Bool} {probeTimeout : Int}
    {onRet : ProbeObservation → Bool → Prop}
    (ok : ∀ observation, onRet observation (!admitted observation.probedState)) :
    Follows (observer setting) onRet (fun _ upset => upset = true)
      (probeStatusRuntime setting discovery probe probeTimeout) false := by
  rw [probeStatusRuntime]
  split
  · exact ok ⟨.null, .null, none⟩
  · split
    · exact ok ⟨.str "absent", .null, none⟩
    · cases discovery.lockfileData with
      | none => exact ok ⟨.str "absent", .null, none⟩
      | some data =>
          dsimp only
          split
          · exact ok ⟨.str "stale", .null, none⟩
          · refine observes_reading (by rfl) fun reply => ?_
            have cases := statusReading_cases setting reply
            cases read : statusReading setting reply with
            | ok observation =>
                rw [read] at cases
                change onRet observation (outlandish setting reply || misstates setting reply)
                rw [cases]
                exact ok observation
            | error exc =>
                rw [read] at cases
                exact cases

/-- The legacy facts upset nothing but a loader that fails in its own way. -/
theorem remoteReading_raises (setting : Setting) (reply : HttpReply) :
    RaisesWhen (overloads setting reply) (remoteReading setting reply) := by
  cases reply with
  | error text => exact .inr ⟨rfl, _, rfl⟩
  | ok body =>
      cases body with
      | error exc => exact .inr ⟨rfl, _, rfl⟩
      | ok bytes =>
          simp only [overloads, remoteReading, loadBody, loaded]
          cases Text.decodeUtf8 bytes with
          | none => exact .inr ⟨rfl, _, rfl⟩
          | some text =>
              dsimp only [Option.map_some]
              cases setting.loads text with
              | error failure =>
                  cases failure with
                  | decodeError text => exact .inr ⟨rfl, _, rfl⟩
                  | raised exc => exact .inl ⟨rfl, _, rfl⟩
              | ok json => cases json <;> exact .inr ⟨rfl, _, rfl⟩

theorem observes_remote {discovery : StatusDiscovery} {onRet : Option JsonObject → Bool → Prop}
    (ok : ∀ payload, onRet payload false) :
    Follows (observer setting) onRet (fun _ upset => upset = true)
      (readRemoteStatusPayload setting discovery) false := by
  rw [readRemoteStatusPayload]
  split
  · exact ok none
  · apply Follows.bind_iff.mpr
    refine observes_lockfile fun value => ?_
    cases value with
    | error text =>
        apply Follows.bind_iff.mpr
        exact observes_sys (by rfl) fun _ => ok none
    | ok data =>
        refine observes_reading (by rfl) fun reply => ?_
        rcases remoteReading_raises setting reply with
          ⟨bad, exc, raised⟩ | ⟨quiet, payload, ran⟩
        · rw [raised]
          exact bad
        · rw [ran]
          change onRet payload (overloads setting reply)
          rw [quiet]
          exact ok payload

theorem observes_discovery {onRet : StatusDiscovery → Bool → Prop}
    (ok : ∀ discovery, onRet discovery false) :
    Follows (observer setting) onRet (fun _ upset => upset = true) (readStatusDiscovery setting)
      false := by
  apply Follows.bind_iff.mpr
  refine observes_lockfile fun value => ?_
  cases value with
  | error text => exact ok _
  | ok data =>
      apply Follows.bind_iff.mpr
      exact observes_sys (by rfl) fun _ => ok _

theorem observes_attachments {onRet : Except String (List AttachmentRow) → Bool → Prop}
    (ok : ∀ attachments, onRet attachments false) :
    Follows (observer setting) onRet (fun _ upset => upset = true) readStatusAttachments false := by
  apply Follows.bind_iff.mpr
  refine observes_sys (by rfl) fun registry => ?_
  cases registry with
  | error error => exact ok _
  | ok registry => exact ok _

/-- A state that was not admitted raises before anything else is read. -/
theorem observes_runStatus {jsonOutput probe clients : Bool} {probeTimeout : Int} :
    Follows (observer setting) (fun _ upset => upset = false) (fun _ upset => upset = true)
      (runStatusCommand setting jsonOutput probe clients probeTimeout) false := by
  apply Follows.bind_iff.mpr
  refine observes_discovery fun discovery => ?_
  split
  · rfl
  · apply Follows.bind_iff.mpr
    refine observes_attachments fun attachments => ?_
    apply Follows.bind_iff.mpr
    refine observes_probe fun observation => ?_
    have contract : (∃ state, classifySharedRuntimeState discovery.lockfilePresent
        discovery.lockfileStale observation.probedState false = .ok state) ↔
          admitted observation.probedState = true := classifySharedRuntimeState_ok_iff
    cases classified : classifySharedRuntimeState discovery.lockfilePresent discovery.lockfileStale
        observation.probedState false with
    | error exc =>
        change (!admitted observation.probedState) = true
        rw [Bool.not_eq_true', ← Bool.not_eq_true, ← contract]
        rintro ⟨state, same⟩
        rw [classified] at same
        cases same
    | ok runtimeState =>
        rw [contract.mp ⟨runtimeState, classified⟩]
        apply Follows.bind_iff.mpr
        refine observes_remote fun remotePayload => ?_
        apply Follows.bind_iff.mpr
        exact observes_sys (by rfl) fun _ => rfl

theorem observes_statusCommand {jsonOutput probe clients : Bool} {probeTimeout : Option Int} :
    Follows (observer setting) (fun _ upset => upset = false) (fun _ upset => upset = true)
      (statusCommand setting jsonOutput probe clients probeTimeout) false := by
  rw [statusCommand]
  split
  · rfl
  · split
    · rfl
    · apply Follows.bind_iff.mpr
      refine observes_runStatus.mono ?_ fun _ _ upset => upset
      intro outcome upset calm
      cases outcome with
      | error text => exact calm
      | ok value => exact calm

variable (setting)

def moveUpsets : Move sig SystemException → Bool
  | .acted a _ => nomatch a
  | .waited w outcome => upsets setting w outcome.toOption
  | .lapsed w => upsets setting w none

/-- Status returned, and started and changed nothing. -/
structure Passive (outcome : Except SystemException (Except String Int))
    (moves : List (Move sig SystemException)) : Prop where
  returned : ∃ result, outcome = .ok result
  unwritten : ∀ w outcome, .waited w outcome ∈ moves → writes w = false

/-- `status` in an environment: how it ends, and all it called. -/
def statusRun (player : Player sig SystemException) (jsonOutput probe clients : Bool)
    (probeTimeout : Option Int) :
    Except SystemException (Except String Int) × List (Move sig SystemException) :=
  (statusCommand setting jsonOutput probe clients probeTimeout).play player []

variable {setting}

theorem trace_upset (moves : List (Move sig SystemException)) :
    (observer setting).trace false moves = moves.any (moveUpsets setting) := by
  refine (Monitor.trace_flag id (fun g move => ?_) false moves).trans (Bool.false_or _)
  cases move with
  | acted a => exact nomatch a
  | waited w outcome => rfl
  | lapsed w => rfl

/-- Status is passive if and only if nothing it was answered upsets it. -/
theorem statusRun_passive_iff (player : Player sig SystemException)
    (jsonOutput probe clients : Bool) (probeTimeout : Option Int) :
    let run := statusRun setting player jsonOutput probe clients probeTimeout
    Passive run.1 run.2 ↔ ∀ move ∈ run.2, moveUpsets setting move = false := by
  intro run
  obtain ⟨allowed, ended⟩ := Follows.play player
    (observes_statusCommand : Follows (observer setting) _ _
      (statusCommand setting jsonOutput probe clients probeTimeout) _) Monitor.allowsAll_nil
  have same : run = (statusCommand setting jsonOutput probe clients probeTimeout).play player [] :=
    rfl
  rw [← same] at allowed ended
  clear_value run
  obtain ⟨outcome, moves⟩ := run
  have calm : (∀ move ∈ moves, moveUpsets setting move = false) ↔
      (observer setting).trace false moves = false := by
    rw [trace_upset, List.any_eq_false]
    simp only [Bool.not_eq_true]
  rw [calm]
  cases outcome with
  | error exc =>
      have bad : (observer setting).trace false moves = true := ended
      rw [bad]
      constructor
      · rintro ⟨⟨result, ⟨⟩⟩, -⟩
      · exact nofun
  | ok result =>
      have quiet : (observer setting).trace false moves = false := ended
      refine ⟨fun _ => quiet, fun _ => ⟨⟨result, rfl⟩, fun w outcome among => ?_⟩⟩
      obtain ⟨upset, allowed⟩ := allowed.of_mem among
      exact allowed

end Status

/-! ## Both commands -/

/--
With appends that meet no fault: `doctor --recover` is truthful if and only if no call raised,
what it read was text, no heartbeat of a live attachment overflowed, each body was an object or
failed in an expected way, and the texts that it was given fit into its events; and status is
passive if and only if no call raised, what it read was text, and the bodies were such, with a
state that is `null` or a string.
-/
theorem operator_commands_iff (setting : Setting) (player : Player sig SystemException)
    (jsonOutput probe clients : Bool) (probeTimeout recoverTimeout statusTimeout : Option Int)
    (written : ∀ moves event, player.wait moves (.appendRuntimeEvent event) = .ok none) :
    let doctor := doctorRun setting player jsonOutput probeTimeout recoverTimeout
    let status := statusRun setting player jsonOutput probe clients statusTimeout
    (Truthful setting doctor.1 doctor.2 ↔
      (∀ move ∈ doctor.2, moveTroubles setting move = false) ∧
        Fitting setting (given setting doctor.2)) ∧
    (Passive status.1 status.2 ↔ ∀ move ∈ status.2, moveUpsets setting move = false) :=
  ⟨doctorRun_truthful_iff setting player jsonOutput probeTimeout recoverTimeout written,
    statusRun_passive_iff player jsonOutput probe clients statusTimeout⟩

/-- Three texts, as a loader reads them. -/
def sampleLoads (text : String) : Except LoadFailure Json :=
  if text = "[]" then .ok (.arr [])
  else if text = "\x7b\"state\":1\x7d" then .ok (.obj [("state", .num 1 0)])
  else if text = "\x7b\"state\":\"ready\"\x7d" then .ok (.obj [("state", .str "ready")])
  else .error (.decodeError "Expecting value: line 1 column 1 (char 0)")

def sampleLockfile : LockfileData :=
  ⟨4321, "127.0.0.1", 8765, "token", "2026-01-01T00:00:00+00:00", "tela.yaml", "0.1.0"⟩

/-- The heartbeat is the first minute of the calendar, almost a day east of Greenwich. -/
def sampleIsoFormat (text : String) : Option IsoDatetime :=
  if text = "0001-01-01T00:00:00+23:59" then some ⟨0, some 86340000000⟩ else none

def sampleSetting : Setting where
  floatText _ _ := []
  loads := sampleLoads
  validateLockfile _ := .ok sampleLockfile
  validateEvent _ := none
  fromIsoFormat := sampleIsoFormat
  remotePayload _ := none

/-- A live gateway that serves a body, and some attachments. -/
def samplePlayer (body : List UInt8) (attachments : List ClientAttachment) :
    Player sig SystemException where
  act _ a := nomatch a
  wait _ w :=
    match w with
    | .readLockfile => .ok (.content [] false)
    | .readRuntimeEvents => .ok none
    | .readAttachmentRegistry => .ok (.ok ⟨attachments⟩)
    | .now => .ok 63902822400000000
    | .timestamp => .ok ⟨"2026-01-01T00:00:00+00:00", by decide⟩
    | .probe _ _ => .ok (.ok (.ok body))
    | .query _ => .ok (.ok (.ok body))
    | .deleteLockfileIfStale => .ok ⟨some true, none⟩
    | .autostartServe _ _ => .ok ⟨none, some "AUTOSTART_FAILED"⟩
    | .waitForLiveLockfile _ _ => .ok ⟨none, some "TIMEOUT"⟩
    | .appendRuntimeEvent _ => .ok none
    | .signal _ => .ok true
    | .findOrphanedServeProcesses => .ok []
    | .printDoctor _ _ => .ok ()
    | .printStatus _ _ _ => .ok ()
  lapses _ _ _ := false

def readyBody : List UInt8 := Text.utf8 "\x7b\"state\":\"ready\"\x7d"

theorem operator_commands_iff_ready :
    let player := samplePlayer readyBody []
    let doctor := doctorRun sampleSetting player true none none
    let status := statusRun sampleSetting player true true false none
    Truthful sampleSetting doctor.1 doctor.2 ∧ Passive status.1 status.2 := by
  intro player doctor status
  have both := operator_commands_iff sampleSetting player true true false none none none
    fun _ _ => rfl
  refine ⟨both.1.mpr ⟨?_, ?_⟩, both.2.mpr ?_⟩
  · decide +kernel
  · decide +kernel
  · decide +kernel

/-- A live attachment whose heartbeat is out of the range of dates once it is in UTC. -/
def farAttachment : ClientAttachment where
  clientId := "far"
  clientKind := "stdio"
  displayState := .healthy
  runtimeState := .active
  recoverability := .recoverable
  connectedAt := "2026-01-01T00:00:00+00:00"
  lastHeartbeat := "0001-01-01T00:00:00+23:59"

theorem not_returned {outcome : Except SystemException (Except String Int)}
    (raised : outcome.isOk = false) : ¬∃ result, outcome = .ok result := by
  rintro ⟨result, rfl⟩
  cases raised

theorem operator_commands_violated :
    -- The body is `[]`.
    (let player := samplePlayer (Text.utf8 "[]") []
      let doctor := doctorRun sampleSetting player true none none
      let status := statusRun sampleSetting player true true false none
      ¬Truthful sampleSetting doctor.1 doctor.2 ∧ ¬Passive status.1 status.2) ∧
    -- The state is a number.
    (let player := samplePlayer (Text.utf8 "\x7b\"state\":1\x7d") []
      let status := statusRun sampleSetting player true true false none
      ¬Passive status.1 status.2) ∧
    -- The gateway is ready, and the heartbeat is early and far east.
    (let player := samplePlayer readyBody [farAttachment]
      let doctor := doctorRun sampleSetting player true none none
      ¬Truthful sampleSetting doctor.1 doctor.2) := by
  refine ⟨⟨?_, ?_⟩, ?_, ?_⟩
  · exact fun truthful => not_returned (by decide +kernel) truthful.returned
  · exact fun passive => not_returned (by decide +kernel) passive.returned
  · exact fun passive => not_returned (by decide +kernel) passive.returned
  · exact fun truthful => not_returned (by decide +kernel) truthful.returned

end Tela.Operator
