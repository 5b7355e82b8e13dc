import Tela.Library.Scheduler

/-!
# Monitors over scheduled coroutines

A monitor reads the acts and waits of one coroutine and keeps a trace value for
it. `Follows` is its verification condition, by recursion over the coroutine.
When every program of a world follows the monitor, an invariant over all trace
values, the pending waits and the shared state needs one proof for each kind of
event.
-/

namespace Coop

/-- Trace values of one coroutine, and what it may do at each. -/
structure Monitor (S : Sig) (G : Type) where
  may : S.Act → G → Prop
  after : (a : S.Act) → S.Val a → G → G
  mayWait : S.Wait → G → Prop
  /-- The value after a wait; no result stands for an exception or a lapse. -/
  woken : (w : S.Wait) → Option (S.Res w) → G → G
  /-- The coroutine may wait under a time limit; once allowed, it stays allowed. -/
  mayTime : G → Prop
  mayTime_after : ∀ {a v g}, mayTime g → mayTime (after a v g)
  mayTime_woken : ∀ {w r g}, mayTime g → mayTime (woken w r g)

variable {S : Sig} {ε : Type} {G : Type}

/-- Every behaviour of the coroutine from trace value `g` is allowed by the monitor. -/
def Follows {α : Type} (M : Monitor S G) (onRet : α → G → Prop) (onRaise : ε → G → Prop) :
    Coro S ε α → G → Prop
  | .ret value, g => onRet value g
  | .raise exc, g => onRaise exc g
  | .act a next, g => M.may a g ∧ ∀ v, Follows M onRet onRaise (next v) (M.after a v g)
  | .wait w next, g =>
      M.mayWait w g ∧
        ∀ r, Follows M onRet onRaise (next r) (M.woken w r.toOption g)
  | .timed w _ next lapse, g =>
      (M.mayWait w g ∧ M.mayTime g) ∧
        (∀ r, Follows M onRet onRaise (next r) (M.woken w r.toOption g)) ∧
        Follows M onRet onRaise lapse (M.woken w none g)

namespace Follows

variable {α β : Type} {M : Monitor S G}

@[simp] theorem ret_iff {onRet : α → G → Prop} {onRaise : ε → G → Prop} {value : α} {g : G} :
    Follows M onRet onRaise (.ret value) g ↔ onRet value g := Iff.rfl

@[simp] theorem raise_iff {onRet : α → G → Prop} {onRaise : ε → G → Prop} {exc : ε} {g : G} :
    Follows M onRet onRaise (.raise exc) g ↔ onRaise exc g := Iff.rfl

theorem mono {onRet onRet' : α → G → Prop} {onRaise onRaise' : ε → G → Prop}
    {x : Coro S ε α} {g : G} (ret : ∀ value g, onRet value g → onRet' value g)
    (raise : ∀ exc g, onRaise exc g → onRaise' exc g) (follows : Follows M onRet onRaise x g) :
    Follows M onRet' onRaise' x g := by
  induction x generalizing g with
  | ret value => exact ret value g follows
  | raise exc => exact raise exc g follows
  | act a next ih => exact ⟨follows.1, fun v => ih v (follows.2 v)⟩
  | wait w next ih => exact ⟨follows.1, fun r => ih r (follows.2 r)⟩
  | timed w limit next lapse ih ihLapse =>
      exact ⟨follows.1, fun r => ih r (follows.2.1 r), ihLapse follows.2.2⟩

@[simp] theorem bind_iff {onRet : β → G → Prop} {onRaise : ε → G → Prop} {x : Coro S ε α}
    {rest : α → Coro S ε β} {g : G} :
    Follows M onRet onRaise (x.bind rest) g ↔
      Follows M (fun value g => Follows M onRet onRaise (rest value) g) onRaise x g := by
  induction x generalizing g with
  | ret value => rfl
  | raise exc => rfl
  | act a next ih => simp only [Coro.bind, Follows, ih]
  | wait w next ih => simp only [Coro.bind, Follows, ih]
  | timed w limit next lapse ih ihLapse => simp only [Coro.bind, Follows, ih, ihLapse]

@[simp] theorem attempt_iff {onRet : Except ε α → G → Prop} {onRaise : ε → G → Prop}
    {x : Coro S ε α} {g : G} :
    Follows M onRet onRaise x.attempt g ↔
      Follows M (fun value => onRet (.ok value)) (fun exc => onRet (.error exc)) x g := by
  induction x generalizing g with
  | ret value => rfl
  | raise exc => rfl
  | act a next ih => simp only [Coro.attempt, Follows, ih]
  | wait w next ih => simp only [Coro.attempt, Follows, ih]
  | timed w limit next lapse ih ihLapse => simp only [Coro.attempt, Follows, ih, ihLapse]

@[simp] theorem mapRaise_iff {onRet : α → G → Prop} {onRaise : ε → G → Prop} {escape : ε → ε}
    {x : Coro S ε α} {g : G} :
    Follows M onRet onRaise (x.mapRaise escape) g ↔
      Follows M onRet (fun exc => onRaise (escape exc)) x g := by
  induction x generalizing g with
  | ret value => rfl
  | raise exc => rfl
  | act a next ih => simp only [Coro.mapRaise, Follows, ih]
  | wait w next ih => simp only [Coro.mapRaise, Follows, ih]
  | timed w limit next lapse ih ihLapse => simp only [Coro.mapRaise, Follows, ih, ihLapse]

/-- A time limit adds lapses, which the monitor cannot tell from exceptions. -/
theorem within {onRet : α → G → Prop} {onRaise : ε → G → Prop} {limit : Nat} {cancelled : ε}
    {escape : ε → ε} {x : Coro S ε α} {g : G} (timeable : M.mayTime g)
    (follows : Follows M onRet (fun exc g => onRaise exc g ∧ onRaise (escape exc) g) x g) :
    Follows M onRet onRaise (x.within limit cancelled escape) g := by
  have lapsed {y : Coro S ε α} {g : G}
      (inner : Follows M onRet (fun exc g => onRaise exc g ∧ onRaise (escape exc) g) y g) :
      Follows M onRet onRaise (y.mapRaise escape) g :=
    mapRaise_iff.mpr (inner.mono (fun _ _ h => h) fun _ _ h => h.2)
  induction x generalizing g with
  | ret value => exact follows
  | raise exc => exact follows.1
  | act a next ih => exact ⟨follows.1, fun v => ih v (M.mayTime_after timeable) (follows.2 v)⟩
  | wait w next ih =>
      exact ⟨⟨follows.1, timeable⟩, fun r => ih r (M.mayTime_woken timeable) (follows.2 r),
        lapsed (follows.2 (.error cancelled))⟩
  | timed w inner next lapse ih ihLapse =>
      have timed (r : Option (S.Res w)) : M.mayTime (M.woken w r g) := M.mayTime_woken timeable
      unfold Coro.within
      split
      · exact ⟨follows.1, fun r => ih r (timed _) (follows.2.1 r), ihLapse (timed _) follows.2.2⟩
      · exact ⟨follows.1, fun r => ih r (timed _) (follows.2.1 r),
          lapsed (follows.2.1 (.error cancelled))⟩

@[simp] theorem ofExcept_iff {onRet : α → G → Prop} {onRaise : ε → G → Prop}
    {outcome : Except ε α} {g : G} :
    Follows M onRet onRaise (Coro.ofExcept outcome) g ↔
      match outcome with
      | .ok value => onRet value g
      | .error exc => onRaise exc g := by
  cases outcome <;> rfl

@[simp] theorem perform_iff {a : S.Act} {onRet : S.Val a → G → Prop} {onRaise : ε → G → Prop}
    {g : G} :
    Follows M onRet onRaise (Coro.perform a) g ↔ M.may a g ∧ ∀ v, onRet v (M.after a v g) :=
  Iff.rfl

@[simp] theorem await_iff {w : S.Wait} {onRet : S.Res w → G → Prop} {onRaise : ε → G → Prop}
    {g : G} :
    Follows M onRet onRaise (Coro.await w) g ↔
      M.mayWait w g ∧
        (∀ result, onRet result (M.woken w (some result) g)) ∧
        ∀ exc, onRaise exc (M.woken w none g) := by
  change (_ ∧ _) ↔ _
  refine and_congr_right fun _ => ⟨fun h => ⟨fun result => h (.ok result), fun exc => h (.error exc)⟩, ?_⟩
  rintro ⟨onOk, onError⟩ (exc | result)
  · exact onError exc
  · exact onOk result

theorem ensure {onRet : α → G → Prop} {onRaise : ε → G → Prop} {x : Coro S ε α}
    {final : Coro S ε Unit} {g : G}
    (follows : Follows M
      (fun value g => Follows M (fun _ => onRet value) onRaise final g)
      (fun exc g => Follows M (fun _ => onRaise exc) onRaise final g) x g) :
    Follows M onRet onRaise (x.ensure final) g := by
  unfold Coro.ensure
  simp only [bind_iff, attempt_iff, ofExcept_iff]
  exact follows

/-- A loop keeps what each of its rounds keeps. -/
theorem forM {items : List α} {body : α → Coro S ε Unit} {keep : G → Prop}
    {onRaise : ε → G → Prop} {g : G} (holds : keep g)
    (round : ∀ item ∈ items, ∀ g, keep g → Follows M (fun _ => keep) onRaise (body item) g) :
    Follows M (fun _ => keep) onRaise (items.forM body) g := by
  induction items generalizing g with
  | nil => exact holds
  | cons item rest ih =>
      have first := round item (List.mem_cons_self ..) g holds
      change Follows M _ _ ((body item).bind fun _ => rest.forM body) g
      refine bind_iff.mpr (first.mono (fun _ g kept => ?_) fun _ _ h => h)
      exact ih kept fun other member => round other (List.mem_cons_of_mem _ member)

end Follows

/-- A monitor that every program of the world follows. -/
structure Discipline (W : World S ε) (G : Type) extends Monitor S G where
  /-- The trace value of a task that is not there. -/
  idle : G
  start : TaskId → W.Req → G
  done : G → Prop
  follows : ∀ task request,
    Follows toMonitor (fun _ => done) (fun _ => done) (W.program task request)
      (start task request)

/-- The trace values, the pending waits and the shared state. -/
structure Watched (W : World S ε) (G : Type) where
  traces : TaskId → G
  waits : TaskId → Option S.Wait
  state : W.State

namespace Discipline

variable {W : World S ε} (D : Discipline W G)

/-- A continuation that follows the monitor to the end of its task. -/
abbrev Continues (x : Coro S ε Unit) (g : G) : Prop :=
  Follows D.toMonitor (fun _ => D.done) (fun _ => D.done) x g

/-- A task that does not run has stopped at a wait or is not there. -/
def Stable (v : Watched W G) (task : TaskId) : Prop :=
  match v.waits task with
  | some w => D.mayWait w (v.traces task)
  | none => v.traces task = D.idle

/-- A suspended task that follows the monitor. -/
structure Pending (p : Parked S ε) (g : G) : Prop where
  stopped : D.mayWait p.point g
  next : ∀ r, D.Continues (p.next r) (D.woken p.point r.toOption g)
  timer : ∀ limit rest, p.timer = some (limit, rest) →
    D.mayTime g ∧ D.Continues rest (D.woken p.point none g)

/-- The trace values fit the tasks of a configuration. -/
structure Tracks (c : Config W) (v : Watched W G) : Prop where
  state : v.state = c.state
  waits : v.waits = c.waits
  parked : ∀ task p, c.parked task = some p → D.Pending p (v.traces task)
  running : ∀ task x, c.running = some (task, x) →
    D.Continues x (v.traces task) ∧ c.parked task = none
  absent : ∀ task, c.parked task = none → (∀ x, c.running ≠ some (task, x)) →
    v.traces task = D.idle
  unused : ∀ task, c.fresh ≤ task →
    c.parked task = none ∧ ∀ x, c.running ≠ some (task, x)

/-- `Inv` survives every event of a run whose steps meet `ok`; `given` is known before it. -/
structure Keeps (ok : Guard W) (given Inv : Watched W G → Prop) : Prop where
  admitted : ∀ v task request state, given v → Inv v → (∀ other, D.Stable v other) →
    v.traces task = D.idle → v.waits task = none →
    ok v.state v.waits (.admitted task request) → W.accept task request v.state = some state →
    Inv ⟨assign v.traces task (D.start task request), v.waits, state⟩
  executed : ∀ v task a, given v → Inv v → (∀ other, other ≠ task → D.Stable v other) →
    v.waits task = none → ok v.state v.waits (.executed task a) → D.may a (v.traces task) →
    Inv ⟨assign v.traces task (D.after a (W.exec task a v.state).1 (v.traces task)), v.waits,
      (W.exec task a v.state).2⟩
  passed : ∀ v task w result state, given v → Inv v →
    (∀ other, other ≠ task → D.Stable v other) → v.waits task = none →
    ok v.state v.waits (.passed task w) → D.mayWait w (v.traces task) →
    W.enter task w v.state = (some result, state) →
    Inv ⟨assign v.traces task (D.woken w (some result) (v.traces task)), v.waits, state⟩
  suspended : ∀ v task w state, given v → Inv v →
    (∀ other, other ≠ task → D.Stable v other) → v.waits task = none →
    ok v.state v.waits (.suspended task w) → D.mayWait w (v.traces task) →
    W.enter task w v.state = (none, state) →
    Inv ⟨v.traces, assign v.waits task (some w), state⟩
  woken : ∀ v task w outcome state, given v → Inv v → (∀ other, D.Stable v other) →
    v.waits task = some w → D.mayWait w (v.traces task) →
    ok v.state v.waits (.woken task w outcome) → W.wake task w outcome v.state = some state →
    Inv ⟨assign v.traces task (D.woken w outcome.toOption (v.traces task)),
      assign v.waits task none, state⟩
  lapsed : ∀ v task w limit state, given v → Inv v → (∀ other, D.Stable v other) →
    v.waits task = some w → D.mayWait w (v.traces task) → D.mayTime (v.traces task) →
    ok v.state v.waits (.lapsed task w) → W.lapse task w limit v.state = some state →
    Inv ⟨assign v.traces task (D.woken w none (v.traces task)), assign v.waits task none, state⟩
  finished : ∀ v task, given v → Inv v → (∀ other, other ≠ task → D.Stable v other) →
    v.waits task = none → ok v.state v.waits (.finished task) → D.done (v.traces task) →
    Inv ⟨assign v.traces task D.idle, v.waits, v.state⟩

variable {D}

theorem tracks_initial (state : W.State) :
    D.Tracks (.initial W state) ⟨fun _ => D.idle, fun _ => none, state⟩ where
  state := rfl
  waits := rfl
  parked _ _ waiting := by cases waiting
  running _ _ running := by cases running
  absent _ _ _ := rfl
  unused _ _ := ⟨rfl, fun _ running => by cases running⟩

namespace Tracks

variable {c : Config W} {v : Watched W G} {task : TaskId} {x rest : Coro S ε Unit}

theorem waits_of_parked (tracks : D.Tracks c v) {p : Parked S ε}
    (waiting : c.parked task = some p) : v.waits task = some p.point := by
  rw [tracks.waits, Config.waits, waiting, Option.map_some]

theorem waits_of_not_parked (tracks : D.Tracks c v) (gone : c.parked task = none) :
    v.waits task = none := by
  rw [tracks.waits, Config.waits, gone, Option.map_none]

theorem stable (tracks : D.Tracks c v) (elsewhere : ∀ x, c.running ≠ some (task, x)) :
    D.Stable v task := by
  unfold Stable
  cases waiting : c.parked task with
  | none =>
      rw [tracks.waits_of_not_parked waiting]
      exact tracks.absent task waiting elsewhere
  | some p =>
      rw [tracks.waits_of_parked waiting]
      exact (tracks.parked task p waiting).stopped

theorem stable_of_running (tracks : D.Tracks c v) (running : c.running = some (task, x))
    {other : TaskId} (different : other ≠ task) : D.Stable v other := by
  refine tracks.stable fun y now => different ?_
  rw [running] at now
  exact (Prod.mk.inj (Option.some.inj now)).1.symm

theorem stable_of_idle (tracks : D.Tracks c v) (idle : c.running = none) (other : TaskId) :
    D.Stable v other :=
  tracks.stable fun _ now => by rw [idle] at now; cases now

/-- The running task moves on; nothing else changes. -/
theorem proceed (tracks : D.Tracks c v) (running : c.running = some (task, x)) {g : G}
    (state : W.State) (follows : D.Continues rest g) :
    D.Tracks (c.proceed task state rest) ⟨assign v.traces task g, v.waits, state⟩ where
  state := rfl
  waits := tracks.waits
  parked other p waiting := by
    have different : other ≠ task := by
      rintro rfl
      have gone := (tracks.running _ _ running).2
      simp only [Config.proceed] at waiting
      simp [gone] at waiting
    simpa [assign_of_ne _ different] using tracks.parked other p waiting
  running other y now := by
    obtain ⟨rfl, rfl⟩ : task = other ∧ rest = y := by
      simpa [Config.proceed] using now
    exact ⟨by simpa using follows, (tracks.running _ _ running).2⟩
  absent other gone elsewhere := by
    have different : other ≠ task := by
      rintro rfl
      exact elsewhere rest rfl
    simp only [assign_of_ne _ different]
    refine tracks.absent other gone fun y now => different ?_
    rw [running] at now
    exact (Prod.mk.inj (Option.some.inj now)).1.symm
  unused other above := by
    obtain ⟨gone, elsewhere⟩ := tracks.unused other above
    refine ⟨gone, fun y now => elsewhere x ?_⟩
    obtain ⟨rfl, rfl⟩ : task = other ∧ rest = y := by
      simpa [Config.proceed] using now
    exact running

theorem suspend (tracks : D.Tracks c v) (running : c.running = some (task, x))
    (state : W.State) {p : Parked S ε} (pending : D.Pending p (v.traces task)) :
    D.Tracks (c.suspend task state p)
      ⟨v.traces, assign v.waits task (some p.point), state⟩ where
  state := rfl
  waits := by
    funext other
    by_cases same : other = task
    · subst same
      simp [Config.waits, Config.suspend]
    · simp [Config.waits, Config.suspend, assign_of_ne _ same, tracks.waits]
  parked other q waiting := by
    by_cases same : other = task
    · subst same
      obtain rfl : p = q := by simpa [Config.suspend] using waiting
      exact pending
    · refine tracks.parked other q ?_
      simpa [Config.suspend, assign_of_ne _ same] using waiting
  running other y now := by simp [Config.suspend] at now
  absent other gone _ := by
    have different : other ≠ task := by
      rintro rfl
      simp [Config.suspend] at gone
    refine tracks.absent other ?_ fun y now => different ?_
    · simpa [Config.suspend, assign_of_ne _ different] using gone
    · rw [running] at now
      exact (Prod.mk.inj (Option.some.inj now)).1.symm
  unused other above := by
    obtain ⟨gone, elsewhere⟩ := tracks.unused other above
    have different : other ≠ task := by
      rintro rfl
      exact elsewhere x running
    refine ⟨?_, fun y now => by simp [Config.suspend] at now⟩
    simpa [Config.suspend, assign_of_ne _ different] using gone

theorem resume (tracks : D.Tracks c v) (idle : c.running = none) {p : Parked S ε}
    (waiting : c.parked task = some p) {g : G} (state : W.State)
    (follows : D.Continues rest g) :
    D.Tracks (c.resume task state rest)
      ⟨assign v.traces task g, assign v.waits task none, state⟩ where
  state := rfl
  waits := by
    funext other
    by_cases same : other = task
    · subst same
      simp [Config.waits, Config.resume]
    · simp [Config.waits, Config.resume, assign_of_ne _ same, tracks.waits]
  parked other q found := by
    have different : other ≠ task := by
      rintro rfl
      simp [Config.resume] at found
    simp only [assign_of_ne _ different]
    refine tracks.parked other q ?_
    simpa [Config.resume, assign_of_ne _ different] using found
  running other y now := by
    obtain ⟨rfl, rfl⟩ : task = other ∧ rest = y := by
      simpa [Config.resume] using now
    exact ⟨by simpa using follows, by simp [Config.resume]⟩
  absent other gone elsewhere := by
    have different : other ≠ task := by
      rintro rfl
      exact elsewhere rest rfl
    simp only [assign_of_ne _ different]
    refine tracks.absent other ?_ fun y now => ?_
    · simpa [Config.resume, assign_of_ne _ different] using gone
    · rw [idle] at now
      cases now
  unused other above := by
    obtain ⟨gone, _⟩ := tracks.unused other above
    have different : other ≠ task := by
      rintro rfl
      rw [waiting] at gone
      cases gone
    refine ⟨?_, fun y now => different ?_⟩
    · simpa [Config.resume, assign_of_ne _ different] using gone
    · exact ((Prod.mk.inj (Option.some.inj now)).1).symm

theorem finish (tracks : D.Tracks c v) (running : c.running = some (task, x)) :
    D.Tracks { c with running := none } ⟨assign v.traces task D.idle, v.waits, c.state⟩ where
  state := rfl
  waits := tracks.waits
  parked other p waiting := by
    have different : other ≠ task := by
      rintro rfl
      rw [(tracks.running _ _ running).2] at waiting
      cases waiting
    simpa [assign_of_ne _ different] using tracks.parked other p waiting
  running other y now := by cases now
  absent other gone _ := by
    by_cases same : other = task
    · subst same
      simp
    · simp only [assign_of_ne _ same]
      refine tracks.absent other gone fun y now => same ?_
      rw [running] at now
      exact (Prod.mk.inj (Option.some.inj now)).1.symm
  unused other above := ⟨(tracks.unused other above).1, fun y now => by cases now⟩

theorem enroll (tracks : D.Tracks c v) (idle : c.running = none) (request : W.Req)
    (state : W.State) :
    D.Tracks
      { c with
        state := state, running := some (c.fresh, W.program c.fresh request),
        fresh := c.fresh + 1 }
      ⟨assign v.traces c.fresh (D.start c.fresh request), v.waits, state⟩ where
  state := rfl
  waits := tracks.waits
  parked other p waiting := by
    have different : other ≠ c.fresh := by
      rintro rfl
      rw [(tracks.unused c.fresh (Nat.le_refl _)).1] at waiting
      cases waiting
    simpa [assign_of_ne _ different] using tracks.parked other p waiting
  running other y now := by
    obtain ⟨rfl, rfl⟩ := Prod.mk.inj (Option.some.inj now)
    exact ⟨by simpa using D.follows c.fresh request, (tracks.unused _ (Nat.le_refl _)).1⟩
  absent other gone elsewhere := by
    have different : other ≠ c.fresh := by
      rintro rfl
      exact elsewhere _ rfl
    simp only [assign_of_ne _ different]
    refine tracks.absent other gone fun y now => ?_
    rw [idle] at now
    cases now
  unused other above := by
    refine ⟨(tracks.unused other (Nat.le_of_succ_le above)).1, fun y now => ?_⟩
    have same : c.fresh = other := (Prod.mk.inj (Option.some.inj now)).1
    exact Nat.not_succ_le_self c.fresh (same ▸ above)

/-- With nothing running and nothing parked below the next task, nothing is left. -/
theorem quiescent (tracks : D.Tracks c v) (idle : c.running = none)
    (all : ∀ task < c.fresh, c.parked task = none) : c.Quiescent := by
  refine ⟨idle, fun task => ?_⟩
  rcases Nat.lt_or_ge task c.fresh with used | unused
  · exact all task used
  · exact (tracks.unused task unused).1

theorem traces_of_quiescent (tracks : D.Tracks c v) (quiet : c.Quiescent) (task : TaskId) :
    v.traces task = D.idle :=
  tracks.absent task (quiet.2 task) fun x now => by
    rw [quiet.1] at now
    cases now

/-- An act is taken in a trace value that allows it. -/
theorem may_of_step {c' : Config W} {a : S.Act} (tracks : D.Tracks c v)
    (taken : Step c (.executed task a) c') : D.may a (v.traces task) := by
  cases taken with
  | executed running => exact (tracks.running _ _ running).1.1

end Tracks

namespace Keeps

variable {ok : Guard W} {given Inv : Watched W G → Prop}

/-- One step keeps the invariant and the fit with the tasks. -/
theorem step (keeps : D.Keeps ok given Inv) {c c' : Config W} {v : Watched W G}
    {event : Event W} (tracks : D.Tracks c v) (base : given v) (holds : Inv v)
    (met : ok c.state c.waits event) (taken : Step c event c') :
    ∃ v', D.Tracks c' v' ∧ Inv v' := by
  obtain ⟨traces, waits, state⟩ := v
  obtain rfl : state = c.state := tracks.state
  obtain rfl : waits = c.waits := tracks.waits
  cases taken with
  | admitted idle accepted =>
      have unused := tracks.unused c.fresh (Nat.le_refl _)
      exact ⟨_, tracks.enroll idle _ _,
        keeps.admitted _ _ _ _ base holds (tracks.stable_of_idle idle)
          (tracks.absent _ unused.1 unused.2) (tracks.waits_of_not_parked unused.1) met accepted⟩
  | executed running =>
      obtain ⟨follows, gone⟩ := tracks.running _ _ running
      exact ⟨_, tracks.proceed running _ (follows.2 _),
        keeps.executed _ _ _ base holds (fun _ => tracks.stable_of_running running)
          (tracks.waits_of_not_parked gone) met follows.1⟩
  | passed running entered =>
      obtain ⟨follows, gone⟩ := tracks.running _ _ running
      exact ⟨_, tracks.proceed running _ (follows.2 (.ok _)),
        keeps.passed _ _ _ _ _ base holds (fun _ => tracks.stable_of_running running)
          (tracks.waits_of_not_parked gone) met follows.1 entered⟩
  | suspended running entered =>
      obtain ⟨follows, gone⟩ := tracks.running _ _ running
      exact ⟨_, tracks.suspend running _ ⟨follows.1, follows.2, by simp⟩,
        keeps.suspended _ _ _ _ base holds (fun _ => tracks.stable_of_running running)
          (tracks.waits_of_not_parked gone) met follows.1 entered⟩
  | passedTimed running entered =>
      obtain ⟨follows, gone⟩ := tracks.running _ _ running
      exact ⟨_, tracks.proceed running _ (follows.2.1 (.ok _)),
        keeps.passed _ _ _ _ _ base holds (fun _ => tracks.stable_of_running running)
          (tracks.waits_of_not_parked gone) met follows.1.1 entered⟩
  | suspendedTimed running entered =>
      obtain ⟨⟨may, next, lapse⟩, gone⟩ := tracks.running _ _ running
      exact ⟨_, tracks.suspend running _ ⟨may.1, next, by
          rintro limit rest timer
          cases timer
          exact ⟨may.2, lapse⟩⟩,
        keeps.suspended _ _ _ _ base holds (fun _ => tracks.stable_of_running running)
          (tracks.waits_of_not_parked gone) met may.1 entered⟩
  | woken idle waiting ended =>
      have pending := tracks.parked _ _ waiting
      exact ⟨_, tracks.resume idle waiting _ (pending.next _),
        keeps.woken _ _ _ _ _ base holds (tracks.stable_of_idle idle)
          (tracks.waits_of_parked waiting) pending.stopped met ended⟩
  | lapsed idle waiting timer ended =>
      have pending := tracks.parked _ _ waiting
      obtain ⟨timeable, follows⟩ := pending.timer _ _ timer
      exact ⟨_, tracks.resume idle waiting _ follows,
        keeps.lapsed _ _ _ _ _ base holds (tracks.stable_of_idle idle)
          (tracks.waits_of_parked waiting) pending.stopped timeable met ended⟩
  | returned running =>
      obtain ⟨follows, gone⟩ := tracks.running _ _ running
      exact ⟨_, tracks.finish running,
        keeps.finished _ _ base holds (fun _ => tracks.stable_of_running running)
          (tracks.waits_of_not_parked gone) met follows⟩
  | raised running =>
      obtain ⟨follows, gone⟩ := tracks.running _ _ running
      exact ⟨_, tracks.finish running,
        keeps.finished _ _ base holds (fun _ => tracks.stable_of_running running)
          (tracks.waits_of_not_parked gone) met follows⟩

/-- An invariant holds wherever a run arrives. -/
theorem reached (keeps : D.Keeps ok (fun _ => True) Inv) {start : W.State}
    (initially : Inv ⟨fun _ => D.idle, fun _ => none, start⟩) {c : Config W}
    (run : Run start ok c) : ∃ v, D.Tracks c v ∧ Inv v := by
  induction run with
  | start => exact ⟨_, tracks_initial start, initially⟩
  | step _ met taken ih =>
      obtain ⟨v, tracks, holds⟩ := ih
      exact keeps.step tracks trivial holds met taken

/-- Stack a second invariant on a first one. -/
theorem and {J : Watched W G → Prop} (first : D.Keeps ok given Inv)
    (second : D.Keeps ok (fun v => given v ∧ Inv v) J) :
    D.Keeps ok given fun v => Inv v ∧ J v where
  admitted v task request state base holds stable idle free met accepted :=
    ⟨first.admitted v task request state base holds.1 stable idle free met accepted,
      second.admitted v task request state ⟨base, holds.1⟩ holds.2 stable idle free met accepted⟩
  executed v task a base holds stable free met may :=
    ⟨first.executed v task a base holds.1 stable free met may,
      second.executed v task a ⟨base, holds.1⟩ holds.2 stable free met may⟩
  passed v task w result state base holds stable free met may entered :=
    ⟨first.passed v task w result state base holds.1 stable free met may entered,
      second.passed v task w result state ⟨base, holds.1⟩ holds.2 stable free met may entered⟩
  suspended v task w state base holds stable free met may entered :=
    ⟨first.suspended v task w state base holds.1 stable free met may entered,
      second.suspended v task w state ⟨base, holds.1⟩ holds.2 stable free met may entered⟩
  woken v task w outcome state base holds stable waiting may met ended :=
    ⟨first.woken v task w outcome state base holds.1 stable waiting may met ended,
      second.woken v task w outcome state ⟨base, holds.1⟩ holds.2 stable waiting may met ended⟩
  lapsed v task w limit state base holds stable waiting may timeable met ended :=
    ⟨first.lapsed v task w limit state base holds.1 stable waiting may timeable met ended,
      second.lapsed v task w limit state ⟨base, holds.1⟩ holds.2 stable waiting may timeable met
        ended⟩
  finished v task base holds stable free met done :=
    ⟨first.finished v task base holds.1 stable free met done,
      second.finished v task ⟨base, holds.1⟩ holds.2 stable free met done⟩

/-- What is known may be more than what is used. -/
theorem assume {given' : Watched W G → Prop} (keeps : D.Keeps ok given Inv)
    (known : ∀ v, given' v → given v) : D.Keeps ok given' Inv where
  admitted v task request state base := keeps.admitted v task request state (known v base)
  executed v task a base := keeps.executed v task a (known v base)
  passed v task w result state base := keeps.passed v task w result state (known v base)
  suspended v task w state base := keeps.suspended v task w state (known v base)
  woken v task w outcome state base := keeps.woken v task w outcome state (known v base)
  lapsed v task w limit state base := keeps.lapsed v task w limit state (known v base)
  finished v task base := keeps.finished v task (known v base)

end Keeps

end Discipline

end Coop
