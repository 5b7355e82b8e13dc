import Tela.Library.Play
import Tela.Shell.StartupCoordinator

/-!
# Startup arbitration

Whatever the callbacks, the path functions and the other processes answer, a
lockfile that discovery returns is owned by the requested configuration, a gateway
is only started under its startup lock, and no startup lock is left held.
-/

namespace Tela.Startup

open Coop (Coro Follows Monitor Player Move)

/-- Where a discovery stands after its moves so far. -/
structure Standing where
  /-- What the path functions said, newest first. -/
  seen : List Paths := []
  /-- The lockfile that was handed over last. -/
  last : Option LockfileData := none
  /-- An owned lockfile was seen since the last try for the lock. -/
  owned : Bool := false
  held : List LockHandle := []
  started : Nat := 0

def handed (reply : Reply LockfileData) : Option LockfileData :=
  if reply.error.isSome then none else reply.value

/-- By these paths the requested configuration owns the lockfile. -/
def isOwned (requestedConfigPath : String) (paths : Paths) (lockfile : LockfileData) : Bool :=
  match lockfileOwnedByConfig paths lockfile requestedConfigPath with
  | .ok (.ok true) => true
  | _ => false

/-- What a call changes; no result stands for an exception. -/
def afterCall (requestedConfigPath : String) : (w : Call) → Option w.Result → Standing → Standing
  | .look, some paths, g =>
      { g with
        seen := paths :: g.seen
        owned := g.owned || g.last.any (isOwned requestedConfigPath paths) }
  | .readLockfile, some reply, g => { g with last := handed reply }
  | .waitForLiveLockfile _ _, some reply, g => { g with last := handed reply }
  | .autostartServe _ _, _, g => { g with started := g.started + 1 }
  | .openLock _, _, g => { g with owned := false }
  | .flock handle, some true, g => { g with held := handle :: g.held }
  | .unlock handle, some _, g => { g with held := g.held.filter (· ≠ handle) }
  | .close handle, _, g => { g with held := g.held.filter (· ≠ handle) }
  | _, _, g => g

/-- The lock file of the configuration, by paths that were seen, is locked. -/
def Standing.Leads (names : LockNames) (requestedConfigPath : String) (g : Standing) : Prop :=
  ∃ handle ∈ g.held, ∃ paths ∈ g.seen,
    startupLockPath names paths requestedConfigPath = .ok (.ok handle.path)

/-- By the paths seen last the requested configuration owns the lockfile. -/
def Standing.Verified (requestedConfigPath : String) (lockfile : LockfileData) (g : Standing) :
    Prop :=
  ∃ paths, g.seen.head? = some paths ∧
    lockfileOwnedByConfig paths lockfile requestedConfigPath = .ok (.ok true)

/-- A gateway is started by a leader that saw no owned lockfile, and three times at most. -/
def mayCall (names : LockNames) (requestedConfigPath : String) : Call → Standing → Prop
  | .autostartServe configPath _, g =>
      configPath = requestedConfigPath ∧ g.Leads names requestedConfigPath ∧ g.owned = false ∧
        g.started < startRaceRetries
  | _, _ => True

def monitor (names : LockNames) (requestedConfigPath : String) : Monitor sig Standing where
  may _ _ := True
  after a _ _ := nomatch a
  mayWait := mayCall names requestedConfigPath
  woken := afterCall requestedConfigPath
  mayTime _ := False
  mayTime_after := id
  mayTime_woken := id

variable {names : LockNames} {requested : String} {α : Type}

theorem follows_sys {w : Call} {g : Standing} {onRet : w.Result → Standing → Prop}
    {onRaise : SystemException → Standing → Prop} (may : mayCall names requested w g)
    (ok : ∀ result, onRet result (afterCall requested w (some result) g))
    (failed : ∀ exc, onRaise exc (afterCall requested w none g)) :
    Follows (monitor names requested) onRet onRaise (sys w) g :=
  Follows.await_iff.mpr ⟨may, ok, failed⟩

theorem follows_bind {β : Type} {x : Prog α} {rest : α → Prog β} {g : Standing}
    {mid : α → Standing → Prop} {onRet : β → Standing → Prop}
    {onRaise : SystemException → Standing → Prop}
    (first : Follows (monitor names requested) mid onRaise x g)
    (second : ∀ value g, mid value g → Follows (monitor names requested) onRet onRaise (rest value) g) :
    Follows (monitor names requested) onRet onRaise (x >>= rest) g :=
  Follows.bind_iff.mpr (first.mono second fun _ _ h => h)

/-! ## Locks -/

/-- Closing a handle gives it back, whatever `close` says. -/
theorem follows_close {handle : LockHandle} {g : Standing}
    (held : g.held = [] ∨ g.held = [handle]) {onRet : Unit → Standing → Prop}
    {onRaise : SystemException → Standing → Prop} (ok : onRet () { g with held := [] })
    (failed : ∀ exc, onRaise exc { g with held := [] }) :
    Follows (monitor names requested) onRet onRaise (sys (.close handle)) g := by
  have given : g.held.filter (· ≠ handle) = [] := by
    obtain none | only := held
    · rw [none, List.filter_nil]
    · simp [only]
  refine follows_sys (by trivial) ?_ ?_
  · intro result
    change onRet result { g with held := g.held.filter (· ≠ handle) }
    rw [given]
    exact ok
  · intro exc
    change onRaise exc { g with held := g.held.filter (· ≠ handle) }
    rw [given]
    exact failed exc

/-- A release gives the lock back however its calls end, and touches nothing else. -/
theorem follows_release {handle : LockHandle} {g : Standing} (held : g.held = [handle])
    {onRet : Unit → Standing → Prop} {onRaise : SystemException → Standing → Prop}
    (ok : onRet () { g with held := [] }) (failed : ∀ exc, onRaise exc { g with held := [] }) :
    Follows (monitor names requested) onRet onRaise (releaseStartupLock handle) g := by
  have given : g.held.filter (· ≠ handle) = [] := by simp [held]
  apply Follows.ensure
  unfold exceptOsError
  simp only [Coro.bind_eq, Follows.bind_iff, Follows.attempt_iff]
  refine follows_sys (by trivial) ?_ ?_
  · intro result
    change Follows _ _ _ (sys (.close handle)) { g with held := g.held.filter (· ≠ handle) }
    rw [given]
    exact follows_close (.inl rfl) ok failed
  · intro exc
    cases exc with
    | osError text => exact follows_close (.inr held) ok failed
    | raised exc => exact follows_close (.inr held) (failed _) failed

/-- What a try for the startup lock leaves. -/
def Tried (names : LockNames) (requested : String) (before : Standing) :
    Except String (Option LockHandle) → Standing → Prop
  | .ok (some handle), g =>
      g.held = [handle] ∧ g.owned = false ∧ g.started = before.started ∧ g.Leads names requested
  | _, g => g.held = [] ∧ g.started = before.started

theorem follows_tryAcquire {g : Standing} (held : g.held = []) :
    Follows (monitor names requested) (Tried names requested g) (fun _ g' => g'.held = [])
      (tryAcquireStartupLock names requested) g := by
  unfold tryAcquireStartupLock
  simp only [Coro.bind_eq, Follows.bind_iff]
  refine follows_sys (by trivial) (fun paths => ?_) (fun _ => held)
  simp only [Follows.ofExcept_iff]
  cases lockPath : startupLockPath names paths requested with
  | error exc => exact held
  | ok result =>
      cases result with
      | error text => exact ⟨held, rfl⟩
      | ok path =>
          dsimp only
          simp only [Follows.bind_iff, Follows.attempt_iff]
          refine follows_sys (by trivial) (fun descriptor => ?_) (fun exc => ?_)
          · have unlocked {onRet : Unit → Standing → Prop} {g' : Standing}
                (held' : g'.held = []) (ok : onRet () { g' with held := [] }) :
                Follows (monitor names requested) onRet (fun _ g' => g'.held = [])
                  (sys (.close ⟨path, descriptor⟩)) g' :=
              follows_close (.inl held') ok fun _ => rfl
            refine follows_sys (by trivial) (fun locked => ?_) (fun exc => ?_)
            · cases locked with
              | true =>
                  refine ⟨congrArg _ held, rfl, rfl, ?_⟩
                  exact ⟨_, List.mem_cons_self .., paths, List.mem_cons_self .., lockPath⟩
              | false =>
                  exact Follows.bind_iff.mpr (unlocked held ⟨rfl, rfl⟩)
            · cases exc with
              | osError text => exact Follows.bind_iff.mpr (unlocked held ⟨rfl, rfl⟩)
              | raised exc => exact held
          · cases exc with
            | osError text => exact ⟨held, rfl⟩
            | raised exc => exact held

/-! ## Lockfiles -/

/-- What a look at a lockfile leaves: the locks, the count, and the verdict it returned. -/
structure Looked (requested : String) (before : Standing)
    (result : Option (Except String LockfileData)) (g : Standing) : Prop where
  held : g.held = before.held
  started : g.started = before.started
  seen : ∀ paths ∈ before.seen, paths ∈ g.seen
  fresh : before.owned = false → result = none → g.owned = false
  verified : ∀ lockfile, result = some (.ok lockfile) → g.Verified requested lockfile

/-- A lockfile that was handed over is returned if the paths say so, and passed over if not. -/
theorem follows_ownedLockfile {reply : Reply LockfileData} {g : Standing}
    (last : g.last = handed reply) :
    Follows (monitor names requested) (Looked requested g) (fun _ g' => g'.held = g.held)
      (ownedLockfile requested reply) g := by
  obtain ⟨value, error⟩ := reply
  cases error with
  | some text => exact ⟨rfl, rfl, fun _ among => among, fun fresh _ => fresh, by rintro _ ⟨⟩⟩
  | none =>
      cases value with
      | none => exact rfl
      | some lockfile =>
          unfold ownedLockfile
          simp only [Coro.bind_eq, Follows.bind_iff, Option.isSome_none, Bool.false_eq_true, if_false,
            assertSome, Follows.ret_iff, Coro.pure_eq]
          refine follows_sys (by trivial) (fun paths => ?_) (fun _ => rfl)
          simp only [Follows.ofExcept_iff]
          have given : g.last = some lockfile := last
          have kept : ∀ other ∈ g.seen, other ∈ paths :: g.seen :=
            fun other among => List.mem_cons_of_mem paths among
          cases verdict : lockfileOwnedByConfig paths lockfile requested with
          | error exc => exact rfl
          | ok result =>
              cases result with
              | error text => exact ⟨rfl, rfl, kept, by rintro _ ⟨⟩, by rintro _ ⟨⟩⟩
              | ok owned =>
                  cases owned with
                  | true =>
                      refine ⟨rfl, rfl, kept, by rintro _ ⟨⟩, ?_⟩
                      rintro _ ⟨⟩
                      exact ⟨paths, rfl, verdict⟩
                  | false =>
                      refine ⟨rfl, rfl, kept, fun fresh _ => ?_, by rintro _ ⟨⟩⟩
                      change (g.owned || g.last.any (isOwned requested paths)) = false
                      rw [fresh, given]
                      simp [isOwned, verdict]

theorem follows_of_looked {reply : Reply LockfileData} {g : Standing}
    {onRet : Option (Except String LockfileData) → Standing → Prop}
    {onRaise : SystemException → Standing → Prop} (last : g.last = handed reply)
    (ok : ∀ result g', Looked requested g result g' → onRet result g')
    (failed : ∀ exc g', g'.held = g.held → onRaise exc g') :
    Follows (monitor names requested) onRet onRaise (ownedLockfile requested reply) g :=
  (follows_ownedLockfile last).mono ok failed

/-- What a wait or an attempt leaves of the locks, and the verdict it returned. -/
structure Awaited (requested : String) (before : Standing)
    (result : Option (Except String LockfileData)) (g : Standing) : Prop where
  held : g.held = before.held
  started : g.started = before.started
  verified : ∀ lockfile, result = some (.ok lockfile) → g.Verified requested lockfile

theorem follows_wait {expectedPid : Option Int} {deadline : Int} {rounds : Nat} {g : Standing} :
    Follows (monitor names requested) (Awaited requested g) (fun _ g' => g'.held = g.held)
      (waitForOwnedLiveLockfile requested expectedPid deadline rounds) g := by
  induction rounds generalizing g with
  | zero => exact ⟨rfl, rfl, by rintro _ ⟨⟩⟩
  | succ rounds ih =>
      have again {g' : Standing} (held : g'.held = g.held) (started : g'.started = g.started) :
          Follows (monitor names requested) (Awaited requested g) (fun _ g' => g'.held = g.held)
            ((sys (.sleep followerWaitPoll)).bind fun _ =>
              waitForOwnedLiveLockfile requested expectedPid deadline rounds) g' := by
        refine Follows.bind_iff.mpr (follows_sys (by trivial) (fun _ => ?_) fun _ => held)
        refine ih.mono (fun result last waited => ?_) fun _ last held' => held'.trans held
        exact ⟨waited.held.trans held, waited.started.trans started, waited.verified⟩
      unfold waitForOwnedLiveLockfile
      simp only [Coro.bind_eq, Follows.bind_iff]
      refine follows_sys (by trivial) (fun now => ?_) (fun _ => rfl)
      split
      · exact ⟨rfl, rfl, by rintro _ ⟨⟩⟩
      · simp only [Follows.bind_iff]
        refine follows_sys (by trivial) (fun reply => ?_) (fun _ => rfl)
        split
        · split
          · refine Follows.bind_iff.mpr (follows_sys (by trivial) (fun _ => ?_) fun _ => rfl)
            exact again rfl rfl
          · exact again rfl rfl
        · cases reply.value with
          | none => exact rfl
          | some lockfile =>
              refine Follows.bind_iff.mpr ?_
              simp only [assertSome, Coro.pure_eq, Follows.ret_iff]
              split
              · exact again rfl rfl
              · refine Follows.bind_iff.mpr (follows_of_looked rfl ?_ fun _ _ held => held)
                intro result g' looked
                cases result with
                | some result => exact ⟨looked.held, looked.started, looked.verified⟩
                | none => exact again looked.held looked.started

/-! ## Attempts -/

/-- What an attempt of the leader or of a follower leaves. -/
structure Attempted (requested : String) (before : Standing) (ended : Attempt) (g : Standing) :
    Prop where
  held : g.held = before.held
  started : g.started ≤ before.started + 1
  verified : ∀ lockfile, ended = .returned (.ok lockfile) → g.Verified requested lockfile

theorem follows_lead {request : Request} {g : Standing} (fresh : g.owned = false)
    (leads : g.Leads names request.configPath) (few : g.started < startRaceRetries) :
    Follows (monitor names request.configPath) (Attempted request.configPath g)
      (fun _ g' => g'.held = g.held) (lead request) g := by
  unfold lead
  simp only [Coro.bind_eq, Follows.bind_iff]
  refine follows_sys (by trivial) (fun race => ?_) (fun _ => rfl)
  refine follows_of_looked rfl ?_ fun _ _ held => held
  intro result g₁ looked
  cases result with
  | some result =>
      refine ⟨looked.held, ?_, ?_⟩
      · rw [looked.started]
        exact Nat.le_succ _
      · rintro lockfile ⟨⟩
        exact looked.verified lockfile rfl
  | none =>
      simp only [Follows.bind_iff]
      have started : g₁.started = g.started := looked.started
      have permitted : mayCall names request.configPath
          (.autostartServe request.configPath request.defaultProfile) g₁ := by
        obtain ⟨handle, held, paths, seen, path⟩ := leads
        refine ⟨rfl, ⟨handle, looked.held ▸ held, paths, looked.seen paths seen, path⟩,
          looked.fresh fresh rfl, ?_⟩
        rw [started]
        exact few
      have once : g₁.started + 1 ≤ g.started + 1 := by omega
      refine follows_sys permitted (fun start => ?_) (fun _ => looked.held)
      split
      · exact ⟨looked.held, once, by rintro _ ⟨⟩⟩
      · cases start.value with
        | none => exact looked.held
        | some spawnedPid =>
            simp only [assertSome, Follows.bind_iff, Coro.pure_eq, Follows.ret_iff]
            refine follows_sys (by trivial) (fun live => ?_) (fun _ => looked.held)
            refine follows_of_looked rfl ?_ fun _ _ held => held.trans looked.held
            intro result g₂ looked'
            have held : g₂.held = g.held := looked'.held.trans looked.held
            have started' : g₂.started ≤ g.started + 1 := by
              rw [looked'.started]
              exact once
            cases result with
            | some result =>
                refine ⟨held, started', ?_⟩
                rintro lockfile ⟨⟩
                exact looked'.verified lockfile rfl
            | none => exact ⟨held, started', by rintro _ ⟨⟩⟩

theorem follows_follow {request : Request} {rounds : Nat} {g : Standing} :
    Follows (monitor names request.configPath) (Attempted request.configPath g)
      (fun _ g' => g'.held = g.held) (follow request rounds) g := by
  unfold follow
  simp only [Coro.bind_eq, Follows.bind_iff]
  refine follows_sys (by trivial) (fun now => ?_) (fun _ => rfl)
  refine follows_wait.mono ?_ fun _ _ held => held
  intro result g' waited
  have started : g'.started ≤ g.started + 1 := by
    rw [waited.started]
    exact Nat.le_succ _
  cases result with
  | none => exact ⟨waited.held, started, by rintro _ ⟨⟩⟩
  | some result =>
      cases result with
      | error text => exact ⟨waited.held, started, by rintro _ ⟨⟩⟩
      | ok lockfile =>
          refine ⟨waited.held, started, ?_⟩
          rintro _ ⟨⟩
          exact waited.verified lockfile rfl

/-- An attempt that holds nothing before it holds nothing after it, however it ends. -/
theorem follows_attempt {request : Request} {rounds : Nat} {g : Standing} (held : g.held = [])
    (few : g.started < startRaceRetries) :
    Follows (monitor names request.configPath) (Attempted request.configPath g)
      (fun _ g' => g'.held = []) (attempt names request rounds) g := by
  unfold attempt
  refine follows_bind (follows_tryAcquire held) fun tried g₁ left => ?_
  match tried, left with
  | .error text, left => exact ⟨left.1.trans held.symm, by rw [left.2]; exact Nat.le_succ _, nofun⟩
  | .ok none, left =>
      refine follows_follow.mono (fun ended g₂ attempted => ?_) fun _ _ kept => kept.trans left.1
      refine ⟨(attempted.held.trans left.1).trans held.symm, ?_, attempted.verified⟩
      rw [← left.2]
      exact attempted.started
  | .ok (some handle), left =>
      obtain ⟨held₁, fresh, started, leads⟩ := left
      apply Follows.ensure
      refine (follows_lead fresh leads (started ▸ few)).mono ?_ ?_
      · intro ended g₂ attempted
        refine follows_release (attempted.held.trans held₁) ?_ fun _ => rfl
        refine ⟨held.symm, ?_, attempted.verified⟩
        rw [← started]
        exact attempted.started
      · intro exc g₂ kept
        exact follows_release (kept.trans held₁) rfl fun _ => rfl

/-- Nothing is held, and a lockfile that is returned is verified. -/
def Settled (requested : String) (result : Option (Except String LockfileData)) (g : Standing) :
    Prop :=
  g.held = [] ∧ ∀ lockfile, result = some (.ok lockfile) → g.Verified requested lockfile

theorem follows_attempts {request : Request} {rounds remaining : Nat} {g : Standing}
    (held : g.held = []) (few : g.started + remaining ≤ startRaceRetries) :
    Follows (monitor names request.configPath) (Settled request.configPath)
      (fun _ g' => g'.held = []) (attempts names request rounds remaining) g := by
  induction remaining generalizing g with
  | zero => exact ⟨held, nofun⟩
  | succ remaining ih =>
      refine follows_bind (follows_attempt held (by omega)) fun ended g₁ attempted => ?_
      have held₁ : g₁.held = [] := attempted.held.trans held
      cases ended with
      | returned result =>
          refine ⟨held₁, ?_⟩
          rintro lockfile ⟨⟩
          exact attempted.verified lockfile rfl
      | again =>
          apply ih held₁
          have := attempted.started
          omega
      | waiting => exact ⟨held₁, nofun⟩

theorem follows_discoverOrAutostart {request : Request} {rounds : Nat} :
    Follows (monitor names request.configPath) (Settled request.configPath)
      (fun _ g => g.held = []) (discoverOrAutostart names request rounds) {} := by
  unfold discoverOrAutostart
  simp only [Coro.bind_eq, Follows.bind_iff]
  refine follows_sys (by trivial) (fun immediate => ?_) (fun _ => rfl)
  refine follows_of_looked rfl ?_ fun _ _ held => held
  intro result g looked
  cases result with
  | some result =>
      refine ⟨looked.held, ?_⟩
      rintro lockfile ⟨⟩
      exact looked.verified lockfile rfl
  | none =>
      apply follows_attempts looked.held
      rw [looked.started]
      exact Nat.le_refl _

/-! ## Plays -/

/-- Where a discovery stands after some moves. -/
def standing (requested : String) (moves : List (Move sig SystemException)) : Standing :=
  (monitor ⟨"", id⟩ requested).trace {} moves

def Call.isAutostart : Call → Bool
  | .autostartServe _ _ => true
  | _ => false

/-- The move calls the autostart function. -/
def isAutostart : Move sig SystemException → Bool
  | .acted a _ => nomatch a
  | .waited w _ => w.isAutostart
  | .lapsed w => w.isAutostart

theorem standing_concat (requested : String) (moves : List (Move sig SystemException))
    (move : Move sig SystemException) :
    standing requested (moves ++ [move]) =
      (monitor ⟨"", id⟩ requested).read (standing requested moves) move :=
  Monitor.trace_append _ _ _ _

theorem started_afterCall (w : Call) (result : Option w.Result) (g : Standing) :
    (afterCall requested w result g).started = g.started + w.isAutostart.toNat := by
  cases w with
  | flock handle => rcases result with _ | (_ | _) <;> rfl
  | _ => cases result <;> rfl

/-- The autostarts are counted. -/
theorem started_eq_count (requested : String) (moves : List (Move sig SystemException)) :
    (standing requested moves).started = moves.countP isAutostart := by
  induction moves using List.reverseRecOn with
  | nil => rfl
  | append_singleton earlier move ih =>
      rw [List.countP_append, ← ih, standing_concat, List.countP_singleton]
      cases move with
      | acted a v => exact nomatch a
      | waited w outcome =>
          refine (started_afterCall w _ _).trans ?_
          change _ = _ + if w.isAutostart = true then 1 else 0
          cases w.isAutostart <;> rfl
      | lapsed w =>
          refine (started_afterCall w _ _).trans ?_
          change _ = _ + if w.isAutostart = true then 1 else 0
          cases w.isAutostart <;> rfl

/-- As each autostart has fewer than three before it, there are three at most. -/
theorem started_le {names : LockNames} {moves : List (Move sig SystemException)}
    (all : (monitor names requested).AllowsAll {} moves) :
    (standing requested moves).started ≤ startRaceRetries := by
  induction moves using List.reverseRecOn with
  | nil => exact Nat.zero_le _
  | append_singleton earlier move ih =>
      have before := ih fun front other back split =>
        all front other (back ++ [move]) (by rw [split, List.append_assoc]; rfl)
      have allowed := all earlier move [] rfl
      rw [standing_concat]
      cases move with
      | acted a v => exact nomatch a
      | waited w outcome =>
          refine Nat.le_trans (Nat.le_of_eq (started_afterCall w _ _)) ?_
          cases w with
          | autostartServe configPath profile => exact allowed.2.2.2
          | _ => exact before
      | lapsed w =>
          refine Nat.le_trans (Nat.le_of_eq (started_afterCall w _ _)) ?_
          cases w with
          | autostartServe configPath profile => exact allowed.2.2.2
          | _ => exact before

/-- A discovery in an environment: how it ends, and all it called. -/
def discovery (names : LockNames) (request : Request) (rounds : Nat)
    (player : Player sig SystemException) :
    Except SystemException (Option (Except String LockfileData)) ×
      List (Move sig SystemException) :=
  (discoverOrAutostart names request rounds).play player []

/--
However the environment answers: a lockfile that is returned is owned by the requested
configuration, by the paths seen last; a gateway is started by the leader only, at
most three times and not after an owned lockfile was seen in the same attempt; and at
the end no startup lock is held.
-/
theorem startup_arbitration (names : LockNames) (request : Request) (rounds : Nat)
    (player : Player sig SystemException) :
    (∀ lockfile, (discovery names request rounds player).1 = .ok (some (.ok lockfile)) →
      (standing request.configPath (discovery names request rounds player).2).Verified
        request.configPath lockfile) ∧
    (∀ before configPath profile answer after,
      (discovery names request rounds player).2 =
          before ++ .waited (.autostartServe configPath profile) answer :: after →
        configPath = request.configPath ∧
        (standing request.configPath before).Leads names request.configPath ∧
        (standing request.configPath before).owned = false) ∧
    (discovery names request rounds player).2.countP isAutostart ≤ 3 ∧
    (standing request.configPath (discovery names request rounds player).2).held = [] := by
  obtain ⟨all, ended⟩ := Follows.play player
    (follows_discoverOrAutostart : Follows (monitor names request.configPath) _ _
      (discoverOrAutostart names request rounds) _) Monitor.allowsAll_nil
  unfold discovery
  generalize (discoverOrAutostart names request rounds).play player [] = played at all ended
  obtain ⟨outcome, moves⟩ := played
  refine ⟨?_, ?_, ?_, ?_⟩
  · rintro lockfile rfl
    exact ended.2 lockfile rfl
  · intro before configPath profile answer after split
    obtain ⟨same, leads, fresh, -⟩ := all _ _ _ split
    exact ⟨same, leads, fresh⟩
  · rw [← started_eq_count request.configPath]
    exact started_le all
  · cases outcome with
    | ok result => exact ended.1
    | error exc => exact ended

end Tela.Startup
