import Tela.Shell.AttachmentRegistry

/-!
# Startup coordination

Discovery of a running gateway by its lockfile, and the arbitration of who starts
one: a leader under the startup lock of the configuration, and followers that wait.
-/

namespace Tela

open Coop (Coro)

/-- The lockfile of a gateway. -/
structure LockfileData where
  pid : Int
  host : String
  port : Int
  token : String
  startedAt : String
  configPath : String
  version : String
  deriving DecidableEq

namespace Startup

/-- The `Result` of a callback, which may hold a value, an error, both or neither. -/
structure Reply (α : Type) where
  value : Option α := none
  error : Option String := none

/-- What the path functions say at one moment. -/
structure Paths where
  expandUser : String → Except SystemException String
  isAbsolute : String → Bool
  isPresent : String → Except SystemException Bool
  resolve : String → Except SystemException String

/-- An open lock file. -/
structure LockHandle where
  path : String
  descriptor : Nat
  deriving DecidableEq

/-- Everything outside the coordinator that it calls. -/
inductive Call
  | look
  | readLockfile
  | waitForLiveLockfile (microseconds : Int) (expectedPid : Option Int)
  | autostartServe (configPath : String) (defaultProfile : Option String)
  /-- `mkdir` and `open`. -/
  | openLock (path : String)
  /-- `flock` for an exclusive lock without blocking; no lock stands for `BlockingIOError`. -/
  | flock (handle : LockHandle)
  | unlock (handle : LockHandle)
  | close (handle : LockHandle)
  | deleteLockfileIfStale
  | monotonic
  | sleep (microseconds : Int)

abbrev Call.Result : Call → Type
  | look => Paths
  | readLockfile => Reply LockfileData
  | waitForLiveLockfile _ _ => Reply LockfileData
  | autostartServe _ _ => Reply Int
  | openLock _ => Nat
  | flock _ => Bool
  | deleteLockfileIfStale => Reply Bool
  | monotonic => Int
  | _ => Unit

abbrev sig : Coop.Sig where
  Act := Empty
  Val := nofun
  Wait := Call
  Res := Call.Result

abbrev Prog (α : Type) := Coro sig SystemException α

def sys (call : Call) : Prog call.Result := Coro.await (S := sig) call

/-- `except OSError`. -/
def exceptOsError {α : Type} (body : Prog α) (handler : String → Prog α) : Prog α := do
  match ← body.attempt with
  | .ok value => return value
  | .error (.osError text) => handler text
  | .error exc => .raise exc

/-- `assert value is not None`. -/
def assertSome {α : Type} : Option α → Prog α
  | some value => return value
  | none => .raise (.raised (.assertionError ""))

/-! ## Ownership -/

def resolveError (text : String) : String := s!"CONFIG_PATH_RESOLVE_ERROR: {text}"

/-- Canonical absolute path. -/
def normalizeConfigPath (paths : Paths) (rawPath : String) :
    Except SystemException (Except String String) :=
  match (do paths.resolve (← paths.expandUser rawPath)) with
  | .ok path => .ok (.ok path)
  | .error (.osError text) => .ok (.error (resolveError text))
  | .error exc => .error exc

/-- Canonical requested path; none for a relative path that is not there. -/
def requestedConfigOwnerPath (paths : Paths) (rawPath : String) :
    Except SystemException (Except String (Option String)) := do
  let path ← paths.expandUser rawPath
  let there ← if paths.isAbsolute path then .ok true else paths.isPresent path
  if !there then return .ok none
  match paths.resolve path with
  | .ok resolved => return .ok (some resolved)
  | .error (.osError text) => return .error (resolveError text)
  | .error exc => .error exc

/-- `_lockfile_owned_by_config`. -/
def lockfileOwnedByConfig (paths : Paths) (lockfile : LockfileData)
    (requestedConfigPath : String) : Except SystemException (Except String Bool) := do
  match ← requestedConfigOwnerPath paths requestedConfigPath with
  | .error text => return .error text
  | .ok none => return .ok true
  | .ok (some requested) =>
      match ← normalizeConfigPath paths lockfile.configPath with
      | .error text => return .error text
      | .ok owner => return .ok (owner == requested)

/-! ## The startup lock -/

/-- The directory of the locks and the digest in their names. -/
structure LockNames where
  directory : String
  /-- The first 16 hexadecimal digits of SHA-256. -/
  digest : String → String

def startupLockPath (names : LockNames) (paths : Paths) (requestedConfigPath : String) :
    Except SystemException (Except String String) := do
  match ← normalizeConfigPath paths requestedConfigPath with
  | .error text => return .error text
  | .ok normalized =>
      return .ok (names.directory ++ "/startup." ++ names.digest normalized ++ ".lock")

def lockError (text : String) : String := s!"STARTUP_LOCK_ERROR: {text}"

/-- Try to become the leader; no handle when another process leads. -/
def tryAcquireStartupLock (names : LockNames) (requestedConfigPath : String) :
    Prog (Except String (Option LockHandle)) := do
  let paths ← sys .look
  match ← Coro.ofExcept (startupLockPath names paths requestedConfigPath) with
  | .error text => return .error text
  | .ok path =>
      match ← (sys (.openLock path)).attempt with
      | .error (.osError text) => return .error (lockError text)
      | .error exc => .raise exc
      | .ok descriptor =>
          let handle : LockHandle := ⟨path, descriptor⟩
          match ← (sys (.flock handle)).attempt with
          | .ok true => return .ok (some handle)
          | .ok false =>
              sys (.close handle)
              return .ok none
          | .error (.osError text) =>
              sys (.close handle)
              return .error (lockError text)
          | .error exc => .raise exc

def releaseStartupLock (handle : LockHandle) : Prog Unit :=
  (exceptOsError (sys (.unlock handle)) fun _ => return ()).ensure (sys (.close handle))

/-! ## Discovery -/

def followerWaitPoll : Int := 100000

def raceWait : Int := 300000

def startRaceRetries : Nat := 3

def waitTimeout : String := "LOCKFILE_WAIT_TIMEOUT: timed out waiting for gateway.lock"

def discoveryFailed : String :=
  "DISCOVERY_FAILED: could not discover or auto-start tela serve via lockfile"

/-- The lockfile of a reply if the configuration owns it; nothing means to go on. -/
def ownedLockfile (requestedConfigPath : String) (reply : Reply LockfileData) :
    Prog (Option (Except String LockfileData)) := do
  if reply.error.isSome then return none
  let lockfile ← assertSome reply.value
  let paths ← sys .look
  match ← Coro.ofExcept (lockfileOwnedByConfig paths lockfile requestedConfigPath) with
  | .error text => return some (.error text)
  | .ok true => return some (.ok lockfile)
  | .ok false => return none

/-- `_wait_for_owned_live_lockfile` for so many rounds; nothing means it still waits. -/
def waitForOwnedLiveLockfile (requestedConfigPath : String) (expectedPid : Option Int)
    (deadline : Int) : Nat → Prog (Option (Except String LockfileData))
  | 0 => return none
  | rounds + 1 => do
      let again := do
        sys (.sleep followerWaitPoll)
        waitForOwnedLiveLockfile requestedConfigPath expectedPid deadline rounds
      if deadline ≤ (← sys .monotonic) then return some (.error waitTimeout)
      let reply ← sys .readLockfile
      if reply.error.isSome then
        if (reply.error.map fun text => Text.startsWith text "LOCKFILE_STALE") = some true then
          let _ ← sys .deleteLockfileIfStale
        again
      else
        let lockfile ← assertSome reply.value
        if expectedPid.any fun pid => lockfile.pid != pid then again
        else
          match ← ownedLockfile requestedConfigPath reply with
          | some result => return some result
          | none => again

/-- What the caller of the coordinator hands in. -/
structure Request where
  configPath : String
  defaultProfile : Option String
  lockfileWaitTimeout : Int

/-- How one attempt ends. -/
inductive Attempt
  | returned (result : Except String LockfileData)
  | again
  | waiting

/-- The leader looks once more, starts a gateway and waits for its lockfile. -/
def lead (request : Request) : Prog Attempt := do
  let race ← sys (.waitForLiveLockfile raceWait none)
  match ← ownedLockfile request.configPath race with
  | some result => return .returned result
  | none =>
      let start ← sys (.autostartServe request.configPath request.defaultProfile)
      if start.error.isSome then return .again
      let spawnedPid ← assertSome start.value
      let live ← sys (.waitForLiveLockfile request.lockfileWaitTimeout (some spawnedPid))
      match ← ownedLockfile request.configPath live with
      | some result => return .returned result
      | none => return .again

/-- A follower waits for the lockfile of the leader, for at most so many rounds. -/
def follow (request : Request) (rounds : Nat) : Prog Attempt := do
  let deadline := (← sys .monotonic) + request.lockfileWaitTimeout
  match ← waitForOwnedLiveLockfile request.configPath none deadline rounds with
  | none => return .waiting
  | some (.ok lockfile) => return .returned (.ok lockfile)
  | some (.error _) => return .again

def attempt (names : LockNames) (request : Request) (rounds : Nat) : Prog Attempt := do
  match ← tryAcquireStartupLock names request.configPath with
  | .error text => return .returned (.error text)
  | .ok (some handle) => (lead request).ensure (releaseStartupLock handle)
  | .ok none => follow request rounds

def attempts (names : LockNames) (request : Request) (rounds : Nat) :
    Nat → Prog (Option (Except String LockfileData))
  | 0 => return some (.error discoveryFailed)
  | remaining + 1 => do
      match ← attempt names request rounds with
      | .returned result => return some result
      | .again => attempts names request rounds remaining
      | .waiting => return none

/-- `discover_or_autostart`; nothing while a follower still waits after so many rounds. -/
def discoverOrAutostart (names : LockNames) (request : Request) (rounds : Nat) :
    Prog (Option (Except String LockfileData)) := do
  let immediate ← sys .readLockfile
  match ← ownedLockfile request.configPath immediate with
  | some result => return some result
  | none => attempts names request rounds startRaceRetries

end Startup

end Tela
