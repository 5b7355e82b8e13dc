import Tela.Library.Translation
import Tela.Shell.StartupCoordinator

/-!
# The lockfile of the gateway

The lockfile and the programs that write, read and remove it: a gateway from its startup
to its shutdown, `tela stop`, and the clients that look for a gateway. All processes
share the file and its temporary name.
-/

namespace Tela.Lockfile

open Coop (Coro TaskId assign)

/-- How a lockfile is written as JSON text, and how such a text is read. -/
structure Codec (Content : Type) where
  modelDumpJson : LockfileData → Content
  modelValidateJson : Content → Except String LockfileData

/-- What was written is read as it was. -/
def Codec.RoundTrips {Content : Type} (codec : Codec Content) : Prop :=
  ∀ data, codec.modelValidateJson (codec.modelDumpJson data) = .ok data

/-! ## System calls -/

inductive Signal
  /-- Signal 0, which only asks. -/
  | probe
  | sigterm

/-- What becomes of `os.kill`. -/
inductive Signaled
  | delivered
  | processLookupError
  | permissionError
  | overflowError (exc : PyException)
  | osError (text : String)

/-- No process has the pid. -/
def Signaled.Missing : Signaled → Prop
  | delivered => False
  | permissionError => False
  | _ => True

/-- What a gateway does besides its work on the lockfile. -/
inductive GatewayStep
  | gatewayPrepareStartup
  | utcNowIso
  | packageVersion
  | isUpstreamServerInitialized
  | getUpstreamHttpApp
  | launchStreamableHttpServer
  | resolveConfigPath
  | gatewayConvergeStartup
  /-- Signal handlers, and the tasks beside the server. -/
  | startTasks
  /-- The first of the server and the stop event. -/
  | waitFirst
  /-- `await_task` for the watcher of the configuration and the idle watch. -/
  | awaitTasks
  | stopHttpServer
  | cancelStopTask
  | gatewayShutdown
  | removeSignalHandlers

abbrev GatewayStep.Result : GatewayStep → Type
  | gatewayPrepareStartup => Except String Unit
  | utcNowIso => Except String String
  | packageVersion => Except String String
  | isUpstreamServerInitialized => Except String Bool
  | getUpstreamHttpApp => Except String Unit
  | launchStreamableHttpServer => Except String Int
  | resolveConfigPath => String
  | gatewayConvergeStartup => Except String Unit
  | waitFirst => Option String
  | _ => Unit

inductive Call (Content : Type)
  | mkdir
  | chmodDirectory
  /-- `open`, `write` and `close` as one step: no two processes have the file open at once. -/
  | writeTemp (payload : Content)
  | chmodTemp
  | replace
  | unlinkTemp
  /-- The text of the lockfile; no text for `FileNotFoundError`. -/
  | readText
  /-- Whether there was a lockfile to remove. -/
  | unlink
  /-- The exit code and the output of `ps -p pid -o stat=`. -/
  | ps (pid : Int)
  | kill (pid : Int) (signal : Signal)
  | monotonic
  | sleep (microseconds : Int)
  | gateway (step : GatewayStep)
  /-- What the startup coordinator does apart from the lockfile. -/
  | coordinator (call : Startup.Call)

abbrev Call.Result {Content : Type} : Call Content → Type
  | readText => Option Content
  | unlink => Bool
  | ps _ => Int × String
  | kill _ _ => Signaled
  | monotonic => Int
  | gateway step => step.Result
  | coordinator call => call.Result
  | _ => Unit

abbrev sig (Content : Type) : Coop.Sig where
  Act := Empty
  Val := nofun
  Wait := Call Content
  Res := Call.Result

abbrev Prog (Content α : Type) := Coro (sig Content) SystemException α

variable {Content : Type}

def sys (call : Call Content) : Prog Content call.Result := Coro.await (S := sig Content) call

/-- `except OSError`. -/
def exceptOsError {α : Type} (body : Prog Content α) (handler : String → Prog Content α) :
    Prog Content α := do
  match ← body.attempt with
  | .ok value => return value
  | .error (.osError text) => handler text
  | .error exc => .raise exc

/-- `except Exception: pass`. -/
def suppress (body : Prog Content Unit) : Prog Content Unit := do
  match ← body.attempt with
  | .error (.raised exc) => if exc.isException then return () else .raise (.raised exc)
  | _ => return ()

/-! ## The lockfile functions -/

def zombieStat (stdout : String) : Bool :=
  stdout.toList.any fun c => c == 'Z' || c == 'z'

/-- `_is_zombie_process`. -/
def isZombieProcess (pid : Int) : Prog Content (Except String Bool) :=
  exceptOsError
    (do
      let (returncode, stdout) ← sys (.ps pid)
      return .ok (returncode == 0 && zombieStat stdout))
    fun text => return .error s!"LOCKFILE_ZOMBIE_CHECK_ERROR: {text}"

def isStale (data : LockfileData) : Prog Content Bool := do
  match ← isZombieProcess data.pid with
  | .ok true => return true
  | _ =>
      match ← sys (.kill data.pid .probe) with
      | .delivered => return false
      -- The process is there, but may not be signalled.
      | .permissionError => return false
      | _ => return true

section Files

variable (codec : Codec Content)

def writeLockfile (data : LockfileData) : Prog Content (Except String Unit) :=
  exceptOsError
    (do
      sys .mkdir
      sys .chmodDirectory
      let payload := codec.modelDumpJson data
      sys (.writeTemp payload)
      sys .chmodTemp
      sys .replace
      return .ok ())
    fun text => do
      suppress (sys .unlinkTemp)
      return .error s!"LOCKFILE_WRITE_ERROR: {text}"

def readError (text : String) : String := s!"LOCKFILE_READ_ERROR: {text}"

def parseError (text : String) : String := s!"LOCKFILE_PARSE_ERROR: {text}"

def staleError (pid : Int) : String :=
  s!"LOCKFILE_STALE: no live process found for pid {pid}; lockfile should be considered stale"

/-- What a reading function does with the text of the lockfile. -/
def withRaw {α : Type} (absent : Except String α)
    (found : LockfileData → Prog Content (Except String α)) : Prog Content (Except String α) := do
  match ← (sys .readText).attempt with
  | .error (.osError text) => return .error (readError text)
  | .error exc => .raise exc
  | .ok none => return absent
  | .ok (some raw) =>
      match codec.modelValidateJson raw with
      | .error text => return .error (parseError text)
      | .ok data => found data

def readLockfile : Prog Content (Except String LockfileData) :=
  withRaw codec (.error (readError "lockfile does not exist")) fun data => do
    if ← isStale data then return .error (staleError data.pid)
    return .ok data

def deleteLockfile : Prog Content (Except String Unit) :=
  exceptOsError
    (do
      let _ ← sys .unlink
      return .ok ())
    fun text => return .error s!"LOCKFILE_DELETE_ERROR: {text}"

def deleteLockfileIfStale : Prog Content (Except String Bool) :=
  withRaw codec (.ok false) fun data => do
    if !(← isStale data) then return .ok false
    match ← deleteLockfile with
    | .error text => return .error text
    | .ok () => return .ok true

/-! ## Clients -/

def lockfileWaitPoll : Int := 100000

/-- `_wait_for_live_lockfile` for so many rounds; nothing means it still waits. -/
def waitForLiveLockfile (expectedPid : Option Int) (deadline : Int) :
    Nat → Prog Content (Option (Except String LockfileData))
  | 0 => return none
  | rounds + 1 => do
      let again := do
        sys (.sleep lockfileWaitPoll)
        waitForLiveLockfile expectedPid deadline rounds
      if deadline ≤ (← sys .monotonic) then return some (.error Startup.waitTimeout)
      match ← readLockfile codec with
      | .ok data =>
          if expectedPid.any fun pid => data.pid != pid then again else return some (.ok data)
      | .error text =>
          if Text.startsWith text "LOCKFILE_STALE" then
            let _ ← deleteLockfileIfStale codec
          again

def waitFrom (timeout : Int) (expectedPid : Option Int) (rounds : Nat) :
    Prog Content (Option (Except String LockfileData)) := do
  let deadline := (← sys .monotonic) + timeout
  waitForLiveLockfile codec expectedPid deadline rounds

def reply {α : Type} : Except String α → Startup.Reply α
  | .ok value => { value := some value }
  | .error text => { error := some text }

/-- The lockfile functions that a client hands to the coordinator. -/
def answer (rounds : Nat) : (call : Startup.Call) → Prog Content call.Result
  | .readLockfile => do return reply (← readLockfile codec)
  | .deleteLockfileIfStale => do return reply (← deleteLockfileIfStale codec)
  | .waitForLiveLockfile timeout expectedPid => do
      match ← waitFrom codec timeout expectedPid rounds with
      | some result => return reply result
      | none => return reply (.error Startup.waitTimeout)
  | .look => sys (.coordinator .look)
  | .autostartServe configPath defaultProfile =>
      sys (.coordinator (.autostartServe configPath defaultProfile))
  | .openLock path => sys (.coordinator (.openLock path))
  | .flock handle => sys (.coordinator (.flock handle))
  | .unlock handle => sys (.coordinator (.unlock handle))
  | .close handle => sys (.coordinator (.close handle))
  | .monotonic => sys .monotonic
  | .sleep microseconds => sys (.sleep microseconds)

/-- `discover_or_autostart` with the lockfile functions. -/
def discoverOrAutostart (names : Startup.LockNames) (request : Startup.Request) (rounds : Nat) :
    Prog Content (Option (Except String LockfileData)) :=
  (Startup.discoverOrAutostart names request rounds).translate (fun act : Empty => act.elim)
    (answer codec rounds)

end Files

/-! ## Stopping -/

def stopWaitTimeout : Int := 5000000

def stopPollInterval : Int := 50000

/-- `_wait_for_process_exit` for so many rounds; nothing means it still waits. -/
def waitForProcessExit (pid : Int) (deadline : Int) :
    Nat → Prog Content (Option (Except String Unit))
  | 0 => return none
  | rounds + 1 => do
      let again := do
        sys (.sleep stopPollInterval)
        waitForProcessExit pid deadline rounds
      if deadline ≤ (← sys .monotonic) then
        return some (.error
          s!"STOP_TIMEOUT: tela server pid {pid} did not exit within 5.0s")
      -- Here a failing inspection means that there is no zombie.
      match ← isZombieProcess pid with
      | .ok true => return some (.ok ())
      | _ =>
          match ← sys (.kill pid .probe) with
          | .processLookupError => return some (.ok ())
          | .osError text => return some (.error s!"STOP_WAIT_ERROR: {text}")
          | .overflowError exc => .raise (.raised exc)
          | _ => again

/-- `_run_stop_command`. -/
def runStopCommand (codec : Codec Content) (rounds : Nat) :
    Prog Content (Option (Except String Unit)) := do
  match ← readLockfile codec with
  | .error detail =>
      return some (.error <|
        "NO_RUNNING_SERVER: no running tela server found via ~/.tela/gateway.lock (" ++ detail ++ ")")
  | .ok data =>
      let pid := data.pid
      match ← sys (.kill pid .sigterm) with
      | .processLookupError => return some (← deleteLockfile)
      | .permissionError =>
          return some (.error s!"STOP_PERMISSION_DENIED: cannot signal tela server pid {pid}")
      | .osError text => return some (.error s!"STOP_SIGNAL_ERROR: {text}")
      | .overflowError exc => .raise (.raised exc)
      | .delivered =>
          let deadline := (← sys .monotonic) + stopWaitTimeout
          match ← waitForProcessExit pid deadline rounds with
          | none => return none
          | some (.error text) => return some (.error text)
          | some (.ok ()) => return some (← deleteLockfile)

/-! ## The gateway -/

structure ServeSettings where
  host : String
  bearerToken : String

def step (s : GatewayStep) : Prog Content s.Result := sys (.gateway s)

/-- `if result.is_err`: clean up and return the error. -/
def orReturn {α β : Type} (result : Except String α) (cleanup : Prog Content Unit)
    (next : α → Prog Content (Except String β)) : Prog Content (Except String β) :=
  match result with
  | .error text => do
      cleanup
      return .error text
  | .ok value => next value

/-- Before anything is bound, a gateway that cannot go on removes the lockfile too. -/
def abandon : Prog Content Unit := do
  step .gatewayShutdown
  let _ ← deleteLockfile

def rollbackAfterPostBindConvergenceFailure : Prog Content Unit := do
  let _ ← deleteLockfile
  step .stopHttpServer
  step .gatewayShutdown

/-- The `finally` of a gateway that has served. -/
def shutDown : Prog Content Unit := do
  step .awaitTasks
  step .stopHttpServer
  step .cancelStopTask
  step .gatewayShutdown
  let _ ← deleteLockfile
  step .removeSignalHandlers

def serveUntilStopped : Prog Content (Except String Unit) := do
  step .startTasks
  match ← Coro.ensure (step .waitFirst) shutDown with
  | some error => return .error error
  | none => return .ok ()

/-- What follows once the server is bound. -/
def publish (codec : Codec Content) (data : LockfileData) : Prog Content (Except String Unit) := do
  orReturn (← writeLockfile codec data)
    (do
      step .stopHttpServer
      step .gatewayShutdown)
    fun () => do
  let converged := (← step .gatewayConvergeStartup).mapError fun text =>
    if text = "" then "STARTUP_CONVERGENCE_FAILED" else text
  orReturn converged rollbackAfterPostBindConvergenceFailure fun () => serveUntilStopped

/-- `_run_serve_gateway` in the process with this pid. -/
def runServeGateway (codec : Codec Content) (pid : TaskId) (settings : ServeSettings) :
    Prog Content (Except String Unit) := do
  orReturn (← step .gatewayPrepareStartup) (return ()) fun () => do
  orReturn (← step .utcNowIso) (step .gatewayShutdown) fun startedAt => do
  orReturn (← step .packageVersion) (step .gatewayShutdown) fun version => do
  orReturn (← step .isUpstreamServerInitialized) abandon fun initialized => do
  orReturn (if initialized then .ok () else .error "STARTUP_FAILED: upstream MCP server not initialized")
    abandon fun () => do
  orReturn (← step .getUpstreamHttpApp) abandon fun () => do
  orReturn (← step .launchStreamableHttpServer) (step .gatewayShutdown) fun port => do
  let configPath ← step .resolveConfigPath
  publish codec
    { pid := pid, host := settings.host, port, token := settings.bearerToken, startedAt
      configPath, version }

/-! ## Processes over the file -/

/-- The lockfile, its temporary file, and which processes are there. -/
structure Files (Content : Type) where
  main : Option Content
  temp : Option Content := none
  alive : TaskId → Bool := fun _ => false

def Files.initial (main : Option Content) : Files Content := { main := main }

/-- No process has the pid. -/
def Gone (s : Files Content) (pid : Int) : Prop :=
  ∀ p : TaskId, 0 < p → (p : Int) = pid → s.alive p = false

/-- What a call may answer and leave behind; every call may fail. -/
def call (_ : TaskId) : (w : Call Content) → Files Content →
    Except SystemException w.Result → Files Content → Prop
  | .writeTemp payload, s, .ok _, s' => s' = { s with temp := some payload }
  | .writeTemp _, s, .error _, s' => s' = s ∨ ∃ part, s' = { s with temp := some part }
  | .replace, s, .ok _, s' =>
      ∃ content, s.temp = some content ∧ s' = { s with main := some content, temp := none }
  | .unlinkTemp, s, .ok _, s' => s' = { s with temp := none }
  | .readText, s, .ok raw, s' => raw = s.main ∧ s' = s
  | .unlink, s, .ok there, s' => there = s.main.isSome ∧ s' = { s with main := none }
  -- Only a process that has ended is a zombie, and signals reach every other one.
  | .ps pid, s, .ok (returncode, stdout), s' =>
      (returncode = 0 → zombieStat stdout = true → Gone s pid) ∧ s' = s
  | .kill pid _, s, .ok answer, s' => (answer.Missing → Gone s pid) ∧ s' = s
  | _, s, _, s' => s' = s

/-- What a process runs; loops are bounded by a number of rounds. -/
inductive Cmd
  | serve (settings : ServeSettings)
  | stop (rounds : Nat)
  | discover (names : Startup.LockNames) (request : Startup.Request) (rounds : Nat)
  | wait (timeout : Int) (expectedPid : Option Int) (rounds : Nat)
  /-- The cleanup of `tela doctor`. -/
  | clean
  | read
  /-- A program that has nothing to do with the lockfile. -/
  | unrelated

def Cmd.serves : Cmd → Bool
  | serve _ => true
  | _ => false

def discard {α : Type} (body : Prog Content α) : Prog Content Unit := body.bind fun _ => return ()

def program (codec : Codec Content) (pid : TaskId) : Cmd → Prog Content Unit
  | .serve settings => discard (runServeGateway codec pid settings)
  | .stop rounds => discard (runStopCommand codec rounds)
  | .discover names request rounds => discard (discoverOrAutostart codec names request rounds)
  | .wait timeout expectedPid rounds => discard (waitFrom codec timeout expectedPid rounds)
  | .clean => discard (deleteLockfileIfStale codec)
  | .read => discard (readLockfile codec)
  | .unrelated => return ()

abbrev host (codec : Codec Content) : Coop.Host (sig Content) SystemException where
  State := Files Content
  Cmd := Cmd
  Out := Unit
  program := program codec
  exec _ a _ := nomatch a
  call := call
  launch p _ s := { s with alive := assign s.alive p true }
  close p s := { s with alive := assign s.alive p false }

end Tela.Lockfile
