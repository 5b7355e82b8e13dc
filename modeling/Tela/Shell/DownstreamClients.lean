import Tela.Shell.DownstreamWorld

/-!
# Downstream client transport and tool lists

Opening, enumerating and closing client sessions. A failure closes what was
already opened; a cancellation goes on after that.
-/

namespace Tela

open Coop

/-- Run one block. -/
def act (a : Act) : Prog a.Val := .act (S := sig) a .ret

/-- Wait, and raise the exception when the wait ends with one. -/
def pause (w : Wait) : Prog w.Res := Coro.await (S := sig) w

/-- `async with lock`. -/
def withLock {α : Type} (lock : LockName) (body : Prog α) : Prog α := do
  pause (.acquire lock)
  body.ensure (act (.release lock))

/-- A cancelled body under `asyncio.wait_for` raises a timeout. -/
def timeoutEscape (exc : PyException) : PyException :=
  if exc.isCancelled then .timeoutError else exc

/-- `asyncio.wait_for` with an absolute limit. -/
def waitFor {α : Type} (limit : Nat) (body : Prog α) : Prog α :=
  body.within limit .cancelledError timeoutEscape

/-- Remove configured header values from downstream error text. -/
def redactHeaderValues (message : String) (headers : Dict String String) : String :=
  headers.values.foldl (fun redacted value => Text.replace redacted value "[redacted]") message

/-- A server needs exactly one transport. -/
def validateTransportMode (serverName : String) (serverConfig : ServerConfig) :
    Except String Unit :=
  if truthy serverConfig.command = truthy serverConfig.url then
    .error ("DOWNSTREAM_CONNECT_FAILED: " ++
      s!"server '{serverName}' must set exactly one transport: command or url")
  else .ok ()

/-- Close a transport stack after a failed connect, then report the failure. -/
def abandonConnect (session : Option SessionId) (failure : PyException → String)
    (exc : PyException) : Prog (Except String ClientHandle) := do
  match session with
  | some session => act (.beginClose session)
  | none => pure ()
  if exc.isCancelled then
    let _ ← (pause .aclose).attempt
    .raise exc
  else
    pause .aclose
    return .error (failure exc)

/-- Open and initialize one client session; `failure` words the error. -/
def openTransportClient (serverName : String) (serverConfig : ServerConfig)
    (failure : PyException → String) : Prog (Except String ClientHandle) := do
  match ← (pause (.connectTransport serverName)).attempt with
  | .error exc => abandonConnect none failure exc
  | .ok _ =>
      let session : SessionId ← act (.openSession serverName serverConfig)
      match ← (pause (.handshake session)).attempt with
      | .error exc => abandonConnect (some session) failure exc
      | .ok instructions =>
          let handle : ClientHandle ← act (.newHandle session instructions)
          return .ok handle

def connectFailed (serverName transport detail : String) : String :=
  s!"DOWNSTREAM_CONNECT_FAILED: server '{serverName}' {transport} connect failed: {detail}"

def openStdioClient (serverName : String) (serverConfig : ServerConfig) :
    Prog (Except String ClientHandle) :=
  openTransportClient serverName serverConfig fun exc => connectFailed serverName "stdio" exc.text

def openSseClient (serverName : String) (serverConfig : ServerConfig) :
    Prog (Except String ClientHandle) :=
  match serverConfig.url with
  | none => return .error s!"DOWNSTREAM_CONNECT_FAILED: server '{serverName}' is missing url"
  | some _ => openTransportClient serverName serverConfig fun exc =>
      connectFailed serverName "sse" (redactHeaderValues exc.text serverConfig.headers)

def openStreamableHttpClient (serverName : String) (serverConfig : ServerConfig) :
    Prog (Except String ClientHandle) :=
  match serverConfig.url with
  | none => return .error s!"DOWNSTREAM_CONNECT_FAILED: server '{serverName}' is missing url"
  | some _ => openTransportClient serverName serverConfig fun exc =>
      connectFailed serverName "streamable http"
        (redactHeaderValues exc.text serverConfig.headers)

/-- Open a connected client handle over the configured transport. -/
def openClientForServer (serverName : String) (serverConfig : ServerConfig) :
    Prog (Except String ClientHandle) :=
  match validateTransportMode serverName serverConfig with
  | .error error => return .error error
  | .ok () =>
      if serverConfig.command.isSome then openStdioClient serverName serverConfig
      else if serverConfig.transport = some .sse then openSseClient serverName serverConfig
      else openStreamableHttpClient serverName serverConfig

/-- Enumerate all tools of a session. -/
def enumerateTools (session : SessionId) : Prog (Except String (List RawTool)) := do
  match ← (pause (.listTools session)).attempt with
  | .ok rawTools => return .ok rawTools
  | .error exc =>
      if exc.isException then return .error ("DOWNSTREAM_ENUMERATE_FAILED: " ++ exc.text)
      else .raise exc

/-- Close one handle; no failure of the cleanup surfaces. -/
def closeHandleBestEffort (handle : ClientHandle) : Prog Unit := do
  act (.beginClose handle.session)
  let _ ← (pause .aclose).attempt
  return ()

def closeClientHandles (handles : List ClientHandle) : Prog Unit :=
  handles.forM closeHandleBestEffort

end Tela
