import Tela.Shell.DownstreamClients

/-!
# Downstream server management

Startup, shutdown and manual re-enumeration. All three hold the registry lock
across their awaits.
-/

namespace Tela

open Coop

def providerInitializeTimeout : Nat := 30000

def providerToolsListTimeout : Nat := 30000

def enumerateClientTools (serverName : String) (handle : ClientHandle) :
    Prog (Except String (List RawTool)) := do
  match ← enumerateTools handle.session with
  | .error error =>
      return .error ("DOWNSTREAM_UNAVAILABLE: " ++
        s!"re-enumeration failed for server '{serverName}': {error}")
  | .ok rawTools => return .ok rawTools

/-- The second phase of `_connect_server`: list the tools of an opened client. -/
def connectServerTools (serverName : String) (handle : ClientHandle) :
    Prog (Except String ConnectedServerData) := do
  let started : Nat ← act .monotonic
  match ← (waitFor (started + providerToolsListTimeout) (enumerateTools handle.session)).attempt with
  | .error exc =>
      if exc.isTimeout then
        closeHandleBestEffort handle
        return .error (s!"DOWNSTREAM_CONNECT_FAILED: provider_tools_list_timeout:{serverName} "
          ++ "timeout_seconds=30.0")
      else if exc.isCancelled then
        closeHandleBestEffort handle
        let external : Bool ← act .externallyCancelled
        if external then .raise exc
        else return .error ("DOWNSTREAM_CONNECT_FAILED: " ++
          s!"provider_tools_list_cancelled:{serverName} {exc.text}")
      else .raise exc
  | .ok (.error error) =>
      closeHandleBestEffort handle
      return .error ("DOWNSTREAM_CONNECT_FAILED: " ++
        s!"server '{serverName}' connection/enumeration failed: {error}")
  | .ok (.ok rawTools) =>
      return .ok
        { serverName := serverName
          rawTools := rawTools
          clientHandle := some handle
          instructions := handle.instructions }

/-- Open one downstream client and enumerate its tools, each phase bounded in time. -/
def connectServer (serverName : String) (serverConfig : ServerConfig) :
    Prog (Except String ConnectedServerData) := do
  let started : Nat ← act .monotonic
  match ← (waitFor (started + providerInitializeTimeout)
      (openClientForServer serverName serverConfig)).attempt with
  | .error exc =>
      if exc.isTimeout then
        return .error (s!"DOWNSTREAM_CONNECT_FAILED: provider_initialize_timeout:{serverName} "
          ++ "timeout_seconds=30.0")
      else if exc.isCancelled then
        let external : Bool ← act .externallyCancelled
        if external then .raise exc
        else return .error ("DOWNSTREAM_CONNECT_FAILED: " ++
          s!"provider_initialize_cancelled:{serverName} {exc.text}")
      else .raise exc
  | .ok (.error error) => return .error error
  | .ok (.ok handle) => connectServerTools serverName handle

/-- `_close_all_clients_locked`. -/
def closeAllClientsLocked : Prog Unit := do
  let handles : List ClientHandle ← act .takeClients
  closeClientHandles handles

/-- Started servers and failures so far. -/
abbrev Startups := Dict String ConnectedServerData × Dict String ProviderStartupFailure

/-- One round of the loop over the results of `gather`. -/
def sortStartup (startups : Startups) (entry : String × Except String ConnectedServerData) :
    Startups :=
  match entry.2 with
  | .error error =>
      (startups.1, startups.2.set entry.1 (startupFailureFromError entry.1 error))
  | .ok startup => (startups.1.set startup.serverName startup, startups.2)

def sortStartups (serverNames : List String)
    (results : List (Except String ConnectedServerData)) : Startups :=
  (serverNames.zip results).foldl sortStartup (∅, ∅)

/-- One round of the loop over tool lists enumerated beforehand. -/
def usePreEnumeratedList (toolLists : Dict String (List RawTool)) (startups : Startups)
    (serverName : String) : Startups :=
  match toolLists.get? serverName with
  | none =>
      (startups.1, startups.2.set serverName
        ⟨serverName, "initialize", "pre_enumerated_tool_list_missing", false⟩)
  | some rawTools => (startups.1.set serverName { serverName, rawTools }, startups.2)

def usePreEnumerated (serverNames : List String) (toolLists : Dict String (List RawTool)) :
    Startups :=
  serverNames.foldl (usePreEnumeratedList toolLists) (∅, ∅)

def startServers (servers : Dict String ServerConfig)
    (toolLists : Option (Dict String (List RawTool))) :
    Prog Startups := do
  match toolLists with
  | some toolLists => return usePreEnumerated servers.keys toolLists
  | none =>
      let batch : BatchId ← act (.spawn servers)
      pause (.gather batch)
      let results : List (Except String ConnectedServerData) ← act (.jobResults batch)
      return sortStartups servers.keys results

/-- One round of the resolution loop of `connect_all`. -/
def resolveStartup (servers : Dict String ServerConfig)
    (allResolved : Dict String (List ResolvedTool)) (entry : String × ConnectedServerData) :
    Except PyException (Dict String (List ResolvedTool)) :=
  match servers.get? entry.1 with
  | none => .error ⟨.other, "KeyError", entry.1⟩
  | some serverConfig =>
      (resolveTools entry.1 serverConfig entry.2.rawTools).map fun resolved =>
        allResolved.set entry.1 resolved

/-- `connect_all` once the servers are started. -/
def publishStartups (servers : Dict String ServerConfig)
    (connected : Dict String ConnectedServerData)
    (failures : Dict String ProviderStartupFailure) : Prog (Except String Unit) := do
  match connected.entries.foldlM (resolveStartup servers) ∅ with
  | .error exc => .raise exc
  | .ok allResolved =>
      match detectConflicts allResolved with
      | conflict :: conflicts =>
          closeClientHandles (connected.values.filterMap ConnectedServerData.clientHandle)
          act (.failStartup failures)
          return .error ("TOOL_CONFLICT: " ++ conflictDescription
            ((conflict :: conflicts).map fun c => (c.toolName, c.servers)))
      | [] =>
          act (.publish servers connected allResolved failures)
          return .ok ()

/-- `connect_all` inside the registry lock. -/
def connectAllLocked (servers : Dict String ServerConfig)
    (toolLists : Option (Dict String (List RawTool))) : Prog (Except String Unit) := do
  closeAllClientsLocked
  act (.resetForConnect servers.keys)
  let startups ← startServers servers toolLists
  publishStartups servers startups.1 startups.2

/-- Connect servers, publish the successful ones and record failures. -/
def connectAll (servers : Dict String ServerConfig)
    (toolLists : Option (Dict String (List RawTool))) : Prog (Except String Unit) :=
  withLock .registry (connectAllLocked servers toolLists)

/-- Disconnect all servers and clear registry and connection tracking. -/
def disconnectAll : Prog (Except String Unit) := do
  withLock .registry do
    closeAllClientsLocked
    act .resetForDisconnect
  return .ok ()

/-- `re_enumerate` inside the registry lock. -/
def reEnumerateLocked (serverName : String) : Prog (Except String (List ResolvedTool)) := do
  let client : Option ClientHandle ← act (.readClient serverName)
  match client with
  | none =>
      return .error ("DOWNSTREAM_UNAVAILABLE: " ++
        s!"downstream server '{serverName}' is not connected")
  | some client =>
      let config : Option TelaConfig ← act .getRuntimeConfig
      match config with
      | none => return .error "DOWNSTREAM_UNAVAILABLE: gateway runtime config is not loaded"
      | some config =>
          match config.servers.get? serverName with
          | none =>
              return .error ("DOWNSTREAM_UNAVAILABLE: " ++
                s!"server '{serverName}' not found in runtime config")
          | some serverConfig =>
              match ← enumerateTools client.session with
              | .error error =>
                  return .error ("DOWNSTREAM_UNAVAILABLE: " ++
                    s!"re-enumeration failed for server '{serverName}': {error}")
              | .ok rawTools =>
                  let outcome : Except PyException
                      (Except (List ToolConflict) (List ResolvedTool)) ←
                    act (.converge .manualReenumeration serverName serverConfig rawTools)
                  match outcome with
                  | .error exc => .raise exc
                  | .ok (.error conflicts) =>
                      return .error ("TOOL_CONFLICT: " ++ conflictDescription
                        (conflicts.map fun c => (c.toolName, c.servers)))
                  | .ok (.ok resolved) => return .ok resolved

/-- Re-enumerate and re-register the tools of one connected server. -/
def reEnumerate (serverName : String) : Prog (Except String (List ResolvedTool)) :=
  withLock .registry (reEnumerateLocked serverName)

end Tela
