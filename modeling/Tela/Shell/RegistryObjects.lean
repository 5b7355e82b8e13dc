import Tela.Shell.DownstreamRegistry

/-!
# Registry objects

The dictionaries of a registry and of its snapshots live in memory. Registering,
unregistering and clearing change the dictionaries of the registry in place; taking
and restoring a snapshot copies them. No operation changes a list of tools.
-/

namespace Tela

/-- The numbers of the two dictionaries of a registry or of a snapshot. -/
structure RegistryRefs where
  toolsByServer : Nat
  toolToServer : Nat

/-- Every dictionary made so far, by number. -/
structure RegistryObjects where
  toolLists : List (Dict String (List ResolvedTool)) := []
  toolServers : List (Dict String String) := []

namespace RegistryObjects

/-- What the two dictionaries hold. -/
def view (objects : RegistryObjects) (refs : RegistryRefs) : DownstreamRegistry where
  toolsByServer := (objects.toolLists[refs.toolsByServer]?).getD ∅
  toolToServer := (objects.toolServers[refs.toolToServer]?).getD ∅

/-- Change the two dictionaries in place. -/
def assign (objects : RegistryObjects) (refs : RegistryRefs) (registry : DownstreamRegistry) :
    RegistryObjects where
  toolLists := objects.toolLists.set refs.toolsByServer registry.toolsByServer
  toolServers := objects.toolServers.set refs.toolToServer registry.toolToServer

/-- Two new dictionaries. -/
def make (objects : RegistryObjects) (registry : DownstreamRegistry) :
    RegistryObjects × RegistryRefs :=
  (⟨objects.toolLists ++ [registry.toolsByServer], objects.toolServers ++ [registry.toolToServer]⟩,
    ⟨objects.toolLists.length, objects.toolServers.length⟩)

/-- The two dictionaries have been made. -/
structure Made (objects : RegistryObjects) (refs : RegistryRefs) : Prop where
  toolsByServer : refs.toolsByServer < objects.toolLists.length
  toolToServer : refs.toolToServer < objects.toolServers.length

/-- Two pairs of dictionaries have none in common. -/
structure Apart (first second : RegistryRefs) : Prop where
  toolsByServer : first.toolsByServer ≠ second.toolsByServer
  toolToServer : first.toolToServer ≠ second.toolToServer

variable {objects : RegistryObjects} {refs other : RegistryRefs}

theorem view_assign (made : objects.Made refs) (registry : DownstreamRegistry) :
    (objects.assign refs registry).view refs = registry := by
  simp [assign, view, made.toolsByServer, made.toolToServer]

theorem view_assign_of_apart (apart : Apart refs other) (registry : DownstreamRegistry) :
    (objects.assign refs registry).view other = objects.view other := by
  simp [assign, view, apart.toolsByServer, apart.toolToServer]

theorem Made.assign (made : objects.Made other) (registry : DownstreamRegistry) :
    (objects.assign refs registry).Made other where
  toolsByServer := by
    rw [RegistryObjects.assign, List.length_set]
    exact made.toolsByServer
  toolToServer := by
    rw [RegistryObjects.assign, List.length_set]
    exact made.toolToServer

theorem made_make (objects : RegistryObjects) (registry : DownstreamRegistry) :
    (objects.make registry).1.Made (objects.make registry).2 where
  toolsByServer := by simp [make]
  toolToServer := by simp [make]

theorem view_make (objects : RegistryObjects) (registry : DownstreamRegistry) :
    (objects.make registry).1.view (objects.make registry).2 = registry := by
  simp [make, view]

/-- Making dictionaries leaves those made before alone. -/
theorem view_make_of_made (made : objects.Made other) (registry : DownstreamRegistry) :
    (objects.make registry).1.view other = objects.view other := by
  simp [make, view, List.getElem?_append_left made.toolsByServer,
    List.getElem?_append_left made.toolToServer]

theorem Made.make (made : objects.Made other) (registry : DownstreamRegistry) :
    (objects.make registry).1.Made other where
  toolsByServer := by
    have := made.toolsByServer
    simp only [RegistryObjects.make, List.length_append, List.length_singleton]
    omega
  toolToServer := by
    have := made.toolToServer
    simp only [RegistryObjects.make, List.length_append, List.length_singleton]
    omega

theorem apart_make (made : objects.Made other) (registry : DownstreamRegistry) :
    Apart (objects.make registry).2 other where
  toolsByServer := Nat.ne_of_gt made.toolsByServer
  toolToServer := Nat.ne_of_gt made.toolToServer

end RegistryObjects

/-- An operation on the registry; a restore names its snapshot by number. -/
inductive RegistryOp
  | register (serverName : String) (tools : List ResolvedTool)
  | unregister (serverName : String)
  | snapshot
  | restore (number : Nat)
  | clear

/-! ## Values -/

/-- A registry and the snapshots taken of it, as values. -/
structure RegistryValues where
  registry : DownstreamRegistry := {}
  taken : List DownstreamRegistry := []

namespace RegistryValues

/-- One operation; a restore needs a snapshot that was taken. -/
def step (values : RegistryValues) : RegistryOp → Option RegistryValues
  | .register serverName tools =>
      some { values with registry := values.registry.register serverName tools }
  | .unregister serverName => some { values with registry := values.registry.unregister serverName }
  | .snapshot => some { values with taken := values.taken ++ [values.registry.snapshot] }
  | .restore number =>
      (values.taken[number]?).map fun snap => { values with registry := values.registry.restore snap }
  | .clear => some { values with registry := values.registry.clear }

end RegistryValues

/-! ## Objects -/

/-- A registry and the snapshots taken of it, in memory. -/
structure RegistryMemory where
  objects : RegistryObjects
  registry : RegistryRefs
  taken : List RegistryRefs

namespace RegistryMemory

/-- A new registry. -/
def start : RegistryMemory :=
  let (objects, registry) := RegistryObjects.make {} {}
  ⟨objects, registry, []⟩

/-- What the registry holds now. -/
def current (memory : RegistryMemory) : DownstreamRegistry := memory.objects.view memory.registry

/-- Change the dictionaries of the registry in place. -/
def update (memory : RegistryMemory) (registry : DownstreamRegistry) : RegistryMemory :=
  { memory with objects := memory.objects.assign memory.registry registry }

/-- One operation; a restore needs a snapshot that was taken. -/
def step (memory : RegistryMemory) : RegistryOp → Option RegistryMemory
  | .register serverName tools => some (memory.update (memory.current.register serverName tools))
  | .unregister serverName => some (memory.update (memory.current.unregister serverName))
  | .snapshot =>
      let (objects, snap) := memory.objects.make memory.current.snapshot
      some { memory with objects, taken := memory.taken ++ [snap] }
  | .restore number =>
      (memory.taken[number]?).map fun snap =>
        let (objects, registry) :=
          memory.objects.make (memory.current.restore (memory.objects.view snap))
        { memory with objects, registry }
  | .clear => some (memory.update memory.current.clear)

def run (memory : RegistryMemory) : List RegistryOp → Option RegistryMemory
  | [] => some memory
  | op :: rest => (memory.step op).bind fun next => next.run rest

/-- The values behind the numbers. -/
def values (memory : RegistryMemory) : RegistryValues :=
  ⟨memory.current, memory.taken.map memory.objects.view⟩

/-- The registry shares no dictionary with a snapshot. -/
structure Separate (memory : RegistryMemory) : Prop where
  registry : memory.objects.Made memory.registry
  taken : ∀ snap ∈ memory.taken, memory.objects.Made snap
  apart : ∀ snap ∈ memory.taken, RegistryObjects.Apart memory.registry snap

end RegistryMemory

end Tela
