import Tela.Shell.RegistryObjects

/-!
# Runs of a registry

Whatever is registered, removed and put back, the reverse map only names servers
that list the tool. While no name is shared it names all of them, and a restored
snapshot is the registry it was taken of.
-/

namespace Tela

namespace DownstreamRegistry

/-- Every entry of the reverse map is backed by a tool in the list of its server. -/
def Backed (registry : DownstreamRegistry) : Prop :=
  ∀ name server, registry.getToolServer name = some server →
    ∃ tools, registry.toolsByServer.get? server = some tools ∧ Exposes tools name

theorem backed_empty : Backed {} := by
  intro name server owned
  cases owned

theorem Backed.unregister {registry : DownstreamRegistry} (backed : registry.Backed)
    (serverName : String) : (registry.unregister serverName).Backed := by
  intro name server owned
  rw [getToolServer_unregister] at owned
  split at owned
  · cases owned
  · rename_i kept
    obtain ⟨tools, found, exposed⟩ := backed name server owned
    have other : server ≠ serverName := by
      rintro rfl
      rw [found, Option.getD_some] at kept
      exact kept ⟨owned, exposed⟩
    refine ⟨tools, ?_, exposed⟩
    rw [tools_unregister, if_neg other, found]

theorem Backed.register {registry : DownstreamRegistry} (backed : registry.Backed)
    (serverName : String) (tools : List ResolvedTool) :
    (registry.register serverName tools).Backed := by
  intro name server owned
  rw [getToolServer_register] at owned
  split at owned
  · rename_i exposed
    obtain rfl := Option.some.inj owned
    refine ⟨tools, ?_, exposed⟩
    rw [tools_register, if_pos rfl]
  · obtain ⟨others, found, exposed⟩ := backed.unregister serverName name server owned
    rw [tools_unregister] at found
    split at found
    · cases found
    · rename_i other
      refine ⟨others, ?_, exposed⟩
      rw [tools_register, if_neg other, found]

/-- A name the reverse map knows has a tool. -/
theorem Backed.getTool {registry : DownstreamRegistry} (backed : registry.Backed)
    {name server : String} (owned : registry.getToolServer name = some server) :
    ∃ tools tool, registry.toolsByServer.get? server = some tools ∧ tool ∈ tools ∧
      tool.name = name ∧ registry.getTool name = some tool := by
  obtain ⟨tools, found, exposed⟩ := backed name server owned
  obtain ⟨listed, among, same⟩ := List.mem_map.mp exposed
  have lookup : registry.getTool name = tools.find? fun tool => tool.name = name := by
    unfold DownstreamRegistry.getTool
    rw [show registry.toolToServer.get? name = some server from owned]
    simp only [found, Option.getD_some]
  cases search : tools.find? fun tool => tool.name = name with
  | none =>
      have absent := List.find?_eq_none.mp search listed among
      simp [same] at absent
  | some tool =>
      have named : tool.name = name := by simpa using List.find?_some search
      exact ⟨tools, tool, found, List.mem_of_find?_eq_some search, named, lookup.trans search⟩

end DownstreamRegistry

/-! ## Values -/

namespace RegistryValues

/-- A property of the registry and of every snapshot. -/
def All (holds : DownstreamRegistry → Prop) (values : RegistryValues) : Prop :=
  holds values.registry ∧ ∀ snap ∈ values.taken, holds snap

/-- What register and unregister keep and an empty registry has, every operation keeps. -/
theorem All.step (holds fits : DownstreamRegistry → Prop) (empty : holds {})
    (registered : ∀ registry serverName tools, holds registry →
      fits (registry.register serverName tools) → holds (registry.register serverName tools))
    (unregistered : ∀ registry serverName, holds registry →
      holds (registry.unregister serverName))
    {values next : RegistryValues} {op : RegistryOp} (all : values.All holds)
    (stepped : values.step op = some next) (fitting : fits next.registry) : next.All holds := by
  obtain ⟨now, before⟩ := all
  cases op with
  | register serverName tools =>
      cases stepped
      exact ⟨registered _ _ _ now fitting, before⟩
  | unregister serverName =>
      cases stepped
      exact ⟨unregistered _ _ now, before⟩
  | snapshot =>
      cases stepped
      refine ⟨now, fun snap among => ?_⟩
      obtain old | new := List.mem_append.mp among
      · exact before snap old
      · rw [List.mem_singleton.mp new]
        exact now
  | restore number =>
      obtain ⟨snap, found, rfl⟩ := Option.map_eq_some_iff.mp stepped
      exact ⟨before snap (List.mem_of_getElem? found), before⟩
  | clear =>
      cases stepped
      exact ⟨empty, before⟩

theorem All.backed_step {values next : RegistryValues} {op : RegistryOp}
    (all : values.All DownstreamRegistry.Backed) (stepped : values.step op = some next) :
    next.All DownstreamRegistry.Backed := by
  apply All.step DownstreamRegistry.Backed (fun _ => True) DownstreamRegistry.backed_empty
    _ _ all stepped trivial
  · intro registry serverName tools backed _
    exact backed.register serverName tools
  · intro registry serverName backed
    exact backed.unregister serverName

theorem All.consistent_step {values next : RegistryValues} {op : RegistryOp}
    (all : values.All DownstreamRegistry.Consistent) (stepped : values.step op = some next)
    (unique : NoSharedName next.registry.toolsByServer) :
    next.All DownstreamRegistry.Consistent := by
  apply All.step DownstreamRegistry.Consistent
    (fun registry => NoSharedName registry.toolsByServer) DownstreamRegistry.consistent_empty
    _ _ all stepped unique
  · intro registry serverName tools consistent clean
    exact consistent.register (DownstreamRegistry.disjoint_of_noSharedName clean)
  · intro registry serverName consistent
    exact consistent.unregister serverName

/-- A snapshot stays what it is. -/
theorem taken_step {values next : RegistryValues} {op : RegistryOp}
    (stepped : values.step op = some next) {number : Nat} {snap : DownstreamRegistry}
    (taken : values.taken[number]? = some snap) : next.taken[number]? = some snap := by
  cases op with
  | snapshot =>
      cases stepped
      obtain ⟨bound, -⟩ := List.getElem?_eq_some_iff.mp taken
      exact (List.getElem?_append_left bound).trans taken
  | restore other =>
      obtain ⟨_, -, rfl⟩ := Option.map_eq_some_iff.mp stepped
      exact taken
  | register serverName tools =>
      cases stepped
      exact taken
  | unregister serverName =>
      cases stepped
      exact taken
  | clear =>
      cases stepped
      exact taken

end RegistryValues

/-! ## Objects -/

namespace RegistryMemory

open RegistryObjects

theorem separate_start : start.Separate where
  registry := made_make _ _
  taken := nofun
  apart := nofun

theorem all_start {holds : DownstreamRegistry → Prop} (empty : holds {}) :
    start.values.All holds := by
  have current : start.current = {} := view_make {} {}
  refine ⟨?_, nofun⟩
  rw [← current] at empty
  exact empty

variable {memory next : RegistryMemory}

/-- A change in place leaves the snapshots alone. -/
theorem Separate.update (separate : memory.Separate) (registry : DownstreamRegistry) :
    (memory.update registry).Separate ∧
      (memory.update registry).values = { memory.values with registry } := by
  refine ⟨⟨separate.registry.assign registry, fun snap among => ?_, separate.apart⟩, ?_⟩
  · exact (separate.taken snap among).assign registry
  · have now : (memory.update registry).current = registry :=
      view_assign separate.registry registry
    have before : memory.taken.map (memory.update registry).objects.view =
        memory.taken.map memory.objects.view :=
      List.map_congr_left fun snap among =>
        view_assign_of_apart (separate.apart snap among) registry
    exact congrArg₂ RegistryValues.mk now before

/-- New dictionaries leave the old ones alone. -/
theorem Separate.views_make (separate : memory.Separate) (registry : DownstreamRegistry) :
    memory.taken.map (memory.objects.make registry).1.view =
      memory.taken.map memory.objects.view :=
  List.map_congr_left fun snap among => view_make_of_made (separate.taken snap among) registry

/-- The operations on dictionaries in memory are the operations on values. -/
theorem Separate.step (separate : memory.Separate) {op : RegistryOp}
    (stepped : memory.step op = some next) :
    next.Separate ∧ memory.values.step op = some next.values := by
  cases op with
  | register serverName tools =>
      cases stepped
      obtain ⟨separate', values⟩ := separate.update (memory.current.register serverName tools)
      exact ⟨separate', congrArg some values.symm⟩
  | unregister serverName =>
      cases stepped
      obtain ⟨separate', values⟩ := separate.update (memory.current.unregister serverName)
      exact ⟨separate', congrArg some values.symm⟩
  | clear =>
      cases stepped
      obtain ⟨separate', values⟩ := separate.update memory.current.clear
      exact ⟨separate', congrArg some values.symm⟩
  | snapshot =>
      cases stepped
      have made := made_make memory.objects memory.current.snapshot
      refine ⟨⟨separate.registry.make _, fun snap among => ?_, fun snap among => ?_⟩, ?_⟩
      · obtain old | new := List.mem_append.mp among
        · exact (separate.taken snap old).make _
        · rw [List.mem_singleton.mp new]
          exact made
      · obtain old | new := List.mem_append.mp among
        · exact separate.apart snap old
        · rw [List.mem_singleton.mp new]
          obtain ⟨lists, servers⟩ := apart_make separate.registry memory.current.snapshot
          exact ⟨lists.symm, servers.symm⟩
      · have now := view_make_of_made separate.registry memory.current.snapshot
        have before := separate.views_make memory.current.snapshot
        have new := view_make memory.objects memory.current.snapshot
        have taken : (memory.taken ++ [(memory.objects.make memory.current.snapshot).2]).map
            (memory.objects.make memory.current.snapshot).1.view =
              memory.values.taken ++ [memory.current] := by
          rw [List.map_append, before, List.map_singleton, new]
          rfl
        exact congrArg some (congrArg₂ RegistryValues.mk now.symm taken.symm)
  | restore number =>
      obtain ⟨snap, found, rfl⟩ := Option.map_eq_some_iff.mp stepped
      have restored := view_make memory.objects
        (memory.current.restore (memory.objects.view snap))
      have before := separate.views_make (memory.current.restore (memory.objects.view snap))
      refine ⟨⟨made_make _ _, fun other among => ?_, fun other among => ?_⟩, ?_⟩
      · exact (separate.taken other among).make (memory.current.restore (memory.objects.view snap))
      · exact apart_make (separate.taken other among)
          (memory.current.restore (memory.objects.view snap))
      · have listed : memory.values.taken[number]? = some (memory.objects.view snap) := by
          rw [values, List.getElem?_map, found]
          rfl
        rw [RegistryValues.step, listed]
        exact congrArg some (congrArg₂ RegistryValues.mk restored.symm before.symm)

/-- What each operation on values keeps, a run in memory keeps. -/
theorem Separate.run (holds : RegistryValues → Prop) (fits : DownstreamRegistry → Prop)
    (keeps : ∀ values op next, holds values → RegistryValues.step values op = some next →
      fits next.registry → holds next)
    {ops : List RegistryOp} (separate : memory.Separate) (holding : holds memory.values)
    (fitting : ∀ before mid, before <+: ops → memory.run before = some mid → fits mid.current)
    (ran : memory.run ops = some next) : next.Separate ∧ holds next.values := by
  induction ops generalizing memory with
  | nil =>
      cases ran
      exact ⟨separate, holding⟩
  | cons op rest ih =>
      obtain ⟨mid, stepped, ran⟩ := Option.bind_eq_some_iff.mp ran
      obtain ⟨separate', values⟩ := separate.step stepped
      have first : memory.run [op] = some mid := by
        rw [RegistryMemory.run, stepped]
        rfl
      apply ih separate' _ _ ran
      · apply keeps _ _ _ holding values
        exact fitting [op] mid (List.prefix_append [op] rest) first
      · intro before reached start ran
        apply fitting (op :: before) reached (List.prefix_cons_inj op |>.mpr start)
        rw [RegistryMemory.run, stepped]
        exact ran

theorem run_append (memory : RegistryMemory) (first second : List RegistryOp) :
    memory.run (first ++ second) = (memory.run first).bind fun mid => mid.run second := by
  induction first generalizing memory with
  | nil => rfl
  | cons op rest ih =>
      rw [List.cons_append, run, run]
      cases memory.step op with
      | none => rfl
      | some mid => exact ih mid

/-- Restoring gives back the registry the snapshot was taken of. -/
theorem current_restored (separate : memory.Separate)
    {between : List RegistryOp}
    (ran : memory.run (.snapshot :: between ++ [.restore memory.taken.length]) = some next) :
    next.current = memory.current := by
  rw [List.cons_append, run] at ran
  obtain ⟨taken, stepped, ran⟩ := Option.bind_eq_some_iff.mp ran
  rw [run_append] at ran
  obtain ⟨last, ran, restored⟩ := Option.bind_eq_some_iff.mp ran
  obtain ⟨separate', values⟩ := separate.step stepped
  have number : taken.values.taken[memory.taken.length]? = some memory.current := by
    rw [← Option.some.inj values]
    have count : memory.values.taken.length = memory.taken.length := List.length_map _
    rw [← count]
    exact List.getElem?_concat_length
  obtain ⟨-, kept⟩ := separate'.run
    (fun values => values.taken[memory.taken.length]? = some memory.current) (fun _ => True)
    (fun _ _ _ number stepped _ => RegistryValues.taken_step stepped number) number
    (fun _ _ _ _ => trivial) ran
  obtain ⟨final, stepped, ended⟩ := Option.bind_eq_some_iff.mp restored
  obtain rfl := Option.some.inj ended
  obtain ⟨snap, found, rfl⟩ := Option.map_eq_some_iff.mp stepped
  have seen : last.objects.view snap = memory.current := by
    rw [RegistryMemory.values, List.getElem?_map, found] at kept
    exact Option.some.inj kept
  rw [← seen]
  exact view_make last.objects (last.objects.view snap)

/-- No two lists share a name, now and after every operation so far. -/
def NeverShared (ops : List RegistryOp) : Prop :=
  ∀ before mid, before <+: ops → start.run before = some mid →
    NoSharedName mid.current.toolsByServer

/--
The reverse map of a registry only names servers that list the tool, it names all
of them while no name was ever shared, and a restored snapshot is the registry it
was taken of.
-/
theorem registry_runs (ops : List RegistryOp) :
    (∀ memory, start.run ops = some memory →
      (∀ name server, memory.current.getToolServer name = some server →
        ∃ tools tool, memory.current.toolsByServer.get? server = some tools ∧ tool ∈ tools ∧
          tool.name = name ∧ memory.current.getTool name = some tool) ∧
      (NeverShared ops → ∀ name server, memory.current.getToolServer name = some server ↔
        ∃ tools, memory.current.toolsByServer.get? server = some tools ∧ Exposes tools name)) ∧
    ∀ memory between restored, start.run ops = some memory →
      start.run (ops ++ (.snapshot :: between ++ [.restore memory.taken.length])) =
        some restored → restored.current = memory.current := by
  refine ⟨fun memory ran => ⟨?_, ?_⟩, ?_⟩
  · obtain ⟨-, backed, -⟩ := separate_start.run (RegistryValues.All DownstreamRegistry.Backed)
      (fun _ => True) (fun _ _ _ all stepped _ => all.backed_step stepped)
      (all_start DownstreamRegistry.backed_empty) (fun _ _ _ _ => trivial) ran
    intro name server owned
    exact backed.getTool owned
  · intro never
    obtain ⟨-, consistent, -⟩ := separate_start.run
      (RegistryValues.All DownstreamRegistry.Consistent)
      (fun registry => NoSharedName registry.toolsByServer)
      (fun _ _ _ all stepped unique => all.consistent_step stepped unique)
      (all_start DownstreamRegistry.consistent_empty) never ran
    exact consistent.owner
  · intro memory between restored ran ran'
    rw [run_append, ran] at ran'
    obtain ⟨separate, -⟩ := separate_start.run (fun _ => True) (fun _ => True)
      (fun _ _ _ _ _ _ => trivial) trivial (fun _ _ _ _ => trivial) ran
    exact current_restored separate ran'

/-- A tool that two servers listed for a while. -/
def listedTwice : ResolvedTool := { name := "read_file", serverName := "fs", family := "fs" }

/-- When the second server goes, so does the entry, though the first still lists the tool. -/
theorem registry_runs_listedTwice :
    ∃ memory, start.run [.register "fs" [listedTwice], .register "net" [listedTwice],
        .unregister "net"] = some memory ∧
      memory.current.getToolServer "read_file" = none ∧
      memory.current.toolsByServer.get? "fs" = some [listedTwice] ∧
      ∀ restored, start.run ([.register "fs" [listedTwice], .register "net" [listedTwice],
          .unregister "net"] ++ (.snapshot :: [.clear] ++ [.restore memory.taken.length])) =
            some restored → restored.current = memory.current :=
  ⟨_, rfl, by decide +kernel, rfl, fun restored ran =>
    (registry_runs [.register "fs" [listedTwice], .register "net" [listedTwice],
      .unregister "net"]).2 _ [.clear] restored rfl ran⟩

end RegistryMemory

end Tela
