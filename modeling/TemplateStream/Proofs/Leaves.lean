import TemplateStream.Proofs.Course
import TemplateStream.Proofs.Dictionaries

/-!
# Leaves of nested sources

A source, however its parts are nested, stands for a row of leaves: of each it says what a plugin is
made of and which layers of settings lie around it. To attach the source is to attach its leaves
from left to right. The settings of a leaf are laid over those that all plugins start from, the
innermost layer first and the settings of the call last, each without the key of the plugin.
-/

namespace TemplateStream

/-- What the plugin of a leaf is made of. -/
inductive Origin where
  | blueprint (blueprint : Blueprint)
  /-- A module that is to be imported, or a member of one. -/
  | target (path : String)
  | module (name : String)
  /-- Nothing that a plugin can be made of, for this fault. -/
  | faulty (fault : Fault)

/-- A leaf of a source, with the layers of settings around it from the innermost on. -/
structure Leaf where
  origin : Origin
  layers : List (List (Value × Value))

/-- The leaf of a target that has settings of its own, inside of some layers. -/
def Leaf.ofTarget (layers : List (List (Value × Value))) (target : String) (own : Value) : Leaf :=
  match own.optionalEntries with
  | .ok own => ⟨.target target, own :: layers⟩
  | .error fault => ⟨.faulty fault, layers⟩

mutual

/-- The leaves of a source from left to right, inside of some layers. -/
def PluginSource.leavesIn (layers : List (List (Value × Value))) : PluginSource → List Leaf
  | .absent => [⟨.faulty (.plugin .missing), layers⟩]
  | .target path => [⟨.target path, layers⟩]
  | .blueprint plan => [⟨.blueprint plan, layers⟩]
  | .module name => [⟨.module name, layers⟩]
  | .sequence sources => PluginSource.leavesOfEach layers sources
  | .configured source settings => PluginSource.leavesIn (settings :: layers) source
  | .targets entries => entries.map fun entry => Leaf.ofTarget layers entry.1 entry.2
  | .inert value => [⟨.faulty (.plugin (.wrongType value.typeName)), layers⟩]

/-- The leaves of sources in order, inside of some layers. -/
def PluginSource.leavesOfEach (layers : List (List (Value × Value))) :
    List PluginSource → List Leaf
  | [] => []
  | source :: rest => source.leavesIn layers ++ PluginSource.leavesOfEach layers rest

end

/-- The leaves of a source from left to right. -/
def PluginSource.leaves (source : PluginSource) : List Leaf := source.leavesIn []

namespace Session

/-! ## Attaching leaf by leaf -/

/-- Finds the factory that a leaf leads to. -/
def findFactory : Origin → SessionM Factory
  | .blueprint blueprint => pure (.blueprint blueprint)
  | .target path => factoryAt path
  | .module name => factoryOf (.module name)
  | .faulty fault => throw fault

/-- Attaches the plugin of a leaf with the settings of a call laid over its layers. -/
def attachLeaf (attach : AttachSource) (call : List (Value × Value)) (leaf : Leaf) :
    SessionM String := do
  let factory ← findFactory leaf.origin
  attachFactory attach (leaf.layers.foldr Value.mergeEntries call) factory

variable {attach : AttachSource} {call : List (Value × Value)}

/-- A single leaf is attached for its one name. -/
theorem mapM_attachLeaf_singleton (leaf : Leaf) :
    [leaf].mapM (attachLeaf attach call) = (do pure [← attachLeaf attach call leaf]) := by
  rw [List.mapM_cons, List.mapM_nil]
  simp only [pure_bind]

/-- To attach targets is to attach their leaves from left to right. -/
theorem attachTargets_eq_mapM (layers : List (List (Value × Value)))
    (entries : List (String × Value)) :
    attachTargets attach (layers.foldr Value.mergeEntries call) entries =
      (entries.map fun entry => Leaf.ofTarget layers entry.1 entry.2).mapM
        (attachLeaf attach call) := by
  induction entries with
  | nil => exact List.mapM_nil.symm
  | cons entry rest ih =>
    obtain ⟨target, own⟩ := entry
    rw [attachTargets, List.map_cons, List.mapM_cons, ← ih]
    cases read : own.optionalEntries with
    | error fault =>
      have leaf : Leaf.ofTarget layers target own = ⟨.faulty fault, layers⟩ := by
        rw [Leaf.ofTarget, read]
      rw [leaf]
      rfl
    | ok entries =>
      have leaf : Leaf.ofTarget layers target own = ⟨.target target, entries :: layers⟩ := by
        rw [Leaf.ofTarget, read]
      rw [leaf]
      simp only [attachLeaf, findFactory, List.foldr_cons, bind_assoc]
      rfl

mutual

/-- To attach a source, inside of some layers, is to attach its leaves from left to right. -/
theorem attachWith_eq_mapM (layers : List (List (Value × Value))) : ∀ source : PluginSource,
    attachWith attach (layers.foldr Value.mergeEntries call) source =
      (source.leavesIn layers).mapM (attachLeaf attach call)
  | .absent => by
    rw [attachWith, PluginSource.leavesIn, mapM_attachLeaf_singleton]
    rfl
  | .target path => by
    rw [attachWith, PluginSource.leavesIn, mapM_attachLeaf_singleton]
    simp only [attachLeaf, findFactory, bind_assoc]
  | .blueprint blueprint => by
    rw [attachWith, PluginSource.leavesIn, mapM_attachLeaf_singleton]
    simp only [attachLeaf, findFactory, pure_bind]
  | .module name => by
    rw [attachWith, PluginSource.leavesIn, mapM_attachLeaf_singleton]
    simp only [attachLeaf, findFactory, bind_assoc]
  | .sequence sources => by
    rw [attachWith, PluginSource.leavesIn]
    exact attachEach_eq_mapM layers sources
  | .configured source settings => by
    rw [attachWith, PluginSource.leavesIn]
    exact attachWith_eq_mapM (settings :: layers) source
  | .targets entries => by
    rw [attachWith, PluginSource.leavesIn]
    exact attachTargets_eq_mapM layers entries
  | .inert value => by
    rw [attachWith, PluginSource.leavesIn, mapM_attachLeaf_singleton]
    rfl

/-- To attach sources in order is to attach the leaves of each from left to right. -/
theorem attachEach_eq_mapM (layers : List (List (Value × Value))) :
    ∀ sources : List PluginSource,
      attachEach attach (layers.foldr Value.mergeEntries call) sources =
        (PluginSource.leavesOfEach layers sources).mapM (attachLeaf attach call)
  | [] => by
    rw [attachEach, PluginSource.leavesOfEach, List.mapM_nil]
  | source :: rest => by
    rw [attachEach, PluginSource.leavesOfEach, List.mapM_append, attachWith_eq_mapM layers source,
      attachEach_eq_mapM layers rest]

end

end Session

/-! ## Settings of leaves -/

namespace PluginRoster

/-- Settings with a layer laid over them, less the key of the plugin. -/
def overlaid (settings layer : List (Value × Value)) : List (Value × Value) :=
  Value.mergeEntries settings (Value.eraseEntry (.text sourceKey) layer)

variable {common call : List (Value × Value)} {layers : List (List (Value × Value))} {key : Value}

theorem keyed_overlaid {layer : List (Value × Value)} (keyed : Value.Keyed common)
    (atop : Value.Keyed layer) : Value.Keyed (overlaid common layer) :=
  keyed.mergeEntries atop.eraseEntry

/-- Layers that were laid over each other from the call on are laid over the settings as if each was
from the innermost on. -/
theorem resolve_layers {roster : PluginRoster} (common : Value.Keyed roster.settings)
    (layered : ∀ layer ∈ layers, Value.IsDictionary layer) (keyed : Value.Keyed call) :
    roster.resolve (layers.foldr Value.mergeEntries call) =
      (layers ++ [call]).foldl overlaid roster.settings := by
  have kept : ∀ layer ∈ layers, Value.Keyed layer :=
    fun layer member => (layered layer member).keyed
  have bare : ∀ layer ∈ layers.map (Value.eraseEntry (.text sourceKey)),
      Value.IsDictionary layer := by
    intro layer member
    obtain ⟨whole, inside, rfl⟩ := List.mem_map.mp member
    exact (layered whole inside).eraseEntry
  rw [resolve, Value.eraseEntry_foldr rfl kept keyed,
    Value.mergeEntries_foldr common bare keyed.eraseEntry]
  simp only [List.foldl_append, List.foldl_map, List.foldl_cons, List.foldl_nil]
  rfl

/-- A key, other than that of the plugin, has what the last of the layers that it is in gives it,
and else what it had. -/
theorem lookup_overlaid (keyed : Value.Keyed common)
    (layered : ∀ layer ∈ layers, Value.IsDictionary layer) (looked : key.unkeyed? = none)
    (apart : Value.same key (.text sourceKey) = false) :
    Value.lookup key (layers.foldl overlaid common) =
      (layers.reverse.findSome? (Value.lookup key)).or (Value.lookup key common) := by
  induction layers generalizing common with
  | nil => rfl
  | cons first rest ih =>
    obtain ⟨own, later⟩ := List.forall_mem_cons.mp layered
    have once : Value.lookup key (overlaid common first) =
        (Value.lookup key first).or (Value.lookup key common) := by
      rw [overlaid, Value.lookup_mergeEntries keyed own.eraseEntry looked,
        Value.lookup_eraseEntry own.keyed looked rfl apart]
    rw [List.foldl_cons, ih (keyed_overlaid keyed own.keyed) later, once, List.reverse_cons,
      List.findSome?_append, Option.or_assoc]
    simp only [List.findSome?_cons, List.findSome?_nil]
    cases Value.lookup key first <;> rfl

end PluginRoster

/-- The settings of the plugin of a leaf: over those that all plugins start from lie the layers from
the innermost on and then those of the call. -/
def Leaf.resolved (leaf : Leaf) (common call : List (Value × Value)) : List (Value × Value) :=
  (leaf.layers ++ [call]).foldl PluginRoster.overlaid common

/-- A setting of a leaf, other than the key of the plugin, is that of the call, else that of the
outermost layer that has it, and else the one that all plugins start from. -/
theorem Leaf.lookup_resolved {leaf : Leaf} {key : Value} {common call : List (Value × Value)}
    (keyed : Value.Keyed common) (layered : ∀ layer ∈ leaf.layers, Value.IsDictionary layer)
    (atop : Value.IsDictionary call) (looked : key.unkeyed? = none)
    (apart : Value.same key (.text PluginRoster.sourceKey) = false) :
    Value.lookup key (leaf.resolved common call) =
      ((call :: leaf.layers.reverse).findSome? (Value.lookup key)).or
        (Value.lookup key common) := by
  have all : ∀ layer ∈ leaf.layers ++ [call], Value.IsDictionary layer :=
    List.forall_mem_append.mpr ⟨layered, List.forall_mem_singleton.mpr atop⟩
  rw [resolved, PluginRoster.lookup_overlaid keyed all looked apart, List.reverse_append]
  rfl

end TemplateStream
