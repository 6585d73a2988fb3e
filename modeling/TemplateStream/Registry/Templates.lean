import TemplateStream.Registry.Helpers

/-!
# The registry of templates

Templates are registered under a name less the blanks around it, the last registration winning,
and are found under exactly that name.
-/

namespace TemplateStream

/-- Registered templates by name. No name has blanks around it. -/
structure TemplateRegistry where
  bodies : Table Body
  trimmed : ∀ name ∈ bodies.keys, Text.strip name = name

namespace TemplateRegistry

/-- The registry without templates. -/
def empty : TemplateRegistry := ⟨{}, fun _ member => absurd member List.not_mem_nil⟩

instance : EmptyCollection TemplateRegistry := ⟨empty⟩

instance : Inhabited TemplateRegistry := ⟨empty⟩

/-- The names in the order of registration. -/
def names (registry : TemplateRegistry) : List String := registry.bodies.keys

/-- The registry with a template under a name less the blanks around it. -/
def enlist (registry : TemplateRegistry) (name : String) (body : Body) : TemplateRegistry where
  bodies := registry.bodies.insert (Text.strip name) body
  trimmed _ member := by
    rcases Table.mem_keys_of_insert member with rfl | old
    · exact Text.strip_strip name
    · exact registry.trimmed _ old

/-- The registry of templates that are enlisted one after the other. -/
def ofList (entries : List (String × Body)) : TemplateRegistry :=
  entries.foldl (fun registry entry => registry.enlist entry.1 entry.2) {}

/-- Registers a template. -/
def register (registry : TemplateRegistry) (name : String) (body : Body) :
    Except Fault TemplateRegistry := do
  if (Text.strip name).isEmpty then throw (.registry .blankTemplate)
  pure (registry.enlist name body)

/-- The template of a name. -/
def get (registry : TemplateRegistry) (name : String) : Except Fault Body :=
  match registry.bodies.get? name with
  | some body => .ok body
  | none => .error (.registry (.unknownTemplate name (sortedNames registry.names)))

/-- Whether a name is registered. -/
def contains (registry : TemplateRegistry) (name : String) : Bool :=
  registry.bodies.contains name

end TemplateRegistry

end TemplateStream
