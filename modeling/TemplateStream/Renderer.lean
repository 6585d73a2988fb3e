import TemplateStream.Data.Store
import TemplateStream.Options
import TemplateStream.Plugin

/-!
# Renderers

A renderer keeps what render passes share: its options, the registries, the stored data and the
plugins with their shared state. The faults that a pass went on in spite of are kept until the
next pass begins.
-/

namespace TemplateStream

/-- What render passes share. -/
structure Renderer where
  options : Options := {}
  /-- The state that all plugins share. -/
  state : List (Value × Value) := []
  /-- The faults that the latest pass went on in spite of. -/
  faults : List Fault := []
  helpers : HelperRegistry := .builtin
  templates : TemplateRegistry := {}
  data : DataStore := {}
  roster : PluginRoster := {}
  /-- The helper modules that were applied. -/
  appliedModules : List Value := []
  /-- The attributes that values have in templates. -/
  attributes : Context.Attributes := Context.attributeOf

instance : Inhabited Renderer := ⟨{}⟩

namespace Renderer

/-- The environment in which bodies are rendered. -/
def environment (renderer : Renderer) : Environment where
  helpers := renderer.helpers
  templates := renderer.templates
  escapes := renderer.options.escapes
  policy := renderer.options.helperPolicy
  placeholder := renderer.options.placeholder

/-- The context in which a template is rendered with a value, if there is one. -/
def contextFor (renderer : Renderer) (template : String) (value : Value) : Context :=
  let base := Context.ofValue .null (renderer.data.contextFor template)
    (some renderer.environment) (some template) renderer.attributes
  match value with
  | .null => base
  | value => base.push value

/-- A list of the shared state with a value appended. -/
def appended (renderer : Renderer) (key content : Value) : Except Fault Renderer :=
  match (Value.lookup key renderer.state).getD (.list []) with
  | .list items =>
    .ok { renderer with state := Value.insertEntry key (.list (items ++ [content])) renderer.state }
  | other => .error (.noAttribute other.typeName "append")

/-- The shared state with a value under a key. -/
def assigned (renderer : Renderer) (key content : Value) : Renderer :=
  { renderer with state := Value.insertEntry key content renderer.state }

end Renderer

end TemplateStream
