/-!
# Lifecycle events

The stages of a render pass that plugins are told about, from the moment a plugin is attached to
the moment it is detached.
-/

namespace TemplateStream

/-- The lifecycle events, in the order in which they arise. -/
inductive Event where
  | attach
  | beforeRender
  | beforeLoadData
  | dataFileLoaded
  | afterLoadData
  | beforeLoadHelpers
  | afterLoadHelpers
  | beforeRenderContent
  | afterRenderContent
  | afterRender
  | detach
  deriving DecidableEq, Inhabited, Repr

namespace Event

/-- The name under which a plugin declares that it handles an event. -/
def name : Event → String
  | .attach => "on_attach"
  | .beforeRender => "before_render"
  | .beforeLoadData => "before_load_data"
  | .dataFileLoaded => "on_data_file_loaded"
  | .afterLoadData => "after_load_data"
  | .beforeLoadHelpers => "before_load_helpers"
  | .afterLoadHelpers => "after_load_helpers"
  | .beforeRenderContent => "before_render_content"
  | .afterRenderContent => "after_render_content"
  | .afterRender => "after_render"
  | .detach => "on_detach"

/-- Every event. -/
def all : List Event :=
  [.attach, .beforeRender, .beforeLoadData, .dataFileLoaded, .afterLoadData, .beforeLoadHelpers,
    .afterLoadHelpers, .beforeRenderContent, .afterRenderContent, .afterRender, .detach]

/-- The event of a name. -/
def ofName? (name : String) : Option Event :=
  all.find? fun event => event.name == name

/-- Every event is found under its name. -/
theorem ofName?_name (event : Event) : ofName? event.name = some event := by
  cases event <;> decide

end Event

end TemplateStream
