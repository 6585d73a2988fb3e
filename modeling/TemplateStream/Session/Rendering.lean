import TemplateStream.Pass.Agenda
import TemplateStream.Session.DataFiles
import TemplateStream.Session.HelperModules
import TemplateStream.Session.PluginModules

/-!
# Rendering templates

A render pass finds its template, loads the data files, loads the helper modules and renders the
content, and tells the plugins of each stage. A fault of a stage ends the pass as a fault that
names the stage and the template; a fault of a plugin may be put up with instead.
-/

namespace TemplateStream

/-- What is to be rendered: the name of a template, or a body. -/
inductive RenderTarget where
  | named (name : String)
  | given (body : Body)
  deriving Inhabited

/-- What a template is rendered with, and where the text goes. -/
inductive RenderInput where
  /-- A value over the global values of the template. -/
  | value (value : Value) (sink : Sink := .accepting)
  /-- A context that is used as it is. -/
  | context (context : Context) (sink : Sink := .accepting)

instance : Inhabited RenderInput := ⟨.value .null⟩

/-- The sink that is given the fragments of the text. -/
def RenderInput.sink : RenderInput → Sink
  | .value _ sink | .context _ sink => sink

namespace Session

/-- Deals with the fault of plugins on an event as the options say. -/
def pluginFailed (event : Event) (template : Option String) (fault : Fault) : SessionM Unit := do
  let failure := Fault.stage (.pluginEvent event) template fault
  match (← get).renderer.options.pluginPolicy with
  | .abort => throw failure
  | .proceed => update fun renderer => { renderer with faults := renderer.faults ++ [failure] }

/-- Tells the plugins that a pass over a template has come to an event. -/
def announce (event : Event) (template : String) (data : List (String × Value) := []) :
    SessionM Unit := do
  match ← attempt (dispatch event (.ofFields data)) with
  | .ok () => pure ()
  | .error fault => pluginFailed event (some template) fault

/-- The text by which a data manager is cited in the data of an event. -/
def managerText : String := "<manager>"

/-- Tells the plugins that a data file was loaded. -/
def announceFile : FileNotice := fun file key content => do
  let data := Value.ofFields [("file", .text file.path.text), ("key", .text key),
    ("data", content), ("data_manager", .text managerText)]
  match ← attempt (fire .dataFileLoaded data) with
  | .ok () => pure ()
  | .error fault => pluginFailed .dataFileLoaded none fault

/-- The name and the body of what is to be rendered. -/
def resolve (target : RenderTarget) : SessionM (String × Body) := do
  match target with
  | .named name =>
    match (← get).renderer.templates.get name with
    | .ok body => pure (name, body)
    | .error fault => throw (.stage .parse (some name) fault)
  | .given body =>
    if body.isRenderable then pure (body.ownName, body) else throw (.notRenderable body.typeName)

/-- Loads the data files of the options. -/
def loadData (template : String) : SessionM Unit := do
  announce .beforeLoadData template
  match ← attempt (loadPaths announceFile (← get).renderer.options.dataPaths) with
  | .ok _ => pure ()
  | .error fault =>
    throw (if fault.kind == .render then fault else .stage .dataLoad (some template) fault)
  announce .afterLoadData template [("data", (← get).renderer.data.contextData)]

/-- Loads the helper modules of the options that were not applied yet. -/
def loadHelpers (template : String) : SessionM Unit := do
  announce .beforeLoadHelpers template
  let pending ← pendingModules
  match ← attempt (loadHelperModules pending) with
  | .ok () => markApplied pending
  | .error fault => throw (.stage .helperLoad (some template) fault)
  let ids := (← get).renderer.helpers.ids
  announce .afterLoadHelpers template [("helpers", .tuple (ids.map .text))]

/-- The context in which a template is rendered. -/
def contextOf (template : String) (input : RenderInput) : SessionM Context := do
  match input with
  | .context context _ => pure context
  | .value value _ => pure ((← get).renderer.contextFor template value)

/-- The stage that a fault of the content is reported under. -/
def contentStage (fault : Fault) : Stage :=
  if fault.kind == .helper then .helperCall else .content

/-- Renders a body as a document. -/
def renderContent (template : String) (body : Body) (input : RenderInput) : SessionM String := do
  let context ← contextOf template input
  let session ← get
  let pass := Pass.start input.sink true session.bookmarks
  let (result, pass) := (Pass.document body context).run pass
  modify fun session => { session with
    log := session.log ++ pass.log
    bookmarks := pass.bookmarks
    delivered := pass.tree.delivered }
  match result with
  | .ok text => pure text
  | .error fault => throw (.stage (contentStage fault) (some template) fault)

/-- Runs a render pass and gives the text of the document. -/
def render (target : RenderTarget) (input : RenderInput) : SessionM String := do
  modify fun session => { session with delivered := [] }
  update fun renderer => { renderer with faults := [] }
  let (template, body) ← resolve target
  announce .beforeRender template [("template", .text template)]
  loadData template
  loadHelpers template
  announce .beforeRenderContent template [("template", .text template)]
  let output ← renderContent template body input
  announce .afterRenderContent template [("template", .text template), ("output", .text output)]
  announce .afterRender template [("template", .text template)]
  pure output

/-- Sets a renderer up with options and plugins, and gives the warnings of loading plugins. -/
def setUp (options : Options) (plugins : List PluginSource) (group : Option String) :
    SessionM (List String) := do
  modify fun session => { session with renderer := { options } }
  prepareEach plugins
  let warnings ← loadPlugins options.pluginModules group
  plugins.forM fun source => discard (attach source)
  pure warnings

end Session

end TemplateStream
