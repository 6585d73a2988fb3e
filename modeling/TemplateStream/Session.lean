import TemplateStream.Module
import TemplateStream.Pass
import TemplateStream.Renderer

/-!
# Sessions

A session is a renderer in its surroundings: the files and modules that it can reach, and a log.
What a step of a session did before it failed stays done. A session also keeps the history of what
happened to its plugins and data files, which no step reads.
-/

namespace TemplateStream

/-- What happens to the plugins and data files of a session. -/
inductive Happening where
  /-- A plugin was called on an event, and this came of it. -/
  | called (plugin : Plugin) (event : Event) (result : Except Fault Unit)
  /-- The attached plugins were told of an event, and this came of it. -/
  | told (event : Event) (data : Value) (result : Except Fault Unit)
  /-- A reader was applied to a data file, and this came of it. -/
  | read (file : DataFile) (result : Except Fault Value)

/-- A renderer with the files and modules that it can reach. -/
structure Session where
  files : FileTree := {}
  library : ModuleLibrary := {}
  /-- Names and targets of installed plugins, by the group that they are listed under. -/
  installed : Table (List (String × String)) := {}
  log : List Value := []
  renderer : Renderer := {}
  /-- What scripts of earlier passes remembered. -/
  bookmarks : Bookmarks := {}
  /-- The fragments that the sink of the latest pass was given. -/
  delivered : List String := []
  /-- The number of plugins that were made. -/
  made : Nat := 0
  /-- What happened to plugins and data files, in the order of time. -/
  history : List Happening := []
  deriving Inhabited

/-- Steps of a session, which keep their effects when they fail. -/
abbrev SessionM := ExceptT Fault (StateM Session)

namespace Session

/-- Adds an entry to the log. -/
def note (entry : Value) : SessionM Unit :=
  modify fun session => { session with log := session.log ++ [entry] }

/-- Remembers something that happened. -/
def happen (happening : Happening) : SessionM Unit :=
  modify fun session => { session with history := session.history ++ [happening] }

/-- Changes the renderer. -/
def update (change : Renderer → Renderer) : SessionM Unit :=
  modify fun session => { session with renderer := change session.renderer }

/-- Registers a helper, replacing any other of its identifier. -/
def addHelper (helper : Helper) : SessionM Unit := do
  let helpers ← liftExcept ((← get).renderer.helpers.register helper true)
  update fun renderer => { renderer with helpers }

/-- Registers a bare function as a helper, replacing any other of its identifier. There has to be
a function. -/
def addFunction (id : String) (function : Option HelperFunction) : SessionM Unit := do
  match function with
  | none => throw (.registry (.noFunction id))
  | some function =>
    let helpers ← liftExcept ((← get).renderer.helpers.add id function)
    update fun renderer => { renderer with helpers }

/-- Registers a template. Values in front of it are stored as those of its page. -/
def addTemplate (name : String) (body : Body) (source : Option String := none) :
    SessionM Unit := do
  let templates ← liftExcept ((← get).renderer.templates.register name body)
  update fun renderer => { renderer with templates }
  match source with
  | none => pure ()
  | some source =>
    let (data, _) ← liftExcept ((← get).renderer.data.addPage source name)
    update fun renderer => { renderer with data }

/-- Registers a reader for an extension. -/
def addReader (extension : String) (reader : DataReader) : SessionM Unit := do
  let extensions ← liftExcept ((← get).renderer.data.extensions.register extension reader)
  update fun renderer => { renderer with data := { renderer.data with extensions } }

/-- Stores a value as that of a data file. -/
def store (key : String) (content : Value) : SessionM Unit :=
  update fun renderer => { renderer with data := renderer.data.insert key content }

/-- Forgets the state that plugins share. -/
def resetState : SessionM Unit := update fun renderer => { renderer with state := [] }

end Session

end TemplateStream
