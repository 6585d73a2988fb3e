import TemplateStream.CommandLine.Arguments
import TemplateStream.Parameter.Pairs
import TemplateStream.Session.Rendering

/-!
# The command

The command sets a renderer up as its arguments say and renders a template file, or lists the
plugins or the extensions. Faults of values and of the library are reported and end the command
with the status of a failure; what was written before stays written.
-/

namespace TemplateStream

/-- What a template file defines, and the fault that loading it ends in, if any. -/
structure TemplateFile where
  body : Option Body := none
  /-- Further templates by their names. -/
  fragments : List (String × Body) := []
  frontMatter : Option String := none
  failure : Option Fault := none
  deriving Inhabited

namespace CommandLine

/-- A session with what is written and what is reported to the one who gave the command. -/
structure Terminal where
  session : Session
  /-- What the template files define, by their places. -/
  templates : List (List String × TemplateFile) := []
  written : String := ""
  reported : String := ""
  deriving Inhabited

/-- Steps of a command, which keep their effects when they fail. -/
abbrev TerminalM := ExceptT Fault (StateM Terminal)

namespace Terminal

/-- A step of the session. -/
def onSession {α : Type} (step : SessionM α) : TerminalM α := fun terminal =>
  let (result, session) := step terminal.session
  (result, { terminal with session })

/-- Writes text. -/
def write (text : String) : TerminalM Unit :=
  modify fun terminal => { terminal with written := terminal.written ++ text }

/-- Reports a line. -/
def report (line : String) : TerminalM Unit :=
  modify fun terminal => { terminal with reported := terminal.reported ++ line ++ "\n" }

end Terminal

open Terminal

/-- Settings with a list under a name, unless they have something there already. -/
def listSetting (name : SettingName) (values : List String) (settings : Table Value) :
    Table Value :=
  if settings.contains name.label then settings
  else settings.insert name.label (.text (",".intercalate values))

/-- Settings with a list under a name, unless the list is empty or they have something there
already. -/
def optionalSetting (name : SettingName) (values : List String) (settings : Table Value) :
    Table Value :=
  if values.isEmpty then settings else listSetting name values settings

/-- The settings of the arguments: those given as pairs before those given as lists. -/
def settingsOf (arguments : Arguments) (pairs : Table String) : Table Value :=
  pairs.map .text
    |> listSetting .pluginModules (arguments.listed .plugins)
    |> optionalSetting .dataPaths (arguments.listed .data)
    |> optionalSetting .helperModules (arguments.listed .helpers)

/-- Sets a renderer up with settings and reports the warnings. -/
def setUp (settings : Table Value) : TerminalM Unit := do
  let options ← liftExcept (Options.ofSettings (.ofTable settings))
  let warnings ← onSession (Session.setUp options [] none)
  warnings.forM report

/-- Faults of loading template files. -/
inductive TemplateFileFault where
  | missing (path : String)
  | unloadable (path : String)
  | withoutBody (path : String)

/-- The wording of a fault of a template file. -/
def TemplateFileFault.message : TemplateFileFault → String
  | .missing path => s!"template file '{path}' does not exist."
  | .unloadable path => s!"cannot load template file '{path}'."
  | .withoutBody path => s!"template file '{path}' does not define a TEMPLATE body."

/-- The ending of the names of template files. -/
def templateEnding : String := ".py"

/-- The body of a template file, which has to be one. -/
def TemplateFile.mainBody (file : TemplateFile) : Option Body :=
  file.body.filter Body.isRenderable

/-- Loads a template file and gives its body and what else it defines. -/
def loadTemplate (path : Path) : TerminalM (Body × TemplateFile) := do
  let refuse {α : Type} (cause : TemplateFileFault) : TerminalM α :=
    throw (.raised .value cause.message)
  let terminal ← get
  match terminal.session.files.find path with
  | .ok (place, .file _) =>
    if !path.text.endsWith templateEnding then refuse (.unloadable path.text)
    else
      let file := (terminal.templates.lookup place).getD {}
      if let some fault := file.failure then throw fault
      match TemplateFile.mainBody file with
      | some body => pure (body, file)
      | none => refuse (.withoutBody path.text)
  | _ => refuse (.missing path.text)

/-- The option by which values of the context are given. -/
def assignmentOption : String := "--set"

/-- The option by which settings are given. -/
def settingOption : String := "--option"

/-- Renders a template with values and writes it as it flows out. -/
def renderTemplate (name : String) (assignments : List String) : TerminalM Unit := do
  let values ← liftExcept (Parameter.pairs assignmentOption assignments)
  let result ← attempt (onSession
    (Session.render (.named name) (.value (.ofTable (values.map .text)))))
  write (String.join (← get).session.delivered)
  discard (liftExcept result)

/-- Renders a template file. The plugins are detached whatever becomes of the render. -/
def runRender (arguments : Arguments) (path : Path) : TerminalM Unit := do
  let pairs ← liftExcept (Parameter.pairs settingOption (arguments.listed .settings))
  setUp (settingsOf arguments pairs)
  let (body, file) ← loadTemplate path
  file.fragments.forM fun (name, fragment) => onSession (Session.addTemplate name fragment)
  onSession (Session.addTemplate path.stem body file.frontMatter)
  let result ← attempt (renderTemplate path.stem (arguments.listed .assignments))
  onSession Session.close
  liftExcept result
  write "\n"

/-- The settings that a plugin reports, an empty mapping when there are none. -/
def reportedText (settings : Value) : String :=
  if settings.isTruthy then settings.toText else (Value.mapping []).toText

/-- Lists the attached plugins with the settings that they report. -/
def runPlugins (arguments : Arguments) : TerminalM Unit := do
  setUp (settingsOf arguments {})
  (← get).session.renderer.roster.reports.forM fun (name, settings) =>
    write (name ++ "\t" ++ reportedText settings ++ "\n")

/-- Lists the extensions that have readers. -/
def runExtensions (arguments : Arguments) : TerminalM Unit := do
  setUp (settingsOf arguments {})
  (← get).session.renderer.data.extensions.extensions.forM fun extension =>
    write (extension ++ "\n")

/-- Does what is to be done. -/
def Invocation.run (invocation : Invocation) : TerminalM Unit :=
  match invocation.action with
  | .render => runRender invocation.arguments (Path.ofText (invocation.arguments.operand.getD ""))
  | .plugins => runPlugins invocation.arguments
  | .extensions => runExtensions invocation.arguments

/-- Whether a fault is reported, and not passed on. -/
def isReported (fault : Fault) : Bool := fault.kind.isValue || fault.kind.isLibrary

/-- The status of success. -/
def successStatus : Nat := 0

/-- The status of failure. -/
def failureStatus : Nat := 2

/-- Does what is to be done and gives the status, reporting the faults that are. -/
def Invocation.perform (invocation : Invocation) : TerminalM Nat := do
  match ← attempt invocation.run with
  | .ok () => pure successStatus
  | .error fault =>
    if isReported fault then
      report s!"error: {fault.message}"
      pure failureStatus
    else throw fault

end CommandLine

end TemplateStream
