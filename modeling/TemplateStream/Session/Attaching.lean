import TemplateStream.Session.Importing
import TemplateStream.Value.Entries

/-!
# Attaching plugins

Attaching makes a plugin with its settings, accepts its name, finds its scripts, and runs the
script for being attached; only then does the plugin join the roster. Events reach the plugins
that are attached when the event arises, in the order in which they were attached. An event that
is fired cannot wait, so that a deferred script fails it; one that is dispatched waits for each
script.
-/

namespace TemplateStream.Session

/-- A way to attach the plugins that a script uses. -/
abbrev AttachSource := PluginSource → SessionM Unit

/-- The settings that a plugin of a blueprint is given, if it takes any. -/
def givenTo (blueprint : Blueprint) (settings : List (Value × Value)) :
    Option (List (Value × Value)) :=
  if blueprint.takesSettings then some settings else none

/-- Settings as a value, null when there are none. -/
def settingsValue (settings : Option (List (Value × Value))) : Value :=
  match settings with
  | some entries => .mapping entries
  | none => .null

/-- Runs a statement of a plugin's script on an event. -/
def runStatement (attach : AttachSource) (plugin : Plugin) (data : List (Value × Value)) :
    PluginStatement → SessionM Unit
  | .log entry => note entry
  | .logData => note (.mapping data)
  | .logSettings => note (settingsValue (givenTo plugin.blueprint plugin.settings))
  | .set key content => update fun renderer => renderer.assigned key content
  | .append key content => do
    let changed ← liftExcept ((← get).renderer.appended key content)
    update fun _ => changed
  | .raise fault => throw fault
  | .pause => pure ()
  | .addHelper helper => addHelper helper
  | .addTemplate name body => addTemplate name body
  | .addReader extension reader => addReader extension reader
  | .store key content => store key content
  | .use source => attach source

/-- Runs statements in order. -/
def runStatements (attach : AttachSource) (plugin : Plugin) (data : List (Value × Value)) :
    List PluginStatement → SessionM Unit
  | [] => pure ()
  | statement :: rest => do
    runStatement attach plugin data statement
    runStatements attach plugin data rest

/-- Calls a plugin on an event, and remembers what came of it. -/
def remembered (plugin : Plugin) (event : Event) (step : SessionM Unit) : SessionM Unit := do
  let result ← attempt step
  happen (.called plugin event result)
  liftExcept result

/-- Runs a script of a plugin on an event, which is logged first. -/
def runScript (attach : AttachSource) (plugin : Plugin) (event : Event)
    (data : List (Value × Value)) (script : EventScript) : SessionM Unit := do
  note (.list [plugin.signature, .text event.name])
  runStatements attach plugin data script.statements

/-- Runs a step inside a coroutine. -/
def inCoroutine (step : SessionM Unit) : SessionM Unit := fun session =>
  let (result, after) := step session
  (result.mapError Fault.leavingCoroutine, after)

/-- Runs the script of a plugin for an event, if it has one, and waits for it. -/
def await (attach : AttachSource) (plugin : Plugin) (event : Event) (data : Value) :
    SessionM Unit := do
  match plugin.script? event with
  | none => pure ()
  | some script =>
    let entries ← liftExcept data.optionalEntries
    remembered plugin event (inCoroutine (runScript attach plugin event entries script))

/-- Runs the script of a plugin for an event, if it has one. It must not have to be awaited. -/
def call (attach : AttachSource) (plugin : Plugin) (event : Event) (data : Value) :
    SessionM Unit := do
  match plugin.script? event with
  | none => pure ()
  | some script =>
    let entries ← liftExcept data.optionalEntries
    remembered plugin event
      (if script.deferred then throw (.plugin (.awaitable plugin.name event))
        else runScript attach plugin event entries script)

/-- The log entry of making a plugin. -/
def constructEntry (given : Option (List (Value × Value))) : Value :=
  .list [.text "construct", settingsValue given]

/-- Makes a plugin of a blueprint with settings. -/
def construct (blueprint : Blueprint) (settings : List (Value × Value)) : SessionM Plugin := do
  let given := givenTo blueprint settings
  note (constructEntry given)
  if let some fault := blueprint.failure then throw fault
  let settings := blueprint.kept settings
  let name ← liftExcept do acceptedName (← blueprint.offeredName (givenTo blueprint settings))
  if (← get).renderer.roster.plugins.contains name then throw (.plugin (.duplicate name))
  let scripts ← liftExcept (blueprint.scripts name)
  let number := (← get).made
  modify fun session => { session with made := number + 1 }
  pure { number, name, blueprint, given, settings, scripts }

/-- The fault of a function for helpers that is called to make a plugin: it finds no registry. -/
def registrationFault (helpers : List Helper) : Fault :=
  match helpers with
  | [] => .plugin .blankName
  | _ => .noAttribute "Renderer" "register"

/-- Makes a plugin and attaches it. -/
def attachFactory (attach : AttachSource) (own : List (Value × Value)) (factory : Factory) :
    SessionM String := do
  match factory with
  | .registration helpers => throw (registrationFault helpers)
  | .blueprint blueprint =>
    let plugin ← construct blueprint ((← get).renderer.roster.resolve own)
    call attach plugin .attach .null
    update fun renderer => { renderer with roster := renderer.roster.attach plugin }
    pure plugin.name

/-- The factory that something loaded is, if it can be called. -/
def Loaded.factory? : Loaded → Option Factory
  | .member (.factory factory) => some factory
  | _ => none

/-- The version that a module says it was made for. -/
def versionOf (library : ModuleLibrary) (module : String) : Value :=
  match library.lookup? module versionMember with
  | none => .int pluginVersion
  | some (.member (.value version)) => version
  | some _ => .null

/-- The factory in a loaded module: under the given name, or under the first of the usual names
that there is one under. -/
def factoryIn (library : ModuleLibrary) (module : String) (name : Option String) :
    Except Fault Factory :=
  let version := versionOf library module
  let names := match name with
    | some name => [name]
    | none => factoryMembers
  if !version.same (.int pluginVersion) then
    .error (.plugin (.apiVersion module version pluginVersion))
  else
    match names.findSome? fun name => (library.lookup? module name).bind Loaded.factory? with
    | some factory => .ok factory
    | none => .error (.plugin (.noFactory module names))

/-- The factory in something loaded. -/
def factoryOf (loaded : Loaded) : SessionM Factory := do
  match loaded with
  | .module name => liftExcept (factoryIn (← get).library name none)
  | loaded =>
    match Loaded.factory? loaded with
    | some factory => pure factory
    | none => throw (.plugin .notPlugin)

/-- The module that a target names, and the member behind the colon, if any. -/
def splitTarget (target : String) : String × Option String :=
  match Text.cut? ':' target with
  | none => (target, none)
  | some (module, member) => (module, if member.isEmpty then none else some member)

/-- The factory that a target leads to. -/
def factoryAt (target : String) : SessionM Factory := do
  let (module, member) := splitTarget target
  match ← attempt (importModule module) with
  | .ok () => liftExcept (factoryIn (← get).library module member)
  | .error fault => throw (if fault.kind.isImport then .pluginImport module fault else fault)

/-- Attaches the plugins at some targets, each with settings of its own under the given ones. -/
def attachTargets (attach : AttachSource) (settings : List (Value × Value)) :
    List (String × Value) → SessionM (List String)
  | [] => pure []
  | (target, own) :: rest => do
    let own ← liftExcept own.optionalEntries
    let name ← attachFactory attach (Value.mergeEntries own settings) (← factoryAt target)
    pure (name :: (← attachTargets attach settings rest))

mutual

/-- Attaches the plugins of a source, and gives their names. The given settings are laid over
those of the source. -/
def attachWith (attach : AttachSource) (settings : List (Value × Value)) :
    PluginSource → SessionM (List String)
  | .absent => throw (.plugin .missing)
  | .target path => do pure [← attachFactory attach settings (← factoryAt path)]
  | .blueprint blueprint => do pure [← attachFactory attach settings (.blueprint blueprint)]
  | .module name => do pure [← attachFactory attach settings (← factoryOf (.module name))]
  | .sequence sources => attachEach attach settings sources
  | .configured source inner => attachWith attach (Value.mergeEntries inner settings) source
  | .targets entries => attachTargets attach settings entries
  | .inert value => throw (.plugin (.wrongType value.typeName))

/-- Attaches the plugins of sources in order. -/
def attachEach (attach : AttachSource) (settings : List (Value × Value)) :
    List PluginSource → SessionM (List String)
  | [] => pure []
  | source :: rest => do
    let names ← attachWith attach settings source
    pure (names ++ (← attachEach attach settings rest))

end

mutual

/-- Imports the modules that a source consists of. -/
def prepare : PluginSource → SessionM Unit
  | .module name => importModule name
  | .sequence sources => prepareEach sources
  | .configured source _ => prepare source
  | _ => pure ()

/-- Imports the modules that sources consist of. -/
def prepareEach : List PluginSource → SessionM Unit
  | [] => pure ()
  | source :: rest => do
    prepare source
    prepareEach rest

end

/-- Attaches the plugins of a source in which scripts use sources to less than the given
depth. -/
def attachTo : Nat → AttachSource
  | 0 => fun _ => throw .tooDeep
  | depth + 1 => fun source => do
    prepare source
    discard (attachWith (attachTo depth) [] source)

/-- The depth to which the scripts of plugins may attach others. -/
def attachLimit : Nat := 100

/-- Attaches the plugins that a script uses. -/
def attachUsed : AttachSource := attachTo attachLimit

/-- Lays settings over those that all plugins start from. -/
def shareSettings (settings : Value) : SessionM Unit := do
  let entries ← liftExcept settings.readEntries
  update fun renderer => { renderer with
    roster := { renderer.roster with
      settings := Value.mergeEntries renderer.roster.settings entries } }

/-- Attaches the plugins of a source with settings, after settings for all plugins, if any, were
laid over those that they start from. -/
def attach (source : PluginSource) (settings : Value := .null) (shared : Value := .null) :
    SessionM (List String) := do
  prepare source
  if let .absent := source then throw (.plugin .missing)
  if shared.isTruthy then shareSettings shared
  attachWith attachUsed (← liftExcept settings.optionalEntries) source

/-- Calls plugins in order on an event that cannot wait. -/
def callEach (event : Event) (data : Value) : List Plugin → SessionM Unit
  | [] => pure ()
  | plugin :: rest => do
    call attachUsed plugin event data
    callEach event data rest

/-- Lets plugins handle an event, each after the one before is done. -/
def awaitEach (event : Event) (data : Value) : List Plugin → SessionM Unit
  | [] => pure ()
  | plugin :: rest => do
    await attachUsed plugin event data
    awaitEach event data rest

/-- Tells the plugins that are attached of an event, and remembers what came of it. -/
def tell (event : Event) (data : Value) (step : List Plugin → SessionM Unit) : SessionM Unit := do
  let result ← attempt (step (← get).renderer.roster.plugins.values)
  happen (.told event data result)
  liftExcept result

/-- Tells all plugins of an event that cannot wait. -/
def fire (event : Event) (data : Value := .null) : SessionM Unit :=
  tell event data (callEach event data)

/-- Tells all plugins of an event and waits for each of them. -/
def dispatch (event : Event) (data : Value := .null) : SessionM Unit :=
  tell event data (awaitEach event data)

/-- Detaches all plugins, which are told of it unless that is to be done quietly, and gives their
names. -/
def detachAll (quiet : Bool := false) : SessionM (List String) := do
  if !quiet then fire .detach
  let names := (← get).renderer.roster.names
  update fun renderer => { renderer with roster := renderer.roster.clear }
  pure names

/-- Detaches all plugins and forgets the state that they share. -/
def close : SessionM Unit := do
  discard detachAll
  resetState

end TemplateStream.Session
