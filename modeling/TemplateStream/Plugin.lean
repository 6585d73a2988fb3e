import TemplateStream.Data.Reader
import TemplateStream.Registry.Templates

/-!
# Plugins

A plugin is made from a blueprint: the blueprint says how the plugin is named, whether it is given
its settings, and what it does on the events of a render pass. Blueprints are reached through
sources, which may name a module, list other sources, or carry settings for them.
-/

namespace TemplateStream

/-- Where a plugin has its name from. -/
inductive PluginName where
  /-- The plugin has none. -/
  | missing
  | given (name : Value)
  /-- The name is the setting of a key. -/
  | setting (key : Value)
  deriving Inhabited

/-- How an argument is passed for a parameter of a function. -/
inductive Passing where
  | positionalOnly
  | positionalOrKeyword
  /-- The parameter takes all positional arguments that are left. -/
  | positionalRest
  | keywordOnly
  /-- The parameter takes all keyword arguments that are left. -/
  | keywordRest
  deriving DecidableEq

/-- Whether an argument can be passed by its position for one parameter. -/
def Passing.isPositional : Passing → Bool
  | .positionalOnly | .positionalOrKeyword => true
  | _ => false

mutual

/-- A statement of a script that a plugin runs on an event. -/
inductive PluginStatement where
  | log (entry : Value)
  /-- Logs the data of the event. -/
  | logData
  /-- Logs the settings that the plugin was made with. -/
  | logSettings
  /-- Gives a key of the shared state a value. -/
  | set (key content : Value)
  /-- Appends a value to a list of the shared state, which is made when there is none. -/
  | append (key content : Value)
  | raise (fault : Fault)
  /-- Lets others go first; only where the script runs asynchronously. -/
  | pause
  | addHelper (helper : Helper)
  | addTemplate (name : String) (body : Body)
  | addReader (extension : String) (reader : DataReader)
  /-- Stores a value as that of a data file. -/
  | store (key : String) (content : Value)
  /-- Attaches further plugins. -/
  | use (source : PluginSource)

/-- What a blueprint has under the name of an event. -/
inductive PluginHandler where
  /-- A script. One that is deferred runs only when it is awaited. -/
  | scripted (deferred : Bool) (script : List PluginStatement)
  /-- Something that cannot be called. -/
  | inert

/-- A way to make a plugin. -/
structure Blueprint where
  name : PluginName
  /-- How arguments are passed for the parameters of the factory, if that can be found out. -/
  parameters : Option (List Passing)
  /-- What making the plugin leaves of the settings that it is given. -/
  revise : List (Value × Value) → List (Value × Value)
  /-- Whether the plugin lists its handlers itself. One that does not is asked for a handler of
  each event, and anything that cannot be called counts as none. -/
  listsHandlers : Bool
  /-- Handlers by the names of their events. -/
  handlers : List (String × PluginHandler)
  /-- The settings that the plugin reports, if not those that it was attached with. -/
  reported : Option Value
  /-- The fault of making the plugin. -/
  failure : Option Fault

/-- Where plugins come from. -/
inductive PluginSource where
  /-- Nothing. -/
  | absent
  /-- A module, or a member of a module behind a colon. -/
  | target (path : String)
  | blueprint (blueprint : Blueprint)
  /-- A module that is imported already. -/
  | module (name : String)
  | sequence (sources : List PluginSource)
  /-- A source with settings for its plugins. -/
  | configured (source : PluginSource) (settings : List (Value × Value))
  /-- Modules or their members, each with settings. -/
  | targets (entries : List (String × Value))
  /-- Something that no plugin comes from. -/
  | inert (value : Value)

end

instance : Inhabited PluginStatement := ⟨.logData⟩

instance : Inhabited PluginSource := ⟨.absent⟩

instance : Inhabited Blueprint := ⟨⟨.missing, none, id, false, [], none, none⟩⟩

/-- Whether a plugin is given its settings when it is made: its factory takes two arguments by
position or any number of them. -/
def Blueprint.takesSettings (blueprint : Blueprint) : Bool :=
  match blueprint.parameters with
  | none => false
  | some parameters =>
    parameters.contains .positionalRest || 2 ≤ (parameters.filter Passing.isPositional).length

/-- The settings that are kept for a plugin that is made with settings. It shares them with the
plugin, so what that does to them in being made shows. -/
def Blueprint.kept (blueprint : Blueprint) (settings : List (Value × Value)) :
    List (Value × Value) :=
  if blueprint.takesSettings then blueprint.revise settings else settings

/-- What makes a plugin when it is called. -/
inductive Factory where
  | blueprint (blueprint : Blueprint)
  /-- A function that registers helpers with the registry that it is given. -/
  | registration (helpers : List Helper)
  deriving Inhabited

/-- The version that a module of plugins has to be made for. -/
def pluginVersion : Nat := 1

/-- The member of a module that says for which version it was made. -/
def versionMember : String := "PLUGIN_API_VERSION"

/-- The members of a module that are tried when none is named. -/
def factoryMembers : List String := ["Plugin", "plugin", "create_plugin"]

/-- A script that a plugin runs on an event. -/
structure EventScript where
  deferred : Bool
  statements : List PluginStatement
  deriving Inhabited

/-- A plugin that was made, with the settings that are kept for it. -/
structure Plugin where
  /-- How many plugins were made before it. -/
  number : Nat
  name : String
  blueprint : Blueprint
  /-- The settings that the plugin was given when it was made, unless it takes none. -/
  given : Option (List (Value × Value))
  /-- The settings that are kept for it. -/
  settings : List (Value × Value)
  scripts : List (Event × EventScript)
  deriving Inhabited

namespace Plugin

/-- The script for an event. -/
def script? (plugin : Plugin) (event : Event) : Option EventScript := plugin.scripts.lookup event

/-- Whether a plugin has a script for an event. -/
def handles (plugin : Plugin) (event : Event) : Bool := (plugin.script? event).isSome

/-- The settings that a plugin reports. -/
def report (plugin : Plugin) : Value := plugin.blueprint.reported.getD (.mapping plugin.settings)

/-- The name by which a plugin signs its entries in the log. -/
def signature (plugin : Plugin) : Value :=
  match plugin.blueprint.name with
  | .given name => name
  | _ => .null

end Plugin

/-- The script of a handler that the plugin lists itself, under the name of an event that has to
exist. -/
def listedScript (plugin : String) (name : String) (handler : PluginHandler) :
    Except Fault (Event × EventScript) :=
  match Event.ofName? name with
  | none => .error (.unknownPluginEvent plugin name (.plugin (.notAnEvent (.text name))))
  | some event =>
    match handler with
    | .scripted deferred statements => .ok (event, ⟨deferred, statements⟩)
    | .inert => .error (.plugin (.handlerNotCallable plugin event))

/-- The script of a handler that the plugin is asked for. -/
def askedScript? (handlers : List (String × PluginHandler)) (event : Event) :
    Option (Event × EventScript) :=
  match handlers.lookup event.name with
  | some (.scripted deferred statements) => some (event, ⟨deferred, statements⟩)
  | _ => none

/-- The scripts of a blueprint whose plugin has the given name. -/
def Blueprint.scripts (blueprint : Blueprint) (plugin : String) :
    Except Fault (List (Event × EventScript)) :=
  if blueprint.listsHandlers then
    blueprint.handlers.mapM fun (name, handler) => listedScript plugin name handler
  else .ok (Event.all.filterMap (askedScript? blueprint.handlers))

/-- The value that is offered as the name of a plugin made with the given settings. -/
def Blueprint.offeredName (blueprint : Blueprint) (given : Option (List (Value × Value))) :
    Except Fault Value :=
  match blueprint.name, given with
  | .missing, _ => .ok .null
  | .given name, _ => .ok name
  | .setting key, some settings =>
    match Value.lookup key settings with
    | some name => .ok name
    | none => .error (.missingKey key)
  | .setting _, none => .error (.pattern (.notIndexable Value.null.typeName))

/-- A name that is good enough for a plugin: a text that is not blank. -/
def acceptedName (offered : Value) : Except Fault String :=
  match offered.text? with
  | some name => if Text.isBlankText name then .error (.plugin .blankName) else .ok name
  | none => .error (.plugin .blankName)

/-- The plugins that are attached, in the order in which they were attached, and the settings
that all further ones start from. -/
structure PluginRoster where
  plugins : Table Plugin := {}
  settings : List (Value × Value) := []
  deriving Inhabited

namespace PluginRoster

/-- The names of the attached plugins. -/
def names (roster : PluginRoster) : List String := roster.plugins.keys

/-- The plugin of a name. -/
def get (roster : PluginRoster) (name : String) : Except Fault Plugin :=
  match roster.plugins.get? name with
  | some plugin => .ok plugin
  | none => .error (.missingKey (.text name))

/-- The name of the setting that a configured source has its plugin under. -/
def sourceKey : String := "plugin"

/-- The settings of a plugin: the ones that all plugins start from with its own laid over. -/
def resolve (roster : PluginRoster) (own : List (Value × Value)) : List (Value × Value) :=
  Value.mergeEntries roster.settings (Value.eraseEntry (.text sourceKey) own)

/-- Attaches a plugin behind the others. -/
def attach (roster : PluginRoster) (plugin : Plugin) : PluginRoster :=
  { roster with plugins := roster.plugins.insert plugin.name plugin }

/-- Attaches no plugin any more. -/
def clear (roster : PluginRoster) : PluginRoster := { roster with plugins := {} }

/-- The settings that each attached plugin reports, by its name. -/
def reports (roster : PluginRoster) : List (String × Value) :=
  roster.plugins.entries.map fun (name, plugin) => (name, plugin.report)

end PluginRoster

end TemplateStream
