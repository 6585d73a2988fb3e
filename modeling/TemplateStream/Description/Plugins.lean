import TemplateStream.Description.Bodies
import TemplateStream.Session

/-!
# Descriptions of plugins, readers and modules

A plugin is described by an object with its name, the shape of its factory and its scripts by
event; a reader by a name or a list; a module by its members. Marked objects tell plugins,
functions and registrations from values.
-/

namespace TemplateStream.Description

/-- The reader of a description. -/
def reader (document : Value) : DataReader :=
  match document with
  | .text "text" => .text
  | .text "strip" => .stripped
  | .text "size" => .size
  | .text "meta" => .facts
  | .text "first_line" => .named
  | .list [.text "const", constant] => .constant (value constant)
  | .list (.text "raise" :: arguments) => .failing (faultOf (.list arguments))
  | _ => .inert

/-- The parameters of a factory of a shape. -/
def parameters : String → Option (List Passing)
  | "two" | "default" => some [.positionalOrKeyword, .positionalOrKeyword]
  | "varargs" => some [.positionalRest]
  | "kwonly" => some [.positionalOrKeyword, .keywordOnly]
  | "kwargs" => some [.positionalOrKeyword, .keywordRest]
  | "nosig" => none
  | _ => some [.positionalOrKeyword]

/-- Where a plugin of a description has its name from. -/
def pluginName (document : Value) : PluginName :=
  match document.field? "name", document.field? "name_from_config" with
  | some name, _ => .given (value name)
  | none, some key => .setting (value key)
  | none, none => .missing

mutual

/-- The statement of a plugin's script that is nested to less than the given depth. -/
def pluginStatementTo : Nat → Value → PluginStatement
  | 0, _ => .pause
  | depth + 1, document =>
    match items document with
    | [] => .pause
    | name :: arguments =>
      match text name, arguments with
      | "log", [entry] => .log (value entry)
      | "data", _ => .logData
      | "config", _ => .logSettings
      | "set", [key, content] => .set (value key) (value content)
      | "append", [key, content] => .append (value key) (value content)
      | "raise", arguments => .raise (faultOf (.list arguments))
      | "helper", [declared] => .addHelper (helper declared)
      | "template", [name, content] => .addTemplate (text name) (body content)
      | "handler", [extension, read] => .addReader (text extension) (reader read)
      | "store", [key, content] => .store (text key) (value content)
      | "use", [source] => .use (pluginSourceTo depth source)
      | _, _ => .pause

/-- The blueprint that is nested to less than the given depth. -/
def blueprintTo : Nat → Value → Blueprint
  | 0, _ => default
  | depth + 1, document =>
    let deferred := texts (member document "async") ++ texts (member document "awaitable")
    let scripted := (members (member document "on")).map fun (event, script) =>
      (event, PluginHandler.scripted (deferred.contains event)
        ((items script).map (pluginStatementTo depth)))
    let inert := (texts (member document "noncallable")).map fun event =>
      (event, PluginHandler.inert)
    { name := pluginName document
      parameters := parameters (text (member document "factory"))
      revise := id
      listsHandlers := text (member document "style") == "table"
      handlers := (Table.ofList (scripted ++ inert)).entries
      reported := (document.field? "get_config").map value
      failure := match member document "fail" with
        | .null => none
        | fault => some (faultOf fault) }

/-- The source of plugins that is nested to less than the given depth. -/
def pluginSourceTo : Nat → Value → PluginSource
  | 0, _ => .absent
  | depth + 1, document =>
    match document with
    | .null => .absent
    | .text path | .markup path => .target path
    | .list sources | .tuple sources => .sequence (sources.map (pluginSourceTo depth))
    | .mapping [(.text "$plugin", plugin)] => .blueprint (blueprintTo depth plugin)
    | .mapping [(.text "$module", name)] => .module (text name)
    | .mapping [(.text "$tuple", .list sources)] =>
      .sequence (sources.map (pluginSourceTo depth))
    | .mapping entries =>
      let settings := entries.map fun (key, content) => (key, value content)
      match document.field? PluginRoster.sourceKey with
      | some source =>
        .configured (pluginSourceTo depth source)
          (Value.eraseEntry (.text PluginRoster.sourceKey) settings)
      | none => .targets (fieldsOf settings)
    | other => .inert other

end

/-- The blueprint of a description. -/
def blueprint (document : Value) : Blueprint := blueprintTo (depth document + 1) document

/-- The source of plugins of a description. -/
def pluginSource (document : Value) : PluginSource :=
  pluginSourceTo (depth document + 1) document

/-- The member of a module of a description. -/
def moduleMember (document : Value) : ModuleMember :=
  match document with
  | .mapping [(.text "$plugin", plugin)] => .factory (.blueprint (blueprint plugin))
  | .mapping [(.text "$helpers", functions)] =>
    .functions ((members functions).map fun (id, function) => (id, helperFunction function))
  | .mapping [(.text "$register", helpers)] =>
    .factory (.registration ((items helpers).map helper))
  | document => .value (value document)

/-- What loading the module of a description gives. -/
def moduleContent (document : Value) : ModuleContent :=
  match document.field? "raises" with
  | some fault => .failing (faultOf fault)
  | none =>
    .members ((members (member document "attrs")).map fun (name, content) =>
      (name, moduleMember content))

/-- The modules of a description. -/
def modules (document : Value) : ModuleLibrary where
  contents := .ofList ((members document).map fun (name, content) =>
    (name, moduleContent content))

/-- The name and the target of an installed plugin. -/
def installedPlugin (document : Value) : String × String :=
  match items document with
  | name :: target :: _ => (text name, text target)
  | _ => ("", "")

/-- The installed plugins of a description by their groups. -/
def installedPlugins (document : Value) : Table (List (String × String)) :=
  .ofList ((members document).map fun (group, plugins) =>
    (group, (items plugins).map installedPlugin))

end TemplateStream.Description
