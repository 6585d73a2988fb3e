import TemplateStream.Session.Importing
import TemplateStream.Value.Entries

/-!
# Helper modules

A helper module either has a function that registers its helpers or a mapping from identifiers to
functions. A module that was applied is not applied again by a later pass, unless another module
of the same list failed.
-/

namespace TemplateStream.Session

/-- The member of a module that registers its helpers. -/
def registrationMember : String := "register_helpers"

/-- The member of a module that maps identifiers to functions. -/
def functionsMember : String := "HELPERS"

/-- Registers helpers in order, none of which may be registered yet. -/
def registerAll (helpers : List Helper) : SessionM Unit := do
  let (registered, result) := (← get).renderer.helpers.registerAll helpers
  update fun renderer => { renderer with helpers := registered }
  liftExcept result

/-- Registers functions in order, each replacing any helper of its identifier. -/
def addFunctions : List (Value × HelperFunction) → SessionM Unit
  | [] => pure ()
  | (id, function) :: rest => do
    match id.text? with
    | none => throw (.noAttribute id.typeName "strip")
    | some id => addFunction id (some function)
    addFunctions rest

/-- The functions of a mapping that a module has, if it is one. -/
def functionsOf? : Loaded → Option (List (Value × HelperFunction))
  | .member (.functions functions) =>
    some (functions.map fun (id, function) => (.text id, function))
  | .member (.value (.mapping entries)) =>
    some (entries.map fun (id, value) => (id, .inert value))
  | _ => none

/-- Registers the helpers of a loaded module. -/
def applyModule (module : String) : SessionM Unit := do
  let library := (← get).library
  match library.lookup? module registrationMember with
  | some (.member (.factory (.registration helpers))) => registerAll helpers
  | some (.member (.factory (.blueprint blueprint))) => applyBlueprint blueprint
  | _ =>
    match (library.lookup? module functionsMember).bind functionsOf? with
    | some functions => addFunctions functions
    | none => throw (.registry (.moduleWithoutHelpers module))
where
  /-- Makes a plugin in the place of registering helpers, and drops it. -/
  applyBlueprint (blueprint : Blueprint) : SessionM Unit := do
    note (.list [.text "construct", .null])
    if let some fault := blueprint.failure then throw fault

/-- The name of a helper module, which has to be a text. -/
def moduleName (value : Value) : Except Fault String :=
  match value.text? with
  | some name => .ok name
  | none => .error (.noAttribute value.typeName "startswith")

/-- Imports helper modules in order and registers their helpers. -/
def loadHelperModules : List Value → SessionM Unit
  | [] => pure ()
  | value :: rest => do
    let name ← liftExcept (moduleName value)
    importModule name
    applyModule name
    loadHelperModules rest

/-- The helper modules of the options that were not applied yet. -/
def pendingModules : SessionM (List Value) := do
  let renderer := (← get).renderer
  let modules := renderer.options.helperModules
  modules.forM fun module => liftExcept module.requireKey
  pure (modules.filter fun module => !renderer.appliedModules.any module.same)

/-- Remembers modules as applied. -/
def markApplied (modules : List Value) : SessionM Unit :=
  update fun renderer => { renderer with appliedModules := renderer.appliedModules ++ modules }

end TemplateStream.Session
