import TemplateStream.Session

/-!
# Importing modules

Importing a module loads the packages that it lies in and then the module itself, each unless it
is loaded already. Every attempt to load one is logged.
-/

namespace TemplateStream.Session

/-- The log entry of an attempt to load a module. -/
def importEntry (name : String) : Value := .list [.text "import", .text name]

/-- Loads a module that lies in a given package, unless it is loaded already. -/
def loadModule (package : Option String) (name : String) : SessionM Unit := do
  let library := (← get).library
  if library.isLoaded name then pure ()
  else
    let content ← liftExcept (library.content package name)
    note (importEntry name)
    match content with
    | .failing fault => throw fault
    | .members _ =>
      modify fun session => { session with library := session.library.load name }

/-- Loads modules of which each lies in the one before. -/
def loadModules (package : Option String) : List String → SessionM Unit
  | [] => pure ()
  | name :: rest => do
    loadModule package name
    loadModules (some name) rest

/-- Imports a module. -/
def importModule (name : String) : SessionM Unit := do
  if name.startsWith "." then throw (.importing (.relative name))
  if name.isEmpty then throw (.importing .blankName)
  loadModules none (ModuleLibrary.ancestry name)

/-- What a name stands for in a loaded module, which has to have it. -/
def memberOf (module name : String) : SessionM Loaded := do
  match (← get).library.lookup? module name with
  | some found => pure found
  | none => throw (.importing (.noAttribute module name))

end TemplateStream.Session
