import TemplateStream.Plugin
import TemplateStream.Text.Split

/-!
# Modules

Modules hold named members and lie in packages, which are modules themselves. A module is loaded
once, after the packages that it lies in; loading one may fail, and is then tried again the next
time. A loaded module is a member of its package.
-/

namespace TemplateStream

/-- A member of a module. -/
inductive ModuleMember where
  | factory (factory : Factory)
  /-- Functions of helpers by their identifiers. -/
  | functions (functions : List (String × HelperFunction))
  | value (value : Value)
  deriving Inhabited

/-- What loading a module gives. -/
inductive ModuleContent where
  | members (members : List (String × ModuleMember))
  | failing (fault : Fault)
  deriving Inhabited

/-- The modules that there are, and the names of those that were loaded. -/
structure ModuleLibrary where
  contents : Table ModuleContent := {}
  loaded : List String := []
  deriving Inhabited

/-- What a name in a module stands for. -/
inductive Loaded where
  | module (name : String)
  | member (member : ModuleMember)
  deriving Inhabited

namespace ModuleLibrary

/-- The names of the packages that a module lies in, from the outermost in, and its own name. -/
def ancestry (name : String) : List String :=
  let parts := Text.split '.' name
  (List.range parts.length).map fun index => ".".intercalate (parts.take (index + 1))

/-- Whether a module was loaded. -/
def isLoaded (library : ModuleLibrary) (name : String) : Bool := library.loaded.contains name

/-- Whether other modules lie in a module. -/
def isPackage (library : ModuleLibrary) (name : String) : Bool :=
  library.contents.keys.any fun other => (name ++ ".").isPrefixOf other

/-- What a module that is to be loaded holds, given the package that it lies in. -/
def content (library : ModuleLibrary) (package : Option String) (name : String) :
    Except Fault ModuleContent :=
  match package.filter fun package => !library.isPackage package with
  | some parent => .error (.importing (.notPackage name parent))
  | none =>
    match library.contents.get? name with
    | some content => .ok content
    | none => .error (.importing (.missing name))

/-- The library with a module loaded. -/
def load (library : ModuleLibrary) (name : String) : ModuleLibrary :=
  { library with loaded := library.loaded ++ [name] }

/-- What a name stands for in a loaded module: a module in it before a member. -/
def lookup? (library : ModuleLibrary) (module name : String) : Option Loaded :=
  let inner := module ++ "." ++ name
  if library.isLoaded inner && !name.contains '.' then some (.module inner)
  else match library.contents.get? module with
    | some (.members members) => (members.lookup name).map .member
    | _ => none

end ModuleLibrary

end TemplateStream
