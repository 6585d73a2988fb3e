import TemplateStream.Session.Attaching

/-!
# Loading plugins

Plugins are loaded from the modules that the options name, and then from the installed ones of a
group. A place where no plugin can be found is warned of; other faults of attaching a plugin are
not put up with.
-/

namespace TemplateStream.Session

/-- Whether a fault only means that a place gives no plugin. -/
def isForgiven (fault : Fault) : Bool :=
  fault.kind.isImport || fault.kind == .attribute || fault.kind == .invalidPlugin

/-- The warning of a place that gives no plugin. -/
def warning (place : String) (fault : Fault) : String :=
  s!"warning: failed to load plugin '{place}': " ++ fault.message

/-- Loads what a target names: a module, or a member of one. -/
def loadTarget (target : String) : SessionM Loaded := do
  let (module, member) := splitTarget target
  importModule module
  match member with
  | none => pure (.module module)
  | some member => memberOf module member

/-- Attaches the plugin that a target names, or gives a warning that cites its place. -/
def loadPlugin (place target : String) : SessionM (Option String) := do
  let loaded ← attempt do
    let factory ← factoryOf (← loadTarget target)
    discard (attachFactory attachUsed [] factory)
  match loaded with
  | .ok () => pure none
  | .error fault => if isForgiven fault then pure (some (warning place fault)) else throw fault

/-- Loads the plugins that the options name, and gives the warnings. -/
def loadNamed : List Value → SessionM (List String)
  | [] => pure []
  | value :: rest => do
    match value.text? with
    | none => throw (.noAttribute value.typeName "partition")
    | some target =>
      let warning ← loadPlugin target target
      pure (warning.toList ++ (← loadNamed rest))

/-- Loads installed plugins, given by their names and targets, and gives the warnings. -/
def loadInstalled : List (String × String) → SessionM (List String)
  | [] => pure []
  | (name, target) :: rest => do
    let warning ← loadPlugin s!"{name} ({target})" target
    pure (warning.toList ++ (← loadInstalled rest))

/-- Loads the plugins of some modules and those that are installed under a group, and gives the
warnings. -/
def loadPlugins (modules : List Value) (group : Option String) : SessionM (List String) := do
  let named ← loadNamed modules
  let installed := (← get).installed
  pure (named ++ (← loadInstalled ((group.bind installed.get?).getD [])))

end TemplateStream.Session
