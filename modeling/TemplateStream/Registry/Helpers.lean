import TemplateStream.Body
import TemplateStream.Text.Blank

/-!
# The registry of helpers

Helpers are registered under an identifier and any number of aliases. An alias points to one
identifier and is never an identifier itself; replacing a helper removes its own old aliases and
nobody else's.
-/

namespace TemplateStream

/-- Names in ascending order. -/
def sortedNames (names : List String) : List String :=
  names.mergeSort fun left right => !(right < left)

/-- Registered helpers by identifier, and the identifiers that aliases stand for. -/
structure HelperRegistry where
  helpers : Table Helper := {}
  aliases : Table String := {}
  deriving Inhabited

namespace HelperRegistry

/-- The identifiers in the order of registration. -/
def ids (registry : HelperRegistry) : List String := registry.helpers.keys

/-- An alias of a helper less the blanks around it, if the helper may have it. -/
def admitAlias (registry : HelperRegistry) (id : String) (name : String) :
    Except Fault String := do
  let key := Text.strip name
  if key.isEmpty then throw (.registry .blankAlias)
  if key == id then throw (.registry (.aliasOfItself key))
  if registry.helpers.contains key || (registry.aliases.get? key).any (· != id) then
    throw (.registry (.aliasTaken key))
  pure key

/-- Registers a helper. A failure changes nothing. -/
def register (registry : HelperRegistry) (helper : Helper) (replace : Bool := false) :
    Except Fault HelperRegistry := do
  let id := Text.strip helper.id
  if id.isEmpty then throw (.registry .blankHelper)
  if registry.helpers.contains id && !replace then throw (.registry (.helperTaken id))
  if registry.aliases.contains id then throw (.registry (.helperIsAlias id))
  let keys ← helper.aliases.mapM (registry.admitAlias id)
  let kept := registry.aliases.filter fun _ owner => owner != id
  pure {
    helpers := registry.helpers.insert id helper
    aliases := keys.foldl (fun aliases key => aliases.insert key id) kept }

/-- Registers helpers in order, up to the first that is refused. -/
def registerAll (registry : HelperRegistry) : List Helper → HelperRegistry × Except Fault Unit
  | [] => (registry, .ok ())
  | helper :: rest =>
    match registry.register helper with
    | .ok registered => registered.registerAll rest
    | .error fault => (registry, .error fault)

/-- Registers a bare function, replacing any helper of its identifier. -/
def add (registry : HelperRegistry) (id : String) (function : HelperFunction)
    (description : String := "") : Except Fault HelperRegistry :=
  registry.register { id, function, description } true

/-- The identifier that a name is or stands for. -/
def resolve (registry : HelperRegistry) (name : String) : Except Fault String :=
  if registry.helpers.contains name then .ok name
  else match registry.aliases.get? name with
    | some id => .ok id
    | none => .error (.registry (.unknownHelper name (sortedNames registry.ids)))

/-- The helper of a name. -/
def get (registry : HelperRegistry) (name : String) : Except Fault Helper := do
  let id ← registry.resolve name
  match registry.helpers.get? id with
  | some helper => pure helper
  | none => throw (.missingKey (.text id))

/-- Whether a name is an identifier or an alias. -/
def contains (registry : HelperRegistry) (name : String) : Bool :=
  registry.helpers.contains name || registry.aliases.contains name

end HelperRegistry

/-- The declared parameter of the helper that renders its block after a delay. -/
def delayParameter : Parameter where
  key := "delay"
  type := .float
  default := some (.float 0.0)
  minimum := some (.float 0.0)

/-- The helpers that a registry starts with. -/
def builtinHelpers : List Helper := [
  { id := "upper"
    description := "Upper-case everything written by the block."
    function := .builtin .upper
    aliases := ["yell"] },
  { id := "lower"
    description := "Lower-case everything written by the block."
    function := .builtin .lower },
  { id := "eq"
    description := "Select block when key equals value, else the else body."
    function := .builtin .eq },
  { id := "sep"
    description := "Render the block between section items."
    function := .builtin .sep },
  { id := "defer"
    description := "Render the block asynchronously after a delay."
    function := .builtin .defer
    parameters := [delayParameter] }]

/-- A registry with the helpers that it starts with. -/
def HelperRegistry.builtin : HelperRegistry := (registerAll {} builtinHelpers).1

end TemplateStream
