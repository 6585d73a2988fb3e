import TemplateStream.Parameter
import TemplateStream.Tap

/-!
# Bodies, scripts and helpers

A body is a renderable part of a template. The ready-made bodies are text, references, sequences,
sections, embedded templates and helper calls; all others are scripts, lists of statements that
work on a chunk. A helper is a declared function that a helper call invokes.
-/

namespace TemplateStream

/-- How something that runs asynchronously is made known as such. -/
inductive AsyncStyle where
  /-- A function, which has a name. -/
  | function
  /-- An object that is called. -/
  | object
  /-- An object that says so. -/
  | flag
  deriving DecidableEq, Inhabited

/-- What a script answers with. -/
inductive Answer where
  /-- The chunk that the script works on. -/
  | chunk
  /-- Something that has to be awaited, and then does nothing. -/
  | awaitable
  | value (value : Value)
  | parameter (key : String)
  | context (name : String)
  /-- A remembered chunk. -/
  | saved (name : String)
  deriving Inhabited

mutual

/-- A renderable part of a template. -/
inductive Body where
  | text (content : String)
  /-- The value at a path, escaped or not as told, or as the environment says. -/
  | reference (path : String) (escape : Option Bool)
  | sequence (bodies : List Body)
  /-- A body once per item of a list, or once for any other true value, with a body for all
  other cases. -/
  | each (path : String) (block otherwise : Body)
  /-- A registered template, with values of its own. -/
  | embed (name : String) (values : List (String × Value))
  /-- A call of a registered helper. -/
  | call (helper : String) (bodies : List (String × Body)) (parameters : List (String × Value))
  /-- A script wrapped as a body. -/
  | callback (script : List Statement)
  /-- A plain function that runs a script. -/
  | function (name : String) (script : List Statement)
  /-- A body that runs a script asynchronously. -/
  | deferred (style : AsyncStyle) (name : String) (script : List Statement)
  /-- No body, which renders nothing. -/
  | absent
  /-- Something that is no body. -/
  | inert (value : Value)

/-- A statement of a script, which works on a chunk in a context, with the bodies and parameters
of a helper call. -/
inductive Statement where
  | write (value : Value)
  /-- Writes a value of the context. -/
  | get (name : String) (default : Value)
  /-- Writes a parameter. -/
  | parameter (key : String)
  | logParameters
  /-- Installs a transform, or fails with what is none. -/
  | tap (transform : Option Transform)
  | untap
  /-- Writes a value and ends the chunk. -/
  | finish (value : Value)
  /-- Renders a body, with a value pushed onto the context if there is one. -/
  | render (body : Body) (value : Option Value)
  /-- Renders a body of the helper call. -/
  | body (name : String) (value : Option Value)
  /-- Forks a branch and runs a script on it at once. -/
  | map (script : List Statement)
  /-- Forks a branch and runs a script on it asynchronously. -/
  | spawn (script : List Statement)
  /-- Remembers the chunk under a name. -/
  | save (name : String)
  /-- Runs a script on a remembered chunk. -/
  | on (name : String) (script : List Statement)
  /-- Runs a script with a value pushed onto the context. -/
  | within (value : Value) (script : List Statement)
  /-- Runs a script at a position of an iteration. -/
  | iterate (index length : Option Int) (script : List Statement)
  /-- Writes what the context says about itself. -/
  | info
  | openGate (name : String)
  | log (entry : Value)
  | raise (fault : Fault)
  /-- Sleeps for a number of milliseconds; only where the script runs asynchronously. -/
  | sleep (milliseconds : Nat)
  /-- Waits until a gate is open; only where the script runs asynchronously. -/
  | gate (name : String)
  /-- Ends the script. -/
  | answer (result : Answer)

end

instance : Inhabited Body := ⟨.absent⟩

instance : Inhabited Statement := ⟨.untap⟩

/-- A list of statements. -/
abbrev Script := List Statement

/-- The helpers that every registry can start with. -/
inductive Builtin where
  /-- Puts everything that the block writes into upper case. -/
  | upper
  /-- Puts everything that the block writes into lower case. -/
  | lower
  /-- Answers whether two parameters are equal. -/
  | eq
  /-- Renders the block unless the current item is the last of its list. -/
  | sep
  /-- Renders the block after a delay, in its own place. -/
  | defer
  deriving DecidableEq, Inhabited

/-- What a helper does when it is called. -/
inductive HelperFunction where
  | builtin (which : Builtin)
  /-- Runs a script, asynchronously if it has a style. -/
  | scripted (style : Option AsyncStyle) (script : Script)
  /-- Something that cannot be called. -/
  | inert (value : Value)

instance : Inhabited HelperFunction := ⟨.scripted none []⟩

/-- Whether a helper function answers with something that has to be awaited. -/
def HelperFunction.isAsync : HelperFunction → Bool
  | .builtin which => which == .defer
  | .scripted style _ => style.isSome
  | .inert _ => false

/-- A declared helper. -/
structure Helper where
  id : String
  description : String := ""
  function : HelperFunction
  parameters : List Parameter := []
  aliases : List String := []
  /-- Whether undeclared parameters are refused. -/
  strict : Bool := false
  deriving Inhabited

/-- Whether rendering a body starts something that has to be awaited. -/
def Body.isAsync : Body → Bool
  | .deferred .. => true
  | _ => false

/-- Whether something can be rendered at all. -/
def Body.isRenderable : Body → Bool
  | .absent | .inert _ => false
  | _ => true

/-- The name of the type of what cannot be rendered. -/
def Body.typeName : Body → String
  | .inert value => value.typeName
  | _ => Value.null.typeName

/-- The name under which a body given in place of a template name is rendered. -/
def Body.ownName : Body → String
  | .function name _ => name
  | .deferred .function name _ => name
  | _ => "<inline>"

end TemplateStream
