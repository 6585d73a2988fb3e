import TemplateStream.Environment
import TemplateStream.Text.Split
import TemplateStream.Text.Digit

/-!
# Contexts

A context is a stack of values over global ones. The first segment of a dotted name is searched
in the mappings of the stack from the newest down, then in the globals; the later segments are
looked up one inside the other. A context also knows the position of the current item of the
innermost iteration and the name of the template.
-/

namespace TemplateStream

/-- The position of an item in an iterated list. -/
structure Position where
  index : Int
  length : Int
  deriving DecidableEq, Inhabited

namespace Context

/-- What a value has as an attribute of a name, if it has that attribute. -/
abbrev Attributes := Value → String → Except Fault (Option Value)

/-- The attributes of values: the fields of records, and the path of a reference. -/
def attributeOf : Attributes := fun value name =>
  match value with
  | .record fields => .ok (fields.lookup name)
  | .reference path => .ok (if name == "path" then some (.text path) else none)
  | _ => .ok none

end Context

/-- A stack of values, newest first, over global values. -/
structure Context where
  frames : List Value := []
  globals : List (Value × Value) := []
  position : Option Position := none
  environment : Option Environment := none
  template : Option String := none
  /-- The attributes that values have. -/
  attributes : Context.Attributes := Context.attributeOf

instance : Inhabited Context := ⟨{}⟩

namespace Context

/-- The context of a value, unless it is null. -/
def ofValue (value : Value) (globals : List (Value × Value) := [])
    (environment : Option Environment := none) (template : Option String := none)
    (attributes : Attributes := attributeOf) : Context where
  frames := match value with
    | .null => []
    | value => [value]
  globals := globals
  environment := environment
  template := template
  attributes := attributes

/-- Puts a value on top; an index together with a length also sets the position. -/
def push (context : Context) (value : Value) (index length : Option Int := none) : Context where
  frames := value :: context.frames
  globals := context.globals
  position := match index, length with
    | some index, some length => some ⟨index, length⟩
    | _, _ => context.position
  environment := context.environment
  template := context.template
  attributes := context.attributes

/-- Takes the value on top away. -/
def pop (context : Context) : Except Fault Context :=
  match context.frames with
  | [] => .error .emptyContext
  | _ :: rest => .ok { context with frames := rest }

/-- Sets the name of the template, unless the name is empty. -/
def forTemplate (context : Context) (name : String) : Context :=
  if name.isEmpty then context else { context with template := some name }

/-- The value on top, null when there is none. -/
def current (context : Context) : Value := context.frames.headD .null

/-- The number of values on the stack. -/
def depth (context : Context) : Nat := context.frames.length

/-- The index of the current item. -/
def index (context : Context) : Option Int := context.position.map Position.index

/-- The length of the list that is iterated. -/
def length (context : Context) : Option Int := context.position.map Position.length

/-- The integer that a text denotes, or the fault of reading it. -/
def readIndex (text : String) : Except Fault Int :=
  match Decimal.readInteger 10 text with
  | .ok value => .ok value
  | .error cause => .error (.number (.integer 10 (.text text) cause))

/-- The value under one segment of a name inside a value. A mapping is asked for a key, a list is
indexed by a segment of digits, which has to be a numeral, and all else is an attribute. -/
def inside (value : Value) (segment : String) (attributes : Attributes := attributeOf) :
    Except Fault (Option Value) :=
  match value with
  | .mapping entries => .ok (Value.lookup (.text segment) entries)
  | .list items | .tuple items =>
    if Text.isDigits segment then (readIndex segment).map fun index => items[index.toNat]?
    else attributes value segment
  | _ => attributes value segment

/-- The value under further segments inside a value that may be missing. Nothing is inside
null. -/
def descend (found : Option Value) (segments : List String)
    (attributes : Attributes := attributeOf) : Except Fault (Option Value) :=
  match found, segments with
  | found, [] => .ok found
  | none, _ :: _ => .ok none
  | some .null, _ :: _ => .ok none
  | some value, segment :: rest => do
    descend (← inside value segment attributes) rest attributes

/-- The value of the first segment: from the newest mapping that has it, else from the globals. -/
def start (context : Context) (segment : String) : Option Value :=
  match context.frames.findSome? fun frame => frame.field? segment with
  | some value => some value
  | none => Value.lookup (.text segment) context.globals

/-- The value of a name, or the default. The name of a single dot is the value on top. -/
def get (context : Context) (name : String) (default : Value := .null)
    (attributes : Attributes := context.attributes) : Except Fault Value :=
  if name == "." then .ok context.current
  else
    match Text.split '.' name with
    | [] => .ok default
    | first :: rest => (descend (context.start first) rest attributes).map (·.getD default)

end Context

end TemplateStream
