import TemplateStream.Calendar
import TemplateStream.Table

/-!
# Values

A value is whatever a template can be given or a data file can hold. Mappings keep their entries
in insertion order, and their keys are values themselves. A record has named fields but is no
mapping, and a reference names a value that is looked up where it is used.
-/

namespace TemplateStream

/-- The values that templates, parameters, settings and data files are made of. -/
inductive Value where
  | null
  | bool (value : Bool)
  | int (value : Int)
  | float (value : Float)
  | text (value : String)
  /-- Text that is safe in a document as it stands. -/
  | markup (value : String)
  | list (items : List Value)
  | tuple (items : List Value)
  | mapping (entries : List (Value × Value))
  /-- An object with named fields that is no mapping. -/
  | record (fields : List (String × Value))
  /-- A path to be looked up in a context. -/
  | reference (path : String)
  | date (value : Date)
  | moment (value : Moment)
  | time (value : TimeOfDay)
  | bytes (value : List UInt8)
  deriving Inhabited

namespace Value

/-- The text of a value that is text, be it markup or not. -/
def text? : Value → Option String
  | .text value => some value
  | .markup value => some value
  | _ => none

/-- The items of a list or tuple. -/
def items? : Value → Option (List Value)
  | .list items => some items
  | .tuple items => some items
  | _ => none

/-- The entries of a mapping. -/
def entries? : Value → Option (List (Value × Value))
  | .mapping entries => some entries
  | _ => none

/-- Whether a value counts as true: everything but null, zero and what is empty. -/
def isTruthy : Value → Bool
  | .null => false
  | .bool value => value
  | .int value => value != 0
  | .float value => value != 0.0
  | .text value => !value.isEmpty
  | .markup value => !value.isEmpty
  | .list items => !items.isEmpty
  | .tuple items => !items.isEmpty
  | .mapping entries => !entries.isEmpty
  | .bytes value => !value.isEmpty
  | _ => true

/-- A mapping with text keys. -/
def ofFields (fields : List (String × Value)) : Value :=
  .mapping (fields.map fun (key, value) => (.text key, value))

/-- A table as a mapping. -/
def ofTable (table : Table Value) : Value := .ofFields table.entries

/-- The name of a value's type. -/
def typeName : Value → String
  | .null => "NoneType"
  | .bool _ => "bool"
  | .int _ => "int"
  | .float _ => "float"
  | .text _ => "str"
  | .markup _ => "Markup"
  | .list _ => "list"
  | .tuple _ => "tuple"
  | .mapping _ => "dict"
  | .record _ => "Obj"
  | .reference _ => "Ref"
  | .date _ => "datetime.date"
  | .moment _ => "datetime.datetime"
  | .time _ => "datetime.time"
  | .bytes _ => "bytes"

end Value

end TemplateStream
