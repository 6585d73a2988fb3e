import TemplateStream.Value.Equality
import TemplateStream.Decimal.Numeral

/-!
# Values in descriptions

A description is a document from which bodies, helpers and plugins are made. Its values are
those of the document, except that a mapping with one marked key stands for a value that the
notation of documents has no form for.
-/

namespace TemplateStream.Description

/-- The entries of a mapping that have text keys. -/
def fieldsOf (entries : List (Value × Value)) : List (String × Value) :=
  entries.filterMap fun (key, value) => key.text?.map (·, value)

/-- The value that a marked text stands for. -/
def markedText? (mark content : String) : Option Value :=
  match mark with
  | "$float" => (Decimal.float? content).map .float
  | "$int" => (Decimal.readInteger 10 content).toOption.map .int
  | "$markup" => some (.markup content)
  | "$ref" => some (.reference content)
  | _ => none

mutual

/-- The value that a value of a document stands for. -/
def value : Value → Value
  | .list items => .list (values items)
  | .mapping [(.text mark, content)] =>
    match mark, content with
    | "$tuple", .list items => .tuple (values items)
    | "$obj", .mapping members => .record (fieldsOf (entries members))
    | "$dict", .list items => .ofEntries (pairs items)
    | mark, .text content =>
      (markedText? mark content).getD (.mapping [(.text mark, .text content)])
    | mark, content => .mapping [(.text mark, value content)]
  | .mapping members => .mapping (entries members)
  | other => other

/-- The values that the items of a list stand for. -/
def values : List Value → List Value
  | [] => []
  | item :: rest => value item :: values rest

/-- The entries of a mapping with the values that its values stand for. -/
def entries : List (Value × Value) → List (Value × Value)
  | [] => []
  | (key, member) :: rest => (key, value member) :: entries rest

/-- The entries that a list of pairs stands for. -/
def pairs : List Value → List (Value × Value)
  | [] => []
  | .list [key, member] :: rest => (value key, value member) :: pairs rest
  | _ :: rest => pairs rest

end

/-- The items of a list, none for what is no list. -/
def items (document : Value) : List Value := document.items?.getD []

/-- The members of a document that is a mapping, by their names. -/
def members (document : Value) : List (String × Value) :=
  fieldsOf (document.entries?.getD [])

/-- A member of a document, null when it is missing. -/
def member (document : Value) (name : String) : Value := (document.field? name).getD .null

/-- A text of a document. -/
def text (document : Value) : String := document.text?.getD ""

/-- The texts of a list. -/
def texts (document : Value) : List String := (items document).filterMap Value.text?

/-- Whether a document is the truth value that is true. -/
def flag (document : Value) : Bool :=
  match document with
  | .bool value => value
  | _ => false

/-- An integer of a document. -/
def integer? (document : Value) : Option Int :=
  match document with
  | .int value => some value
  | _ => none

/-- A number of a document that is not negative. -/
def natural (document : Value) : Nat := ((integer? document).getD 0).toNat

/-- The document of a marked mapping, which has one key. -/
def marked? (document : Value) (mark : String) : Option Value :=
  match document with
  | .mapping [(.text key, content)] => if key == mark then some content else none
  | _ => none

mutual

/-- How deeply a document is nested. -/
def depth : Value → Nat
  | .list items | .tuple items => depths items + 1
  | .mapping members => entryDepths members + 1
  | _ => 1

/-- How deeply the items of a list are nested. -/
def depths : List Value → Nat
  | [] => 0
  | item :: rest => max (depth item) (depths rest)

/-- How deeply the values of a mapping are nested. -/
def entryDepths : List (Value × Value) → Nat
  | [] => 0
  | (_, member) :: rest => max (depth member) (entryDepths rest)

end

end TemplateStream.Description
