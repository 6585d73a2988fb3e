import TemplateStream.Value
import TemplateStream.Decimal.Exact

/-!
# Equality of values

Numbers are equal when they denote the same quantity, whatever their type, and truth values
count as the numbers one and zero. Text equals markup of the same characters. Mappings are
equal when they give equal values to equal keys, in any order; a list never equals a tuple.
-/

namespace TemplateStream.Value

/-- The quantity of a number or truth value. -/
def quantity? : Value → Option Decimal.Quantity
  | .bool value => some (.exactly (.ofInt (if value then 1 else 0)))
  | .int value => some (.exactly (.ofInt value))
  | .float value => Decimal.quantity? value
  | _ => none

/-- Whether two numbers denote the same quantity. -/
def sameQuantity (left right : Value) : Bool :=
  match left.quantity?, right.quantity? with
  | some first, some second => first.compare second == .eq
  | _, _ => false

/-- Whether two moments are equal: by their instants when both have an offset, and by their
calendar numbers when neither has. -/
def sameMoment (left right : Moment) : Bool :=
  match left.offset, right.offset with
  | some _, some _ => Calendar.instant left == Calendar.instant right
  | none, none => left == right
  | _, _ => false

mutual

/-- Whether two values are equal. -/
def same : Value → Value → Bool
  | .null, .null => true
  | .list first, .list second => sameItems first second
  | .tuple first, .tuple second => sameItems first second
  | .mapping first, .mapping second =>
    first.length == second.length && sameEntries first second
  | .reference first, .reference second => first == second
  | .date first, .date second => first == second
  | .moment first, .moment second => sameMoment first second
  | .time first, .time second => first == second
  | .bytes first, .bytes second => first == second
  | first, second =>
    match first.text?, second.text? with
    | some left, some right => left == right
    | _, _ => sameQuantity first second

/-- Whether two lists have equal items in the same order. -/
def sameItems : List Value → List Value → Bool
  | [], [] => true
  | first :: rest, second :: others => same first second && sameItems rest others
  | _, _ => false

/-- Whether every entry of the first list has an equal one in the second. -/
def sameEntries : List (Value × Value) → List (Value × Value) → Bool
  | [], _ => true
  | (key, value) :: rest, others =>
    others.any (fun other => same key other.1 && same value other.2) && sameEntries rest others

end

/-- The value that a list of entries gives to a key. -/
def lookup (key : Value) (entries : List (Value × Value)) : Option Value :=
  (entries.find? fun entry => same entry.1 key).map Prod.snd

/-- The entries with a value given to a key: in place when an equal key is present, which is
kept, and at the end otherwise. -/
def insertEntry (key value : Value) : List (Value × Value) → List (Value × Value)
  | [] => [(key, value)]
  | entry :: rest =>
    if same entry.1 key then (entry.1, value) :: rest else entry :: insertEntry key value rest

/-- The entries less the one of a key. -/
def eraseEntry (key : Value) (entries : List (Value × Value)) : List (Value × Value) :=
  entries.filter fun entry => !same entry.1 key

/-- Entries with other entries laid over them in order. -/
def mergeEntries (entries overriding : List (Value × Value)) : List (Value × Value) :=
  overriding.foldl (fun merged entry => insertEntry entry.1 entry.2 merged) entries

/-- The mapping of a list of entries, the later of two entries with equal keys winning. -/
def ofEntries (entries : List (Value × Value)) : Value := .mapping (mergeEntries [] entries)

/-- The value that a mapping gives to a text key. -/
def field? (value : Value) (key : String) : Option Value :=
  value.entries?.bind (lookup (.text key))

/-- The order of two numbers, unless one is no number. -/
def compareNumbers (left right : Value) : Option Ordering :=
  match left.quantity?, right.quantity? with
  | some first, some second => some (first.compare second)
  | _, _ => none

end TemplateStream.Value
