import TemplateStream.Fault
import TemplateStream.Value.Equality

/-!
# Values as lists of entries

A value that is expected to be a mapping may also be a list of pairs, and may be left out. Only
values that never change can be keys: neither lists nor mappings, nor tuples that hold any.
-/

namespace TemplateStream.Value

mutual

/-- The type of the part of a value for which it cannot be a key. -/
def unkeyed? : Value → Option String
  | .list _ => some (typeName (.list []))
  | .mapping _ => some (typeName (.mapping []))
  | .tuple items => unkeyedItems? items
  | _ => none

/-- The type of the first part of some items for which they cannot be part of a key. -/
def unkeyedItems? : List Value → Option String
  | [] => none
  | item :: rest => (unkeyed? item).or (unkeyedItems? rest)

end

/-- Refuses values that cannot be keys. -/
def requireKey (value : Value) : Except Fault Unit :=
  match value.unkeyed? with
  | some typeName => .error (.entry (.notKey typeName))
  | none => .ok ()

/-- What one comes by in going through a value: the items of a list, the characters of a text,
the keys of a mapping. -/
def members? : Value → Option (List Value)
  | .list items | .tuple items => some items
  | .text content | .markup content =>
    some (content.toList.map fun c => .text (String.singleton c))
  | .mapping entries => some (entries.map Prod.fst)
  | .bytes content => some (content.map fun octet => .int octet.toNat)
  | _ => none

/-- The entry that an item of a list stands for. -/
def pairOf (index : Nat) (item : Value) : Except Fault (Value × Value) :=
  match item.members? with
  | none => .error (.entry (.notPair index))
  | some [key, content] => do
    requireKey key
    pure (key, content)
  | some members => .error (.entry (.pairLength index members.length))

/-- The entries of a value that is a mapping or a list of pairs. -/
def readEntries (value : Value) : Except Fault (List (Value × Value)) :=
  match value with
  | .mapping entries => .ok entries
  | value =>
    match value.members? with
    | none => .error (.notIterable value.typeName)
    | some members => do
      pure (mergeEntries [] (← (members.mapIdx pairOf).mapM id))

/-- The entries of a value that may be left out. -/
def optionalEntries (value : Value) : Except Fault (List (Value × Value)) :=
  if value.isTruthy then value.readEntries else .ok []

end TemplateStream.Value
