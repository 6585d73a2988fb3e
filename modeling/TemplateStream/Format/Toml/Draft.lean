import TemplateStream.Format.Toml.Scalar
import TemplateStream.Value.Equality

/-!
# Tables of configuration documents

The tables of a document are built statement by statement. A table that a header or a dotted key
has named cannot be named by a header again, and a value that was written out cannot be extended;
a header of an array of tables begins a new table, for which all of this starts anew.
-/

namespace TemplateStream.Format.Toml

/-- A dotted key. -/
abbrev Key := List String

/-- The entries of a table. -/
abbrev Entries := List (Value × Value)

/-- Changes the entries of the table under a key, which is made when it is missing. An array of
tables stands for its last table, where that is asked for. -/
def within (lists : Bool) (change : Entries → Option Entries) : Key → Entries → Option Entries
  | [], entries => change entries
  | name :: rest, entries =>
    let replaced (value : Value) : Entries := Value.insertEntry (.text name) value entries
    match Value.lookup (.text name) entries with
    | none => (within lists change rest []).map fun inner => replaced (.mapping inner)
    | some (.mapping inner) =>
      (within lists change rest inner).map fun inner => replaced (.mapping inner)
    | some (.list items) =>
      match lists, items.getLast? with
      | true, some (.mapping inner) =>
        (within lists change rest inner).map fun inner =>
          replaced (.list (items.dropLast ++ [.mapping inner]))
      | _, _ => none
    | some _ => none

/-- The entries with a value under a name that has none. -/
def define (name : String) (value : Value) (entries : Entries) : Option Entries :=
  match Value.lookup (.text name) entries with
  | some _ => none
  | none => some (entries ++ [(.text name, value)])

/-- The entries with a new table at the end of the array under a name. -/
def extend (name : String) (entries : Entries) : Option Entries :=
  match Value.lookup (.text name) entries with
  | none => some (entries ++ [(.text name, .list [.mapping []])])
  | some (.list items) =>
    some (Value.insertEntry (.text name) (.list (items ++ [.mapping []])) entries)
  | some _ => none

/-- A document of which some statements have been read. -/
structure Draft where
  entries : Entries := []
  /-- The table that the last header named. -/
  header : Key := []
  /-- The tables that cannot be named by a header again. -/
  named : List Key := []
  /-- The tables that cannot be named by a header from the next header on. -/
  pending : List Key := []
  /-- The values that were written out. -/
  frozen : List Key := []

namespace Draft

/-- Whether a key lies at or below a value that was written out. -/
def isFrozen (frozen : List Key) (key : Key) : Bool := frozen.any (·.isPrefixOf key)

/-- The draft at the beginning of a header. -/
def settle (draft : Draft) : Draft :=
  { draft with named := draft.pending ++ draft.named, pending := [] }

/-- Opens the table that a header names. -/
def openTable (draft : Draft) (key : Key) : Option Draft :=
  let draft := draft.settle
  if draft.named.contains key || isFrozen draft.frozen key then none
  else (within true some key draft.entries).map fun entries =>
    { draft with entries, header := key, named := key :: draft.named }

/-- Opens a new table of the array that a header names. -/
def openItem (draft : Draft) (key : Key) : Option Draft :=
  let draft := draft.settle
  if isFrozen draft.frozen key then none
  else (within true (extend (key.getLast?.getD "")) key.dropLast draft.entries).map fun entries =>
    { draft with
      entries
      header := key
      named := key :: draft.named.filter fun other => !key.isPrefixOf other
      frozen := draft.frozen.filter fun other => !key.isPrefixOf other }

/-- Whether a value has entries or items that cannot be extended later. -/
def isContainer : Value → Bool
  | .mapping _ | .list _ => true
  | _ => false

/-- The prefixes of a key that are neither empty nor the key. -/
def innerTables (key : Key) : List Key :=
  (List.range (key.length - 1)).map fun count => key.take (count + 1)

/-- Gives a key of the open table a value. -/
def assign (draft : Draft) (key : Key) (value : Value) : Option Draft :=
  let inner := (innerTables key).map (draft.header ++ ·)
  let table := draft.header ++ key.dropLast
  if inner.any draft.named.contains || isFrozen draft.frozen table then none
  else
    (within true (define (key.getLast?.getD "") value) table draft.entries).map fun entries =>
      { draft with
        entries
        pending := inner ++ draft.pending
        frozen := if isContainer value then (draft.header ++ key) :: draft.frozen
          else draft.frozen }

end Draft

/-- A table that is written out, of which some entries have been read. -/
structure InlineDraft where
  entries : Entries := []
  /-- The values that were written out in it. -/
  frozen : List Key := []

/-- Gives a key of a table that is written out a value. -/
def InlineDraft.assign (draft : InlineDraft) (key : Key) (value : Value) : Option InlineDraft :=
  if Draft.isFrozen draft.frozen key then none
  else
    (within false (define (key.getLast?.getD "") value) key.dropLast draft.entries).map
      fun entries =>
        { entries
          frozen := if Draft.isContainer value then key :: draft.frozen else draft.frozen }

end TemplateStream.Format.Toml
