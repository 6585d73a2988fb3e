import TemplateStream.Data.Extensions
import TemplateStream.Data.FrontMatter

/-!
# Stored data

The data of a renderer lives in two spaces: values of data files under their storage keys, the
last value winning, and values of pages in mappings nested along the parts of the page's name.
-/

namespace TemplateStream

/-- The storage key of a reader's result and the value to be stored: under the default key the
result as it is, or under the key that the result names the rest of it. -/
def splitStorageKey (value : Value) (default : String) : Except Fault (String × Value) :=
  match value with
  | .mapping entries =>
    match Value.lookup (.text storageMark) entries with
    | none => .ok (default, value)
    | some key =>
      match key.text? with
      | some name =>
        if Text.isBlankText name then .error (.data (.storageKey storageMark key))
        else .ok (Text.strip name, .mapping (Value.eraseEntry (.text storageMark) entries))
      | none => .error (.data (.storageKey storageMark key))
  | value => .ok (default, value)

/-- Whether a character separates the parts of a page's name. -/
def separatesPages (c : Char) : Bool := c == '/' || c == '\\' || c == '.'

/-- The parts of the name of a page. -/
def pagePath (name : String) : List String :=
  ((name.toList.map fun c => if separatesPages c then '/' else c) |> Text.splitChars '/'
    |>.filter (!·.isEmpty)).map String.ofList

/-- A value with another value put under a path of keys inside it. Mappings that are missing on
the way are made. -/
def placeAt (content : Value) : List String → Value → Except Fault Value
  | [], _ => .ok content
  | [last], .mapping entries => .ok (.mapping (Value.insertEntry (.text last) content entries))
  | [_], .list _ => .error (.data .listAssignment)
  | [_], target => .error (.data (.noAssignment target.typeName))
  | part :: rest, .mapping entries => do
    let inner := (Value.lookup (.text part) entries).getD (.mapping [])
    let placed ← placeAt content rest inner
    pure (.mapping (Value.insertEntry (.text part) placed entries))
  | _, target => .error (.data (.noEntries target.typeName))

/-- The value under a path of keys inside a value. -/
def valueAt? : List String → Value → Option Value
  | [], value => some value
  | part :: rest, value => (value.field? part).bind (valueAt? rest)

/-- The name of the space of data files. -/
def dataSpace : String := "data"

/-- The name of the space of pages. -/
def pageSpace : String := "page"

/-- The readers of a renderer and the values that it stored. -/
structure DataStore where
  extensions : ExtensionTable := .builtin
  data : Table Value := {}
  pages : List (Value × Value) := []
  /-- How documents of indentation are loaded. -/
  load : String → Except Fault Value := Format.Yaml.read

instance : Inhabited DataStore := ⟨{}⟩

namespace DataStore

/-- The store without values. -/
def clear (store : DataStore) : DataStore := { store with data := {}, pages := [] }

/-- Stores a value under a key. -/
def insert (store : DataStore) (key : String) (value : Value) : DataStore :=
  { store with data := store.data.insert key value }

/-- Both spaces as entries of a mapping. -/
def spaces (store : DataStore) : List (Value × Value) :=
  [(.text dataSpace, .ofTable store.data), (.text pageSpace, .mapping store.pages)]

/-- Both spaces as a mapping. -/
def contextData (store : DataStore) : Value := .mapping store.spaces

/-- Stores the values of a page. -/
def insertPage (store : DataStore) (name : String) (entries : List (Value × Value)) :
    Except Fault DataStore :=
  match pagePath name with
  | [] => .error (.data (.pageName name))
  | path => do
    match ← placeAt (.mapping entries) path (.mapping store.pages) with
    | .mapping pages => pure { store with pages }
    | _ => pure store

/-- Splits a source of a page, whose document is loaded as given, and stores its values. -/
def addPage (store : DataStore) (source name : String)
    (load : String → Except Fault Value := store.load) :
    Except Fault (DataStore × List (Value × Value) × String) := do
  let (entries, body) ← FrontMatter.read source name load
  pure (← store.insertPage name entries, entries, body)

/-- The values of a page, none when there is no such page. -/
def pageData (store : DataStore) (name : String) : List (Value × Value) :=
  ((valueAt? (pagePath name) (.mapping store.pages)).bind Value.entries?).getD []

/-- The global values of a template: its own page's, over which the two spaces are laid. -/
def contextFor (store : DataStore) (name : String) : List (Value × Value) :=
  Value.mergeEntries (store.pageData name) store.spaces

end DataStore

end TemplateStream
