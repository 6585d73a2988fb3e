import TemplateStream.Data.Reader
import TemplateStream.Registry.Helpers

/-!
# Readers by extension

Data files are read by their extension, which is looked up without the blanks around it, without
dots in front, and in lower case. The last reader registered for an extension wins.
-/

namespace TemplateStream

/-- The form under which an extension is looked up. -/
def foldExtension (extension : String) : String :=
  Text.lower (Text.dropLeading '.' (Text.strip extension))

/-- The form under which an extension is registered, which must not be empty. -/
def normalizeExtension (extension : String) : Except Fault String :=
  let folded := foldExtension extension
  if folded.isEmpty then .error (.data (.blankExtension extension)) else .ok folded

/-- Readers by extension. -/
structure ExtensionTable where
  readers : Table DataReader := {}
  deriving Inhabited

namespace ExtensionTable

/-- Registers a reader for an extension. -/
def register (table : ExtensionTable) (extension : String) (reader : DataReader) :
    Except Fault ExtensionTable := do
  if !reader.isCallable then throw (.data (.notHandler extension))
  pure { readers := table.readers.insert (← normalizeExtension extension) reader }

/-- Registers readers in order. -/
def ofList (readers : List (String × DataReader)) : Except Fault ExtensionTable :=
  readers.foldlM (fun table (extension, reader) => table.register extension reader) {}

/-- The readers of the common notations. -/
def builtin : ExtensionTable where
  readers := .ofList [
    ("json", .json), ("yaml", .yaml), ("yml", .yaml), ("toml", .toml), ("ini", .ini)]

/-- The reader for an extension, asked for on behalf of a path. -/
def resolve (table : ExtensionTable) (extension : String) (path : Option String := none) :
    Except Fault DataReader :=
  match table.readers.get? (foldExtension extension) with
  | some reader => .ok reader
  | none => .error (.data (.unsupported (foldExtension extension) path))

/-- Whether there is a reader for an extension. -/
def contains (table : ExtensionTable) (extension : String) : Bool :=
  table.readers.contains (foldExtension extension)

/-- The extensions in ascending order. -/
def extensions (table : ExtensionTable) : List String := sortedNames table.readers.keys

end ExtensionTable

end TemplateStream
