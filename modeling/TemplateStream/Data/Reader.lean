import TemplateStream.Files.Tree
import TemplateStream.Format.Ini
import TemplateStream.Format.Json
import TemplateStream.Format.Toml
import TemplateStream.Format.Yaml

/-!
# Data files and their readers

A reader turns a data file into a value. Readers of the common notations are ready-made; others
give the text of a file, what is known about it, or a value that does not depend on it.
-/

namespace TemplateStream

/-- A data file, by its path. -/
structure DataFile where
  path : Path
  deriving DecidableEq, Inhabited

namespace DataFile

/-- The name of a data file less its suffix. -/
def name (file : DataFile) : String := file.path.stem

/-- The suffix of a data file less its dots, in lower case. -/
def extension (file : DataFile) : String := Text.lower (Text.dropLeading '.' file.path.suffix)

end DataFile

/-- The key of a reader's result that names where the rest of the result is stored. -/
def storageMark : String := "$storeAs"

/-- Ways to turn a data file into a value. -/
inductive DataReader where
  | json
  | yaml
  | toml
  | ini
  /-- The whole text. -/
  | text
  /-- The text less the blanks around it. -/
  | stripped
  /-- The number of octets. -/
  | size
  /-- The name, the extension and the path. -/
  | facts
  /-- The text after the first line, stored under that line. -/
  | named
  /-- Always the same value. -/
  | constant (value : Value)
  /-- Always a fault. -/
  | failing (fault : Fault)
  /-- Something that cannot be called. -/
  | inert
  deriving Inhabited

namespace DataReader

/-- Whether a reader can be called. -/
def isCallable : DataReader → Bool
  | .inert => false
  | _ => true

/-- The first line of a text and the text after it. -/
def splitLine (text : String) : String × String := (Text.cut? '\n' text).getD (text, "")

/-- The value that a reader gives for a file. Documents of indentation are loaded as given, and one
that holds nothing is an empty mapping. -/
def read (tree : FileTree) (file : DataFile) (reader : DataReader)
    (load : String → Except Fault Value := Format.Yaml.read) : Except Fault Value :=
  match reader with
  | .json => tree.readAs file.path Format.Json.read
  | .yaml => do
    match ← tree.readAs file.path load with
    | .null => pure (.mapping [])
    | value => pure value
  | .toml => tree.readAs file.path Format.Toml.read
  | .ini => tree.readAs file.path Format.Ini.read
  | .text => do pure (.text (← tree.readText file.path))
  | .stripped => do pure (.text (Text.strip (← tree.readText file.path)))
  | .size => do pure (.int (← tree.read file.path).length)
  | .facts => .ok (.ofFields [
      ("name", .text file.name), ("extension", .text file.extension),
      ("path", .text file.path.text)])
  | .named => do
    let (head, body) := splitLine (← tree.readText file.path)
    pure (.ofFields [(storageMark, .text head), ("body", .text body)])
  | .constant value => .ok value
  | .failing fault => .error fault
  | .inert => .error (.notCallable Value.null.typeName)

end DataReader

end TemplateStream
