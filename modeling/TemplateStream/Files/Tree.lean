import TemplateStream.Fault
import TemplateStream.Files.Path

/-!
# File trees

A file tree holds files and directories under their parts. A directory is there when it was made
or when anything lies below it. Paths are followed part by part: two dots lead back up, out of
directories only, and nothing is known above the tree or outside of it. How a refusal is worded is
up to the tree.
-/

namespace TemplateStream

/-- Files and directories, by the parts of their places. -/
structure FileTree where
  files : List (List String × List UInt8) := []
  directories : List (List String) := []
  /-- The words in which something is refused at a path. -/
  wording : Kind → Path → String := fun kind _ => kind.citation

instance : Inhabited FileTree := ⟨{}⟩

/-- What lies at a place. -/
inductive FileNode where
  | file (content : List UInt8)
  | directory
  deriving DecidableEq

namespace FileTree

/-- Whether a place is a directory. -/
def isDirectoryAt (tree : FileTree) (place : List String) : Bool :=
  place.isEmpty || tree.directories.any place.isPrefixOf ||
    tree.files.any fun entry => place.isPrefixOf entry.1 && place.length < entry.1.length

/-- What lies at a place without dots. -/
def at? (tree : FileTree) (place : List String) : Option FileNode :=
  match tree.files.lookup place with
  | some content => some (.file content)
  | none => if tree.isDirectoryAt place then some .directory else none

/-- Follows parts from a place, which must be a directory as long as parts are left. -/
def follow (tree : FileTree) (place : List String) :
    List String → Except Kind (List String × FileNode)
  | [] =>
    match tree.at? place with
    | some node => .ok (place, node)
    | none => .error .missingFile
  | part :: rest =>
    match tree.at? place with
    | none => .error .missingFile
    | some (.file _) => .error .notDirectory
    | some .directory =>
      if part == ".." then
        if place.isEmpty then .error .missingFile else tree.follow place.dropLast rest
      else tree.follow (place ++ [part]) rest

/-- The fault of a path at which something is refused. -/
def refusal (tree : FileTree) (path : Path) (kind : Kind) : Fault :=
  .refusal kind (tree.wording kind path)

/-- The place that a path leads to, and what lies there. -/
def find (tree : FileTree) (path : Path) : Except Fault (List String × FileNode) :=
  match path.root with
  | .here => (tree.follow [] path.parts).mapError (tree.refusal path)
  | _ => .error (tree.refusal path .missingFile)

/-- Whether a path leads to a file. -/
def isFile (tree : FileTree) (path : Path) : Bool :=
  match tree.find path with
  | .ok (_, .file _) => true
  | _ => false

/-- Whether a path leads to a directory. -/
def isDirectory (tree : FileTree) (path : Path) : Bool :=
  match tree.find path with
  | .ok (_, .directory) => true
  | _ => false

/-- The content of the file that a path leads to. -/
def read (tree : FileTree) (path : Path) : Except Fault (List UInt8) := do
  match ← tree.find path with
  | (_, .file content) => pure content
  | (_, .directory) => throw (tree.refusal path .isDirectory)

/-- Whether a list of parts comes before another: part by part. -/
def precedes : List String → List String → Bool
  | [], _ => true
  | _ :: _, [] => false
  | left :: lefts, right :: rights =>
    if left == right then precedes lefts rights else left < right

/-- The files below the directory that a path leads to, part by part in ascending order. -/
def filesBelow (tree : FileTree) (path : Path) : List Path :=
  match tree.find path with
  | .ok (place, .directory) =>
    let below := tree.files.filterMap fun entry =>
      if place.isPrefixOf entry.1 then some (entry.1.drop place.length) else none
    (below.mergeSort precedes).map path.append
  | _ => []

/-- The tree with a file at a place. -/
def insertFile (tree : FileTree) (place : List String) (content : List UInt8) : FileTree :=
  { tree with files := (tree.files.filter fun entry => entry.1 != place) ++ [(place, content)] }

/-- The tree with a directory at a place. -/
def insertDirectory (tree : FileTree) (place : List String) : FileTree :=
  { tree with directories := tree.directories ++ [place] }

end FileTree

/-- Text with each line break of one or two characters replaced by a line feed. -/
def joinLineBreaks : List Char → List Char
  | '\r' :: '\n' :: rest => '\n' :: joinLineBreaks rest
  | '\r' :: rest => '\n' :: joinLineBreaks rest
  | c :: rest => c :: joinLineBreaks rest
  | [] => []

/-- The text that octets encode, if they do. -/
def decodeText? (content : List UInt8) : Option String :=
  (String.fromUTF8? ⟨content.toArray⟩).map fun text => String.ofList (joinLineBreaks text.toList)

namespace FileTree

/-- The text of the file that a path leads to. -/
def readText (tree : FileTree) (path : Path) : Except Fault String := do
  match decodeText? (← tree.read path) with
  | some text => pure text
  | none => throw (tree.refusal path .decoding)

/-- What is read from the text of a file by the rules of a notation. A refusal is in the words of
the tree. -/
def readAs {α : Type} (tree : FileTree) (path : Path) (rules : String → Except Fault α) :
    Except Fault α := do
  match rules (← tree.readText path) with
  | .error (.refusal kind _) => throw (tree.refusal path kind)
  | result => result

end FileTree

end TemplateStream
