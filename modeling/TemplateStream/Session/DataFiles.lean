import TemplateStream.Session

/-!
# Loading data files

Paths are loaded in order, and the files below a directory in ascending order, so that the last
file of a key decides what is stored under it. Below a directory, files without a reader are
passed over.
-/

namespace TemplateStream.Session

/-- What is done about a file once the value under its key is stored. -/
abbrev FileNotice := DataFile → String → Value → SessionM Unit

/-- Loads a file, and gives the key that its value is stored under. -/
def loadFile (notice : FileNotice) (path : Path) : SessionM String := do
  let file : DataFile := ⟨path⟩
  let session ← get
  let reader ← liftExcept
    (session.renderer.data.extensions.resolve file.extension (some path.text))
  let result := reader.read session.files file session.renderer.data.load
  happen (.read file result)
  let (key, content) ← liftExcept do splitStorageKey (← result) file.name
  store key content
  notice file key content
  pure key

/-- Loads the files that have a reader. -/
def loadFiles (notice : FileNotice) : List Path → SessionM (List String)
  | [] => pure []
  | path :: rest => do
    if (← get).renderer.data.extensions.contains path.suffix then
      let key ← loadFile notice path
      pure (key :: (← loadFiles notice rest))
    else loadFiles notice rest

/-- The path that a value gives. -/
def pathOf (value : Value) : Except Fault Path :=
  match value.text? with
  | some text => .ok (.ofText text)
  | none => .error (.data (.notPath value.typeName))

/-- Loads a file or the files below a directory, and gives the keys. -/
def loadPath (notice : FileNotice) (value : Value) : SessionM (List String) := do
  let path ← liftExcept (pathOf value)
  let files := (← get).files
  if files.isFile path then pure [← loadFile notice path]
  else if files.isDirectory path then loadFiles notice (files.filesBelow path)
  else throw (.data (.missingPath path.text))

/-- Loads paths in order, and gives the keys. -/
def loadPaths (notice : FileNotice) : List Value → SessionM (List String)
  | [] => pure []
  | path :: rest => do
    let keys ← loadPath notice path
    pure (keys ++ (← loadPaths notice rest))

end TemplateStream.Session
