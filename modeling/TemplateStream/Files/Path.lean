import TemplateStream.Text.Split

/-!
# Paths

A path is a list of parts between slashes, from a root or from the place where one stands. Empty
parts and parts of a single dot mean nothing and are dropped; parts of two dots are kept.
-/

namespace TemplateStream

/-- Where a path starts. -/
inductive PathRoot where
  /-- Where one stands. -/
  | here
  | slash
  /-- Exactly two slashes are a root of their own. -/
  | doubleSlash
  deriving DecidableEq, Inhabited

/-- A path of parts that mean something. -/
structure Path where
  root : PathRoot
  parts : List String
  deriving DecidableEq, Inhabited

namespace Path

/-- The text of a root. -/
def rootText : PathRoot → String
  | .here => ""
  | .slash => "/"
  | .doubleSlash => "//"

/-- The root of a text with the given number of slashes at its front. -/
def rootOf : Nat → PathRoot
  | 0 => .here
  | 2 => .doubleSlash
  | _ => .slash

/-- Whether a part means something. -/
def isPart (part : String) : Bool := !(part == "" || part == ".")

/-- The path of a text. -/
def ofText (text : String) : Path where
  root := rootOf (text.toList.takeWhile (· == '/')).length
  parts := (Text.split '/' text).filter isPart

/-- The text of a path: a single dot when there is nothing to write. -/
def text (path : Path) : String :=
  match path.root, path.parts with
  | .here, [] => "."
  | root, parts => rootText root ++ "/".intercalate parts

/-- A path below a path. -/
def append (path : Path) (parts : List String) : Path :=
  { path with parts := path.parts ++ parts }

/-- The last part, empty when there is none. -/
def name (path : Path) : String := path.parts.getLast?.getD ""

/-- A name split before its last dot, unless that dot is its first or last character. -/
def splitName (name : String) : String × String :=
  let reversed := name.toList.reverse
  let extension := reversed.takeWhile (· != '.')
  let stem := reversed.dropWhile (· != '.') |>.drop 1
  if extension.isEmpty || stem.isEmpty then (name, "")
  else (String.ofList stem.reverse, String.ofList ('.' :: extension.reverse))

/-- The name less its suffix. -/
def stem (path : Path) : String := (splitName path.name).1

/-- The last dot of the name and what follows it, if anything stands before and behind. -/
def suffix (path : Path) : String := (splitName path.name).2

end Path

end TemplateStream
