import TemplateStream.Description.Values
import TemplateStream.Files.Tree

/-!
# Descriptions of files

Files are described by their paths, with a text for a file of that text, an object with the
hexadecimal digits of its octets for any other file, and an object that says so for a directory
that may be empty.
-/

namespace TemplateStream.Description

/-- The value of a hexadecimal digit. -/
def nibble (c : Char) : Nat :=
  if c.isDigit then c.toNat - '0'.toNat
  else if 'a' ≤ c && c ≤ 'f' then c.toNat - 'a'.toNat + 10
  else if 'A' ≤ c && c ≤ 'F' then c.toNat - 'A'.toNat + 10
  else 0

/-- The octets of pairs of hexadecimal digits. -/
def octets : List Char → List UInt8
  | high :: low :: rest => UInt8.ofNat (nibble high * 16 + nibble low) :: octets rest
  | _ => []

/-- The octets of the file of a description. -/
def content (document : Value) : List UInt8 :=
  match document with
  | .text written => written.toUTF8.toList
  | document => octets (text (member document "hex")).toList

/-- The place of the path of a description. -/
def place (path : String) : List String := (Path.ofText path).parts

/-- A tree with the files of a description added. -/
def writeFiles (tree : FileTree) (document : Value) : FileTree :=
  (members document).foldl (fun tree (path, file) =>
    if flag (member file "dir") then tree.insertDirectory (place path)
    else tree.insertFile (place path) (content file)) tree

end TemplateStream.Description
