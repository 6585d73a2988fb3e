/-!
# Splitting and replacing text

Cutting a text at a separator, and replacing one text by another, as recursions over the
characters.
-/

namespace TemplateStream.Text

/-- The parts of a list of characters between the separators, of which there is one more than
separators. -/
def splitChars (separator : Char) : List Char → List (List Char)
  | [] => [[]]
  | c :: rest =>
    match splitChars separator rest with
    | [] => [[c]]
    | part :: parts => if c = separator then [] :: part :: parts else (c :: part) :: parts

/-- The parts of a text between the separators. -/
def split (separator : Char) (text : String) : List String :=
  (splitChars separator text.toList).map String.ofList

/-- The text before the first separator and the text after it. -/
def cut? (separator : Char) (text : String) : Option (String × String) :=
  match text.toList.dropWhile (· != separator) with
  | [] => none
  | _ :: rest => some (String.ofList (text.toList.takeWhile (· != separator)), String.ofList rest)

/-- What follows a list of characters at the front of another. -/
def dropFront? : List Char → List Char → Option (List Char)
  | [], rest => some rest
  | c :: front, d :: rest => if c = d then dropFront? front rest else none
  | _ :: _, [] => none

/-- A list of characters with each occurrence of a pattern replaced, from left to right, in at
most the given number of steps. An empty pattern occurs before every character and at the end. -/
def replaceChars (pattern replacement : List Char) : Nat → List Char → List Char
  | 0, chars => chars
  | steps + 1, chars =>
    match pattern, chars with
    | [], [] => replacement
    | [], c :: rest => replacement ++ c :: replaceChars pattern replacement steps rest
    | _ :: _, [] => []
    | _ :: _, c :: rest =>
      match dropFront? pattern (c :: rest) with
      | some after => replacement ++ replaceChars pattern replacement steps after
      | none => c :: replaceChars pattern replacement steps rest

/-- A text with each occurrence of a pattern replaced, from left to right. -/
def replace (pattern replacement text : String) : String :=
  let content := text.toList
  String.ofList (replaceChars pattern.toList replacement.toList (content.length + 1) content)

end TemplateStream.Text
