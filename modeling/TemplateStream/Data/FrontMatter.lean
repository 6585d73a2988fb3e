import TemplateStream.Fault

/-!
# Front matter

A template may begin with a document between two fences, lines of three dashes and any number of
spaces or tabulators. The document ends at the first line that is a fence; everything behind that
line is the body. Without two fences the whole source is the body.
-/

namespace TemplateStream.FrontMatter

/-- Whether a character may follow the dashes of a fence. -/
def isPadding (c : Char) : Bool := c == ' ' || c == '\t'

/-- What follows a line break at the front. -/
def afterBreak? : List Char → Option (List Char)
  | '\n' :: rest => some rest
  | '\r' :: '\n' :: rest => some rest
  | _ => none

/-- What follows the dashes of a fence and the padding behind them. -/
def afterDashes? : List Char → Option (List Char)
  | '-' :: '-' :: '-' :: rest => some (rest.dropWhile isPadding)
  | _ => none

/-- What follows a fence that begins the source. -/
def afterOpening? (chars : List Char) : Option (List Char) :=
  (afterDashes? chars).bind afterBreak?

/-- What follows a line break and a fence, which may end the source. -/
def afterClosing? (chars : List Char) : Option (List Char) := do
  let rest ← afterDashes? (← afterBreak? chars)
  if rest.isEmpty then some [] else afterBreak? rest

/-- The characters before the first closing fence, and what follows it. -/
def splitAtClosing? : List Char → Option (List Char × List Char)
  | [] => none
  | c :: rest =>
    match afterClosing? (c :: rest) with
    | some body => some ([], body)
    | none => (splitAtClosing? rest).map fun (document, body) => (c :: document, body)

/-- The document and the body of a source that begins with a document between fences. -/
def split? (source : String) : Option (String × String) := do
  let (document, body) ← splitAtClosing? (← afterOpening? source.toList)
  some (String.ofList document, String.ofList body)

/-- The values and the body of a source of a page, whose document is loaded as given. -/
def read (source page : String) (load : String → Except Fault Value) :
    Except Fault (List (Value × Value) × String) :=
  match split? source with
  | none => .ok ([], source)
  | some (document, body) => do
    match ← load document with
    | .null => pure ([], body)
    | .mapping entries => pure (entries, body)
    | _ => throw (.data (.frontMatterShape page))

end TemplateStream.FrontMatter
