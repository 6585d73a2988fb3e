import TemplateStream.Format.Yaml.Quotation

/-!
# Plain scalars

A plain scalar begins with a character that has no other meaning. It goes on over spaces and,
where it is indented, over lines, which are folded as in quotes. A colon before the end of a word
ends it, and so do a number sign after a space and, between brackets, commas and brackets.
-/

namespace TemplateStream.Format.Yaml

/-- Characters that have a meaning of their own at the front of a scalar. -/
def indicators : List Char :=
  ['-', '?', ':', ',', '[', ']', '\x7b', '\x7d', '#', '&', '*', '!', '|', '>', '\'', '"', '%',
    '@', '\x60']

/-- Whether a plain scalar begins at the cursor. -/
def startsPlain (between : Bool) (cursor : Cursor) : Bool :=
  let c := cursor.peek
  !(endsWord c || indicators.contains c) ||
    (!endsWord (cursor.ahead 1) && (c == '-' || (!between && (c == '?' || c == ':'))))

/-- Characters that end a plain scalar between brackets. -/
def endsBetween (c : Char) : Bool :=
  c == ',' || c == '[' || c == ']' || c == '\x7b' || c == '\x7d'

/-- The number of characters of a plain scalar before the next blank. -/
def plainLength (between : Bool) : List Char → Nat
  | [] => 0
  | c :: rest =>
    let next := rest.headD ending
    if endsWord c || (c == ':' && (endsWord next || (between && endsBetween next))) ||
        (between && (endsBetween c || c == '?')) then 0
    else plainLength between rest + 1

/-- The line breaks at the cursor with the spaces between them, or nothing when a mark that
separates documents follows one. -/
def plainBreaks : Nat → Cursor → Option (List Char) × Cursor
  | 0, cursor => (some [], cursor)
  | steps + 1, cursor =>
    let cursor := cursor.skipSpaces
    match cursor.lineBreak? with
    | none => (some [], cursor)
    | some (mark, next) =>
      if next.atSeparator then (none, next)
      else
        let (breaks, last) := plainBreaks steps next
        (breaks.map (mark :: ·), last)

/-- The spaces and line breaks inside a plain scalar, folded, and whether a line was ended. There
are none where a mark that separates documents follows. -/
def plainSpaces (cursor : Cursor) : List Char × Bool × Cursor :=
  let (spaces, after) := cursor.spanning (· == ' ')
  match after.lineBreak? with
  | none => (spaces, false, after)
  | some (mark, next) =>
    if next.atSeparator then ([], true, next)
    else
      let (breaks, last) := plainBreaks (next.rest.length + 1) next
      ((breaks.map (folded mark)).getD [], true, last)

/-- The characters of a plain scalar from the cursor on, after the given spaces, the cursor behind
it, and whether it ends at the beginning of a line. -/
def plainChars (between : Bool) (indent : Int) :
    Nat → List Char → Bool → Cursor → List Char × Bool × Cursor
  | 0, _, ended, cursor => ([], ended, cursor)
  | steps + 1, spaces, ended, cursor =>
    let length := if cursor.peek == '#' then 0 else plainLength between cursor.rest
    if length == 0 then ([], ended, cursor)
    else
      let part := cursor.rest.take length
      let (next, broken, after) := plainSpaces (cursor.forward length)
      let (rest, ended, last) :=
        if next.isEmpty || (!between && (after.column : Int) < indent) then ([], broken, after)
        else plainChars between indent steps next broken after
      (spaces ++ part ++ rest, ended, last)

/-- The plain scalar at the cursor, inside a collection of the given indentation, the cursor
behind it, and whether it ends at the beginning of a line. -/
def plain (between : Bool) (parent : Int) (cursor : Cursor) : String × Bool × Cursor :=
  let (chars, ended, last) :=
    plainChars between (parent + 1) (cursor.rest.length + 1) [] false cursor
  (String.ofList chars, ended, last)

end TemplateStream.Format.Yaml
