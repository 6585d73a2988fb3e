import TemplateStream.Format.Yaml.Quotation

/-!
# Block scalars

A block scalar has a header and then lines that are indented alike. Its line breaks are kept, or
folded where neither of two lines begins with a blank. The line breaks at its end are kept,
dropped, or reduced to one, as the header says.
-/

namespace TemplateStream.Format.Yaml

/-- What becomes of the line breaks at the end of a block scalar. -/
inductive Chomping where
  /-- One of them is kept. -/
  | clip
  /-- All of them are dropped. -/
  | strip
  /-- All of them are kept. -/
  | keep
  deriving DecidableEq

/-- The header of a block scalar: what becomes of its end, and its indentation if it is given. -/
structure BlockHeader where
  chomping : Chomping := .clip
  increment : Option Nat := none

/-- What becomes of the end of a block scalar, if the next character says so. -/
def chomping? (cursor : Cursor) : Option Chomping :=
  if cursor.peek == '+' then some .keep
  else if cursor.peek == '-' then some .strip
  else none

/-- The indentation of a block scalar, if the next character says so; it cannot be zero. -/
def increment? (cursor : Cursor) : Except Fault (Option Nat) :=
  if cursor.peek == '0' then unreadable
  else if isDigit cursor.peek then .ok (some (cursor.peek.toNat - '0'.toNat))
  else .ok none

/-- The cursor behind the next character if something was found there. -/
def Cursor.past {α : Type} (cursor : Cursor) (found : Option α) : Cursor :=
  if found.isSome then cursor.step else cursor

/-- The header of a block scalar, whose two parts may come in either order. -/
def blockHeader (cursor : Cursor) : Except Fault (BlockHeader × Cursor) := do
  let first := chomping? cursor
  let cursor := cursor.past first
  let increment ← increment? cursor
  let cursor := cursor.past increment
  let second := if first.isNone && increment.isSome then chomping? cursor else none
  let cursor := cursor.past second
  if endsField cursor.peek then
    pure (⟨(first <|> second).getD .clip, increment⟩, ← cursor.nextLine)
  else unreadable

/-- The line breaks before the first line with a character other than a space, and the greatest
number of spaces in front of anything up to there. -/
def leadingBreaks : Nat → Nat → Cursor → List Char × Nat × Cursor
  | 0, widest, cursor => ([], widest, cursor)
  | steps + 1, widest, cursor =>
    if cursor.peek == ' ' then
      let next := cursor.step
      leadingBreaks steps (max widest next.column) next
    else match cursor.lineBreak? with
      | some (mark, next) =>
        let (breaks, widest, last) := leadingBreaks steps widest next
        (mark :: breaks, widest, last)
      | none => ([], widest, cursor)

/-- The cursor behind spaces, up to the given column. -/
def skipIndent (indent : Nat) : Nat → Cursor → Cursor
  | 0, cursor => cursor
  | steps + 1, cursor =>
    if cursor.column < indent && cursor.peek == ' ' then skipIndent indent steps cursor.step
    else cursor

/-- The line breaks up to the next line that has a character in the given column. -/
def breaksTo (indent : Nat) : Nat → Cursor → List Char × Cursor
  | 0, cursor => ([], cursor)
  | steps + 1, cursor =>
    let cursor := skipIndent indent indent cursor
    match cursor.lineBreak? with
    | some (mark, next) =>
      let (breaks, last) := breaksTo indent steps next
      (mark :: breaks, last)
    | none => ([], cursor)

/-- What follows the last line of a block scalar. -/
structure BlockEnd where
  /-- The line break that ends the last line. -/
  last : List Char
  /-- The line breaks after it. -/
  breaks : List Char
  cursor : Cursor

/-- The lines of a block scalar from the cursor on, after the given line breaks. -/
def blockLines (folds : Bool) (indent : Nat) :
    Nat → List Char → List Char → Cursor → List Char × BlockEnd
  | 0, last, breaks, cursor => ([], ⟨last, breaks, cursor⟩)
  | steps + 1, last, breaks, cursor =>
    if cursor.column == indent && cursor.peek != ending then
      let (line, after) := cursor.spanning fun c => !isBreak c
      let (mark, next) := match after.lineBreak? with
        | some (mark, next) => ([mark], next)
        | none => ([], after)
      let (following, next) := breaksTo indent (next.rest.length + 1) next
      let joint :=
        if next.column == indent && next.peek != ending then
          if folds && mark == ['\n'] && !isSpace cursor.peek && !isSpace next.peek then
            if following.isEmpty then [' '] else []
          else mark
        else []
      let (rest, finish) := blockLines folds indent steps mark following next
      (breaks ++ line ++ joint ++ rest, finish)
    else ([], ⟨last, breaks, cursor⟩)

/-- The block scalar at the cursor, inside a collection of the given indentation. -/
def blockScalar (parent : Int) (cursor : Cursor) : Except Fault (String × Cursor) := do
  let (header, start) ← blockHeader cursor.step
  let least := max 1 (parent + 1).toNat
  let steps := start.rest.length + 1
  let (breaks, indent, first) := match header.increment with
    | none =>
      let (breaks, widest, first) := leadingBreaks steps 0 start
      (breaks, max least widest, first)
    | some increment =>
      let indent := least + increment - 1
      let (breaks, first) := breaksTo indent steps start
      (breaks, indent, first)
  let (chars, finish) := blockLines (cursor.peek == '>') indent steps [] breaks first
  let tail := match header.chomping with
    | .strip => []
    | .clip => finish.last
    | .keep => finish.last ++ finish.breaks
  pure (String.ofList (chars ++ tail), finish.cursor)

end TemplateStream.Format.Yaml
