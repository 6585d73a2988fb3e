import TemplateStream.Fault

/-!
# Cursors

A cursor stands in a document and knows what follows, and where it is: how many characters and
lines lie behind it, and in which column it stands. A byte order mark takes no column. Behind the
last character a cursor sees the null character, which no document holds.
-/

namespace TemplateStream.Format.Yaml

/-- The fault of a text that is no document. -/
def unreadable {α : Type} : Except Fault α := .error (.cited .yaml)

/-- The character that stands for the end of a document. -/
def ending : Char := '\x00'

/-- Whether a character breaks lines. -/
def isBreak (c : Char) : Bool :=
  c == '\n' || c == '\r' || c == '\x85' || c == '\u2028' || c == '\u2029'

/-- Whether a line ends before a character. -/
def endsLine (c : Char) : Bool := c == ending || isBreak c

/-- Whether a character is a space or ends a line. -/
def endsField (c : Char) : Bool := c == ' ' || endsLine c

/-- Whether a word ends before a character. -/
def endsWord (c : Char) : Bool := c == '\t' || endsField c

/-- Whether a character is a space or a tabulator. -/
def isSpace (c : Char) : Bool := c == ' ' || c == '\t'

/-- Whether a character is one of the ten digits. -/
def isDigit (c : Char) : Bool := '0' ≤ c && c ≤ '9'

/-- Whether a character is a hexadecimal digit. -/
def isHexDigit (c : Char) : Bool :=
  isDigit c || ('a' ≤ c && c ≤ 'f') || ('A' ≤ c && c ≤ 'F')

/-- Whether a character may stand in names of anchors and directives. -/
def isWordChar (c : Char) : Bool :=
  isDigit c || ('a' ≤ c && c ≤ 'z') || ('A' ≤ c && c ≤ 'Z') || c == '-' || c == '_'

/-- Whether a document may hold a character. -/
def isAdmissible (c : Char) : Bool :=
  let code := c.toNat
  code == 0x09 || code == 0x0a || code == 0x0d || (0x20 ≤ code && code ≤ 0x7e) ||
    code == 0x85 || (0xa0 ≤ code && code ≤ 0xd7ff) || (0xe000 ≤ code && code ≤ 0xfffd) ||
    0x10000 ≤ code

/-- A place in a document. -/
structure Cursor where
  rest : List Char
  index : Nat := 0
  line : Nat := 0
  column : Nat := 0

namespace Cursor

/-- The character at the given distance. -/
def ahead (cursor : Cursor) (distance : Nat) : Char := cursor.rest.getD distance ending

/-- The character at the cursor. -/
def peek (cursor : Cursor) : Char := cursor.ahead 0

/-- The cursor behind the next character. -/
def step (cursor : Cursor) : Cursor :=
  match cursor.rest with
  | [] => cursor
  | c :: rest =>
    if isBreak c && !(c == '\r' && rest.head? == some '\n') then
      { rest, index := cursor.index + 1, line := cursor.line + 1, column := 0 }
    else
      { rest, index := cursor.index + 1, line := cursor.line
        column := if c == '\ufeff' then cursor.column else cursor.column + 1 }

/-- The cursor behind the given number of characters. -/
def forward (cursor : Cursor) : Nat → Cursor
  | 0 => cursor
  | count + 1 => cursor.step.forward count

/-- The characters at the cursor that satisfy a test, and the cursor behind them. -/
def spanning (cursor : Cursor) (test : Char → Bool) : List Char × Cursor :=
  let chars := cursor.rest.takeWhile test
  (chars, cursor.forward chars.length)

/-- The cursor behind the characters that satisfy a test. -/
def skipWhile (cursor : Cursor) (test : Char → Bool) : Cursor := (cursor.spanning test).2

/-- The cursor behind the spaces. -/
def skipSpaces (cursor : Cursor) : Cursor := cursor.skipWhile (· == ' ')

/-- The cursor behind the comment at the cursor, if there is one. -/
def skipComment (cursor : Cursor) : Cursor :=
  if cursor.peek == '#' then cursor.skipWhile fun c => !isBreak c else cursor

/-- The line break at the cursor, if there is one. All but the line and paragraph separators
count as line feeds. -/
def lineBreak? (cursor : Cursor) : Option (Char × Cursor) :=
  match cursor.rest with
  | '\r' :: '\n' :: _ => some ('\n', cursor.forward 2)
  | c :: _ =>
    if c == '\u2028' || c == '\u2029' then some (c, cursor.step)
    else if isBreak c then some ('\n', cursor.step)
    else none
  | [] => none

/-- The cursor behind the line break at the cursor, if there is one. -/
def skipBreak (cursor : Cursor) : Cursor :=
  match cursor.lineBreak? with
  | some (_, after) => after
  | none => cursor

/-- The cursor at the next line, when nothing but spaces and a comment is left of this one. -/
def nextLine (cursor : Cursor) : Except Fault Cursor :=
  let after := cursor.skipSpaces.skipComment
  if endsLine after.peek then .ok after.skipBreak else unreadable

/-- Whether three characters that separate documents stand at the cursor, followed by the end of
a word. -/
def atMark (cursor : Cursor) (mark : Char) : Bool :=
  cursor.rest.take 3 == [mark, mark, mark] && endsWord (cursor.ahead 3)

/-- Whether a mark that separates documents stands at the cursor. -/
def atSeparator (cursor : Cursor) : Bool := cursor.atMark '-' || cursor.atMark '.'

end Cursor

end TemplateStream.Format.Yaml
