import TemplateStream.Format.Yaml.Cursor

/-!
# Scalars in quotes

Between single quotes, a quote is written twice and nothing else is special; between double
quotes, a backslash begins an escape. Line breaks are folded: a single one is a space, and of
several the first disappears. The blanks around them disappear too.
-/

namespace TemplateStream.Format.Yaml

/-- Escapes of one character. -/
def escapes : List (Char × Char) := [
  ('0', '\x00'), ('a', '\x07'), ('b', '\x08'), ('t', '\t'), ('\t', '\t'), ('n', '\n'),
  ('v', '\x0b'), ('f', '\x0c'), ('r', '\r'), ('e', '\x1b'), (' ', ' '), ('"', '"'),
  ('\\', '\\'), ('/', '/'), ('N', '\x85'), ('_', '\xa0'), ('L', '\u2028'), ('P', '\u2029')]

/-- The number of hexadecimal digits after the letter of an escape. -/
def escapeWidth? : Char → Option Nat
  | 'x' => some 2
  | 'u' => some 4
  | 'U' => some 8
  | _ => none

/-- The number of hexadecimal digits. -/
def hexValue (digits : List Char) : Nat :=
  digits.foldl (fun total c => total * 16 + (Decimal.digitValue? c).getD 0) 0

/-- The character of a code point. A lone surrogate is read as the replacement character. -/
def charOfCode (code : Nat) : Except Fault Char :=
  if code.isValidChar then .ok (Char.ofNat code)
  else if code ≤ 0x10ffff then .ok '\ufffd'
  else if code < 0x80000000 then .error (.number .codePoint)
  else .error (.number .codePointSize)

/-- The folded line breaks at the cursor, up to the next character that is neither a blank nor a
line break. A mark that separates documents may not begin a line. -/
def foldedBreaks : Nat → Cursor → Except Fault (List Char × Cursor)
  | 0, _ => unreadable
  | steps + 1, cursor =>
    if cursor.atSeparator then unreadable
    else
      let after := cursor.skipWhile isSpace
      match after.lineBreak? with
      | none => .ok ([], after)
      | some (mark, next) => do
        let (breaks, last) ← foldedBreaks steps next
        pure (mark :: breaks, last)

/-- What a line break is folded to, given the line breaks that follow it. -/
def folded (mark : Char) (breaks : List Char) : List Char :=
  if mark != '\n' then mark :: breaks
  else if breaks.isEmpty then [' ']
  else breaks

/-- The blanks and line breaks at the cursor, folded. -/
def quotedSpaces (cursor : Cursor) : Except Fault (List Char × Cursor) :=
  let (spaces, after) := cursor.spanning isSpace
  match after.lineBreak? with
  | none => if after.peek == ending then unreadable else .ok (spaces, after)
  | some (mark, next) => do
    let (breaks, last) ← foldedBreaks (next.rest.length + 1) next
    pure (folded mark breaks, last)

/-- The characters of the escape whose backslash lies behind the cursor. -/
def escapeSequence (cursor : Cursor) : Except Fault (List Char × Cursor) :=
  match escapes.lookup cursor.peek, escapeWidth? cursor.peek, cursor.lineBreak? with
  | some c, _, _ => .ok ([c], cursor.step)
  | none, some width, _ => do
    let digits := cursor.step.rest.take width
    if digits.length == width && digits.all isHexDigit then
      pure ([← charOfCode (hexValue digits)], cursor.forward (width + 1))
    else unreadable
  | none, none, some (_, next) => foldedBreaks (next.rest.length + 1) next
  | none, none, none => unreadable

/-- The characters of a scalar in quotes up to its closing quote, in at most the given number of
steps. -/
def quotedChars (double : Bool) : Nat → Cursor → Except Fault (List Char × Cursor)
  | 0, _ => unreadable
  | steps + 1, cursor => do
    let continued (part : List Char × Cursor) : Except Fault (List Char × Cursor) := do
      let (chars, after) ← quotedChars double steps part.2
      pure (part.1 ++ chars, after)
    let c := cursor.peek
    if c == (if double then '"' else '\'') then
      if !double && cursor.ahead 1 == '\'' then continued (['\''], cursor.forward 2)
      else pure ([], cursor.step)
    else if endsWord c then continued (← quotedSpaces cursor)
    else if double && c == '\\' then continued (← escapeSequence cursor.step)
    else continued ([c], cursor.step)

/-- The scalar in quotes at the cursor. -/
def quotation (cursor : Cursor) : Except Fault (String × Cursor) := do
  let (chars, after) ←
    quotedChars (cursor.peek == '"') (cursor.rest.length + 1) cursor.step
  pure (String.ofList chars, after)

end TemplateStream.Format.Yaml
