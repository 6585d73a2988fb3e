import TemplateStream.Fault
import TemplateStream.Value.Equality

/-!
# JSON documents

Reads a document in JavaScript object notation. Objects keep the order of their members, the
later of two members with one name winning. The names of the infinities and of no number are
read as well. A lone surrogate in an escape is read as the replacement character.
-/

namespace TemplateStream.Format.Json

/-- The fault of a text that is no document. -/
def unreadable {α : Type} : Except Fault α := .error (.cited .json)

/-- Whether a character may stand between tokens. -/
def isSpace (c : Char) : Bool := c == ' ' || c == '\t' || c == '\n' || c == '\r'

/-- What follows the spaces at the front. -/
def skipSpaces (chars : List Char) : List Char := chars.dropWhile isSpace

/-- The number of a hexadecimal digit. -/
def hexDigit? (c : Char) : Option Nat :=
  if '0' ≤ c && c ≤ '9' then some (c.toNat - '0'.toNat)
  else if 'a' ≤ c && c ≤ 'f' then some (c.toNat - 'a'.toNat + 10)
  else if 'A' ≤ c && c ≤ 'F' then some (c.toNat - 'A'.toNat + 10)
  else none

/-- The number of four hexadecimal digits at the front. -/
def fourDigits? : List Char → Option (Nat × List Char)
  | a :: b :: c :: d :: rest => do
    some ((((← hexDigit? a) * 16 + (← hexDigit? b)) * 16 + (← hexDigit? c)) * 16 +
      (← hexDigit? d), rest)
  | _ => none

/-- Whether a code unit is the first of a pair. -/
def isHigh (unit : Nat) : Bool := 0xd800 ≤ unit && unit < 0xdc00

/-- Whether a code unit is the second of a pair. -/
def isLow (unit : Nat) : Bool := 0xdc00 ≤ unit && unit < 0xe000

/-- The character of a code unit, unless it is half of a pair. -/
def charOfUnit (unit : Nat) : Char :=
  if isHigh unit || isLow unit then '\ufffd' else Char.ofNat unit

/-- The character of an escape with four digits, which may take a second escape along. -/
def unicodeEscape? (chars : List Char) : Option (Char × List Char) := do
  let (unit, rest) ← fourDigits? chars
  if isHigh unit then
    match rest with
    | '\\' :: 'u' :: after =>
      match fourDigits? after with
      | some (second, last) =>
        if isLow second then
          some (Char.ofNat (0x10000 + (unit - 0xd800) * 0x400 + (second - 0xdc00)), last)
        else some ('\ufffd', rest)
      | none => none
    | _ => some ('\ufffd', rest)
  else some (charOfUnit unit, rest)

/-- The character of an escape of one letter. -/
def simpleEscape? : Char → Option Char
  | '"' => some '"'
  | '\\' => some '\\'
  | '/' => some '/'
  | 'b' => some '\x08'
  | 'f' => some '\x0c'
  | 'n' => some '\n'
  | 'r' => some '\r'
  | 't' => some '\t'
  | _ => none

/-- The characters of a string up to its closing quote, and what follows it, in at most the
given number of steps. -/
def stringChars : Nat → List Char → Except Fault (List Char × List Char)
  | 0, _ => unreadable
  | _, [] => unreadable
  | _, '"' :: rest => .ok ([], rest)
  | steps + 1, '\\' :: 'u' :: rest =>
    match unicodeEscape? rest with
    | some (c, rest) => do
      let (chars, after) ← stringChars steps rest
      pure (c :: chars, after)
    | none => unreadable
  | steps + 1, '\\' :: mark :: rest =>
    match simpleEscape? mark with
    | some c => do
      let (chars, after) ← stringChars steps rest
      pure (c :: chars, after)
    | none => unreadable
  | steps + 1, c :: rest =>
    if c.toNat < 0x20 then unreadable
    else do
      let (chars, after) ← stringChars steps rest
      pure (c :: chars, after)

/-- Whether a character is one of the ten digits of numbers. -/
def isDigit (c : Char) : Bool := '0' ≤ c && c ≤ '9'

/-- The whole part of a number without a sign: a zero alone, or digits that begin with another
one. -/
def wholePart? : List Char → Option (List Char × List Char)
  | '0' :: rest => some (['0'], rest)
  | c :: rest =>
    if isDigit c then some (c :: rest.takeWhile isDigit, rest.dropWhile isDigit) else none
  | [] => none

/-- A mark followed by digits, at least one of them. -/
def digitsAfter (mark : List Char) (chars : List Char) : Option (List Char × List Char) :=
  match chars.takeWhile isDigit with
  | [] => none
  | digits => some (mark ++ digits, chars.dropWhile isDigit)

/-- The fraction at the front, if there is one. -/
def fraction (chars : List Char) : List Char × List Char :=
  match chars with
  | '.' :: rest => (digitsAfter ['.'] rest).getD ([], chars)
  | _ => ([], chars)

/-- The exponent at the front, if there is one. -/
def exponent (chars : List Char) : List Char × List Char :=
  match chars with
  | mark :: rest =>
    if mark == 'e' || mark == 'E' then
      let found := match rest with
        | sign :: after =>
          if sign == '+' || sign == '-' then digitsAfter [mark, sign] after
          else digitsAfter [mark] rest
        | [] => none
      found.getD ([], chars)
    else ([], chars)
  | [] => ([], [])

/-- The number at the front. -/
def number (chars : List Char) : Except Fault (Value × List Char) :=
  let (sign, rest) := match chars with
    | '-' :: rest => (['-'], rest)
    | rest => ([], rest)
  match wholePart? rest with
  | none => unreadable
  | some (whole, rest) =>
    let (fraction, rest) := fraction rest
    let (exponent, rest) := exponent rest
    let text := String.ofList (sign ++ whole ++ fraction ++ exponent)
    if fraction.isEmpty && exponent.isEmpty then
      match Decimal.readInteger 10 text with
      | .ok value => .ok (.int value, rest)
      | .error cause => .error (.number (.integer 10 (.text text) cause))
    else
      match Decimal.float? text with
      | some value => .ok (.float value, rest)
      | none => unreadable

/-- Words that stand for values. -/
def words : List (String × Value) := [
  ("null", .null), ("true", .bool true), ("false", .bool false),
  ("NaN", .float (0.0 / 0.0)), ("Infinity", .float (1.0 / 0.0)),
  ("-Infinity", .float (-1.0 / 0.0))]

/-- The word at the front that stands for a value. -/
def word? (chars : List Char) : Option (Value × List Char) :=
  words.findSome? fun (word, value) =>
    if chars.take word.length == word.toList then some (value, chars.drop word.length) else none

mutual

/-- The value at the front, in at most the given number of steps. -/
def value : Nat → List Char → Except Fault (Value × List Char)
  | 0, _ => unreadable
  | steps + 1, chars =>
    match chars with
    | '"' :: rest => do
      let (content, after) ← stringChars (rest.length + 1) rest
      pure (.text (String.ofList content), after)
    | '[' :: rest =>
      match skipSpaces rest with
      | ']' :: after => .ok (.list [], after)
      | rest => do
        let (items, after) ← items steps rest
        pure (.list items, after)
    | '\x7b' :: rest =>
      match skipSpaces rest with
      | '\x7d' :: after => .ok (.mapping [], after)
      | rest => do
        let (members, after) ← members steps rest
        pure (.ofEntries members, after)
    | chars =>
      match word? chars with
      | some found => .ok found
      | none => number chars

/-- The items of an array up to its closing bracket, and what follows it. -/
def items : Nat → List Char → Except Fault (List Value × List Char)
  | 0, _ => unreadable
  | steps + 1, chars => do
    let (item, rest) ← value steps chars
    match skipSpaces rest with
    | ']' :: after => pure ([item], after)
    | ',' :: rest => do
      let (others, after) ← items steps (skipSpaces rest)
      pure (item :: others, after)
    | _ => unreadable

/-- The members of an object up to its closing brace, and what follows it. -/
def members : Nat → List Char → Except Fault (List (Value × Value) × List Char)
  | 0, _ => unreadable
  | steps + 1, chars => do
    match chars with
    | '"' :: rest =>
      let (name, rest) ← stringChars (rest.length + 1) rest
      match skipSpaces rest with
      | ':' :: rest =>
        let (member, rest) ← value steps (skipSpaces rest)
        match skipSpaces rest with
        | '\x7d' :: after => pure ([(.text (String.ofList name), member)], after)
        | ',' :: rest => do
          let (others, after) ← members steps (skipSpaces rest)
          pure ((.text (String.ofList name), member) :: others, after)
        | _ => unreadable
      | _ => unreadable
    | _ => unreadable

end

/-- The value of a document. -/
def read (document : String) : Except Fault Value := do
  let chars := document.toList
  let (found, rest) ← value (2 * chars.length + 2) (skipSpaces chars)
  if (skipSpaces rest).isEmpty then pure found else unreadable

end TemplateStream.Format.Json
