import TemplateStream.Format.Yaml.Tag
import TemplateStream.Text.Casing
import TemplateStream.Text.Split

/-!
# Values of scalars

The value that a scalar has under its tag. A scalar that is tagged but has not the form that its
tag asks for is refused, each in the words of what could not be read.
-/

namespace TemplateStream.Format.Yaml

/-- The parts of a numeral: whether it is negative, and what follows its sign. Underscores mean
nothing. A numeral has at least one character. -/
def unsigned (content : String) : Except Fault (Bool × List Char) :=
  match content.toList.filter (· != '_') with
  | [] => .error .textIndex
  | '-' :: rest => .ok (true, rest)
  | '+' :: rest => .ok (false, rest)
  | chars => .ok (false, chars)

/-- The integer that characters denote in a base. -/
def integerOf (base : Nat) (digits : List Char) : Except Fault Int :=
  let text := String.ofList digits
  match Decimal.readInteger base text with
  | .ok value => .ok value
  | .error cause => .error (.number (.integer base (.text text) cause))

/-- The number that characters denote. -/
def floatOf (digits : List Char) : Except Fault Float :=
  let text := String.ofList digits
  match Decimal.float? text with
  | some value => .ok value
  | none => .error (.number (.float (.text text)))

/-- The integer of parts in base sixty, the last of them first. -/
def sixties : List Int → Int
  | [] => 0
  | part :: rest => part + 60 * sixties rest

/-- The floating-point number of an integer, infinite when it is too large. -/
def floatOfNat (value : Nat) : Float := (Decimal.ofInt? value).getD (1.0 / 0.0)

/-- The number of parts in base sixty, the last of them first, each counting so many times. -/
def sixtiesFrom (total : Float) (weight : Nat) : List Float → Float
  | [] => total
  | part :: rest => sixtiesFrom (total + part * floatOfNat weight) (weight * 60) rest

/-- The integer of a scalar. -/
def integerScalar (content : String) : Except Fault Value := do
  let (negative, chars) ← unsigned content
  let magnitude : Int ← match chars with
    | [] => throw .textIndex
    | ['0'] => pure 0
    | '0' :: 'b' :: digits => integerOf 2 digits
    | '0' :: 'x' :: digits => integerOf 16 digits
    | '0' :: _ => integerOf 8 chars
    | chars =>
      if chars.contains ':' then do
        let parts ← (Text.splitChars ':' chars).mapM (integerOf 10)
        pure (sixties parts.reverse)
      else integerOf 10 chars
  pure (.int (if negative then -magnitude else magnitude))

/-- The number of a scalar. -/
def floatScalar (content : String) : Except Fault Value := do
  let (negative, chars) ← unsigned (Text.lower content)
  let magnitude : Float ← match String.ofList chars with
    | ".inf" => pure (1.0 / 0.0)
    | ".nan" => pure (0.0 / 0.0)
    | _ =>
      if chars.contains ':' then do
        let parts ← (Text.splitChars ':' chars).mapM floatOf
        pure (sixtiesFrom 0.0 1 parts.reverse)
      else floatOf chars
  pure (.float (if negative then -magnitude else magnitude))

/-- The truth value of a scalar. -/
def truthScalar (content : String) : Except Fault Value :=
  let word := Text.lower content
  match Tag.truths.lookup word with
  | some truth => .ok (.bool truth)
  | none => .error (.missingKey (.text word))

/-- The number of a digit in base sixty-four. -/
def sextet? (c : Char) : Option Nat :=
  if 'A' ≤ c && c ≤ 'Z' then some (c.toNat - 'A'.toNat)
  else if 'a' ≤ c && c ≤ 'z' then some (c.toNat - 'a'.toNat + 26)
  else if '0' ≤ c && c ≤ '9' then some (c.toNat - '0'.toNat + 52)
  else if c == '+' then some 62
  else if c == '/' then some 63
  else none

/-- The octets that digits in base sixty-four denote, after so many digits of the current group of
four with the given value of their unused bits, and after so many signs of padding. Characters
that are neither digits nor padding are passed over. -/
def octetsOf : Nat → Nat → Nat → List Char → Except Fault (List UInt8)
  | 0, _, _, [] => .ok []
  | _, _, _, [] => .error (.cited .yaml)
  | count, bits, padding, c :: rest =>
    if c == '=' then
      if count ≥ 2 && count + padding + 1 ≥ 4 then .ok []
      else octetsOf count bits (if count ≥ 2 then padding + 1 else padding) rest
    else match sextet? c with
      | none => octetsOf count bits padding rest
      | some digit =>
        let emit (octet : Nat) (rest : Except Fault (List UInt8)) : Except Fault (List UInt8) :=
          rest.map (UInt8.ofNat octet :: ·)
        match count with
        | 0 => octetsOf 1 digit 0 rest
        | 1 => emit (bits * 4 + digit / 16) (octetsOf 2 (digit % 16) 0 rest)
        | 2 => emit (bits * 16 + digit / 4) (octetsOf 3 (digit % 4) 0 rest)
        | _ => emit (bits * 64 + digit) (octetsOf 0 0 0 rest)

/-- The octets of a scalar. -/
def binaryScalar (content : String) : Except Fault Value :=
  if content.toList.all fun c => c.toNat < 0x80 then
    (octetsOf 0 0 0 content.toList).map .bytes
  else .error (.cited .yaml)

/-- A calendar fault as a fault. -/
def calendar {α : Type} : Except Calendar.Fault α → Except Fault α
  | .ok value => .ok value
  | .error cause => .error (.number (.calendar cause))

/-- The number of digits. -/
def natOf (digits : List Char) : Nat :=
  digits.foldl (fun total c => total * 10 + (c.toNat - '0'.toNat)) 0

/-- The numbers at the front, each up to the next character that is no digit, and what follows
the last of them. -/
def numbersAt : Nat → List Char → List Nat × List Char
  | 0, chars => ([], chars)
  | count + 1, chars =>
    let digits := chars.takeWhile isDigit
    let rest := chars.dropWhile isDigit
    if count == 0 then ([natOf digits], rest)
    else
      let (others, after) := numbersAt count (rest.dropWhile fun c => !isDigit c)
      (natOf digits :: others, after)

/-- The microseconds of a fraction, of which six digits count, and what follows it. -/
def microsecondsAt (chars : List Char) : Nat × List Char :=
  match chars with
  | '.' :: rest =>
    (natOf ((rest.takeWhile isDigit ++ List.replicate 6 '0').take 6), rest.dropWhile isDigit)
  | chars => (0, chars)

/-- The distance from universal time that stands at the end of a date with a time. -/
def zoneAt (chars : List Char) : Except Fault (Option Int) :=
  match chars.dropWhile isSpace with
  | [] => .ok none
  | ['Z'] => .ok (some 0)
  | sign :: rest =>
    let (hours, after) := (natOf (rest.takeWhile isDigit), rest.dropWhile isDigit)
    let seconds : Int := (hours * 60 + natOf (after.drop 1)) * 60
    (calendar (Calendar.offset (if sign == '-' then -seconds else seconds))).map some

/-- Whether a text has the form of a date, or of a date with a time, in which months and days may
have one digit. -/
def isMomentText (content : String) : Bool :=
  Tag.isTimestamp content ||
    (do
      let rest ← Tag.afterCount? [1, 2] (← Tag.after? '-' (← Tag.afterCount? [4] content.toList))
      let rest ← Tag.afterCount? [1, 2] (← Tag.after? '-' rest)
      if rest.isEmpty then some () else none : Option Unit).isSome

/-- The date of a scalar, or the moment. -/
def timestampScalar (content : String) : Except Fault Value := do
  if !isMomentText content then throw (.noAttribute Value.null.typeName "groupdict")
  match numbersAt 3 content.toList with
  | ([year, month, day], []) => pure (.date (← calendar (Calendar.date year month day)))
  | ([year, month, day], rest) =>
    match numbersAt 3 (rest.dropWhile fun c => !isDigit c) with
    | ([hour, minute, second], rest) =>
      let (microsecond, rest) := microsecondsAt rest
      let offset ← zoneAt rest
      let date ← calendar (Calendar.date year month day)
      let time ← calendar (Calendar.time hour minute second microsecond)
      pure (.moment ⟨date, time, offset⟩)
    | _ => throw (.cited .yaml)
  | _ => throw (.cited .yaml)

/-- The value of a scalar under its tag. -/
def scalarValue (tag : Tag) (content : String) : Except Fault Value :=
  match tag with
  | .null => .ok .null
  | .bool => truthScalar content
  | .int => integerScalar content
  | .float => floatScalar content
  | .text => .ok (.text content)
  | .binary => binaryScalar content
  | .timestamp => timestampScalar content
  | _ => .error (.cited .yaml)

end TemplateStream.Format.Yaml
