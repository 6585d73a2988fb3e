import TemplateStream.Decimal.Exact
import TemplateStream.Text.Blank
import TemplateStream.Text.Digit

/-!
# Reading numerals

A numeral may be surrounded by blanks, may carry a sign, and may have single underscores between
its digits; decimal digits of any script are read. A floating-point numeral also has a fraction,
an exponent, or is the name of an infinity or of no number.
-/

namespace TemplateStream.Decimal

open TemplateStream.Text

/-- Why a text is not an integer. -/
inductive NumeralFault where
  | malformed
  /-- The numeral has more digits than are read. -/
  | tooLong (digits : Nat)

/-- The greatest number of decimal digits that an integer numeral may have. -/
def digitLimit : Nat := 4300

/-- A digit of any base up to thirty-six: a decimal digit of any script, or a letter. -/
def digitValue? (c : Char) : Option Nat :=
  match decimalDigit? c with
  | some value => some value
  | none =>
    if 'a' ≤ c && c ≤ 'z' then some (c.toNat - 'a'.toNat + 10)
    else if 'A' ≤ c && c ≤ 'Z' then some (c.toNat - 'A'.toNat + 10)
    else none

/-- The digits of a list in which each underscore stands between two digits. -/
def ungrouped (isDigit : Char → Bool) : List Char → Option (List Char)
  | [] => some []
  | c :: '_' :: next :: rest =>
    if isDigit c && isDigit next then (ungrouped isDigit (next :: rest)).map (c :: ·) else none
  | c :: rest => if isDigit c then (ungrouped isDigit rest).map (c :: ·) else none

/-- A leading sign and the characters after it. -/
def splitSign : List Char → Bool × List Char
  | '-' :: rest => (true, rest)
  | '+' :: rest => (false, rest)
  | chars => (false, chars)

/-- The letter that marks a numeral of the given base after a leading zero. -/
def baseMark (base : Nat) (c : Char) : Bool :=
  (base == 16 && (c == 'x' || c == 'X')) || (base == 8 && (c == 'o' || c == 'O')) ||
    (base == 2 && (c == 'b' || c == 'B'))

/-- The characters of a numeral after the mark of its base, which may end in an underscore. -/
def dropBaseMark (base : Nat) : List Char → List Char
  | '0' :: mark :: '_' :: rest =>
    if baseMark base mark then rest else '0' :: mark :: '_' :: rest
  | '0' :: mark :: rest => if baseMark base mark then rest else '0' :: mark :: rest
  | chars => chars

/-- The integer that a text denotes in a base. -/
def readInteger (base : Nat) (text : String) : Except NumeralFault Int :=
  let (negative, chars) := splitSign (trimChars isNumeralBlank text.toList)
  let inBase (c : Char) : Bool := (digitValue? c).any (· < base)
  match ungrouped inBase (dropBaseMark base chars) with
  | none | some [] => .error .malformed
  | some digits =>
    if digits.length > digitLimit && !(base == 2 || base == 8 || base == 16) then
      .error (.tooLong digits.length)
    else
      let magnitude : Nat := digits.foldl (fun total c => total * base + (digitValue? c).getD 0) 0
      .ok (if negative then -magnitude else magnitude)

/-- The integer that a text denotes in base ten, or nothing. -/
def integer? (text : String) : Option Int :=
  (readInteger 10 text).toOption

/-- An unsigned decimal fraction with an optional exponent. -/
def unsignedFloat? (chars : List Char) : Option Float := do
  let isDecimal (c : Char) : Bool := (decimalDigit? c).isSome
  let ofDigits (c : Char) : Bool := isDecimal c || c == '_'
  let whole ← ungrouped isDecimal (chars.takeWhile ofDigits)
  let rest := chars.dropWhile ofDigits
  let (fraction, rest) ← match rest with
    | '.' :: rest => do
      some (← ungrouped isDecimal (rest.takeWhile ofDigits), rest.dropWhile ofDigits)
    | rest => some ([], rest)
  if whole.isEmpty && fraction.isEmpty then none
  let exponent ← match rest with
    | [] => some 0
    | mark :: rest =>
      if mark == 'e' || mark == 'E' then do
        let (negative, power) := splitSign rest
        let digits ← ungrouped isDecimal power
        if digits.isEmpty then none
        let magnitude ← decimalValue? digits
        some (if negative then -(magnitude : Int) else magnitude)
      else none
  let significand ← decimalValue? (whole ++ fraction)
  some (ofScientific significand (exponent - fraction.length))

/-- The floating-point number that a text denotes, or nothing. -/
def float? (text : String) : Option Float :=
  let (negative, chars) := splitSign (trimChars isNumeralBlank text.toList)
  let magnitude : Option Float :=
    match String.ofList (chars.map Char.toLower) with
    | "inf" | "infinity" => some (1.0 / 0.0)
    | "nan" => some (0.0 / 0.0)
    | _ => unsignedFloat? chars
  magnitude.map fun value => if negative then -value else value

end TemplateStream.Decimal
