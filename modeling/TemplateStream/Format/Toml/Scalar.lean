import TemplateStream.Fault

/-!
# Scalars of configuration documents

Strings in one or three quotes, numbers in four bases, dates and times. Each reader takes its
scalar from the front of a list of characters and gives what follows it.
-/

namespace TemplateStream.Format.Toml

/-- The fault of a text that is no document. -/
def unreadable {α : Type} : Except Fault α := .error (.cited .toml)

/-- Whether a character may stand between the tokens of a line. -/
def isSpace (c : Char) : Bool := c == ' ' || c == '\t'

/-- Whether a character may stand between the items of an array. -/
def isSpaceOrBreak (c : Char) : Bool := isSpace c || c == '\n'

/-- Whether a character may not stand in a string or comment of one line. -/
def isControl (c : Char) : Bool := (c.toNat < 0x20 && c != '\t') || c.toNat == 0x7f

/-- Whether a character may not stand in a string of several lines. -/
def isControlOfBlock (c : Char) : Bool := isControl c && c != '\n'

/-- Whether a character is one of the ten digits. -/
def isDigit (c : Char) : Bool := '0' ≤ c && c ≤ '9'

/-- Whether a character is a hexadecimal digit. -/
def isHexDigit (c : Char) : Bool :=
  isDigit c || ('a' ≤ c && c ≤ 'f') || ('A' ≤ c && c ≤ 'F')

/-- The number of hexadecimal digits. -/
def hexValue (digits : List Char) : Nat :=
  digits.foldl (fun total c => total * 16 + (Decimal.digitValue? c).getD 0) 0

/-- The character of an escape with the given number of digits. -/
def codeEscape (width : Nat) (chars : List Char) : Except Fault (List Char × List Char) :=
  let digits := chars.take width
  let code := hexValue digits
  if digits.length == width && digits.all isHexDigit && code.isValidChar then
    .ok ([Char.ofNat code], chars.drop width)
  else unreadable

/-- What follows an escaped line break and the blanks around it. -/
def afterEscapedBreak (chars : List Char) : Except Fault (List Char) :=
  match chars.dropWhile isSpace with
  | [] => .ok []
  | '\n' :: rest => .ok (rest.dropWhile isSpaceOrBreak)
  | _ => unreadable

/-- The characters that an escape stands for, given what follows its backslash. -/
def escape (block : Bool) (chars : List Char) : Except Fault (List Char × List Char) :=
  match chars with
  | 'b' :: rest => .ok (['\x08'], rest)
  | 't' :: rest => .ok (['\t'], rest)
  | 'n' :: rest => .ok (['\n'], rest)
  | 'f' :: rest => .ok (['\x0c'], rest)
  | 'r' :: rest => .ok (['\r'], rest)
  | '"' :: rest => .ok (['"'], rest)
  | '\\' :: rest => .ok (['\\'], rest)
  | 'u' :: rest => codeEscape 4 rest
  | 'U' :: rest => codeEscape 8 rest
  | c :: _ =>
    if block && isSpaceOrBreak c then (afterEscapedBreak chars).map ([], ·) else unreadable
  | [] => unreadable

/-- The characters of a string with escapes up to its closing quotes, of which a block has three,
in at most the given number of steps. -/
def basicChars (block : Bool) : Nat → List Char → Except Fault (List Char × List Char)
  | 0, _ => unreadable
  | _, [] => unreadable
  | steps + 1, '"' :: rest =>
    if !block then .ok ([], rest)
    else match rest with
      | '"' :: '"' :: after => .ok ([], after)
      | rest => (basicChars block steps rest).map fun (chars, after) => ('"' :: chars, after)
  | steps + 1, '\\' :: rest => do
    let (escaped, rest) ← escape block rest
    let (chars, after) ← basicChars block steps rest
    pure (escaped ++ chars, after)
  | steps + 1, c :: rest =>
    if (if block then isControlOfBlock c else isControl c) then unreadable
    else (basicChars block steps rest).map fun (chars, after) => (c :: chars, after)

/-- The characters of a string without escapes up to its closing quote. -/
def literalChars : List Char → Except Fault (List Char × List Char)
  | [] => unreadable
  | '\'' :: rest => .ok ([], rest)
  | c :: rest =>
    if isControl c then unreadable
    else (literalChars rest).map fun (chars, after) => (c :: chars, after)

/-- The characters of a block without escapes up to its three closing quotes. -/
def literalBlockChars : List Char → Except Fault (List Char × List Char)
  | [] => unreadable
  | '\'' :: '\'' :: '\'' :: rest => .ok ([], rest)
  | c :: rest =>
    if isControlOfBlock c then unreadable
    else (literalBlockChars rest).map fun (chars, after) => (c :: chars, after)

/-- The content of a block with the one or two quotes that directly follow it. -/
def withTrailingQuotes (quote : Char) : List Char × List Char → List Char × List Char
  | (chars, first :: second :: rest) =>
    if first == quote && second == quote then (chars ++ [quote, quote], rest)
    else if first == quote then (chars ++ [quote], second :: rest)
    else (chars, first :: second :: rest)
  | (chars, [first]) => if first == quote then (chars ++ [quote], []) else (chars, [first])
  | (chars, []) => (chars, [])

/-- The content of a block without the line break at its front. -/
def dropBreak : List Char → List Char
  | '\n' :: rest => rest
  | rest => rest

/-- A string of one line with escapes, after its opening quote. -/
def basicString (chars : List Char) : Except Fault (String × List Char) :=
  (basicChars false (chars.length + 1) chars).map fun (content, rest) =>
    (String.ofList content, rest)

/-- A string of one line without escapes, after its opening quote. -/
def literalString (chars : List Char) : Except Fault (String × List Char) :=
  (literalChars chars).map fun (content, rest) => (String.ofList content, rest)

/-- The string at the front, if there is one. -/
def string? (chars : List Char) : Option (Except Fault (String × List Char)) :=
  match chars with
  | '"' :: '"' :: '"' :: rest =>
    let block := dropBreak rest
    some ((basicChars true (block.length + 1) block).map fun found =>
      let (content, rest) := withTrailingQuotes '"' found
      (String.ofList content, rest))
  | '"' :: rest => some (basicString rest)
  | '\'' :: '\'' :: '\'' :: rest =>
    some ((literalBlockChars (dropBreak rest)).map fun found =>
      let (content, rest) := withTrailingQuotes '\'' found
      (String.ofList content, rest))
  | '\'' :: rest => some (literalString rest)
  | _ => none

/-- Digits with single underscores between them. -/
def groupedDigits (isDigit : Char → Bool) : List Char → List Char × List Char
  | '_' :: c :: rest =>
    if isDigit c then
      let (digits, after) := groupedDigits isDigit rest
      (c :: digits, after)
    else ([], '_' :: c :: rest)
  | c :: rest =>
    if isDigit c then
      let (digits, after) := groupedDigits isDigit rest
      (c :: digits, after)
    else ([], c :: rest)
  | [] => ([], [])

/-- Digits that begin with a digit. -/
def digitsFrom (isDigit : Char → Bool) (chars : List Char) : Option (List Char × List Char) :=
  match chars with
  | c :: _ => if isDigit c then some (groupedDigits isDigit chars) else none
  | [] => none

/-- The integer of digits in a base. -/
def integerOf (base : Nat) (digits : List Char) : Except Fault Value :=
  let text := String.ofList digits
  match Decimal.readInteger base text with
  | .ok value => .ok (.int value)
  | .error cause => .error (.number (.integer base (.text text) cause))

/-- The digits of a base after the mark of that base. -/
def basedInteger? (chars : List Char) : Option (Except Fault (Value × List Char)) :=
  match chars with
  | '0' :: mark :: rest =>
    let base : Option (Nat × (Char → Bool)) := match mark with
      | 'x' => some (16, isHexDigit)
      | 'o' => some (8, fun c => '0' ≤ c && c ≤ '7')
      | 'b' => some (2, fun c => c == '0' || c == '1')
      | _ => none
    base.bind fun (base, isDigit) => (digitsFrom isDigit rest).map fun (digits, rest) =>
      (integerOf base digits).map (·, rest)
  | _ => none

/-- The digits before a fraction: a zero alone, or digits that begin with another one. -/
def wholeDigits? (chars : List Char) : Option (List Char × List Char) :=
  match chars with
  | '0' :: rest => some (['0'], rest)
  | chars => digitsFrom isDigit chars

/-- The fraction at the front, if there is one. -/
def fraction (chars : List Char) : List Char × List Char :=
  match chars with
  | '.' :: rest =>
    match digitsFrom isDigit rest with
    | some (digits, after) => ('.' :: digits, after)
    | none => ([], chars)
  | _ => ([], chars)

/-- The exponent at the front, if there is one. -/
def exponent (chars : List Char) : List Char × List Char :=
  match chars with
  | mark :: rest =>
    if mark == 'e' || mark == 'E' then
      let (sign, digits) := match rest with
        | '+' :: after => (['+'], after)
        | '-' :: after => (['-'], after)
        | after => ([], after)
      match digitsFrom isDigit digits with
      | some (digits, after) => (mark :: sign ++ digits, after)
      | none => ([], chars)
    else ([], chars)
  | [] => ([], [])

/-- The decimal number at the front, if there is one. -/
def decimal? (chars : List Char) : Option (Except Fault (Value × List Char)) :=
  let (sign, unsigned) := match chars with
    | '+' :: rest => (['+'], rest)
    | '-' :: rest => (['-'], rest)
    | rest => ([], rest)
  (wholeDigits? unsigned).map fun (whole, rest) =>
    let (fraction, rest) := fraction rest
    let (exponent, rest) := exponent rest
    if fraction.isEmpty && exponent.isEmpty then (integerOf 10 (sign ++ whole)).map (·, rest)
    else match Decimal.float? (String.ofList (sign ++ whole ++ fraction ++ exponent)) with
      | some value => .ok (.float value, rest)
      | none => unreadable

/-- The names of the infinities and of no number. -/
def namedNumbers : List (String × Float) := [
  ("inf", 1.0 / 0.0), ("nan", 0.0 / 0.0), ("+inf", 1.0 / 0.0), ("-inf", -1.0 / 0.0),
  ("+nan", 0.0 / 0.0), ("-nan", 0.0 / 0.0)]

/-- The named number at the front, if there is one. -/
def namedNumber? (chars : List Char) : Option (Value × List Char) :=
  namedNumbers.findSome? fun (name, value) =>
    if name.toList.isPrefixOf chars then some (.float value, chars.drop name.length) else none

/-- A number of exactly the given count of digits, within bounds. -/
def fixedDigits? (width low high : Nat) (chars : List Char) : Option (Nat × List Char) :=
  let digits := chars.take width
  if digits.length == width && digits.all isDigit then
    let value := digits.foldl (fun total c => total * 10 + (c.toNat - '0'.toNat)) 0
    if low ≤ value && value ≤ high then some (value, chars.drop width) else none
  else none

/-- What follows a character at the front. -/
def after? (c : Char) : List Char → Option (List Char)
  | d :: rest => if c == d then some rest else none
  | [] => none

/-- The microseconds of a fraction of a second, of which the first six digits count. -/
def microseconds (chars : List Char) : Nat × List Char :=
  match chars with
  | '.' :: rest =>
    match rest.takeWhile isDigit with
    | [] => (0, chars)
    | digits =>
      let counted := (digits ++ List.replicate 6 '0').take 6
      (counted.foldl (fun total c => total * 10 + (c.toNat - '0'.toNat)) 0,
        rest.dropWhile isDigit)
  | _ => (0, chars)

/-- The time of day at the front, if there is one. -/
def timeOfDay? (chars : List Char) : Option (TimeOfDay × List Char) := do
  let (hour, rest) ← fixedDigits? 2 0 23 chars
  let (minute, rest) ← fixedDigits? 2 0 59 (← after? ':' rest)
  let (second, rest) ← fixedDigits? 2 0 59 (← after? ':' rest)
  let (microsecond, rest) := microseconds rest
  some (⟨hour, minute, second, microsecond⟩, rest)

/-- The distance from universal time at the front, if there is one. -/
def offset (chars : List Char) : Option Int × List Char :=
  match chars with
  | c :: rest =>
    if c == 'Z' || c == 'z' then (some 0, rest)
    else if c == '+' || c == '-' then
      let distance : Option (Nat × List Char) := do
        let (hours, rest) ← fixedDigits? 2 0 23 rest
        let (minutes, rest) ← fixedDigits? 2 0 59 (← after? ':' rest)
        some ((hours * 60 + minutes) * 60, rest)
      match distance with
      | some (seconds, rest) => (some (if c == '-' then -(seconds : Int) else seconds), rest)
      | none => (none, chars)
    else (none, chars)
  | [] => (none, [])

/-- The time behind a date, after a separator. -/
def timeAfterDate? (chars : List Char) : Option (TimeOfDay × List Char) :=
  match chars with
  | c :: rest => if c == 'T' || c == 't' || c == ' ' then timeOfDay? rest else none
  | [] => none

/-- The date at the front, with the time that belongs to it, if there is one. -/
def dateOrMoment? (chars : List Char) : Option (Except Fault (Value × List Char)) := do
  let (year, rest) ← fixedDigits? 4 0 9999 chars
  let (month, rest) ← fixedDigits? 2 1 12 (← after? '-' rest)
  let (day, rest) ← fixedDigits? 2 1 31 (← after? '-' rest)
  some <| match Calendar.date year month day, timeAfterDate? rest with
    | .error _, _ => unreadable
    | .ok date, none => .ok (.date date, rest)
    | .ok date, some (time, rest) =>
      let (offset, rest) := offset rest
      .ok (.moment ⟨date, time, offset⟩, rest)

/-- The words for truth values. -/
def truth? (chars : List Char) : Option (Value × List Char) :=
  if "true".toList.isPrefixOf chars then some (.bool true, chars.drop 4)
  else if "false".toList.isPrefixOf chars then some (.bool false, chars.drop 5)
  else none

/-- The scalar at the front that is no string. -/
def scalar (chars : List Char) : Except Fault (Value × List Char) :=
  match truth? chars with
  | some found => .ok found
  | none =>
    match dateOrMoment? chars with
    | some found => found
    | none =>
      match timeOfDay? chars with
      | some (time, rest) => .ok (.time time, rest)
      | none =>
        match basedInteger? chars <|> decimal? chars with
        | some found => found
        | none =>
          match namedNumber? chars with
          | some found => .ok found
          | none => unreadable

end TemplateStream.Format.Toml
