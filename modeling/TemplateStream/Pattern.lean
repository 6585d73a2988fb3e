import TemplateStream.Fault

/-!
# Patterns

A pattern is text with fields between braces; a brace that stands for itself is written twice. A
field names a subject, may go on to an attribute or item of it, may convert it to its
description, and may lay it out to a width. The pieces of a pattern are filled from left to
right, and the first fault ends the filling.
-/

namespace TemplateStream

/-- What a field of a pattern can name. -/
inductive Subject where
  | ofValue (value : Value)
  | ofFault (fault : Fault)

namespace Subject

/-- The text of a subject. -/
def text : Subject → String
  | .ofValue value => value.toText
  | .ofFault fault => fault.message

/-- The description of a subject. -/
def describe : Subject → String
  | .ofValue value => value.describe
  | .ofFault fault => fault.kind.label ++ "(" ++ Text.quoted fault.argument ++ ")"

/-- The name of a subject's type. -/
def typeName : Subject → String
  | .ofValue value => value.typeName
  | .ofFault fault => fault.kind.label

/-- An attribute of a subject: a fault has its arguments. -/
def attributeOf (subject : Subject) (name : String) : Except Fault Subject :=
  match subject, name with
  | .ofFault fault, "args" => .ok (.ofValue (.tuple [.text fault.argument]))
  | subject, name => .error (.pattern (.noAttribute subject.typeName name))

/-- An item of a subject, by its number if it has one. -/
def itemOf (subject : Subject) (position : Option Nat) : Except Fault Subject :=
  match subject with
  | .ofValue (.text content) =>
    match position with
    | none => .error (.pattern .textIndex)
    | some position =>
      match content.toList[position]? with
      | some c => .ok (.ofValue (.text (String.singleton c)))
      | none => .error (.pattern (.noSuchIndex "string"))
  | .ofValue (.tuple items) =>
    match position with
    | none => .error (.pattern .tupleIndex)
    | some position =>
      match items[position]? with
      | some value => .ok (.ofValue value)
      | none => .error (.pattern (.noSuchIndex "tuple"))
  | subject => .error (.pattern (.notIndexable subject.typeName))

end Subject

namespace Pattern

/-- A fault of a malformed pattern. -/
def malformed {α : Type} (reason : String) : Except Fault α :=
  .error (.pattern (.malformed reason))

/-- The greatest number that a pattern may contain. -/
def numberLimit : Nat := 9223372036854775807

/-- The number that a text of decimal digits denotes, if it is one. -/
def number? (chars : List Char) : Except Fault (Option Nat) :=
  match chars with
  | [] => .ok none
  | chars =>
    match Text.decimalValue? chars with
    | none => .ok none
    | some value =>
      if value > numberLimit then malformed "Too many decimal digits in format string"
      else .ok (some value)

/-- How a text is laid out. -/
structure Format where
  fill : Char := ' '
  alignment : Char := '<'
  width : Nat := 0
  precision : Option Nat := none

/-- Whether a character aligns. -/
def isAlignment (c : Char) : Bool := c == '<' || c == '>' || c == '=' || c == '^'

/-- Splits a flag off the front. -/
def takeFlag (flag : Char) : List Char → Bool × List Char
  | c :: rest => if c == flag then (true, rest) else (false, c :: rest)
  | [] => (false, [])

/-- Splits a decimal number off the front. -/
def takeNumber (chars : List Char) : Except Fault (Option Nat × List Char) := do
  let isDecimal (c : Char) : Bool := (Text.decimalDigit? c).isSome
  pure (← number? (chars.takeWhile isDecimal), chars.dropWhile isDecimal)

/-- A character as messages cite it: by its code when it is not a graphic one. -/
def cited (c : Char) : String :=
  if 32 < c.toNat && c.toNat < 128 then String.singleton c
  else "\\x" ++ String.ofList (Nat.toDigits 16 c.toNat)

/-- Types of numbers, whose layout may group digits. -/
def groupingTypes : List Char := ['d', 'e', 'f', 'g', 'E', 'G', '%', 'F']

/-- Reads the layout of a text. Text has no sign, no other form and no digits to group. -/
def readFormat (specification : List Char) : Except Fault Format := do
  let (fill, alignment, rest) := match specification with
    | fill :: mark :: rest =>
      if isAlignment mark then (some fill, some mark, rest)
      else if isAlignment fill then (none, some fill, mark :: rest)
      else (none, none, specification)
    | [mark] => if isAlignment mark then (none, some mark, []) else (none, none, [mark])
    | [] => (none, none, [])
  let (sign, rest) := match rest with
    | c :: after => if c == ' ' || c == '+' || c == '-' then (some c, after) else (none, rest)
    | [] => (none, [])
  let (unsignedZero, rest) := takeFlag 'z' rest
  let (alternate, rest) := takeFlag '#' rest
  let (zero, rest) := if fill.isNone then takeFlag '0' rest else (false, rest)
  let (width, rest) ← takeNumber rest
  let (comma, rest) := takeFlag ',' rest
  let (underscore, rest) := takeFlag '_' rest
  if comma && underscore || underscore && rest.head? == some ',' then
    malformed "Cannot specify both ',' and '_'."
  let (precision, rest) ← match rest with
    | '.' :: rest => do
      match ← takeNumber rest with
      | (none, _) => malformed "Format specifier missing precision"
      | (precision, rest) => pure (precision, rest)
    | rest => pure (none, rest)
  let type ← match rest with
    | [] => pure 's'
    | [type] => pure type
    | _ =>
      malformed ("Invalid format specifier '" ++ String.ofList specification ++
        "' for object of type 'str'")
  if (comma || underscore) && !groupingTypes.contains type &&
      !(underscore && ['b', 'o', 'x', 'X'].contains type) then
    malformed ("Cannot specify '" ++ (if comma then "," else "_") ++ "' with '" ++ cited type ++
      "'.")
  if type != 's' then
    malformed ("Unknown format code '" ++ cited type ++ "' for object of type 'str'")
  match sign with
  | some ' ' => malformed "Space not allowed in string format specifier"
  | some _ => malformed "Sign not allowed in string format specifier"
  | none => pure ()
  if unsignedZero then
    malformed "Negative zero coercion (z) not allowed in string format specifier"
  if alternate then malformed "Alternate form (#) not allowed in string format specifier"
  if alignment == some '=' then
    malformed "'=' alignment not allowed in string format specifier"
  pure {
    fill := fill.getD (if zero then '0' else ' ')
    alignment := alignment.getD '<'
    width := width.getD 0
    precision }

/-- Lays a text out. -/
def Format.apply (format : Format) (text : String) : String :=
  let chars := match format.precision with
    | some precision => text.toList.take precision
    | none => text.toList
  let missing := format.width - chars.length
  let left :=
    if format.alignment == '>' then missing
    else if format.alignment == '^' then missing / 2
    else 0
  String.ofList (List.replicate left format.fill ++ chars ++
    List.replicate (missing - left) format.fill)

/-- The text of a subject laid out. Only text can be. -/
def layOut (subject : Subject) (specification : List Char) : Except Fault String :=
  match specification, subject with
  | [], subject => .ok subject.text
  | specification, .ofValue (.text content) => do pure ((← readFormat specification).apply content)
  | _, subject => .error (.pattern (.noFormat subject.typeName))

/-- A subject after a conversion, which is named by a letter. -/
def convert (subject : Subject) (conversion : Option Char) : Except Fault Subject :=
  match conversion with
  | none => .ok subject
  | some 's' => .ok (.ofValue (.text subject.text))
  | some 'r' => .ok (.ofValue (.text subject.describe))
  | some 'a' => .ok (.ofValue (.text (Text.sevenBit subject.describe)))
  | some c => malformed ("Unknown conversion specifier " ++ cited c)

/-- A subject after the attributes and items that the rest of a field names, in at most the
given number of steps. -/
def follow : Nat → Subject → List Char → Except Fault Subject
  | 0, subject, _ => .ok subject
  | _, subject, [] => .ok subject
  | steps + 1, subject, mark :: rest => do
    if mark == '.' then
      let name := rest.takeWhile fun c => c != '.' && c != '['
      if name.isEmpty then malformed "Empty attribute in format string"
      follow steps (← subject.attributeOf (String.ofList name)) (rest.drop name.length)
    else if mark == '[' then
      let name := rest.takeWhile (· != ']')
      if name.length == rest.length then malformed "Missing ']' in format string"
      if name.isEmpty then malformed "Empty attribute in format string"
      follow steps (← subject.itemOf (← number? name)) (rest.drop (name.length + 1))
    else malformed "Only '.' or '[' may follow ']' in format field specifier"

/-- The subject that a field names. A field without a name counts as the number zero, and no
subject has a number. -/
def subject (subjects : List (String × Subject)) (field : List Char) :
    Except Fault Subject := do
  let name := field.takeWhile fun c => c != '.' && c != '['
  match ← number? name with
  | some position => .error (.pattern (.numbered position))
  | none =>
    if name.isEmpty then .error (.pattern (.numbered 0))
    else
      match subjects.lookup (String.ofList name) with
      | some found => follow field.length found (field.drop name.length)
      | none => .error (.pattern (.unknownField (String.ofList name)))

/-- A field taken apart. -/
structure Field where
  name : List Char
  conversion : Option Char := none
  specification : List Char := []

/-- The name of a field, the character that ends it, and what follows. Between brackets any
character may stand. -/
def fieldName (bracketed : Bool) : List Char → Except Fault (List Char × Char × List Char)
  | [] => malformed "expected '\x7d' before end of string"
  | c :: rest =>
    if bracketed then do
      let (name, ending, after) ← fieldName (c != ']') rest
      pure (c :: name, ending, after)
    else if c == '\x7b' then malformed "unexpected '\x7b' in field name"
    else if c == '\x7d' || c == ':' || c == '!' then .ok ([], c, rest)
    else do
      let (name, ending, after) ← fieldName (c == '[') rest
      pure (c :: name, ending, after)

/-- The specification up to the brace that closes the field, and what follows. -/
def specificationOf (depth : Nat) : List Char → Except Fault (List Char × List Char)
  | [] => malformed "unmatched '\x7b' in format spec"
  | c :: rest =>
    if c == '\x7d' && depth == 0 then .ok ([], rest)
    else do
      let depth := if c == '\x7b' then depth + 1 else if c == '\x7d' then depth - 1 else depth
      let (specification, after) ← specificationOf depth rest
      pure (c :: specification, after)

/-- The field at the front, and what follows its closing brace. -/
def field (chars : List Char) : Except Fault (Field × List Char) := do
  let (name, ending, rest) ← fieldName false chars
  if ending == '\x7d' then pure ({ name }, rest)
  else if ending == ':' then
    let (specification, rest) ← specificationOf 0 rest
    pure ({ name, specification }, rest)
  else
    match rest with
    | [] => malformed "end of string while looking for conversion specifier"
    | conversion :: rest =>
      match rest with
      | '\x7d' :: rest => pure ({ name, conversion := some conversion }, rest)
      | ':' :: rest =>
        let (specification, rest) ← specificationOf 0 rest
        pure ({ name, conversion := some conversion, specification }, rest)
      | [] => malformed "unmatched '\x7b' in format spec"
      | _ => malformed "expected ':' after conversion specifier"

/-- Fills the fields of a pattern, in at most the given number of steps. Specifications that
contain fields are filled by the function given. -/
def fillChars (subjects : List (String × Subject))
    (fillInner : List Char → Except Fault (List Char)) :
    Nat → List Char → Except Fault (List Char)
  | 0, _ => .ok []
  | steps + 1, chars => do
    let plain := chars.takeWhile fun c => c != '\x7b' && c != '\x7d'
    match chars.drop plain.length with
    | [] => pure plain
    | brace :: rest =>
      if rest.head? == some brace then
        pure (plain ++ brace :: (← fillChars subjects fillInner steps (rest.drop 1)))
      else if brace == '\x7d' then malformed "Single '\x7d' encountered in format string"
      else if rest.isEmpty then malformed "Single '\x7b' encountered in format string"
      else
        let (field, after) ← field rest
        let named ← subject subjects field.name
        let converted ← convert named field.conversion
        let specification ←
          if field.specification.contains '\x7b' then fillInner field.specification
          else pure field.specification
        let text ← layOut converted specification
        pure (plain ++ text.toList ++ (← fillChars subjects fillInner steps after))

/-- Fills a pattern whose specifications are nested to at most the given depth. -/
def fillTo (subjects : List (String × Subject)) : Nat → List Char → Except Fault (List Char)
  | 0, _ => malformed "Max string recursion exceeded"
  | depth + 1, chars => fillChars subjects (fillTo subjects depth) (chars.length + 1) chars

/-- A pattern with its fields filled. Specifications may contain fields, but those may not. -/
def fill (pattern : String) (subjects : List (String × Subject)) : Except Fault String :=
  (fillTo subjects 2 pattern.toList).map String.ofList

end Pattern

end TemplateStream
