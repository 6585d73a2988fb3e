import TemplateStream.Text.Printable

/-!
# Quoted text

A quoted text stands between single quotes, or between double quotes when it holds a single
quote and no double one. Printable characters stand for themselves; all others are written as
escapes, with the shortest hexadecimal form that has room for the code point.
-/

namespace TemplateStream.Text

/-- A number in lower-case hexadecimal, padded with zeros to the given width. -/
def hexadecimal (width : Nat) (value : Nat) : String :=
  let digits := Nat.toDigits 16 value
  String.ofList (List.replicate (width - digits.length) '0' ++ digits)

/-- The quote that surrounds a text with the given characters. -/
def quoteFor (chars : List Char) : Char :=
  if chars.contains '\'' && !chars.contains '"' then '"' else '\''

/-- A code point as an escape of two, four or eight hexadecimal digits. -/
def codeEscape (code : Nat) : String :=
  if code ≤ 0xff then "\\x" ++ hexadecimal 2 code
  else if code ≤ 0xffff then "\\u" ++ hexadecimal 4 code
  else "\\U" ++ hexadecimal 8 code

/-- One character between the given quotes. -/
def quotedChar (quote c : Char) : String :=
  if c == quote || c == '\\' then String.ofList ['\\', c]
  else if c == '\t' then "\\t"
  else if c == '\n' then "\\n"
  else if c == '\r' then "\\r"
  else if printable.contains c then String.singleton c
  else codeEscape c.toNat

/-- A text in quotes. -/
def quoted (text : String) : String :=
  let quote := quoteFor text.toList
  String.singleton quote ++ String.join (text.toList.map (quotedChar quote)) ++
    String.singleton quote

/-- A text in which every character beyond the seven-bit ones is written as an escape. -/
def sevenBit (text : String) : String :=
  String.join (text.toList.map fun c =>
    if c.toNat < 0x80 then String.singleton c else codeEscape c.toNat)

/-- One octet between the given quotes. -/
def quotedByte (quote : Char) (byte : UInt8) : String :=
  let c := Char.ofNat byte.toNat
  if c == quote || c == '\\' then String.ofList ['\\', c]
  else if c == '\t' then "\\t"
  else if c == '\n' then "\\n"
  else if c == '\r' then "\\r"
  else if 0x20 ≤ byte && byte < 0x7f then String.singleton c
  else "\\x" ++ hexadecimal 2 byte.toNat

/-- Octets in quotes, marked by a letter in front. -/
def quotedBytes (bytes : List UInt8) : String :=
  let quote := quoteFor (bytes.map fun byte => Char.ofNat byte.toNat)
  "b" ++ String.singleton quote ++ String.join (bytes.map (quotedByte quote)) ++
    String.singleton quote

end TemplateStream.Text
