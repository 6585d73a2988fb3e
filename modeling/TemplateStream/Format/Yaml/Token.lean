import TemplateStream.Format.Yaml.Block
import TemplateStream.Format.Yaml.Plain

/-!
# Tokens

The tokens of a document, and those that are read by themselves: directives, anchors, aliases and
tags.
-/

namespace TemplateStream.Format.Yaml

/-- A tag as it is written: a handle, unless it is written out, and what follows the handle. -/
structure TagText where
  handle : Option String
  suffix : String
  deriving DecidableEq

/-- A directive, as far as it matters. -/
inductive Directive where
  | version (major : Nat)
  | tag (handle start : String)
  | other
  deriving DecidableEq

/-- The tokens of a document. -/
inductive Token where
  | streamEnd
  | directive (content : Directive)
  | documentStart
  | documentEnd
  | blockSequenceStart
  | blockMappingStart
  | blockEnd
  | flowSequenceStart
  | flowSequenceEnd
  | flowMappingStart
  | flowMappingEnd
  | flowEntry
  | blockEntry
  | key
  | value
  | alias (name : String)
  | anchor (name : String)
  | tag (content : TagText)
  | scalar (content : String) (plain : Bool)
  deriving DecidableEq

/-- A word at the cursor, which has at least one character. -/
def word (cursor : Cursor) : Except Fault (String × Cursor) :=
  match cursor.spanning isWordChar with
  | ([], _) => unreadable
  | (chars, after) => .ok (String.ofList chars, after)

/-- Whether a character may follow the name of an anchor. -/
def followsAnchor (c : Char) : Bool :=
  endsWord c || ['?', ':', ',', ']', '\x7d', '%', '@', '\x60'].contains c

/-- The name of the anchor or alias at the cursor. -/
def anchorName (cursor : Cursor) : Except Fault (String × Cursor) := do
  let (name, after) ← word cursor.step
  if followsAnchor after.peek then pure (name, after) else unreadable

/-- The octets of the percent escapes at the cursor, and the cursor behind them. -/
def escapedOctets : Nat → Cursor → Except Fault (List UInt8 × Cursor)
  | 0, cursor => .ok ([], cursor)
  | steps + 1, cursor =>
    if cursor.peek == '%' then
      let digits := cursor.step.rest.take 2
      if digits.length == 2 && digits.all isHexDigit then do
        let (octets, after) ← escapedOctets steps (cursor.forward 3)
        pure (UInt8.ofNat (hexValue digits) :: octets, after)
      else unreadable
    else .ok ([], cursor)

/-- The text that octets encode. -/
def textOfOctets (octets : List UInt8) : Except Fault String :=
  match String.fromUTF8? ⟨octets.toArray⟩ with
  | some text => .ok text
  | none => unreadable

/-- Whether a character may stand in a tag. -/
def isTagChar (c : Char) : Bool :=
  isWordChar c ||
    [';', '/', '?', ':', '@', '&', '=', '+', '$', ',', '.', '!', '~', '*', '\'', '(', ')', '[',
      ']'].contains c

/-- The parts of a tag at the cursor. -/
def tagParts : Nat → Cursor → Except Fault (List String × Cursor)
  | 0, cursor => .ok ([], cursor)
  | steps + 1, cursor => do
    if cursor.peek == '%' then
      let (octets, after) ← escapedOctets (cursor.rest.length + 1) cursor
      let (parts, last) ← tagParts steps after
      pure ((← textOfOctets octets) :: parts, last)
    else
      match cursor.spanning isTagChar with
      | ([], _) => pure ([], cursor)
      | (chars, after) =>
        let (parts, last) ← tagParts steps after
        pure (String.ofList chars :: parts, last)

/-- The text of a tag at the cursor, which has at least one part. -/
def tagUri (cursor : Cursor) : Except Fault (String × Cursor) := do
  match ← tagParts (cursor.rest.length + 1) cursor with
  | ([], _) => unreadable
  | (parts, after) => pure (String.join parts, after)

/-- The handle of a tag at the cursor: one mark, or a word between two. -/
def tagHandle (cursor : Cursor) : Except Fault (String × Cursor) :=
  if cursor.peek != '!' then unreadable
  else if cursor.ahead 1 == ' ' then .ok ("!", cursor.step)
  else
    let (name, after) := cursor.step.spanning isWordChar
    if after.peek == '!' then .ok (String.ofList ('!' :: name ++ ['!']), after.step)
    else unreadable

/-- The tag at the cursor. -/
def tagText (cursor : Cursor) : Except Fault (TagText × Cursor) := do
  let (tag, after) ←
    if cursor.ahead 1 == '<' then do
      let (suffix, after) ← tagUri (cursor.forward 2)
      if after.peek != '>' then unreadable
      else pure ((⟨none, suffix⟩ : TagText), after.step)
    else if endsWord (cursor.ahead 1) then pure ((⟨none, "!"⟩ : TagText), cursor.step)
    else do
      let (handle, start) ←
        if (cursor.step.rest.takeWhile fun c => !endsField c).contains '!' then tagHandle cursor
        else pure ("!", cursor.step)
      let (suffix, after) ← tagUri start
      pure ((⟨some handle, suffix⟩ : TagText), after)
  if endsField after.peek then pure (tag, after) else unreadable

/-- A number of digits at the cursor. -/
def versionNumber (cursor : Cursor) : Except Fault (Nat × Cursor) :=
  match cursor.spanning isDigit with
  | ([], _) => unreadable
  | (digits, after) =>
    .ok (digits.foldl (fun total c => total * 10 + (c.toNat - '0'.toNat)) 0, after)

/-- The version that a directive asks for. -/
def versionDirective (cursor : Cursor) : Except Fault (Directive × Cursor) := do
  let (major, after) ← versionNumber cursor.skipSpaces
  if after.peek != '.' then unreadable
  else
    let (_, last) ← versionNumber after.step
    if endsField last.peek then pure (.version major, last) else unreadable

/-- The handle that a directive defines. -/
def tagDirective (cursor : Cursor) : Except Fault (Directive × Cursor) := do
  let (handle, after) ← tagHandle cursor.skipSpaces
  if after.peek != ' ' then unreadable
  else
    let (start, last) ← tagUri after.skipSpaces
    if endsField last.peek then pure (.tag handle start, last) else unreadable

/-- The directive at the cursor. -/
def directive (cursor : Cursor) : Except Fault (Directive × Cursor) := do
  let (name, after) ← word cursor.step
  if !endsField after.peek then unreadable
  else
    let (content, after) ←
      match name with
      | "YAML" => versionDirective after
      | "TAG" => tagDirective after
      | _ => pure (.other, after.skipWhile fun c => !isBreak c)
    pure (content, ← after.nextLine)

end TemplateStream.Format.Yaml
