import TemplateStream.Format.Yaml.Token

/-!
# From characters to tokens

The tokens of a document are found from left to right. Indentation becomes tokens that open and
close collections. Only at the colon after it is it known that a scalar or collection on one line
was the key of a mapping; its place among the tokens is remembered until then, one for each level
of brackets.
-/

namespace TemplateStream.Format.Yaml

/-- A token that may turn out to be a key. -/
structure PossibleKey where
  /-- The number of tokens before it. -/
  token : Nat
  /-- Whether nothing else can stand there. -/
  required : Bool
  index : Nat
  line : Nat
  column : Nat

/-- The tokens found so far, and what is known about the place of the cursor. -/
structure Scan where
  cursor : Cursor
  tokens : Array Token := #[]
  /-- The number of brackets that are open. -/
  level : Nat := 0
  /-- The column of the innermost block collection. -/
  indent : Int := -1
  /-- The columns of the block collections around it. -/
  indents : List Int := []
  /-- Whether a key may begin at the cursor. -/
  allowsKey : Bool := true
  /-- The token that may turn out to be a key, for each level of brackets. -/
  keys : List (Nat × PossibleKey) := []

namespace Scan

/-- Adds a token. -/
def push (scan : Scan) (token : Token) : Scan := { scan with tokens := scan.tokens.push token }

/-- Whether the cursor is between brackets. -/
def between (scan : Scan) : Bool := scan.level != 0

/-- The column of the cursor. -/
def column (scan : Scan) : Int := scan.cursor.column

/-- The possible keys less those that are on an earlier line or too far back. -/
def expireKeys (scan : Scan) : Except Fault Scan :=
  let isStale (key : PossibleKey) : Bool :=
    key.line != scan.cursor.line || scan.cursor.index - key.index > 1024
  if scan.keys.any fun entry => isStale entry.2 && entry.2.required then unreadable
  else .ok { scan with keys := scan.keys.filter fun entry => !isStale entry.2 }

/-- Forgets the possible key of this level, which must not be required. -/
def forgetKey (scan : Scan) : Except Fault Scan :=
  if (scan.keys.lookup scan.level).any PossibleKey.required then unreadable
  else .ok { scan with keys := scan.keys.filter fun entry => entry.1 != scan.level }

/-- Remembers that the next token may turn out to be a key, if a key is allowed here. -/
def rememberKey (scan : Scan) : Except Fault Scan :=
  if scan.allowsKey then do
    let scan ← scan.forgetKey
    let key : PossibleKey := {
      token := scan.tokens.size
      required := !scan.between && scan.indent == scan.column
      index := scan.cursor.index
      line := scan.cursor.line
      column := scan.cursor.column }
    pure { scan with keys := (scan.level, key) :: scan.keys }
  else .ok scan

/-- Closes the block collections that lie to the right of a column. -/
def unwindTo (column : Int) : List Int → Scan → Scan
  | [], scan => scan
  | outer :: rest, scan =>
    if scan.indent > column then
      unwindTo column rest { scan.push .blockEnd with indent := outer, indents := rest }
    else scan

/-- Closes the block collections that lie to the right of a column, outside of brackets. -/
def unwind (scan : Scan) (column : Int) : Scan :=
  if scan.between then scan else unwindTo column scan.indents scan

/-- Opens a block collection in a column, unless one is open there. -/
def openAt (scan : Scan) (column : Int) (token : Token) : Scan :=
  if scan.indent < column then
    { scan.push token with indent := column, indents := scan.indent :: scan.indents }
  else scan

/-- Skips spaces, comments and line breaks. A key may begin on a new line. -/
def skipSpace : Nat → Scan → Scan
  | 0, scan => scan
  | steps + 1, scan =>
    let cursor := scan.cursor.skipSpaces.skipComment
    match cursor.lineBreak? with
    | some (_, next) =>
      skipSpace steps { scan with cursor := next, allowsKey := scan.allowsKey || !scan.between }
    | none => { scan with cursor }

/-- Takes the given number of characters as a token. -/
def take (scan : Scan) (count : Nat) (token : Token) : Scan :=
  { scan.push token with cursor := scan.cursor.forward count }

/-- The end of the document. -/
def finish (scan : Scan) : Except Fault Scan := do
  pure ((← (scan.unwind (-1)).forgetKey).push .streamEnd)

/-- A directive. -/
def takeDirective (scan : Scan) : Except Fault Scan := do
  let scan ← (scan.unwind (-1)).forgetKey
  let (content, cursor) ← directive scan.cursor
  pure { scan.push (.directive content) with cursor, allowsKey := false }

/-- A mark that separates documents. -/
def takeSeparator (scan : Scan) (token : Token) : Except Fault Scan := do
  let scan ← (scan.unwind (-1)).forgetKey
  pure { scan.take 3 token with allowsKey := false }

/-- An opening bracket. -/
def takeOpening (scan : Scan) (token : Token) : Except Fault Scan := do
  let scan ← scan.rememberKey
  pure { scan.take 1 token with level := scan.level + 1, allowsKey := true }

/-- A closing bracket. -/
def takeClosing (scan : Scan) (token : Token) : Except Fault Scan := do
  let scan ← scan.forgetKey
  pure { scan.take 1 token with level := scan.level - 1, allowsKey := false }

/-- A comma between brackets. -/
def takeFlowEntry (scan : Scan) : Except Fault Scan := do
  let scan ← { scan with allowsKey := true }.forgetKey
  pure (scan.take 1 .flowEntry)

/-- The dash of an item. -/
def takeBlockEntry (scan : Scan) : Except Fault Scan := do
  if !scan.between && !scan.allowsKey then unreadable
  else
    let scan := if scan.between then scan else scan.openAt scan.column .blockSequenceStart
    let scan ← { scan with allowsKey := true }.forgetKey
    pure (scan.take 1 .blockEntry)

/-- The question mark of a key. -/
def takeKey (scan : Scan) : Except Fault Scan := do
  if !scan.between && !scan.allowsKey then unreadable
  else
    let scan := if scan.between then scan else scan.openAt scan.column .blockMappingStart
    let scan ← { scan with allowsKey := !scan.between }.forgetKey
    pure (scan.take 1 .key)

/-- The tokens with another one at a place. -/
def insertToken (scan : Scan) (place : Nat) (token : Token) : Scan :=
  { scan with tokens := scan.tokens.insertIdxIfInBounds place token }

/-- The colon of a value. If a possible key is known, it was one. -/
def takeValue (scan : Scan) : Except Fault Scan := do
  match scan.keys.lookup scan.level with
  | some key =>
    let scan := { scan with keys := scan.keys.filter fun entry => entry.1 != scan.level }
    let scan := scan.insertToken key.token .key
    let scan :=
      if !scan.between && scan.indent < (key.column : Int) then
        { scan.insertToken key.token .blockMappingStart with
          indent := key.column, indents := scan.indent :: scan.indents }
      else scan
    pure ({ scan with allowsKey := false }.take 1 .value)
  | none =>
    if !scan.between && !scan.allowsKey then unreadable
    else
      let scan := if scan.between then scan else scan.openAt scan.column .blockMappingStart
      let scan ← { scan with allowsKey := !scan.between }.forgetKey
      pure (scan.take 1 .value)

/-- A token that may turn out to be the key of a mapping, or the beginning of one. -/
def takeNodePart (scan : Scan) (read : Cursor → Except Fault (Token × Cursor)) :
    Except Fault Scan := do
  let scan ← scan.rememberKey
  let (token, cursor) ← read scan.cursor
  pure { scan.push token with cursor, allowsKey := false }

/-- A block scalar. -/
def takeBlockScalar (scan : Scan) : Except Fault Scan := do
  let scan ← { scan with allowsKey := true }.forgetKey
  let (content, cursor) ← blockScalar scan.indent scan.cursor
  pure { scan.push (.scalar content false) with cursor }

/-- A plain scalar, after which a key may begin if it ends at the beginning of a line. -/
def takePlain (scan : Scan) : Except Fault Scan := do
  let scan ← scan.rememberKey
  let (content, ended, cursor) := plain scan.between scan.indent scan.cursor
  pure { scan.push (.scalar content true) with cursor, allowsKey := ended }

/-- Whether the character at the cursor stands alone. Between brackets it always does. -/
def standsAlone (scan : Scan) : Bool := scan.between || endsWord (scan.cursor.ahead 1)

/-- Finds the next token, before the end of the document. -/
def fetch (scan : Scan) : Except Fault Scan :=
  let cursor := scan.cursor
  let c := cursor.peek
  if c == '%' && cursor.column == 0 then scan.takeDirective
  else if cursor.column == 0 && cursor.atMark '-' then scan.takeSeparator .documentStart
  else if cursor.column == 0 && cursor.atMark '.' then scan.takeSeparator .documentEnd
  else if c == '[' then scan.takeOpening .flowSequenceStart
  else if c == '\x7b' then scan.takeOpening .flowMappingStart
  else if c == ']' then scan.takeClosing .flowSequenceEnd
  else if c == '\x7d' then scan.takeClosing .flowMappingEnd
  else if c == ',' then scan.takeFlowEntry
  else if c == '-' && endsWord (cursor.ahead 1) then scan.takeBlockEntry
  else if c == '?' && scan.standsAlone then scan.takeKey
  else if c == ':' && scan.standsAlone then scan.takeValue
  else if c == '*' then scan.takeNodePart fun cursor => do
    let (name, after) ← anchorName cursor
    pure (.alias name, after)
  else if c == '&' then scan.takeNodePart fun cursor => do
    let (name, after) ← anchorName cursor
    pure (.anchor name, after)
  else if c == '!' then scan.takeNodePart fun cursor => do
    let (content, after) ← tagText cursor
    pure (.tag content, after)
  else if (c == '|' || c == '>') && !scan.between then scan.takeBlockScalar
  else if c == '\'' || c == '"' then scan.takeNodePart fun cursor => do
    let (content, after) ← quotation cursor
    pure (.scalar content false, after)
  else if startsPlain scan.between cursor then scan.takePlain
  else unreadable

/-- Finds tokens up to the end of the document, at most the given number of times. -/
def run : Nat → Scan → Except Fault (List Token)
  | 0, _ => unreadable
  | steps + 1, scan => do
    let scan := skipSpace (scan.cursor.rest.length + 1) scan
    let scan ← scan.expireKeys
    let scan := scan.unwind scan.column
    if scan.cursor.peek == ending then pure (← scan.finish).tokens.toList
    else run steps (← scan.fetch)

end Scan

/-- The tokens of a document, before which a byte order mark may stand. -/
def Token.ofText (document : String) : Except Fault (List Token) :=
  let chars := document.toList
  if chars.all isAdmissible then
    let cursor : Cursor := { rest := chars }
    let cursor := if cursor.peek == '\ufeff' then cursor.step else cursor
    Scan.run (chars.length + 1) { cursor }
  else unreadable

end TemplateStream.Format.Yaml
