import TemplateStream.Format.Toml.Draft

/-!
# Configuration documents of nested tables

Reads a document of key and value lines, table headers and headers of arrays of tables.
-/

namespace TemplateStream.Format.Toml

/-- Whether a character may stand in a key without quotes. -/
def isBareKey (c : Char) : Bool :=
  isDigit c || ('a' ≤ c && c ≤ 'z') || ('A' ≤ c && c ≤ 'Z') || c == '-' || c == '_'

/-- One part of a key. -/
def keyPart (chars : List Char) : Except Fault (String × List Char) :=
  match chars with
  | '"' :: rest => basicString rest
  | '\'' :: rest => literalString rest
  | chars =>
    match chars.takeWhile isBareKey with
    | [] => unreadable
    | part => .ok (String.ofList part, chars.dropWhile isBareKey)

/-- The key at the front, in at most the given number of parts, and what follows it and the
spaces behind it. -/
def keyTo : Nat → List Char → Except Fault (Key × List Char)
  | 0, _ => unreadable
  | parts + 1, chars => do
    let (part, rest) ← keyPart chars
    match rest.dropWhile isSpace with
    | '.' :: rest => do
      let (others, after) ← keyTo parts (rest.dropWhile isSpace)
      pure (part :: others, after)
    | rest => pure ([part], rest)

/-- The key at the front. -/
def key (chars : List Char) : Except Fault (Key × List Char) := keyTo (chars.length + 1) chars

/-- What follows the comment at the front, if there is one. -/
def skipComment (chars : List Char) : Except Fault (List Char) :=
  match chars with
  | '#' :: rest =>
    if (rest.takeWhile (· != '\n')).any isControl then unreadable
    else .ok (rest.dropWhile (· != '\n'))
  | chars => .ok chars

/-- What follows the spaces, line breaks and comments at the front, of which there are at most
the given number. -/
def skipBetween : Nat → List Char → Except Fault (List Char)
  | 0, chars => .ok chars
  | steps + 1, chars => do
    match chars.dropWhile isSpaceOrBreak with
    | '#' :: rest => skipBetween steps (← skipComment ('#' :: rest))
    | rest => pure rest

/-- What follows the spaces, line breaks and comments at the front. -/
def skip (chars : List Char) : Except Fault (List Char) := skipBetween (chars.length + 1) chars

/-- A step that is refused makes the document unreadable. -/
def orUnreadable {α : Type} : Option α → Except Fault α
  | some value => .ok value
  | none => unreadable

mutual

/-- The value at the front, in at most the given number of steps. -/
def value : Nat → List Char → Except Fault (Value × List Char)
  | 0, _ => unreadable
  | steps + 1, chars =>
    match string? chars with
    | some found => found.map fun (content, rest) => (.text content, rest)
    | none =>
      match chars with
      | '[' :: rest => do
        let (items, after) ← items steps (← skip rest)
        pure (.list items, after)
      | '\x7b' :: rest =>
        match rest.dropWhile isSpace with
        | '\x7d' :: after => .ok (.mapping [], after)
        | rest => do
          let (entries, after) ← members steps {} rest
          pure (.mapping entries, after)
      | chars => scalar chars

/-- The items of an array up to its closing bracket, which may follow a comma. -/
def items : Nat → List Char → Except Fault (List Value × List Char)
  | 0, _ => unreadable
  | _, ']' :: after => .ok ([], after)
  | steps + 1, chars => do
    let (item, rest) ← value steps chars
    match ← skip rest with
    | ']' :: after => pure ([item], after)
    | ',' :: rest => do
      let (others, after) ← items steps (← skip rest)
      pure (item :: others, after)
    | _ => unreadable

/-- The entries of a table that is written out up to its closing brace. -/
def members : Nat → InlineDraft → List Char → Except Fault (Entries × List Char)
  | 0, _, _ => unreadable
  | steps + 1, draft, chars => do
    let (key, content, rest) ← assignment steps chars
    let draft ← orUnreadable (draft.assign key content)
    match rest.dropWhile isSpace with
    | '\x7d' :: after => pure (draft.entries, after)
    | ',' :: rest => members steps draft (rest.dropWhile isSpace)
    | _ => unreadable

/-- A key, a sign of equality and a value. -/
def assignment : Nat → List Char → Except Fault (Key × Value × List Char)
  | 0, _ => unreadable
  | steps + 1, chars => do
    let (key, rest) ← key chars
    match rest with
    | '=' :: rest => do
      let (content, rest) ← value steps (rest.dropWhile isSpace)
      pure (key, content, rest)
    | _ => unreadable

end

/-- Reads one statement from the front of a line, in at most the given number of steps. -/
def statement (steps : Nat) (draft : Draft) (chars : List Char) :
    Except Fault (Draft × List Char) :=
  match chars with
  | '[' :: '[' :: rest => do
    let (key, rest) ← key (rest.dropWhile isSpace)
    let draft ← orUnreadable (draft.openItem key)
    match rest with
    | ']' :: ']' :: after => pure (draft, after)
    | _ => unreadable
  | '[' :: rest => do
    let (key, rest) ← key (rest.dropWhile isSpace)
    let draft ← orUnreadable (draft.openTable key)
    match rest with
    | ']' :: after => pure (draft, after)
    | _ => unreadable
  | '#' :: rest => .ok (draft, '#' :: rest)
  | chars => do
    let (key, content, rest) ← assignment steps chars
    pure (← orUnreadable (draft.assign key content), rest)

/-- Reads statements line by line, in at most the given number of steps each. -/
def statements (steps : Nat) : Nat → Draft → List Char → Except Fault Draft
  | 0, draft, _ => .ok draft
  | lines + 1, draft, chars => do
    match chars.dropWhile isSpace with
    | [] => pure draft
    | '\n' :: rest => statements steps lines draft rest
    | rest =>
      let (draft, rest) ← statement steps draft rest
      match ← skipComment (rest.dropWhile isSpace) with
      | [] => pure draft
      | '\n' :: rest => statements steps lines draft rest
      | _ => unreadable

/-- The value of a document. -/
def read (document : String) : Except Fault Value := do
  let chars := document.toList
  let draft ← statements (2 * chars.length + 4) (chars.length + 1) {} chars
  pure (.mapping draft.entries)

end TemplateStream.Format.Toml
