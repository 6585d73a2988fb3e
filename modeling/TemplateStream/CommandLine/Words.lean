import TemplateStream.Fault
import TemplateStream.Text.Digit
import TemplateStream.Text.Split

/-!
# Words of a command line

The arguments of a command are words. A word that begins with a dash is a switch, written in full
or as far as it is told apart from the others; its value may follow an equals sign. Words without
a dash in front are operands, and so is everything behind a double dash.
-/

namespace TemplateStream.CommandLine

/-- The lists that switches add their values to. -/
inductive ListSwitch where
  | data
  | helpers
  | assignments
  | settings
  | plugins
  deriving DecidableEq

/-- What switches do. -/
inductive Switch where
  | help
  | verbose
  /-- Adds its value to a list. -/
  | list (which : ListSwitch)
  deriving DecidableEq

/-- The spellings of the switches that are understood. -/
abbrev Grammar := List (String × Switch)

/-- Why the arguments are not carried out. -/
inductive Refusal where
  /-- They are not well-formed. -/
  | usage
  /-- They ask how the command is used. -/
  | help
  deriving DecidableEq

/-- What is attached to a switch in its word. -/
inductive Attachment where
  | nothing
  /-- A value behind an equals sign. -/
  | value (text : String)
  /-- Further letters, which may be short switches. -/
  | letters (text : List Char)
  deriving DecidableEq

/-- One word. -/
inductive Word where
  | operand (text : String)
  /-- The double dash behind which all words are operands. -/
  | separator
  | switch (switch : Switch) (attachment : Attachment)
  | unknown
  deriving DecidableEq

/-- A word split at its first equals sign. -/
def splitValue (word : String) : String × Attachment :=
  match Text.cut? '=' word with
  | some (spelling, value) => (spelling, .value value)
  | none => (word, .nothing)

/-- The switches that a word with a single dash can stand for: a short one with the rest of the
word attached to it, or one that the whole word begins the spelling of. -/
def shortCandidates (grammar : Grammar) (word : String) : List Word :=
  let short := String.ofList (word.toList.take 2)
  grammar.filterMap fun (spelling, switch) =>
    if spelling == short then some (.switch switch (.letters (word.toList.drop 2)))
    else if word.isPrefixOf spelling then some (.switch switch .nothing)
    else none

/-- The switches that a word with two dashes can stand for: those that it begins the spelling
of. -/
def longCandidates (grammar : Grammar) (word : String) : List Word :=
  let (start, attachment) := splitValue word
  grammar.filterMap fun (spelling, switch) =>
    if start.isPrefixOf spelling then some (.switch switch attachment) else none

/-- The switches that a word can stand for. -/
def candidates (grammar : Grammar) (word : String) : List Word :=
  if word.startsWith "--" then longCandidates grammar word else shortCandidates grammar word

/-- Whether a character is a decimal digit. -/
def isDecimal (c : Char) : Bool := (Text.decimalDigit? c).isSome

/-- Whether a text is a negative number: digits behind a dash, with a point at most. -/
def isNegativeNumber (word : String) : Bool :=
  match word.toList with
  | '-' :: digits =>
    let whole := digits.takeWhile isDecimal
    match digits.dropWhile isDecimal with
    | [] => !whole.isEmpty
    | '.' :: places => !places.isEmpty && places.all isDecimal
    | _ => false
  | _ => false

/-- The word that a text without exact spelling is. -/
def looseWord (grammar : Grammar) (text : String) : Except Refusal Word :=
  match candidates grammar text with
  | [word] => .ok word
  | _ :: _ :: _ => .error .usage
  | [] =>
    if isNegativeNumber text || text.contains ' ' then .ok (.operand text) else .ok .unknown

/-- The switch that a text spells exactly, if there is one. -/
def exactWord? (grammar : Grammar) (text : String) : Option Word :=
  match grammar.lookup text with
  | some switch => some (.switch switch .nothing)
  | none =>
    let (spelling, attachment) := splitValue text
    (grammar.lookup spelling).map fun switch => .switch switch attachment

/-- The word that a text is. -/
def wordOf (grammar : Grammar) (text : String) : Except Refusal Word :=
  if !text.startsWith "-" || text == "-" then .ok (.operand text)
  else match exactWord? grammar text with
    | some word => .ok word
    | none => looseWord grammar text

/-- The words of a command line. -/
def wordsOf (grammar : Grammar) : List String → Except Refusal (List Word)
  | [] => .ok []
  | text :: rest =>
    if text == "--" then .ok (.separator :: rest.map .operand)
    else do
      let word ← wordOf grammar text
      pure (word :: (← wordsOf grammar rest))

/-- The short switches that letters stand for, up to the first letter that stands for none, and
whether there is one. A dash among them or an equals sign behind one is malformed. -/
def cluster (grammar : Grammar) : List Char → Except Refusal (List Switch × Bool)
  | [] => .ok ([], false)
  | '-' :: _ => .error .usage
  | letter :: rest =>
    match grammar.lookup (String.ofList ['-', letter]), rest with
    | none, _ => .ok ([], true)
    | some _, '=' :: _ => .error .usage
    | some switch, rest => do
      let (further, surplus) ← cluster grammar rest
      pure (switch :: further, surplus)

/-- The switches of a word that begins with one that takes no value, and whether the word has
letters that nothing takes. -/
def flags (grammar : Grammar) (switch : Switch) :
    Attachment → Except Refusal (List Switch × Bool)
  | .nothing => .ok ([switch], false)
  | .value _ => .error .usage
  | .letters letters => do
    let (further, surplus) ← cluster grammar letters
    pure (switch :: further, surplus)

/-- Carries out a switch that takes no value, with what is attached to it, and tells whether the
word has letters that nothing takes. -/
def flagged (grammar : Grammar) (switch : Switch) (attachment : Attachment) :
    Except Refusal Bool := do
  let (switches, surplus) ← flags grammar switch attachment
  if switches.contains .help then throw .help
  pure surplus

end TemplateStream.CommandLine
