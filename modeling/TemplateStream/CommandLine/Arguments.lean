import TemplateStream.CommandLine.Words

/-!
# Arguments of the command

The first operand names what is to be done. The words behind it are read by a grammar of their
own; those in front of it are switches of the command as a whole. Words that nothing takes make
the arguments malformed.
-/

namespace TemplateStream.CommandLine

/-- What can be done. -/
inductive Action where
  /-- Render a template. -/
  | render
  /-- List the attached plugins. -/
  | plugins
  /-- List the extensions that have readers. -/
  | extensions
  deriving DecidableEq

namespace Action

/-- The word for an action. -/
def word : Action → String
  | .render => "render"
  | .plugins => "plugins"
  | .extensions => "extensions"

/-- Every action. -/
def all : List Action := [.render, .plugins, .extensions]

/-- The action that a word names. -/
def ofWord? (word : String) : Option Action := all.find? fun action => action.word == word

/-- The spellings of the switches of an action. -/
def grammar : Action → Grammar
  | .render => [("-h", .help), ("--help", .help), ("--data", .list .data),
      ("--helpers", .list .helpers), ("--set", .list .assignments),
      ("--option", .list .settings), ("--plugin", .list .plugins)]
  | .plugins | .extensions =>
    [("-h", .help), ("--help", .help), ("--plugin", .list .plugins)]

/-- Whether an action takes an operand. -/
def takesOperand : Action → Bool
  | .render => true
  | _ => false

end Action

/-- The spellings of the switches in front of the action. -/
def commandGrammar : Grammar :=
  [("-h", .help), ("--help", .help), ("-v", .verbose), ("--verbose", .verbose)]

/-- Arguments as far as they are read. -/
structure Arguments where
  operand : Option String := none
  /-- The values of list switches, in order. -/
  values : List (ListSwitch × String) := []
  /-- Whether there was a word that nothing takes. -/
  surplus : Bool := false

namespace Arguments

/-- The values of one list switch, in order. -/
def listed (arguments : Arguments) (which : ListSwitch) : List String :=
  arguments.values.filterMap fun (switch, value) => if switch = which then some value else none

/-- Adds the value of a list switch. -/
def add (arguments : Arguments) (which : ListSwitch) (value : String) : Arguments :=
  { arguments with values := arguments.values ++ [(which, value)] }

/-- Notes a word that nothing takes. -/
def refuse (arguments : Arguments) : Arguments := { arguments with surplus := true }

/-- Reads words by the grammar of an action. The operand may have the double dash on either
side. -/
def read (grammar : Grammar) (wanting : Bool) :
    List Word → Arguments → Except Refusal Arguments
  | [], found => .ok found
  | .operand text :: .separator :: rest, found =>
    if wanting then read grammar false rest { found with operand := some text }
    else read grammar wanting (.separator :: rest) found.refuse
  | .separator :: .operand text :: rest, found =>
    if wanting then read grammar false rest { found with operand := some text }
    else read grammar wanting (.operand text :: rest) found.refuse
  | .operand text :: rest, found =>
    if wanting then read grammar false rest { found with operand := some text }
    else read grammar wanting rest found.refuse
  | .separator :: rest, found => read grammar wanting rest found.refuse
  | .unknown :: rest, found => read grammar wanting rest found.refuse
  | .switch (.list which) (.value value) :: rest, found =>
    read grammar wanting rest (found.add which value)
  | .switch (.list which) .nothing :: .operand value :: rest, found =>
    read grammar wanting rest (found.add which value)
  | .switch (.list _) _ :: _, _ => .error .usage
  | .switch switch attachment :: rest, found => do
    let surplus ← flagged grammar switch attachment
    read grammar wanting rest (if surplus then found.refuse else found)
  termination_by words => words.length

end Arguments

/-- What is to be done, with the arguments of it. -/
structure Invocation where
  action : Action
  arguments : Arguments

namespace Invocation

/-- Reads the arguments of an action. -/
def ofAction (action : Action) (texts : List String) : Except Refusal Invocation := do
  let words ← wordsOf action.grammar texts
  let arguments ← Arguments.read action.grammar action.takesOperand words {}
  if action.takesOperand && arguments.operand.isNone then throw .usage
  pure { action, arguments }

/-- Reads the switches in front of the action, and then the action with its arguments. -/
def ofWords (surplus : Bool) : List (Word × String) → Except Refusal Invocation
  | [] => .error .usage
  | (.operand text, _) :: rest => do
    match Action.ofWord? text with
    | none => throw .usage
    | some action =>
      let invocation ← ofAction action (rest.map Prod.snd)
      if surplus || invocation.arguments.surplus then throw .usage
      pure invocation
  | (.separator, _) :: _ => .error .usage
  | (.unknown, _) :: rest => ofWords true rest
  | (.switch switch attachment, _) :: rest => do
    let unread ← flagged commandGrammar switch attachment
    ofWords (surplus || unread) rest

/-- Reads the arguments of the command. -/
def ofTexts (texts : List String) : Except Refusal Invocation := do
  ofWords false ((← wordsOf commandGrammar texts).zip texts)

end Invocation

end TemplateStream.CommandLine
