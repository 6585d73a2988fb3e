import TemplateStream.Fault
import TemplateStream.Text.Blank
import TemplateStream.Text.Casing
import TemplateStream.Text.Split

/-!
# Files of sections and options

A line with brackets opens a section, and a line with a sign of equality or a colon gives an
option of the section a value. A line that is indented more than its option continues the value,
also over empty lines; lines that begin with a mark of comment are passed over. No section but
that of the defaults may be opened twice, and no option of a section given twice. A line that is
none of these is reported only after the whole file has been read.
-/

namespace TemplateStream.Format.Ini

/-- The options of a section, each with the lines of its value. -/
abbrev Section := Table (List String)

/-- The name of the section whose options hold in all sections. -/
def defaultSection : String := "DEFAULT"

/-- What has been read of a file. -/
structure Draft where
  defaults : Section := {}
  sections : Table Section := {}
  /-- The section that is open. -/
  opened : Option String := none
  /-- The option that lines can continue. -/
  option : Option String := none
  /-- The indentation of that option. -/
  indent : Nat := 0
  /-- Whether a line was none of a comment, a section, an option and a continuation. -/
  faulty : Bool := false

namespace Draft

/-- The options of a section. -/
def options (draft : Draft) (name : String) : Section :=
  if name == defaultSection then draft.defaults else (draft.sections.get? name).getD {}

/-- Gives an option of a section its lines. -/
def set (draft : Draft) (name option : String) (lines : List String) : Draft :=
  let changed := (draft.options name).insert option lines
  if name == defaultSection then { draft with defaults := changed }
  else { draft with sections := draft.sections.insert name changed }

/-- Adds a line to the option that is continued, if there is one. -/
def continueWith (draft : Draft) (line : String) : Draft :=
  match draft.opened, draft.option with
  | some name, some option =>
    draft.set name option (((draft.options name).get? option).getD [] ++ [line])
  | _, _ => draft

/-- Opens a section. -/
def openSection (draft : Draft) (name : String) : Except Fault Draft :=
  let draft := { draft with opened := some name, option := none }
  if name == defaultSection then .ok draft
  else if draft.sections.contains name then .error (.cited .duplicateSection)
  else .ok { draft with sections := draft.sections.insert name {} }

/-- Gives an option of the open section its first line. A nameless option is faulty and cannot be
continued. -/
def addOption (draft : Draft) (opened name first : String) : Except Fault Draft :=
  if (draft.options opened).contains name then .error (.cited .duplicateOption)
  else
    let draft := draft.set opened name [first]
    if name.isEmpty then .ok { draft with option := none, faulty := true }
    else .ok { draft with option := some name }

end Draft

/-- The name between the first character, an opening bracket, and the last closing bracket. -/
def sectionName? (line : String) : Option String :=
  match line.toList with
  | '[' :: rest =>
    match (rest.reverse.dropWhile (· != ']')).drop 1 with
    | [] => none
    | name => some (String.ofList name.reverse)
  | _ => none

/-- Whether a character stands between an option and its value. -/
def isDelimiter (c : Char) : Bool := c == '=' || c == ':'

/-- The option and the value of a line with a delimiter. -/
def optionLine? (line : String) : Option (String × String) :=
  match line.toList.dropWhile fun c => !isDelimiter c with
  | [] => none
  | _ :: value =>
    let option := line.toList.takeWhile fun c => !isDelimiter c
    some (Text.lower (Text.strip (String.ofList option)), Text.strip (String.ofList value))

/-- Whether a line is a comment. -/
def isComment (stripped : String) : Bool :=
  match stripped.toList with
  | c :: _ => c == '#' || c == ';'
  | [] => false

/-- Reads one line. -/
def Draft.read (draft : Draft) (line : String) : Except Fault Draft :=
  let stripped := Text.strip line
  let indent := (line.toList.takeWhile Text.isBlank).length
  if stripped.isEmpty then .ok (draft.continueWith "")
  else if isComment stripped then .ok draft
  else if draft.opened.isSome && draft.option.isSome && draft.indent < indent then
    .ok (draft.continueWith stripped)
  else
    let draft := { draft with indent }
    match sectionName? stripped, draft.opened, optionLine? stripped with
    | some name, _, _ => draft.openSection name
    | none, none, _ => .error (.cited .sectionHeader)
    | none, some opened, some (name, value) => draft.addOption opened name value
    | none, some _, none => .ok { draft with faulty := true }

/-- A text less the blanks at its end. -/
def stripEnd (text : String) : String :=
  String.ofList (text.toList.reverse.dropWhile Text.isBlank).reverse

/-- The values of the options of a section. -/
def values (options : Section) : Table Value :=
  options.map fun lines => .text (stripEnd ("\n".intercalate lines))

/-- The mapping of a file: the defaults, and each section with the defaults in it. -/
def Draft.value (draft : Draft) : Value :=
  let defaults := values draft.defaults
  .ofTable (draft.sections.entries.foldl (fun (loaded : Table Value) (name, options) =>
    loaded.insert name (.ofTable (defaults.merge (values options)))) defaults)

/-- The value of a document. -/
def read (document : String) : Except Fault Value := do
  let draft ← (Text.split '\n' document).foldlM Draft.read {}
  if draft.faulty then throw (.cited .sectionSyntax)
  pure draft.value

end TemplateStream.Format.Ini
