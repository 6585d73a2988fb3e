import TemplateStream.Value
import TemplateStream.Decimal.Shortest

/-!
# The text of values

A value has two texts. Its description tells it apart from other values and is what containers
show of their items; its plain text is what is written into a document. They differ for text,
which is quoted in a description, and for dates and times.
-/

namespace TemplateStream.Value

mutual

/-- The description of a value. -/
def describe : Value → String
  | .null => "None"
  | .bool value => if value then "True" else "False"
  | .int value => toString value
  | .float value => Decimal.text value
  | .text value => Text.quoted value
  | .markup value => Text.quoted value
  | .list items => "[" ++ ", ".intercalate (describeItems items) ++ "]"
  | .tuple items =>
    match describeItems items with
    | [item] => "(" ++ item ++ ",)"
    | texts => "(" ++ ", ".intercalate texts ++ ")"
  | .mapping entries => "\x7b" ++ ", ".intercalate (describeEntries entries) ++ "\x7d"
  | .record _ => "<object>"
  | .reference path => "Ref(path=" ++ Text.quoted path ++ ")"
  | .date value => Calendar.describeDate value
  | .moment value => Calendar.describeMoment value
  | .time value => Calendar.describeTime value
  | .bytes value => Text.quotedBytes value

/-- The descriptions of the items of a list. -/
def describeItems : List Value → List String
  | [] => []
  | item :: rest => describe item :: describeItems rest

/-- The descriptions of the entries of a mapping. -/
def describeEntries : List (Value × Value) → List String
  | [] => []
  | (key, value) :: rest => (describe key ++ ": " ++ describe value) :: describeEntries rest

end

/-- The plain text of a value. -/
def toText : Value → String
  | .text value => value
  | .markup value => value
  | .date value => Calendar.dateText value
  | .moment value => Calendar.momentText " " value
  | .time value => Calendar.timeText value
  | value => describe value

end TemplateStream.Value
