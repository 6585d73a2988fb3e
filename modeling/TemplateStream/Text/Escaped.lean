/-!
# Escaped text

Text that is to appear in a marked-up document has the five characters with a meaning there
replaced by character references, so that it can open neither a tag nor an attribute value.
-/

namespace TemplateStream.Text

/-- A character as it is written in a marked-up document. -/
def escapedChar (c : Char) : String :=
  if c == '&' then "&amp;"
  else if c == '<' then "&lt;"
  else if c == '>' then "&gt;"
  else if c == '"' then "&quot;"
  else if c == '\'' then "&#x27;"
  else String.singleton c

/-- A text as it is written in a marked-up document. -/
def escaped (text : String) : String :=
  String.join (text.toList.map escapedChar)

end TemplateStream.Text
