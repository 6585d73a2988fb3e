import TemplateStream.CommandLine
import TemplateStream.Description.Bodies

/-!
# Descriptions of template files

A template file is described by an object with its body, its further templates and the text in
front of it.
-/

namespace TemplateStream.Description

/-- What the template file of a description defines. -/
def templateFile (document : Value) : TemplateFile where
  body := (document.field? "TEMPLATE").map body
  fragments := bodies (member document "PARTIALS")
  frontMatter := (member document "FRONT_MATTER").text?
  failure := (document.field? "raises").map faultOf

end TemplateStream.Description
