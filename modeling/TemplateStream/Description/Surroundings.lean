import TemplateStream.Description.Files
import TemplateStream.Description.Plugins
import TemplateStream.Description.TemplateFiles

/-!
# Descriptions of surroundings

The surroundings of a renderer are described by an object with the files, the modules and the
installed plugins that it can reach; those of the command also have template files.
-/

namespace TemplateStream.Description

/-- A session in the surroundings of a description. -/
def session (document : Value) : Session where
  files := writeFiles {} (member document "files")
  library := modules (member document "modules")
  installed := installedPlugins (member document "entry_points")

/-- The template files of a description, by their places. -/
def templateFiles (document : Value) : List (List String × TemplateFile) :=
  (members (member document "templates")).map fun (path, file) => (place path, templateFile file)

/-- A terminal in the surroundings of a description. A template file is a file, whatever it
holds. -/
def terminal (document : Value) : CommandLine.Terminal :=
  let templates := templateFiles document
  let session := session document
  let files := templates.foldl (fun files (place, _) => files.insertFile place []) session.files
  { session := { session with files }, templates }

end TemplateStream.Description
