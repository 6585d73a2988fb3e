import TemplateStream.Body
import TemplateStream.Description.Values

/-!
# Descriptions of bodies, scripts and helpers

A body is described by an object that names its kind, a statement by a list that begins with its
name, and a helper by an object with its declaration and its script.
-/

namespace TemplateStream.Description

/-- The transform of a description, or nothing for what is none. -/
def transform (document : Value) : Option Transform :=
  match document with
  | .text "upper" => some .upper
  | .text "lower" => some .lower
  | .text "reverse" => some .reversing
  | .text "double" => some .doubling
  | .text "drop" => some .dropping
  | .text "strip" => some .stripping
  | .text "count" => some .counting
  | .list [.text "suffix", .text back] => some (.following back)
  | .list [.text "prefix", .text front] => some (.preceding front)
  | .list [.text "replace", .text pattern, .text replacement] =>
    some (.replacing pattern replacement)
  | .list [.text "fail", .text reason] => some (.refusing reason)
  | _ => none

/-- The fault of a label and an argument. A fault of readers and of the file system is cited. -/
def fault (label argument : String) : Fault :=
  match Kind.ofLabel label with
  | .unsupportedExtension => .data (.unsupported argument none)
  | .duplicatePlugin => .plugin (.duplicate argument)
  | kind => .raised kind (if kind.isSilent then kind.citation else argument)

/-- The fault of a list of a label and an argument. -/
def faultOf (document : Value) : Fault :=
  match items document with
  | label :: argument :: _ => fault (text label) argument.toText
  | [label] => fault (text label) ""
  | [] => fault "" ""

/-- The asynchronous style of a description. -/
def style (document : Value) : AsyncStyle :=
  match document with
  | .text "object" => .object
  | .text "flag" => .flag
  | _ => .function

/-- The asynchronous style of a description, if it has one. -/
def style? (document : Value) : Option AsyncStyle :=
  match document with
  | .null => none
  | .bool false => none
  | document => some (style document)

/-- What a script answers with. -/
def answer (document : Value) : Answer :=
  match document with
  | .text "awaitable" => .awaitable
  | .text _ => .chunk
  | document =>
    match members document with
    | [("value", content)] => .value (value content)
    | [("param", key)] => .parameter (text key)
    | [("get", name)] => .context (text name)
    | [("saved", name)] => .saved (text name)
    | _ => .value .null

mutual

/-- The body of a description that is nested to less than the given depth. -/
def bodyTo : Nat → Value → Body
  | 0, _ => .absent
  | _, .null => .absent
  | depth + 1, .mapping fields =>
    let document := Value.mapping fields
    let script : Script := ((member document "do").items?.getD []).map (statementTo depth)
    let name : String := ((member document "name").text?).getD "fn"
    match text (member document "t") with
    | "text" => .text (member document "text").toText
    | "ref" =>
      .reference (text (member document "path"))
        (match member document "escape" with
          | .bool escape => some escape
          | _ => none)
    | "seq" => .sequence ((items (member document "bodies")).map (bodyTo depth))
    | "section" =>
      .each (text (member document "path")) (bodyTo depth (member document "block"))
        (bodyTo depth (member document "else"))
    | "partial" =>
      .embed (text (member document "name"))
        ((members (member document "params")).map fun (key, content) => (key, value content))
    | "helper" =>
      .call (text (member document "name"))
        ((members (member document "bodies")).map fun (key, body) => (key, bodyTo depth body))
        ((members (member document "params")).map fun (key, content) => (key, value content))
    | "call" => .callback script
    | "fn" => .function name script
    | "async" => .deferred (style (member document "style")) name script
    | _ => .inert (value document)
  | _, document => .inert (value document)

/-- The statement of a description that is nested to less than the given depth. -/
def statementTo : Nat → Value → Statement
  | 0, _ => .log .null
  | depth + 1, document =>
    let script (inner : Value) : Script := (items inner).map (statementTo depth)
    match items document with
    | [] => .log .null
    | name :: arguments =>
      match text name, arguments with
      | "write", [content] => .write (value content)
      | "get", [path] => .get (text path) .null
      | "get", [path, default] => .get (text path) (value default)
      | "param", [key] => .parameter (text key)
      | "params", _ => .logParameters
      | "tap", [change] => .tap (transform change)
      | "untap", _ => .untap
      | "end", [] => .finish .null
      | "end", content :: _ => .finish (value content)
      | "render", [body] => .render (bodyTo depth body) none
      | "render", [body, content] => .render (bodyTo depth body) (some (value content))
      | "body", [name] => .body (text name) none
      | "body", [name, content] => .body (text name) (some (value content))
      | "map", [inner] => .map (script inner)
      | "amap", [inner] => .spawn (script inner)
      | "save", [name] => .save (text name)
      | "on", [name, inner] => .on (text name) (script inner)
      | "with", [content, inner] => .within (value content) (script inner)
      | "iter", [index, length, inner] =>
        .iterate (integer? index) (integer? length) (script inner)
      | "info", _ => .info
      | "open", [name] => .openGate (text name)
      | "log", [entry] => .log (value entry)
      | "raise", arguments => .raise (faultOf (.list arguments))
      | "sleep", [milliseconds] => .sleep (natural milliseconds)
      | "gate", [name] => .gate (text name)
      | "return", [result] => .answer (answer result)
      | _, _ => .log .null

end

/-- The body of a description. -/
def body (document : Value) : Body := bodyTo (depth document) document

/-- The statement of a description. -/
def statement (document : Value) : Statement := statementTo (depth document) document

/-- The script of a description. -/
def script (document : Value) : Script := (items document).map statement

/-- The bodies of a description by their names. -/
def bodies (document : Value) : List (String × Body) :=
  (members document).map fun (name, content) => (name, body content)

/-- The parameter type of a name. -/
def parameterType (document : Value) : ParameterType :=
  match text document with
  | "bool" => .bool
  | "int" => .int
  | "float" => .float
  | "list" => .list
  | "dict" => .mapping
  | _ => .text

/-- The declared parameter of a description. -/
def parameter (document : Value) : Parameter where
  key := text (member document "key")
  type := parameterType (member document "type")
  required := flag (member document "required")
  default := (document.field? "default").map value
  choices := (items (member document "choices")).map value
  minimum := bound (member document "min")
  maximum := bound (member document "max")
  aliases := texts (member document "aliases")
where
  /-- A bound, unless it is null. -/
  bound (limit : Value) : Option Value :=
    match limit with
    | .null => none
    | limit => some (value limit)

/-- The helper function of a description. -/
def helperFunction (document : Value) : HelperFunction :=
  .scripted (style? (member document "async")) (script (member document "do"))

/-- The helper of a description. -/
def helper (document : Value) : Helper where
  id := text (member document "id")
  description := text (member document "description")
  function := helperFunction document
  parameters := (items (member document "params")).map parameter
  aliases := texts (member document "aliases")
  strict := flag (member document "strict")

end TemplateStream.Description
