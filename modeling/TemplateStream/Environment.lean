import TemplateStream.Registry.Templates

/-!
# Render environments

What bodies consult while they render: the registries, and what to do about escaping and about
helpers that fail.
-/

namespace TemplateStream

/-- What becomes of a render when a helper without an error body fails. -/
inductive HelperPolicy where
  /-- The render fails. -/
  | abort
  /-- A placeholder is written in the place of the helper. -/
  | placeholder
  deriving DecidableEq, Inhabited

namespace HelperPolicy

/-- The word for a policy in settings. -/
def label : HelperPolicy → String
  | .abort => "abort"
  | .placeholder => "placeholder"

/-- Every policy. -/
def all : List HelperPolicy := [.abort, .placeholder]

/-- The policy that a word stands for. -/
def ofLabel? (label : String) : Option HelperPolicy :=
  all.find? fun policy => policy.label == label

end HelperPolicy

/-- The pattern of the placeholder unless another is set. -/
def defaultPlaceholder : String := "[error: \x7bhelper\x7d]"

/-- The registries and policies of a render. -/
structure Environment where
  helpers : HelperRegistry := {}
  templates : TemplateRegistry := {}
  escapes : Bool := true
  policy : HelperPolicy := .abort
  placeholder : String := defaultPlaceholder
  deriving Inhabited

end TemplateStream
