import TemplateStream.Fault
import TemplateStream.Value.Equality

/-!
# Declared parameters

A helper declares the parameters that it takes: their type, their aliases, a default, the values
to choose from and the bounds of a number.
-/

namespace TemplateStream

/-- A declared parameter of a helper. -/
structure Parameter where
  key : String
  type : ParameterType
  required : Bool := false
  default : Option Value := none
  choices : List Value := []
  minimum : Option Value := none
  maximum : Option Value := none
  aliases : List String := []
  deriving Inhabited

/-- The names under which a parameter can be given. -/
def Parameter.keys (parameter : Parameter) : List String := parameter.key :: parameter.aliases

end TemplateStream
