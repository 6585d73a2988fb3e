import TemplateStream.Fault
import TemplateStream.Text.Blank
import TemplateStream.Text.Split

/-!
# Pairs of keys and values

Settings are given as texts with an equals sign between key and value. Blanks around both are
cut off, a key may not be empty, and the last value of a key wins.
-/

namespace TemplateStream.Parameter

/-- The key and value of a pair. -/
def pair (option pair : String) : Except Fault (String × String) := do
  match Text.cut? '=' pair with
  | none => throw (.parameter (.pairWithoutSign option pair))
  | some (key, value) =>
    let key := Text.strip key
    if key.isEmpty then throw (.parameter (.pairWithoutKey option pair))
    pure (key, Text.strip value)

/-- The table of a list of pairs. -/
def pairs (option : String) (given : List String) : Except Fault (Table String) :=
  given.foldlM (fun table text => do
    let (key, value) ← pair option text
    pure (table.insert key value)) {}

end TemplateStream.Parameter
