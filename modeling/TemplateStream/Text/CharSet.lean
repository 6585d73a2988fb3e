/-!
# Sets of characters

A set of characters is kept as runs of consecutive code points, so that a property of a
character standard is one table and membership is one search.
-/

namespace TemplateStream.Text

/-- A set of characters, given by the first and last code point of each of its runs. -/
structure CharSet where
  runs : List (Nat × Nat)

/-- A character is in the set when its code point lies in one of the runs. -/
def CharSet.contains (set : CharSet) (c : Char) : Bool :=
  set.runs.any fun (first, last) => first ≤ c.toNat && c.toNat ≤ last

end TemplateStream.Text
