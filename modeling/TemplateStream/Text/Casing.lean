import TemplateStream.Text.CasingTable

/-!
# Upper and lower case

Every character is replaced by its full case mapping, which may have several characters. A
capital sigma at the end of a word becomes a final sigma; it is the only character whose lower
case depends on its neighbours.
-/

namespace TemplateStream.Text

/-- The character at the common distance of the first run that holds the given one. -/
def CaseRun.image? (runs : List CaseRun) (c : Char) : Option Char :=
  (runs.find? fun run =>
    run.first ≤ c.toNat && c.toNat ≤ run.last && (c.toNat - run.first) % run.step == 0).map
      fun run => Char.ofNat (Int.toNat (c.toNat + run.distance))

/-- The image of a character: its expansion, else its single image, else the character itself. -/
def caseImage (runs : List CaseRun) (expansions : List (Nat × List Nat)) (c : Char) : List Char :=
  match expansions.lookup c.toNat with
  | some codes => codes.map Char.ofNat
  | none => [(CaseRun.image? runs c).getD c]

/-- The upper case of a text. -/
def upper (text : String) : String :=
  String.ofList (text.toList.flatMap (caseImage upperRuns upperExpansions))

/-- Whether the nearest character that the search does not pass over is cased. -/
def meetsCased (neighbours : List Char) : Bool :=
  match neighbours.dropWhile caseIgnorable.contains with
  | [] => false
  | c :: _ => cased.contains c

/-- The lower case of the rest of a text, given the characters before it, nearest first. -/
def lowerAfter (before : List Char) : List Char → List Char
  | [] => []
  | c :: rest =>
    (if c == 'Σ' then
      if meetsCased before && !meetsCased rest then ['ς'] else ['σ']
    else caseImage lowerRuns lowerExpansions c) ++ lowerAfter (c :: before) rest

/-- The lower case of a text. -/
def lower (text : String) : String :=
  String.ofList (lowerAfter [] text.toList)

end TemplateStream.Text
