import TemplateStream.Format.Yaml.Node
import TemplateStream.Format.Yaml.Scalar
import TemplateStream.Value.Equality

/-!
# Documents of nested collections

Reads a document in a notation of indentation and brackets. The collections of a document are
filled level by level, so of two faults that of the outer collection is reported. A mapping takes
in the entries of those that it merges, its own entries winning.
-/

namespace TemplateStream.Format.Yaml

namespace Node

mutual

/-- The number of nodes in a node. -/
def size : Node → Nat
  | .scalar _ _ => 1
  | .sequence _ items => sizes items + 1
  | .mapping _ entries => entrySizes entries + 1

/-- The number of nodes in a list of nodes. -/
def sizes : List Node → Nat
  | [] => 0
  | item :: rest => size item + sizes rest

/-- The number of nodes in a list of entries. -/
def entrySizes : List (Node × Node) → Nat
  | [] => 0
  | (key, value) :: rest => size key + size value + entrySizes rest

end

/-- The content of a node where a scalar is needed: its own, or that of its value. -/
def scalarContent : Nat → Node → Except Fault String
  | 0, _ => unreadable
  | _, .scalar _ content => .ok content
  | steps + 1, .mapping _ entries =>
    match entries.find? fun entry => entry.1.tag == .value with
    | some (_, value) => scalarContent steps value
    | none => unreadable
  | _, .sequence _ _ => unreadable

/-- A key, where the mark of a value is plain text. -/
def plainKey : Node → Node
  | .scalar .value content => .scalar .text content
  | key => key

/-- The entries of a mapping with those of the mappings that it merges in front, in at most the
given number of steps. Of several merged mappings the first wins, and so comes last. -/
def merged : Nat → List (Node × Node) → Except Fault (List (Node × Node))
  | 0, _ => unreadable
  | steps + 1, entries => do
    let taken ← entries.flatMapM fun (key, value) => do
      if key.tag != .merge then pure []
      else match value with
        | .mapping _ inner => merged steps inner
        | .sequence _ items =>
          let parts ← items.mapM fun
            | .mapping _ inner => merged steps inner
            | _ => unreadable
          pure parts.reverse.flatten
        | .scalar _ _ => unreadable
    let own := (entries.filter fun entry => entry.1.tag != .merge).map fun (key, value) =>
      (plainKey key, value)
    pure (taken ++ own)

/-- A part of a collection. A key must not be a collection itself. -/
structure Part where
  node : Node
  isKey : Bool := false

/-- The parts of entries: keys and values in turn. -/
def partsOfEntries (keyed : Bool) (entries : List (Node × Node)) : List Part :=
  entries.flatMap fun (key, value) => [⟨key, keyed⟩, ⟨value, false⟩]

/-- The one entry of a mapping. -/
def onlyEntry : Node → Except Fault (Node × Node)
  | .mapping _ [entry] => .ok entry
  | _ => unreadable

/-- The parts of a node whose tag asks for a collection. -/
def parts (steps : Nat) (node : Node) : Except Fault (List Part) :=
  match node.tag, node with
  | .sequence, .sequence _ items => .ok (items.map fun item => ⟨item, false⟩)
  | .mapping, .mapping _ entries | .set, .mapping _ entries => do
    pure (partsOfEntries true (← merged steps entries))
  | .orderedMapping, .sequence _ items | .pairs, .sequence _ items => do
    pure (partsOfEntries false (← items.mapM onlyEntry))
  | _, _ => unreadable

/-- Whether a tag asks for a collection. -/
def isCollection : Tag → Bool
  | .sequence | .mapping | .orderedMapping | .pairs | .set => true
  | _ => false

/-- The value of a node whose tag asks for a scalar. -/
def scalarOf (steps : Nat) (node : Node) : Except Fault Value := do
  match node.tag with
  | .merge | .value | .unknown => unreadable
  | tag => scalarValue tag (← scalarContent steps node)

/-- Checks a part, but not what is in it. -/
def checkPart (steps : Nat) (part : Part) : Except Fault Unit :=
  if isCollection part.node.tag then
    if part.isKey then unreadable else .ok ()
  else discard (scalarOf steps part.node)

/-- Checks the parts of collections, and then those of the collections in them, for at most the
given number of levels. -/
def checkLevels (steps : Nat) : Nat → List Node → Except Fault Unit
  | 0, _ => .ok ()
  | _, [] => .ok ()
  | levels + 1, collections => do
    let inner ← collections.flatMapM fun node => do
      let found ← parts steps node
      found.forM (checkPart steps)
      pure ((found.map Part.node).filter fun node => isCollection node.tag)
    checkLevels steps levels inner

/-- Values taken in pairs. -/
def inPairs : List Value → List (Value × Value)
  | first :: second :: rest => (first, second) :: inPairs rest
  | _ => []

/-- The value of a node that was checked, of at most the given depth. A set is the mapping of its
members to null. -/
def build (steps : Nat) : Nat → Node → Except Fault Value
  | 0, _ => unreadable
  | depth + 1, node =>
    if isCollection node.tag then do
      let values ← (← parts steps node).mapM fun part => build steps depth part.node
      pure <| match node.tag with
        | .sequence => .list values
        | .mapping => .ofEntries (inPairs values)
        | .set => .ofEntries ((inPairs values).map fun (key, _) => (key, .null))
        | _ => .list ((inPairs values).map fun (key, value) => .tuple [key, value])
    else scalarOf steps node

/-- The value of a node. -/
def toValue (node : Node) : Except Fault Value := do
  let steps := node.size + 1
  checkPart steps ⟨node, false⟩
  checkLevels steps steps ([node].filter fun node => isCollection node.tag)
  build steps steps node

end Node

/-- The value of a stream, null when it holds no document. -/
def read (stream : String) : Except Fault Value := do
  match ← Node.ofTokens? (← Token.ofText stream) with
  | some node => node.toValue
  | none => pure .null

end TemplateStream.Format.Yaml
