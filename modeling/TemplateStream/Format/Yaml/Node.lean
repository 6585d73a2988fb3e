import TemplateStream.Format.Yaml.Scan
import TemplateStream.Format.Yaml.Tag

/-!
# Nodes

The nodes of a document: scalars, sequences and mappings, each with a tag. An alias is replaced
by the node that its anchor names; no node may contain itself. A stream holds at most one
document.
-/

namespace TemplateStream.Format.Yaml

/-- A node of a document. -/
inductive Node where
  | scalar (tag : Tag) (content : String)
  | sequence (tag : Tag) (items : List Node)
  | mapping (tag : Tag) (entries : List (Node × Node))

instance : Inhabited Node := ⟨.scalar .null ""⟩

namespace Node

/-- The tag of a node. -/
def tag : Node → Tag
  | .scalar tag _ => tag
  | .sequence tag _ => tag
  | .mapping tag _ => tag

/-- The node of nothing. -/
def empty : Node := .scalar .null ""

/-- What is left to be read of a document. -/
structure Reading where
  tokens : List Token
  /-- What tag handles stand for. -/
  handles : List (String × String) := []
  /-- The nodes of anchors, those that are still being read without one. -/
  anchors : List (String × Option Node) := []

/-- Steps that read nodes. -/
abbrev ReadM := StateT Reading (Except Fault)

/-- Gives up. -/
def refuse {α : Type} : ReadM α := throw (.cited .yaml)

/-- The next token. -/
def next : ReadM Token := do pure ((← get).tokens.headD .streamEnd)

/-- Drops the next token. -/
def drop : ReadM Unit := modify fun reading => { reading with tokens := reading.tokens.drop 1 }

/-- Drops the next token if it is the given one. -/
def accept (token : Token) : ReadM Bool := do
  if (← next) == token then
    drop
    pure true
  else pure false

/-- The anchor and the tag of a node, in either order. -/
structure Properties where
  anchor : Option String := none
  tag : Option TagText := none

/-- The anchor at the front, if there is one. -/
def anchor? : ReadM (Option String) := do
  match ← next with
  | .anchor name => do
    drop
    pure (some name)
  | _ => pure none

/-- The tag at the front, if there is one. -/
def tag? : ReadM (Option TagText) := do
  match ← next with
  | .tag content => do
    drop
    pure (some content)
  | _ => pure none

/-- The properties at the front. -/
def properties : ReadM Properties := do
  match ← anchor? with
  | some name => pure ⟨some name, ← tag?⟩
  | none =>
    match ← tag? with
    | some content => pure ⟨← anchor?, some content⟩
    | none => pure {}

/-- The full name of a tag. -/
def tagName (content : TagText) : ReadM String := do
  match content.handle with
  | none => pure content.suffix
  | some handle =>
    match (← get).handles.lookup handle with
    | some start => pure (start ++ content.suffix)
    | none => refuse

/-- The tag of a full name, unless the name leaves it open. -/
def explicitTag? (name : Option String) : Option Tag :=
  match name with
  | none => none
  | some name => if name == "!" then none else some (Tag.ofName name)

/-- The tag of a scalar. One that is written with the mark of an open tag counts as plain. -/
def scalarTag (name : Option String) (content : String) (plain : Bool) : Tag :=
  match explicitTag? name with
  | some tag => tag
  | none => if plain || name.isSome then Tag.ofPlain content else .text

/-- Says that the node of an anchor is being read. -/
def openAnchor (anchor : Option String) : ReadM Unit := do
  match anchor with
  | none => pure ()
  | some name =>
    if ((← get).anchors.lookup name).isSome then refuse
    else modify fun reading => { reading with anchors := (name, none) :: reading.anchors }

/-- Gives an anchor its node. -/
def closeAnchor (anchor : Option String) (node : Node) : ReadM Node := do
  match anchor with
  | none => pure ()
  | some name =>
    modify fun reading => { reading with anchors := (name, some node) :: reading.anchors }
  pure node

/-- The node of an anchor. -/
def anchored (name : String) : ReadM Node := do
  match (← get).anchors.lookup name with
  | some (some node) => pure node
  | _ => refuse

/-- Whether a token ends an item that is not there. -/
def endsItem (token : Token) : Bool :=
  token == .blockEntry || token == .blockEnd

/-- Whether a token ends an item of a sequence without indentation that is not there. -/
def endsIndentlessItem (token : Token) : Bool :=
  endsItem token || token == .key || token == .value

/-- Whether a token ends a part of a block mapping that is not there. -/
def endsBlockPart (token : Token) : Bool :=
  token == .key || token == .value || token == .blockEnd

/-- Whether a token ends a part of an entry between brackets that is not there. -/
def endsFlowPart (closing token : Token) : Bool :=
  token == .value || token == .flowEntry || token == closing

mutual

/-- The node at the front, in at most the given number of steps. Outside of brackets it can be a
block collection, and below a key a sequence without indentation. -/
def node (block indentless : Bool) : Nat → ReadM Node
  | 0 => refuse
  | steps + 1 => do
    match ← next with
    | .alias name => do
      drop
      anchored name
    | _ => do
      let properties ← properties
      let name ← properties.tag.mapM tagName
      let tag := explicitTag? name
      openAnchor properties.anchor
      let token ← next
      let node ←
        if indentless && token == .blockEntry then do
          pure (.sequence (tag.getD .sequence) (← indentlessItems steps))
        else match token with
          | .scalar content plain => do
            drop
            pure (.scalar (scalarTag name content plain) content)
          | .flowSequenceStart => do
            drop
            pure (.sequence (tag.getD .sequence) (← flowItems true steps))
          | .flowMappingStart => do
            drop
            pure (.mapping (tag.getD .mapping) (← flowEntries true steps))
          | token =>
            if block && token == .blockSequenceStart then do
              drop
              pure (.sequence (tag.getD .sequence) (← blockItems steps))
            else if block && token == .blockMappingStart then do
              drop
              pure (.mapping (tag.getD .mapping) (← blockEntries steps))
            else if properties.anchor.isSome || name.isSome then
              pure (.scalar (tag.getD .null) "")
            else refuse
      closeAnchor properties.anchor node

/-- The items of a block sequence up to its end. -/
def blockItems : Nat → ReadM (List Node)
  | 0 => refuse
  | steps + 1 => do
    if ← accept .blockEntry then
      let item ← if endsItem (← next) then pure empty else node true false steps
      pure (item :: (← blockItems steps))
    else if ← accept .blockEnd then pure []
    else refuse

/-- The items of a sequence without indentation. -/
def indentlessItems : Nat → ReadM (List Node)
  | 0 => refuse
  | steps + 1 => do
    if ← accept .blockEntry then
      let item ← if endsIndentlessItem (← next) then pure empty else node true false steps
      pure (item :: (← indentlessItems steps))
    else pure []

/-- The entries of a block mapping up to its end. -/
def blockEntries : Nat → ReadM (List (Node × Node))
  | 0 => refuse
  | steps + 1 => do
    if ← accept .key then
      let key ← if endsBlockPart (← next) then pure empty else node true true steps
      let value ← blockValue steps
      pure ((key, value) :: (← blockEntries steps))
    else if ← accept .blockEnd then pure []
    else refuse

/-- The value of an entry of a block mapping. -/
def blockValue : Nat → ReadM Node
  | 0 => refuse
  | steps + 1 => do
    if ← accept .value then
      if endsBlockPart (← next) then pure empty else node true true steps
    else pure empty

/-- The items of a sequence between brackets up to its end. After the first one each follows a
comma. -/
def flowItems (first : Bool) : Nat → ReadM (List Node)
  | 0 => refuse
  | steps + 1 => do
    if ← accept .flowSequenceEnd then pure []
    else
      if !first && !(← accept .flowEntry) then refuse
      if ← accept .key then
        let entry ← flowEntry .flowSequenceEnd steps
        pure (.mapping .mapping [entry] :: (← flowItems false steps))
      else if ← accept .flowSequenceEnd then pure []
      else
        let item ← node false false steps
        pure (item :: (← flowItems false steps))

/-- The entries of a mapping between brackets up to its end. After the first one each follows a
comma. -/
def flowEntries (first : Bool) : Nat → ReadM (List (Node × Node))
  | 0 => refuse
  | steps + 1 => do
    if ← accept .flowMappingEnd then pure []
    else
      if !first && !(← accept .flowEntry) then refuse
      if ← accept .key then
        let entry ← flowEntry .flowMappingEnd steps
        pure (entry :: (← flowEntries false steps))
      else if ← accept .flowMappingEnd then pure []
      else
        let key ← node false false steps
        pure ((key, empty) :: (← flowEntries false steps))

/-- The key and the value of an entry between brackets, after the mark of its key. -/
def flowEntry (closing : Token) : Nat → ReadM (Node × Node)
  | 0 => refuse
  | steps + 1 => do
    let key ← if endsFlowPart closing (← next) then pure empty else node false false steps
    if ← accept .value then
      let token ← next
      if token == .flowEntry || token == closing then pure (key, empty)
      else pure (key, ← node false false steps)
    else pure (key, empty)

end

/-- The tag handles that need no directive. -/
def standardHandles : List (String × String) := [("!", "!"), ("!!", Tag.standardStart)]

/-- Reads the directives of a document. There is at most one for the version, of which only the
first is known, and one for each handle. -/
def directives : Nat → Bool → ReadM Unit
  | 0, _ => refuse
  | steps + 1, versioned => do
    match ← next with
    | .directive (.version major) => do
      drop
      if versioned || major != 1 then refuse
      directives steps true
    | .directive (.tag handle start) => do
      drop
      if ((← get).handles.lookup handle).isSome then refuse
      modify fun reading => { reading with handles := (handle, start) :: reading.handles }
      directives steps versioned
    | .directive .other => do
      drop
      directives steps versioned
    | _ => pure ()

/-- Drops the marks of the end of a document. -/
def dropDocumentEnds : Nat → ReadM Unit
  | 0 => pure ()
  | steps + 1 => do
    if ← accept .documentEnd then dropDocumentEnds steps

/-- Whether a token ends or begins a document. -/
def isDocumentMark : Token → Bool
  | .directive _ | .documentStart | .documentEnd | .streamEnd => true
  | _ => false

/-- The document at the front, if there is one. -/
def document? (steps : Nat) : ReadM (Option Node) := do
  match ← next with
  | .streamEnd => pure none
  | token =>
    if token == .documentStart || token matches .directive _ then
      directives steps false
      modify fun reading => { reading with
        handles := reading.handles ++ standardHandles }
      if !(← accept .documentStart) then refuse
      if isDocumentMark (← next) then pure (some empty)
      else some <$> node true false steps
    else
      modify fun reading => { reading with handles := standardHandles }
      some <$> node true false steps

/-- The document of a stream that holds at most one. -/
def single? (steps : Nat) : ReadM (Option Node) := do
  let found ← document? steps
  dropDocumentEnds steps
  if (← next) == .streamEnd then pure found else refuse

/-- The node of a stream, if it holds a document. -/
def ofTokens? (tokens : List Token) : Except Fault (Option Node) := do
  pure (← (single? (4 * tokens.length + 16)).run { tokens }).1

end Node

end TemplateStream.Format.Yaml
