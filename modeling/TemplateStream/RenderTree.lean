import TemplateStream.Fault

/-!
# Render trees

A render tree holds the records of a render pass, linked in document order. Writing appends to a
record, forking puts a branch and a continuation behind it, and completing it lets the longest
complete front of the document flow out: a cursor stands at the first record that is not out
yet, and everything before it has been handed to the sink in document order. When the sink refuses
a fragment its record stays at the cursor, with all that it holds, for the next flush.
-/

namespace TemplateStream

/-- Text that is written together, and the record that follows in document order. -/
structure Record where
  fragments : List String := []
  next : Option Nat := none
  complete : Bool := false
  flushed : Bool := false
  deriving DecidableEq, Inhabited

/-- A receiver of fragments. Given what it has received so far it may refuse the next one. -/
abbrev Sink := List String → String → Option Fault

/-- A sink that refuses nothing. -/
def Sink.accepting : Sink := fun _ _ => none

/-- The records of a render pass and what has flowed out of them. -/
structure RenderTree where
  records : Array Record
  /-- The first record in document order. -/
  head : Nat
  /-- The first record that has not flowed out, if any. -/
  cursor : Option Nat
  /-- The fragments that have flowed out, oldest first. -/
  output : List String
  /-- The fragments that the sink was given, oldest first. -/
  delivered : List String
  sink : Sink

instance : Inhabited RenderTree := ⟨⟨#[], 0, none, [], [], .accepting⟩⟩

/-- Steps on a render tree, which keep their effects when they fail. -/
abbrev TreeM := ExceptT Fault (StateM RenderTree)

namespace RenderTree

/-- A tree with one open record. -/
def new (sink : Sink) : RenderTree where
  records := #[{}]
  head := 0
  cursor := some 0
  output := []
  delivered := []
  sink := sink

/-- The record of an index. -/
def record (index : Nat) : TreeM Record := do
  match (← get).records[index]? with
  | some record => pure record
  | none => throw (.chunk .noRecord)

/-- Changes a record. -/
def update (index : Nat) (change : Record → Record) : TreeM Unit :=
  modify fun tree => { tree with records := tree.records.modify index change }

/-- Puts a new record behind another and gives its index. -/
def spliceAfter (index : Nat) : TreeM Nat := do
  let anchor ← record index
  let added := (← get).records.size
  modify fun tree => { tree with records := tree.records.push { next := anchor.next } }
  update index ({ · with next := some added })
  pure added

/-- Hands a fragment that is not empty to the sink. -/
def emit (fragment : String) : TreeM Unit := do
  unless fragment.isEmpty do
    let tree ← get
    set { tree with
      output := tree.output ++ [fragment]
      delivered := tree.delivered ++ [fragment] }
    match tree.sink tree.delivered fragment with
    | some fault => throw fault
    | none => pure ()

/-- Lets complete records flow out from the cursor on, at most the given number of them. -/
def flushUpTo : Nat → TreeM Unit
  | 0 => pure ()
  | count + 1 => do
    match (← get).cursor with
    | none => pure ()
    | some index =>
      let current ← record index
      if current.complete then
        current.fragments.forM emit
        update index ({ · with flushed := true, fragments := [] })
        modify ({ · with cursor := current.next })
        flushUpTo count

/-- Lets the longest complete front of the document flow out. -/
def flush : TreeM Unit := do
  flushUpTo (← get).records.size

/-- Appends text to an open record. -/
def append (index : Nat) (text : String) : TreeM Unit := do
  if (← record index).complete then
    throw (.chunk (.closedRecord index))
  update index fun record => { record with fragments := record.fragments ++ [text] }

/-- Completes an open record. -/
def complete (index : Nat) : TreeM Unit := do
  if (← record index).complete then
    throw (.chunk (.closedRecord index))
  update index ({ · with complete := true })
  flush

/-- Puts a branch and a continuation behind an open record and completes it. -/
def fork (index : Nat) : TreeM (Nat × Nat) := do
  if (← record index).complete then
    throw (.chunk (.forkOfClosedRecord index))
  let continuation ← spliceAfter index
  let branch ← spliceAfter index
  complete index
  pure (branch, continuation)

/-- Whether everything has flowed out. -/
def finished (tree : RenderTree) : Bool := tree.cursor.isNone

/-- The text that has flowed out. -/
def text (tree : RenderTree) : String := String.join tree.output

/-- Whether the record of an index is complete. -/
def isComplete (tree : RenderTree) (index : Nat) : Bool :=
  tree.records[index]?.any Record.complete

/-- The records from an index on in document order, at most the given number of them. -/
def orderFrom (tree : RenderTree) : Nat → Option Nat → List Nat
  | 0, _ => []
  | _, none => []
  | count + 1, some index =>
    index :: orderFrom tree count (tree.records[index]?.bind Record.next)

/-- The records in document order. -/
def documentOrder (tree : RenderTree) : List Nat :=
  tree.orderFrom tree.records.size (some tree.head)

/-- The number of records of the document that are not complete. -/
def incompleteCount (tree : RenderTree) : Nat :=
  tree.documentOrder.countP fun index => !tree.isComplete index

end RenderTree

end TemplateStream
