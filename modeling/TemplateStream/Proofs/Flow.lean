import Mathlib.Logic.Function.Basic
import TemplateStream.Proofs.DocumentOrder

/-!
# What has flowed out of a tree

The order of a document falls into two parts: the records that have flowed out, and those that
still hold what was written to them, the first of which the cursor stands at. A journal says what
was written to each record, also after the record was emptied. This layout of the records is the
same for every sink. With a sink that refuses nothing, a tree is settled when its cursor stands at
an open record or at the end. Every operation on an open record leaves a settled tree settled,
and each lemma here says what becomes of the order, the journal and the open records.
-/

namespace TemplateStream.RenderTree

/-- What was written to each record, oldest first. -/
abbrev Journal := Nat → List String

/-- The texts that are handed on: all but the empty ones. -/
def solid (texts : List String) : List String := texts.filter fun text => !text.isEmpty

@[simp]
theorem solid_nil : solid [] = [] := rfl

@[simp]
theorem solid_append (first second : List String) :
    solid (first ++ second) = solid first ++ solid second := List.filter_append ..

/-- Empty texts do not show in a document. -/
theorem join_solid (texts : List String) : String.join (solid texts) = String.join texts := by
  simp only [String.join]
  generalize "" = joined
  induction texts generalizing joined with
  | nil => rfl
  | cons text rest ih =>
    by_cases empty : text.isEmpty = true
    · have blank : text = "" := String.isEmpty_iff.mp empty
      simpa [solid, blank] using ih joined
    · simpa [solid, empty] using ih (joined ++ text)

/-- The records of the first part of a document have been emptied, and those of the second part
hold what was written to them. -/
structure Layout (tree : RenderTree) (written : Journal) (out rest : List Nat) : Prop where
  linked : Linked tree.records (some tree.head) (out ++ rest)
  nodup : (out ++ rest).Nodup
  cursor : tree.cursor = rest.head?
  flowed : ∀ index ∈ out, ∃ record, tree.records[index]? = some record ∧
    record.complete = true ∧ record.flushed = true
  waiting : ∀ index ∈ rest, ∃ record, tree.records[index]? = some record ∧
    record.flushed = false ∧ record.fragments = written index
  /-- Nothing was written to records that do not exist. -/
  blank : ∀ index, tree.records.size ≤ index → written index = []

/-- The first part of a document has flowed out and the second part waits. -/
structure Flow (tree : RenderTree) (written : Journal) (out rest : List Nat) : Prop
    extends Layout tree written out rest where
  output : tree.output = solid (out.flatMap written)
  delivered : tree.delivered = tree.output
  sink : tree.sink = .accepting

/-- Everything that can flow out has done so. -/
structure Settled (tree : RenderTree) (written : Journal) (out rest : List Nat) : Prop
    extends Flow tree written out rest where
  front : ∀ index ∈ rest.head?, tree.isComplete index = false

/-- Two trees have the same open records. -/
structure Alike (before after : RenderTree) : Prop where
  size : after.records.size = before.records.size
  complete : ∀ index, after.isComplete index = before.isComplete index

/-- Having the same open records is transitive. -/
theorem Alike.trans {first second third : RenderTree} (early : Alike first second)
    (late : Alike second third) : Alike first third :=
  ⟨late.size.trans early.size, fun index => (late.complete index).trans (early.complete index)⟩

/-- A record that is there says whether its index is complete. -/
theorem isComplete_of_found {tree : RenderTree} {index : Nat} {record : Record}
    (found : tree.records[index]? = some record) : tree.isComplete index = record.complete := by
  rw [isComplete, found, Option.any_some]

/-- Whether the record of an index is there and open. -/
def isOpen (tree : RenderTree) (index : Nat) : Bool :=
  tree.records[index]?.any fun record => !record.complete

/-- An open record is one that is there and is not complete. -/
theorem isOpen_iff {tree : RenderTree} {index : Nat} :
    tree.isOpen index = true ↔
      ∃ record, tree.records[index]? = some record ∧ record.complete = false := by
  cases found : tree.records[index]? <;> simp [isOpen, found]

/-- The open records are those below the size of the arena that are not complete. -/
theorem isOpen_eq (tree : RenderTree) (index : Nat) :
    tree.isOpen index = (decide (index < tree.records.size) && !tree.isComplete index) := by
  by_cases inside : index < tree.records.size
  · simp [isOpen, isComplete, inside]
  · simp [isOpen, isComplete, inside]

/-- There is no complete record outside the arena. -/
theorem isComplete_of_size_le {tree : RenderTree} {index : Nat}
    (outside : tree.records.size ≤ index) : tree.isComplete index = false := by
  rw [isComplete, Array.getElem?_eq_none outside, Option.any_none]

/-- A tree says of an open record that it is not complete. -/
theorem isComplete_of_isOpen {tree : RenderTree} {index : Nat}
    (isOpen : tree.isOpen index = true) : tree.isComplete index = false := by
  obtain ⟨record, found, incomplete⟩ := isOpen_iff.mp isOpen
  rw [isComplete_of_found found, incomplete]

/-- A new tree, whose arena may hold records that belong to no document. -/
def fresh (strangers : Array Record) : RenderTree :=
  { new .accepting with records := #[{}] ++ strangers }

/-- The one record of a new document is a new one. -/
theorem fresh_found (strangers : Array Record) :
    (fresh strangers).records[0]? = some ({} : Record) := by
  rw [fresh, Array.getElem?_append_left (Nat.zero_lt_one)]
  rfl

/-- The one record of a new document waits, and nothing was written to it. -/
theorem fresh_settled (strangers : Array Record) :
    Settled (fresh strangers) (fun _ => []) [] [0] := by
  have found := fresh_found strangers
  exact {
    linked := ⟨rfl, {}, found, rfl⟩
    nodup := by simp
    cursor := rfl
    flowed := fun index member => by cases member
    waiting := fun index member => by
      rw [List.mem_singleton.mp member]
      exact ⟨{}, found, rfl, rfl⟩
    output := rfl
    delivered := rfl
    sink := rfl
    blank := fun _ _ => rfl
    front := fun index first => by
      rw [← Option.some.inj first]
      exact isComplete_of_found found }

/-! ## Flushing -/

/-- A tree after fragments were handed to its sink. -/
def handed (tree : RenderTree) (fragments : List String) : RenderTree :=
  { tree with
    output := tree.output ++ solid fragments
    delivered := tree.delivered ++ solid fragments }

/-- A sink that refuses nothing takes each fragment that is not empty. -/
theorem emit_step {tree : RenderTree} (sink : tree.sink = .accepting) (fragment : String) :
    emit fragment tree = (.ok (), tree.handed [fragment]) := by
  by_cases empty : fragment.isEmpty = true
  · simp [emit, handed, solid, empty]
  · simp [emit, handed, solid, empty, bind_step, sink, Sink.accepting]

/-- A sink that refuses nothing takes all fragments of a record in order. -/
theorem forM_emit_step {tree : RenderTree} (sink : tree.sink = .accepting)
    (fragments : List String) :
    fragments.forM emit tree = (.ok (), tree.handed fragments) := by
  induction fragments generalizing tree with
  | nil => simp [handed]
  | cons fragment rest ih =>
    simp only [List.forM, bind_step, emit_step sink]
    rw [ih (show (tree.handed [fragment]).sink = .accepting from sink)]
    simp [handed, List.append_assoc, ← solid_append]

/-- A tree after the record that its cursor stands at has flowed out. -/
def drained (tree : RenderTree) (index : Nat) (record : Record) : RenderTree :=
  { tree.handed record.fragments with
    records := tree.records.modify index ({ · with flushed := true, fragments := [] })
    cursor := record.next }

/-- Flowing out keeps a record complete. -/
theorem drained_alike (tree : RenderTree) (index : Nat) (record : Record) :
    Alike tree (tree.drained index record) := by
  refine ⟨by simp [drained], fun other => ?_⟩
  by_cases same : index = other
  · subst same
    simp only [isComplete, drained, Array.getElem?_modify, if_true]
    cases tree.records[index]? <;> rfl
  · simp [isComplete, drained, Array.getElem?_modify, same]

/-- A complete record at the cursor flows out before the flush goes on, if the sink takes all that
the record holds. -/
theorem flushUpTo_succ {tree : RenderTree} {index : Nat} {record : Record}
    (taken : record.fragments.forM emit tree = (.ok (), tree.handed record.fragments))
    (cursor : tree.cursor = some index) (found : tree.records[index]? = some record)
    (complete : record.complete = true) (count : Nat) :
    flushUpTo (count + 1) tree = flushUpTo count (tree.drained index record) := by
  simp only [flushUpTo, bind_step, get_step, cursor, RenderTree.record, found, pure_step,
    complete, if_true, taken, update, modify_step]
  rfl

/-- An open record at the cursor ends a flush. -/
theorem flushUpTo_open {tree : RenderTree} {index : Nat} {record : Record}
    (cursor : tree.cursor = some index) (found : tree.records[index]? = some record)
    (isOpen : record.complete = false) (count : Nat) :
    flushUpTo count tree = (.ok (), tree) := by
  cases count with
  | zero => rfl
  | succ count =>
    simp [flushUpTo, bind_step, cursor, RenderTree.record, found, isOpen]

/-- The end of the document ends a flush. -/
theorem flushUpTo_end {tree : RenderTree} (cursor : tree.cursor = none) (count : Nat) :
    flushUpTo count tree = (.ok (), tree) := by
  cases count with
  | zero => rfl
  | succ count => simp [flushUpTo, bind_step, cursor]

namespace Layout

variable {tree : RenderTree} {written : Journal} {out rest : List Nat}

/-- The records that wait are those of the document that have not flowed out. -/
theorem apart (layout : Layout tree written out rest) {index : Nat} (flowed : index ∈ out)
    (waiting : index ∈ rest) : False :=
  (List.nodup_append.mp layout.nodup).2.2 index flowed index waiting rfl

/-- An open record has not flowed out. -/
theorem notMem_out (layout : Layout tree written out rest) {index : Nat}
    (isOpen : tree.isComplete index = false) : index ∉ out := by
  intro member
  obtain ⟨record, found, complete, _⟩ := layout.flowed index member
  rw [isComplete_of_found found, complete] at isOpen
  cases isOpen

/-- An open record of the document waits. -/
theorem waits_of_open (layout : Layout tree written out rest) {index : Nat}
    (visited : index ∈ out ++ rest) (isOpen : tree.isComplete index = false) : index ∈ rest :=
  (List.mem_append.mp visited).resolve_left (layout.notMem_out isOpen)

/-- A record that waits holds what was written to it. -/
theorem fragments_eq {index : Nat} {record : Record} (layout : Layout tree written out rest)
    (waits : index ∈ rest) (found : tree.records[index]? = some record) :
    record.fragments = written index := by
  obtain ⟨held, foundHeld, _, fragments⟩ := layout.waiting index waits
  obtain rfl : record = held := Option.some.inj (found.symm.trans foundHeld)
  exact fragments

/-- A flush can let all records that wait flow out. -/
theorem length_le (layout : Layout tree written out rest) : rest.length ≤ tree.records.size := by
  have short := layout.linked.length_le layout.nodup
  rw [List.length_append] at short
  omega

/-- A complete record at the cursor can flow out, which moves it to the first part. -/
theorem drain {index : Nat} {record : Record} (layout : Layout tree written out (index :: rest))
    (found : tree.records[index]? = some record) (complete : record.complete = true) :
    Layout (tree.drained index record) written (out ++ [index]) rest := by
  have regrouped : out ++ [index] ++ rest = out ++ index :: rest := by simp
  have moved {other : Nat} (apart : other ≠ index) :
      (tree.drained index record).records[other]? = tree.records[other]? := by
    simp [drained, Array.getElem?_modify, Ne.symm apart]
  have here : (tree.drained index record).records[index]? =
      some { record with flushed := true, fragments := [] } := by
    simp [drained, Array.getElem?_modify, found]
  refine {
    linked := ?linked
    nodup := ?nodup
    cursor := layout.linked.next_eq found
    flowed := ?flowed
    waiting := ?waiting
    blank := ?blank }
  case linked =>
    rw [regrouped]
    exact layout.linked.modify index ({ · with flushed := true, fragments := [] }) fun _ => rfl
  case nodup =>
    rw [regrouped]
    exact layout.nodup
  case flowed =>
    intro other member
    rcases List.mem_append.mp member with early | last
    · have different : other ≠ index := fun same =>
        layout.apart early (same ▸ List.mem_cons_self)
      rw [moved different]
      exact layout.flowed other early
    · rw [List.mem_singleton.mp last]
      exact ⟨_, here, complete, rfl⟩
  case waiting =>
    intro other member
    have different : other ≠ index := by
      rintro rfl
      have later := (List.nodup_append.mp layout.nodup).2.1
      exact (List.nodup_cons.mp later).1 member
    rw [moved different]
    exact layout.waiting other (List.mem_cons_of_mem _ member)
  case blank =>
    intro other above
    exact layout.blank other (by simpa [drained] using above)

end Layout

namespace Flow

variable {tree : RenderTree} {written : Journal} {out rest : List Nat}

/-- What a record at the cursor holds is emitted when it flows out. -/
theorem drain {index : Nat} {record : Record} (flow : Flow tree written out (index :: rest))
    (found : tree.records[index]? = some record) (complete : record.complete = true) :
    Flow (tree.drained index record) written (out ++ [index]) rest where
  toLayout := flow.toLayout.drain found complete
  output := by
    change tree.output ++ solid record.fragments = _
    rw [flow.output, flow.fragments_eq List.mem_cons_self found, ← solid_append]
    simp
  delivered := by
    change tree.delivered ++ solid record.fragments = tree.output ++ solid record.fragments
    rw [flow.delivered]
  sink := flow.sink

/-- A flush lets the complete records at the front of the second part flow out. -/
theorem flushUpTo {count : Nat} (flow : Flow tree written out rest)
    (enough : rest.length ≤ count) :
    ∃ after moved left, RenderTree.flushUpTo count tree = (.ok (), after) ∧
      rest = moved ++ left ∧ Settled after written (out ++ moved) left ∧ Alike tree after := by
  induction rest generalizing tree out count with
  | nil =>
    refine ⟨tree, [], [], flushUpTo_end flow.cursor count, rfl, ?_, rfl, fun _ => rfl⟩
    simpa using (⟨flow, by simp⟩ : Settled tree written out [])
  | cons index rest ih =>
    obtain ⟨record, found, _⟩ := flow.waiting index List.mem_cons_self
    cases complete : record.complete with
    | false =>
      refine ⟨tree, [], index :: rest, flushUpTo_open flow.cursor found complete count, rfl, ?_,
        rfl, fun _ => rfl⟩
      have front : tree.isComplete index = false := (isComplete_of_found found).trans complete
      simpa using (⟨flow, by simpa using front⟩ : Settled tree written out (index :: rest))
    | true =>
      cases count with
      | zero => simp at enough
      | succ count =>
        obtain ⟨after, moved, left, flushed, split, settled, alike⟩ :=
          ih (flow.drain found complete) (Nat.le_of_succ_le_succ enough)
        refine ⟨after, index :: moved, left, ?_, by rw [split, List.cons_append], ?_,
          (drained_alike tree index record).trans alike⟩
        · rw [flushUpTo_succ (forM_emit_step flow.sink _) flow.cursor found complete]
          exact flushed
        · simpa using settled

end Flow

/-! ## Operations on records -/

/-- A tree after a record received texts. -/
def received (tree : RenderTree) (index : Nat) (texts : List String) : RenderTree :=
  { tree with records := tree.records.modify index fun record =>
      { record with fragments := record.fragments ++ texts } }

/-- A tree after a record was marked as complete. -/
def marked (tree : RenderTree) (index : Nat) : RenderTree :=
  { tree with records := tree.records.modify index ({ · with complete := true }) }

/-- A tree after a record was put behind another. -/
def extended (tree : RenderTree) (anchor : Nat) (next : Option Nat) : RenderTree :=
  { tree with records := spliced tree.records anchor next }

/-- A tree after a continuation and then a branch were put behind a record. -/
def branched (tree : RenderTree) (index : Nat) : RenderTree :=
  (tree.extended index (tree.records[index]?.bind Record.next)).extended index
    (some tree.records.size)

section steps

variable {tree : RenderTree} {index : Nat} {record : Record}

/-- An open record receives what is appended to it. -/
theorem append_step (writable : tree.isOpen index = true) (text : String) :
    append index text tree = (.ok (), tree.received index [text]) := by
  obtain ⟨record, found, incomplete⟩ := isOpen_iff.mp writable
  simp [append, bind_step, RenderTree.record, found, incomplete, update, received]

/-- A record that is not open refuses what is appended to it. -/
theorem append_refused (closed : tree.isOpen index = false) (text : String) :
    ∃ fault, append index text tree = (.error fault, tree) := by
  cases found : tree.records[index]? with
  | none => exact ⟨.chunk .noRecord, by simp [append, bind_step, RenderTree.record, found]⟩
  | some record =>
    have complete : record.complete = true := by simpa [isOpen, found] using closed
    refine ⟨.chunk (.closedRecord index), ?_⟩
    simp [append, bind_step, RenderTree.record, found, complete]

/-- Completing an open record marks it and flushes the tree. -/
theorem complete_step (writable : tree.isOpen index = true) :
    complete index tree = flush (tree.marked index) := by
  obtain ⟨record, found, incomplete⟩ := isOpen_iff.mp writable
  simp [complete, bind_step, RenderTree.record, found, incomplete, update, marked]

/-- A record that is not open cannot be completed. -/
theorem complete_refused (closed : tree.isOpen index = false) :
    ∃ fault, complete index tree = (.error fault, tree) := by
  cases found : tree.records[index]? with
  | none => exact ⟨.chunk .noRecord, by simp [complete, bind_step, RenderTree.record, found]⟩
  | some record =>
    have complete : record.complete = true := by simpa [isOpen, found] using closed
    refine ⟨.chunk (.closedRecord index), ?_⟩
    simp [RenderTree.complete, bind_step, RenderTree.record, found, complete]

/-- Splicing puts a new record behind another. -/
theorem spliceAfter_step (found : tree.records[index]? = some record) :
    spliceAfter index tree = (.ok tree.records.size, tree.extended index record.next) := by
  simp [spliceAfter, bind_step, map_step, RenderTree.record, found, update, extended, spliced]

/-- The two records are put behind one that is there one after the other. -/
theorem branched_eq (found : tree.records[index]? = some record) :
    tree.branched index =
      (tree.extended index record.next).extended index (some tree.records.size) := by
  rw [branched, found, Option.bind_some]

/-- Forking an open record splices a continuation and then a branch behind it, and completes
it. -/
theorem fork_step (found : tree.records[index]? = some record)
    (incomplete : record.complete = false) :
    fork index tree =
      match complete index
        ((tree.extended index record.next).extended index (some tree.records.size)) with
      | (.ok _, after) => (.ok (tree.records.size + 1, tree.records.size), after)
      | (.error fault, after) => (.error fault, after) := by
  have again : (tree.extended index record.next).records[index]? =
      some { record with next := some tree.records.size } := spliced_anchor found _
  simp only [fork, bind_step, RenderTree.record, get_step, found, pure_step, incomplete,
    Bool.false_eq_true, if_false, spliceAfter_step found, spliceAfter_step again]
  simp only [extended, spliced, Array.size_modify, Array.size_push]
  split <;> simp_all

/-- A record that is not open cannot be forked. -/
theorem fork_refused (closed : tree.isOpen index = false) :
    ∃ fault, fork index tree = (.error fault, tree) := by
  cases found : tree.records[index]? with
  | none => exact ⟨.chunk .noRecord, by simp [fork, bind_step, RenderTree.record, found]⟩
  | some record =>
    have complete : record.complete = true := by simpa [isOpen, found] using closed
    refine ⟨.chunk (.forkOfClosedRecord index), ?_⟩
    simp [fork, bind_step, RenderTree.record, found, complete]

end steps

/-- What a record receives leaves it open or complete. -/
theorem received_alike (tree : RenderTree) (index : Nat) (texts : List String) :
    Alike tree (tree.received index texts) := by
  refine ⟨by simp [received], fun other => ?_⟩
  by_cases same : index = other
  · subst same
    simp only [isComplete, received, Array.getElem?_modify, if_true]
    cases tree.records[index]? <;> rfl
  · simp [isComplete, received, Array.getElem?_modify, same]

/-- Marking a record completes it and no other. -/
theorem marked_isComplete {tree : RenderTree} {index : Nat} (writable : tree.isOpen index = true)
    (other : Nat) :
    (tree.marked index).isComplete other = (tree.isComplete other || other == index) := by
  obtain ⟨record, found, _⟩ := isOpen_iff.mp writable
  by_cases same : index = other
  · subst same
    simp [isComplete, marked, Array.getElem?_modify, found]
  · simp [isComplete, marked, Array.getElem?_modify, same, Ne.symm same]

/-- A new record is open, and the others are as they were. -/
theorem extended_isComplete {tree : RenderTree} {index : Nat} {record : Record}
    (found : tree.records[index]? = some record) (next : Option Nat) (other : Nat) :
    (tree.extended index next).isComplete other = tree.isComplete other := by
  have inside : index < tree.records.size := lt_size_of_found found
  have added : (tree.extended index next).records[tree.records.size]? = some { next } :=
    spliced_fresh inside _
  by_cases new : other = tree.records.size
  · rw [new, isComplete_of_found added]
    simp [isComplete]
  · cases foundOther : tree.records[other]? with
    | some held =>
      obtain ⟨link, foundAfter⟩ := spliced_old foundOther next
      have here : (tree.extended index next).records[other]? =
        some { held with next := link } := foundAfter
      rw [isComplete_of_found here, isComplete_of_found foundOther]
    | none =>
      have different : other ≠ index := by
        rintro rfl
        rw [found] at foundOther
        cases foundOther
      have same : (tree.extended index next).records[other]? = tree.records[other]? :=
        spliced_other new different _
      rw [isComplete, same, isComplete]

namespace Layout

variable {tree : RenderTree} {written : Journal} {out rest : List Nat} {index : Nat}
  {record : Record}

/-- An open record may change when it keeps its link and what it holds, but for texts that are
appended. -/
theorem modify (layout : Layout tree written out rest) (writable : tree.isOpen index = true)
    {after : RenderTree} (change : Record → Record) (texts : List String)
    (records : after.records = tree.records.modify index change) (head : after.head = tree.head)
    (cursor : after.cursor = tree.cursor) (next : ∀ record, (change record).next = record.next)
    (flushed : ∀ record, (change record).flushed = record.flushed)
    (fragments : ∀ record, (change record).fragments = record.fragments ++ texts) :
    Layout after (Function.update written index (written index ++ texts)) out rest := by
  obtain ⟨record, found, incomplete⟩ := isOpen_iff.mp writable
  have outside : index ∉ out := layout.notMem_out (isComplete_of_isOpen writable)
  have kept {other : Nat} (different : other ≠ index) :
      after.records[other]? = tree.records[other]? := by
    simp [records, Array.getElem?_modify, Ne.symm different]
  have here : after.records[index]? = some (change record) := by
    simp [records, Array.getElem?_modify, found]
  refine {
    linked := ?linked
    nodup := layout.nodup
    cursor := cursor.trans layout.cursor
    flowed := ?flowed
    waiting := ?waiting
    blank := ?blank }
  case linked =>
    rw [records, head]
    exact layout.linked.modify index change next
  case flowed =>
    intro other member
    rw [kept fun same => outside (same ▸ member)]
    exact layout.flowed other member
  case waiting =>
    intro other member
    obtain ⟨held, foundHeld, unflushed, holds⟩ := layout.waiting other member
    by_cases same : other = index
    · subst same
      obtain rfl : record = held := Option.some.inj (found.symm.trans foundHeld)
      exact ⟨_, here, (flushed record).trans unflushed, by simp [fragments, holds]⟩
    · rw [kept same, Function.update_of_ne same]
      exact ⟨held, foundHeld, unflushed, holds⟩
  case blank =>
    intro other above
    have size : tree.records.size ≤ other := by simpa [records] using above
    have different : other ≠ index := by
      rintro rfl
      exact absurd (lt_size_of_found found) (Nat.not_lt.mpr size)
    rw [Function.update_of_ne different]
    exact layout.blank other size

/-- What is appended to an open record waits in it. -/
theorem receive (layout : Layout tree written out rest) (writable : tree.isOpen index = true)
    (texts : List String) :
    Layout (tree.received index texts)
      (Function.update written index (written index ++ texts)) out rest :=
  layout.modify writable (fun record => { record with fragments := record.fragments ++ texts }) texts
    rfl rfl rfl (fun _ => rfl) (fun _ => rfl) fun _ => rfl

/-- What has flowed out does not change when an open record receives texts. -/
theorem flatMap_receive (layout : Layout tree written out rest)
    (writable : tree.isOpen index = true) (texts : List String) :
    out.flatMap (Function.update written index texts) = out.flatMap written := by
  refine List.flatMap_congr fun other member => ?_
  have different : other ≠ index := fun same =>
    layout.notMem_out (isComplete_of_isOpen writable) (same ▸ member)
  rw [Function.update_of_ne different]

/-- Marking an open record as complete moves nothing. -/
theorem mark (layout : Layout tree written out rest) (writable : tree.isOpen index = true) :
    Layout (tree.marked index) written out rest := by
  have marked : Layout (tree.marked index) _ out rest :=
    layout.modify writable ({ · with complete := true }) [] rfl rfl rfl (fun _ => rfl) (fun _ => rfl)
      fun _ => (List.append_nil _).symm
  rwa [List.append_nil, Function.update_eq_self] at marked

/-- A new record behind an open one is empty, and nothing flows out. -/
theorem extend (layout : Layout tree written out rest)
    (found : tree.records[index]? = some record) (incomplete : record.complete = false) :
    Layout (tree.extended index record.next) written out
      (insertBehind index [tree.records.size] rest) := by
  have inside : index < tree.records.size := lt_size_of_found found
  have outside : index ∉ out :=
    layout.notMem_out ((isComplete_of_found found).trans incomplete)
  have order : out ++ insertBehind index [tree.records.size] rest =
      insertBehind index [tree.records.size] (out ++ rest) := by
    rw [insertBehind_append, insertBehind_of_notMem outside]
  have fresh : tree.records.size ∉ out ++ rest := by
    intro visited
    exact Nat.lt_irrefl _ (List.mem_range.mp (layout.linked.subset_range visited))
  refine {
    linked := ?linked
    nodup := ?nodup
    cursor := by
      rw [head?_insertBehind]
      exact layout.cursor
    flowed := ?flowed
    waiting := ?waiting
    blank := ?blank }
  case linked =>
    rw [order]
    exact layout.linked.splice layout.nodup found
  case nodup =>
    rw [order]
    exact nodup_insertBehind layout.nodup fresh
  case flowed =>
    intro other member
    obtain ⟨held, foundHeld, complete, flushed⟩ := layout.flowed other member
    obtain ⟨link, foundAfter⟩ := spliced_old foundHeld record.next
    exact ⟨_, foundAfter, complete, flushed⟩
  case waiting =>
    intro other member
    by_cases new : other = tree.records.size
    · subst new
      exact ⟨_, spliced_fresh inside _, rfl, (layout.blank _ (Nat.le_refl _)).symm⟩
    · have old : other ∈ rest := by
        by_cases visited : index ∈ rest
        · rcases (mem_insertBehind visited).mp member with early | late
          · exact early
          · exact absurd (List.mem_singleton.mp late) new
        · rwa [insertBehind_of_notMem visited] at member
      obtain ⟨held, foundHeld, unflushed, fragments⟩ := layout.waiting other old
      obtain ⟨link, foundAfter⟩ := spliced_old foundHeld record.next
      exact ⟨_, foundAfter, unflushed, fragments⟩
  case blank =>
    intro other above
    have size : tree.records.size + 1 ≤ other := by simpa [extended, spliced] using above
    exact layout.blank other (by omega)

end Layout

/-- Marking an open record as complete emits nothing. -/
theorem Flow.mark {tree : RenderTree} {written : Journal} {out rest : List Nat} {index : Nat}
    (flow : Flow tree written out rest) (writable : tree.isOpen index = true) :
    Flow (tree.marked index) written out rest where
  toLayout := flow.toLayout.mark writable
  output := flow.output
  delivered := flow.delivered
  sink := flow.sink

namespace Settled

variable {tree : RenderTree} {written : Journal} {out rest : List Nat} {index : Nat}
  {record : Record}

/-- A settled tree stays settled when an open record receives texts. -/
theorem receive (settled : Settled tree written out rest) (writable : tree.isOpen index = true)
    (texts : List String) :
    Settled (tree.received index texts)
        (Function.update written index (written index ++ texts)) out rest ∧
      Alike tree (tree.received index texts) := by
  have alike := received_alike tree index texts
  exact ⟨{
    toLayout := settled.toLayout.receive writable texts
    output := by
      rw [settled.flatMap_receive writable]
      exact settled.output
    delivered := settled.delivered
    sink := settled.sink
    front := fun first head => (alike.complete first).trans (settled.front first head) }, alike⟩

/-- Completing an open record lets what has become the complete front of the second part flow
out. -/
theorem complete (settled : Settled tree written out rest)
    (writable : tree.isOpen index = true) :
    ∃ after moved left, RenderTree.complete index tree = (.ok (), after) ∧
      rest = moved ++ left ∧ Settled after written (out ++ moved) left ∧
      after.records.size = tree.records.size ∧
      ∀ other, after.isComplete other = (tree.isComplete other || other == index) := by
  have flow := settled.toFlow.mark writable
  obtain ⟨after, moved, left, flushed, split, done, alike⟩ := flow.flushUpTo flow.length_le
  refine ⟨after, moved, left, ?_, split, done, ?_, fun other => ?_⟩
  · rw [complete_step writable, ← flushed]
    simp [flush, bind_step]
  · rw [alike.size]
    simp [marked]
  · rw [alike.complete other, marked_isComplete writable]

/-- A settled tree stays settled when a new record is put behind an open one. -/
theorem extend (settled : Settled tree written out rest)
    (found : tree.records[index]? = some record) (incomplete : record.complete = false) :
    Settled (tree.extended index record.next) written out
        (insertBehind index [tree.records.size] rest) ∧
      ∀ other, (tree.extended index record.next).isComplete other = tree.isComplete other := by
  have alike := extended_isComplete found record.next
  exact ⟨{
    toLayout := settled.toLayout.extend found incomplete
    output := settled.output
    delivered := settled.delivered
    sink := settled.sink
    front := fun first head => by
      rw [head?_insertBehind] at head
      rw [alike first]
      exact settled.front first head }, alike⟩

/-- A settled tree stays settled when a branch and a continuation are put behind an open record,
which stays open. -/
theorem branch (settled : Settled tree written out rest) (writable : tree.isOpen index = true) :
    Settled (tree.branched index) written out
        (insertBehind index [tree.records.size + 1, tree.records.size] rest) ∧
      (tree.branched index).isOpen index = true ∧
      (tree.branched index).records.size = tree.records.size + 2 ∧
      ∀ other, (tree.branched index).isComplete other = tree.isComplete other := by
  obtain ⟨record, found, incomplete⟩ := isOpen_iff.mp writable
  have inside : index < tree.records.size := lt_size_of_found found
  obtain ⟨once, sameOnce⟩ := settled.extend found incomplete
  have foundOnce : (tree.extended index record.next).records[index]? =
      some { record with next := some tree.records.size } := spliced_anchor found _
  obtain ⟨twice, sameTwice⟩ := once.extend foundOnce incomplete
  have foundTwice := spliced_anchor foundOnce (some tree.records.size)
  have order : insertBehind index [(tree.extended index record.next).records.size]
      (insertBehind index [tree.records.size] rest) =
        insertBehind index [tree.records.size + 1, tree.records.size] rest := by
    rw [← insertBehind_twice (Nat.ne_of_gt inside)]
    simp [extended, spliced]
  rw [branched_eq found, ← order]
  refine ⟨twice, isOpen_iff.mpr ⟨_, foundTwice, incomplete⟩, ?_, fun other => ?_⟩
  · simp [extended, spliced]
  · rw [sameTwice other, sameOnce other]

/-- Forking an open record completes it and puts an open branch and an open continuation in its
place, so that what the record holds can flow out. -/
theorem fork (settled : Settled tree written out rest)
    (writable : tree.isOpen index = true) :
    ∃ after moved left,
      RenderTree.fork index tree =
        (.ok (tree.records.size + 1, tree.records.size), after) ∧
      insertBehind index [tree.records.size + 1, tree.records.size] rest = moved ++ left ∧
      Settled after written (out ++ moved) left ∧
      after.records.size = tree.records.size + 2 ∧
      ∀ other, after.isComplete other = (tree.isComplete other || other == index) := by
  obtain ⟨record, found, incomplete⟩ := isOpen_iff.mp writable
  obtain ⟨branched, stillOpen, larger, same⟩ := settled.branch writable
  obtain ⟨after, moved, left, completed, split, done, size, complete⟩ :=
    branched.complete stillOpen
  refine ⟨after, moved, left, ?_, split, done, size.trans larger, fun other => ?_⟩
  · rw [fork_step found incomplete, ← branched_eq found, completed]
  · rw [complete other, same other]

end Settled

end TemplateStream.RenderTree
