import TemplateStream.Proofs.FlushExactness

/-!
# The chain of records

Calls on a tree are data here, so that a statement can be about every sequence of them, whether
they fail or not. Whatever was called, the links visit every record once and end. The cursor
divides what they visit: the records before it are complete and have flowed out, and records that
are put behind an open one come after it. A flush is also described by its turns, without a bound
on how many there are, so that it is part of the statements that a flush comes to its end.
-/

namespace TemplateStream.RenderTree

/-- A call on a render tree. -/
inductive TreeCall where
  | append (index : Nat) (text : String)
  | fork (index : Nat)
  | complete (index : Nat)

/-- The record that a call is about. -/
def TreeCall.index : TreeCall → Nat
  | .append index _ | .fork index | .complete index => index

/-- Makes a call. -/
def TreeCall.perform : TreeCall → TreeM Unit
  | .append index text => RenderTree.append index text
  | .fork index => discard (RenderTree.fork index)
  | .complete index => RenderTree.complete index

/-- The tree that calls lead to, whether they fail or not. -/
def performed (tree : RenderTree) (calls : List TreeCall) : RenderTree :=
  calls.foldl (fun tree call => (call.perform tree).2) tree

/-- The links visit every record of a tree once. Those before the cursor have flowed out. -/
structure Chained (tree : RenderTree) (out rest : List Nat) : Prop where
  /-- The links visit the records in this order, and end there. -/
  linked : Linked tree.records (some tree.head) (out ++ rest)
  covers : (out ++ rest).Perm (List.range tree.records.size)
  order : tree.documentOrder = out ++ rest
  /-- A walk that may go further than there are records goes no further. -/
  ends : ∀ count, tree.records.size ≤ count →
    tree.orderFrom count (some tree.head) = tree.documentOrder
  cursor : tree.cursor = rest.head?
  flowed : ∀ index ∈ out, ∃ record, tree.records[index]? = some record ∧
    record.complete = true ∧ record.flushed = true

/-- The turns of a flush. In each of them the record at the cursor flows out, until the cursor is
at an open record or at the end. -/
inductive Flushes : RenderTree → RenderTree → Prop where
  | ended {tree : RenderTree} (cursor : tree.cursor = none) : Flushes tree tree
  | stopped {tree : RenderTree} {index : Nat} {record : Record}
      (cursor : tree.cursor = some index) (found : tree.records[index]? = some record)
      (incomplete : record.complete = false) : Flushes tree tree
  | goesOn {tree after : RenderTree} {index : Nat} {record : Record}
      (cursor : tree.cursor = some index) (found : tree.records[index]? = some record)
      (complete : record.complete = true) (rest : Flushes (tree.drained index record) after) :
      Flushes tree after

/-- Complete records stayed complete, and they hold what they held or nothing more. -/
def Conserves (before after : RenderTree) : Prop :=
  ∀ (index : Nat) (record : Record), before.records[index]? = some record →
    record.complete = true →
    ∃ kept : Record, after.records[index]? = some kept ∧ kept.complete = true ∧
      (kept.fragments = record.fragments ∨ kept.fragments = [])

namespace Conserves

variable {first second third : RenderTree}

/-- What does not change is conserved. -/
theorem refl (tree : RenderTree) : Conserves tree tree :=
  fun _ record found complete => ⟨record, found, complete, .inl rfl⟩

/-- What is conserved twice is conserved. -/
theorem trans (early : Conserves first second) (late : Conserves second third) :
    Conserves first third := by
  intro index record found complete
  obtain ⟨middle, foundMiddle, completeMiddle, held⟩ := early index record found complete
  obtain ⟨kept, foundKept, completeKept, holds⟩ := late index middle foundMiddle completeMiddle
  refine ⟨kept, foundKept, completeKept, ?_⟩
  rcases holds with same | empty
  · rw [same]
    exact held
  · exact .inr empty

/-- A change of one record conserves the others. -/
theorem modify {tree after : RenderTree} {index : Nat} {change : Record → Record}
    (changed : after.records = tree.records.modify index change)
    (kept : ∀ record, tree.records[index]? = some record → record.complete = true →
      (change record).complete = true ∧
        ((change record).fragments = record.fragments ∨ (change record).fragments = [])) :
    Conserves tree after := by
  intro other record found complete
  rw [changed, Array.getElem?_modify]
  split
  · next same =>
    subst same
    exact ⟨change record, by rw [found]; rfl, kept record found complete⟩
  · exact ⟨record, found, complete, .inl rfl⟩

end Conserves

section steps

variable {tree after : RenderTree} {index : Nat} {record : Record}

/-- An open record may receive texts. -/
theorem received_conserves (writable : tree.isOpen index = true) (texts : List String) :
    Conserves tree (tree.received index texts) := by
  have changed : (tree.received index texts).records = tree.records.modify index
      fun record => { record with fragments := record.fragments ++ texts } := rfl
  refine .modify changed fun record found complete => ?_
  rw [← isComplete_of_found found, isComplete_of_isOpen writable] at complete
  cases complete

/-- A record may be marked as complete. -/
theorem marked_conserves (tree : RenderTree) (index : Nat) :
    Conserves tree (tree.marked index) := by
  have changed : (tree.marked index).records =
      tree.records.modify index ({ · with complete := true }) := rfl
  exact .modify changed fun record _ _ => ⟨rfl, .inl rfl⟩

/-- A record may flow out. -/
theorem drained_conserves (tree : RenderTree) (index : Nat) (record : Record) :
    Conserves tree (tree.drained index record) := by
  have changed : (tree.drained index record).records =
      tree.records.modify index ({ · with flushed := true, fragments := [] }) := rfl
  exact .modify changed fun record _ complete => ⟨complete, .inr rfl⟩

/-- A record may be put behind another. -/
theorem extended_conserves (tree : RenderTree) (index : Nat) (next : Option Nat) :
    Conserves tree (tree.extended index next) := by
  intro other record found complete
  obtain ⟨link, foundAfter⟩ := spliced_old found next
  exact ⟨_, foundAfter, complete, .inl rfl⟩

/-- A branch and a continuation may be put behind a record. -/
theorem branched_conserves (tree : RenderTree) (index : Nat) :
    Conserves tree (tree.branched index) := by
  have once := extended_conserves tree index (tree.records[index]?.bind Record.next)
  exact once.trans (extended_conserves _ index (some tree.records.size))

/-- Whatever flows out, complete records are conserved. -/
theorem Flushes.conserves (flushes : Flushes tree after) : Conserves tree after := by
  induction flushes with
  | ended | stopped => exact .refl _
  | @goesOn tree _ index record _ _ _ _ ih => exact (drained_conserves tree index record).trans ih

end steps

section flushes

variable {tree : RenderTree} {written : Journal} {out rest : List Nat} {index : Nat}

/-- A flush that may take as many turns as there are records that wait comes to its end. -/
theorem Flow.flushes {count : Nat} (flow : Flow tree written out rest)
    (enough : rest.length ≤ count) : Flushes tree (RenderTree.flushUpTo count tree).2 := by
  -- Each turn moves the first record that waits to those that are out.
  induction rest generalizing tree out count with
  | nil =>
    rw [flushUpTo_end flow.cursor]
    exact .ended flow.cursor
  | cons index rest ih =>
    obtain ⟨record, found, _⟩ := flow.waiting index List.mem_cons_self
    cases complete : record.complete with
    | false =>
      rw [flushUpTo_open flow.cursor found complete]
      exact .stopped flow.cursor found complete
    | true =>
      cases count with
      | zero => simp at enough
      | succ count =>
        rw [flushUpTo_succ (forM_emit_step flow.sink _) flow.cursor found complete]
        exact .goesOn flow.cursor found complete
          (ih (flow.drain found complete) (Nat.le_of_succ_le_succ enough))

/-- Completing an open record is marking it and a flush. -/
theorem Settled.complete_flushes (settled : Settled tree written out rest)
    (writable : tree.isOpen index = true) :
    Flushes (tree.marked index) (RenderTree.complete index tree).2 := by
  have flow := settled.toFlow.mark writable
  rw [complete_step writable, flush, bind_step, get_step]
  exact flow.flushes flow.length_le

/-- Completing an open record conserves the complete ones. -/
theorem Settled.complete_conserves (settled : Settled tree written out rest)
    (writable : tree.isOpen index = true) :
    Conserves tree (RenderTree.complete index tree).2 :=
  (marked_conserves tree index).trans (settled.complete_flushes writable).conserves

/-- Forking an open record puts two records behind it and completes it. -/
theorem fork_branched (writable : tree.isOpen index = true) :
    (fork index tree).2 = (RenderTree.complete index (tree.branched index)).2 := by
  obtain ⟨record, found, incomplete⟩ := isOpen_iff.mp writable
  rw [fork_step found incomplete, branched_eq found]
  split <;> next ran => rw [ran]

end flushes

/-! ## Calls -/

section calls

variable {tree after : RenderTree} {written : Journal} {out rest : List Nat} {index : Nat}

/-- The records of a whole tree are chained. -/
theorem Settled.chained (settled : Settled tree written out rest)
    (whole : (out ++ rest).length = tree.records.size) : Chained tree out rest := by
  have order := documentOrder_eq settled.linked settled.nodup
  refine {
    linked := settled.linked
    covers := settled.perm_range whole
    order := order
    ends := fun count enough => ?ends
    cursor := settled.cursor
    flowed := settled.flowed }
  case ends =>
    rw [order]
    exact orderFrom_eq settled.linked (whole.trans_le enough)

/-- A call advances a whole tree. -/
theorem TreeCall.advances (whole : Whole tree written) (call : TreeCall) :
    ∃ later, Whole (call.perform tree).2 later := by
  cases call with
  | append index text => exact ⟨_, (append_advances whole index text).whole⟩
  | fork index =>
    rw [perform, discard_state]
    exact ⟨_, (fork_advances whole index).whole⟩
  | complete index => exact ⟨_, (complete_advances whole index).whole⟩

/-- A call on a record that is not open fails and changes nothing. -/
theorem TreeCall.refused {call : TreeCall} (closed : tree.isOpen call.index = false) :
    ∃ fault, call.perform tree = (.error fault, tree) := by
  cases call with
  | append index text => exact append_refused closed text
  | fork index =>
    change tree.isOpen index = false at closed
    obtain ⟨fault, refused⟩ := fork_refused closed
    exact ⟨fault, by rw [perform, discard_step, refused]⟩
  | complete index => exact complete_refused closed

/-- A call conserves the complete records of a whole tree. -/
theorem TreeCall.conserves (whole : Whole tree written) (call : TreeCall) :
    Conserves tree (call.perform tree).2 := by
  obtain ⟨out, rest, settled, _⟩ := whole
  cases writable : tree.isOpen call.index with
  | false =>
    obtain ⟨fault, refused⟩ := TreeCall.refused writable
    rw [refused]
    exact .refl tree
  | true =>
    cases call with
    | append index text =>
      change tree.isOpen index = true at writable
      rw [perform, append_step writable]
      exact received_conserves writable [text]
    | fork index =>
      change tree.isOpen index = true at writable
      obtain ⟨branched, stillOpen, _⟩ := settled.branch writable
      rw [perform, discard_state, fork_branched writable]
      exact (branched_conserves tree index).trans (branched.complete_conserves stillOpen)
    | complete index => exact settled.complete_conserves writable

/-- Calls leave a whole tree whole and conserve its complete records. -/
theorem Whole.performed (whole : Whole tree written) (calls : List TreeCall) :
    (∃ later, Whole (tree.performed calls) later) ∧ Conserves tree (tree.performed calls) := by
  induction calls generalizing tree written with
  | nil => exact ⟨⟨written, whole⟩, .refl tree⟩
  | cons call rest ih =>
    obtain ⟨later, advanced⟩ := call.advances whole
    obtain ⟨goesOn, conserved⟩ := ih advanced
    exact ⟨goesOn, (call.conserves whole).trans conserved⟩

/-- Forking an open record comes to an end, with the branch and the continuation directly behind
the record and thus not before the cursor. No other record is moved. -/
structure Forks (tree after : RenderTree) (out rest : List Nat) (index : Nat) : Prop where
  forked : fork index tree = (.ok (tree.records.size + 1, tree.records.size), after)
  flushes : Flushes ((tree.branched index).marked index) after
  placed : ∃ front back, rest = front ++ index :: back ∧ after.documentOrder =
    out ++ front ++ index :: (tree.records.size + 1) :: tree.records.size :: back

/-- An open record of a whole tree can be forked. -/
theorem Settled.forks (settled : Settled tree written out rest)
    (whole : (out ++ rest).length = tree.records.size) (writable : tree.isOpen index = true) :
    ∃ after, Forks tree after out rest index := by
  obtain ⟨after, moved, left, forked, split, done, _⟩ := settled.fork writable
  obtain ⟨branched, stillOpen, _⟩ := settled.branch writable
  -- The flush is that of the completion, which starts from the tree with both new records.
  have last : (RenderTree.complete index (tree.branched index)).2 = after := by
    rw [← fork_branched writable, forked]
  obtain ⟨front, back, same, first, behind⟩ :=
    exists_split (List.nodup_append.mp settled.nodup).2.1 (settled.mem_rest whole writable)
  refine ⟨after, forked, last ▸ branched.complete_flushes stillOpen, front, back, same, ?_⟩
  rw [documentOrder_eq done.linked done.nodup, List.append_assoc, ← split, same,
    insertBehind_split first behind, List.append_assoc]
  rfl

/-- Whatever was called on a tree whose sink refuses nothing, the links visit every record once
and end, and all that is before the cursor is complete and has flowed out. A call on a record that
is not open changes nothing. One that is open can be completed and forked, and the flush comes to
its end. A fork puts the branch and the continuation directly behind the record, moves no other,
and puts nothing before the cursor. Records that are complete stay so, and what they hold never
grows. -/
theorem chain_intact (sink : Sink) (accepts : ∀ received fragment, sink received fragment = none)
    (calls : List TreeCall) :
    let tree := (new sink).performed calls
    ∃ out rest, Chained tree out rest ∧
      (∀ index, tree.isOpen index = true →
        (∃ after, complete index tree = (.ok (), after) ∧ Flushes (tree.marked index) after) ∧
        ∃ after, Forks tree after out rest index) ∧
      (∀ call : TreeCall, tree.isOpen call.index = false →
        ∃ fault, call.perform tree = (.error fault, tree)) ∧
      ∀ later, Conserves tree (tree.performed later) := by
  obtain rfl : sink = .accepting := funext fun received => funext (accepts received)
  intro tree
  obtain ⟨⟨written, whole⟩, _⟩ := fresh_whole.performed calls
  have conserved (later : List TreeCall) := (whole.performed later).2
  obtain ⟨out, rest, settled, covers⟩ := whole
  refine ⟨out, rest, settled.chained covers, fun index writable => ⟨?_, ?_⟩,
    fun _ closed => TreeCall.refused closed, conserved⟩
  · obtain ⟨after, _, _, completed, _⟩ := settled.complete writable
    have flushes := settled.complete_flushes writable
    rw [completed] at flushes
    exact ⟨after, completed, flushes⟩
  · exact settled.forks covers writable

/-- A branch is forked again, and the continuation is complete before it. One call fails. -/
def forkedTwice : List TreeCall := [
  .append 0 "a",
  .fork 0,
  .append 1 "d",
  .fork 2,
  .complete 1,
  .fork 0,
  .append 4 "b",
  .complete 4]

/-- The cursor waits at the inner continuation, where the next fork puts its records. -/
theorem chain_intact_forkedTwice :
    let tree := (new .accepting).performed forkedTwice
    tree.documentOrder = [0, 2, 4, 3, 1] ∧ tree.cursor = some 3 ∧ tree.isOpen 3 = true ∧
      tree.isOpen 0 = false ∧ (∃ fault, (TreeCall.fork 0).perform tree = (.error fault, tree)) ∧
      ∃ out rest after, Chained tree out rest ∧ Forks tree after out rest 3 ∧
        after.documentOrder = [0, 2, 4, 3, 6, 5, 1] := by
  intro tree
  have writable : tree.isOpen 3 = true := by decide +kernel
  have closed : tree.isOpen 0 = false := by decide +kernel
  obtain ⟨out, rest, chained, opens, refuses, _⟩ :=
    chain_intact .accepting (fun _ _ => rfl) forkedTwice
  obtain ⟨_, after, forks⟩ := opens 3 writable
  refine ⟨by decide +kernel, by decide +kernel, writable, closed, refuses (.fork 0) closed,
    out, rest, after, chained, forks, ?_⟩
  have order : (fork 3 tree).2.documentOrder = [0, 2, 4, 3, 6, 5, 1] := by decide +kernel
  rwa [forks.forked] at order

end calls

end TemplateStream.RenderTree
