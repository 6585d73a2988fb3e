import TemplateStream.Proofs.Operations
import TemplateStream.Proofs.Owing

/-!
# Effects of operations

What an operation can do to a pass in which each handle has a record to itself: nothing, or one of
six things to the chunk that it is called on. Records other than that of this chunk are left alone
but for those that flow out.
-/

namespace TemplateStream

open RenderTree Relation

/-! ## Records that are left alone -/

namespace RenderTree

variable {tree middle after : RenderTree} {index : Nat}

/-- A record is left alone: it still holds what it held, unless it was complete and flowed out. -/
def Spares (before after : RenderTree) (index : Nat) : Prop :=
  ∀ record, before.records[index]? = some record → ∃ left, after.records[index]? = some left ∧
    left.complete = record.complete ∧
    (left.fragments = record.fragments ∨ record.complete = true ∧ left.fragments = [])

/-- A record that did not change was left alone. -/
theorem Spares.of_same (same : after.records[index]? = tree.records[index]?) :
    Spares tree after index :=
  fun record found => ⟨record, same.trans found, rfl, .inl rfl⟩

/-- A record that was left alone twice was left alone. -/
theorem Spares.trans (early : Spares tree middle index) (late : Spares middle after index) :
    Spares tree after index := by
  intro record found
  obtain ⟨between, foundBetween, complete, held⟩ := early record found
  obtain ⟨left, foundLeft, completeLeft, heldLeft⟩ := late between foundBetween
  refine ⟨left, foundLeft, completeLeft.trans complete, ?_⟩
  rcases heldLeft with same | ⟨flows, emptied⟩
  · rw [same]
    exact held
  · exact .inr ⟨complete ▸ flows, emptied⟩

/-- A record that flows out is left alone but for that, and so are all others. -/
theorem drained_spares {record : Record} (found : tree.records[index]? = some record)
    (complete : record.complete = true) (other : Nat) :
    Spares tree (tree.drained index record) other := by
  by_cases same : other = index
  · subst same
    intro held foundHeld
    obtain rfl : record = held := Option.some.inj (found.symm.trans foundHeld)
    refine ⟨{ record with flushed := true, fragments := [] }, ?_, rfl, .inr ⟨complete, rfl⟩⟩
    simp [drained, Array.getElem?_modify, found]
  · refine .of_same ?_
    simp [drained, Array.getElem?_modify, Ne.symm same]

/-- A flush leaves all records alone but those that flow out. -/
theorem flushUpTo_spares (sink : tree.sink = .accepting) (count other : Nat) :
    Spares tree (flushUpTo count tree).2 other := by
  induction count generalizing tree with
  | zero => exact .of_same rfl
  | succ count ih =>
    cases cursor : tree.cursor with
    | none =>
      rw [flushUpTo_end cursor]
      exact .of_same rfl
    | some index =>
      cases found : tree.records[index]? with
      | none =>
        have refused : flushUpTo (count + 1) tree = (.error (.chunk .noRecord), tree) := by
          simp [flushUpTo, bind_step, cursor, RenderTree.record, found]
        rw [refused]
        exact .of_same rfl
      | some record =>
        cases complete : record.complete with
        | false =>
          rw [flushUpTo_open cursor found complete]
          exact .of_same rfl
        | true =>
          rw [flushUpTo_succ (forM_emit_step sink _) cursor found complete]
          exact (drained_spares found complete other).trans
            (ih (show (tree.drained index record).sink = .accepting from sink))

/-- Completing a record leaves all others alone. -/
theorem complete_spares (sink : tree.sink = .accepting) {other : Nat} (apart : other ≠ index) :
    Spares tree (complete index tree).2 other := by
  cases writable : tree.isOpen index with
  | false =>
    obtain ⟨fault, refused⟩ := complete_refused writable
    rw [refused]
    exact .of_same rfl
  | true =>
    have marks : Spares tree (tree.marked index) other :=
      .of_same (by simp [marked, Array.getElem?_modify, Ne.symm apart])
    have flushes : Spares (tree.marked index) (flush (tree.marked index)).2 other := by
      simp only [flush, bind_step, get_step]
      exact flushUpTo_spares (show (tree.marked index).sink = .accepting from sink) _ other
    rw [complete_step writable]
    exact marks.trans flushes

/-- Putting a record behind another leaves all others alone. -/
theorem extended_spares {next : Option Nat} {other : Nat} (inside : other < tree.records.size)
    (apart : other ≠ index) : Spares tree (tree.extended index next) other :=
  .of_same (spliced_other (Nat.ne_of_lt inside) apart next)

/-- Forking a record leaves all others alone. -/
theorem fork_spares (sink : tree.sink = .accepting) {other : Nat}
    (inside : other < tree.records.size) (apart : other ≠ index) :
    Spares tree (fork index tree).2 other := by
  cases writable : tree.isOpen index with
  | false =>
    obtain ⟨fault, refused⟩ := fork_refused writable
    rw [refused]
    exact .of_same rfl
  | true =>
    obtain ⟨record, found, incomplete⟩ := isOpen_iff.mp writable
    let once := tree.extended index record.next
    let twice := once.extended index (some tree.records.size)
    have later : other < once.records.size := by
      simp only [once, extended, spliced, Array.size_modify, Array.size_push]
      omega
    have spliced : Spares tree twice other :=
      (extended_spares inside apart).trans (extended_spares later apart)
    have completes : Spares twice (complete index twice).2 other :=
      complete_spares (show twice.sink = .accepting from sink) apart
    rw [fork_step found incomplete]
    rcases ran : complete index twice with ⟨fault | _, last⟩
    all_goals
      rw [ran] at completes
      exact spliced.trans completes

section whole

variable {written : Journal}

/-- The sink of a whole tree refuses nothing. -/
theorem Whole.sink (whole : Whole tree written) : tree.sink = .accepting := by
  obtain ⟨_, _, settled, _⟩ := whole
  exact settled.sink

/-- What an open record of a whole tree receives completes no record. -/
theorem Whole.receives (whole : Whole tree written) (writable : tree.isOpen index = true)
    (texts : List String) : Alike tree (tree.received index texts) := by
  obtain ⟨_, _, settled, _⟩ := whole
  exact (settled.receive writable texts).2

/-- An open record of a whole tree can be completed, which completes it alone. -/
theorem Whole.completes (whole : Whole tree written) (writable : tree.isOpen index = true) :
    ∃ after, complete index tree = (.ok (), after) ∧
      after.records.size = tree.records.size ∧
      ∀ other, after.isComplete other = (tree.isComplete other || other == index) := by
  obtain ⟨_, _, settled, _⟩ := whole
  obtain ⟨after, _, _, completed, _, _, size, complete⟩ := settled.complete writable
  exact ⟨after, completed, size, complete⟩

/-- An open record of a whole tree can be forked, which completes it alone and adds two records. -/
theorem Whole.forks (whole : Whole tree written) (writable : tree.isOpen index = true) :
    ∃ after, fork index tree = (.ok (tree.records.size + 1, tree.records.size), after) ∧
      after.records.size = tree.records.size + 2 ∧
      ∀ other, after.isComplete other = (tree.isComplete other || other == index) := by
  obtain ⟨_, _, settled, _⟩ := whole
  obtain ⟨after, _, _, forked, _, _, size, complete⟩ := settled.fork writable
  exact ⟨after, forked, size, complete⟩

/-- What a record receives stands in its place. -/
theorem Whole.received_order (whole : Whole tree written) (writable : tree.isOpen index = true)
    (texts : List String) : (tree.received index texts).documentOrder = tree.documentOrder := by
  obtain ⟨out, rest, settled, _⟩ := whole
  have received := (settled.receive writable texts).1
  rw [documentOrder_eq settled.linked settled.nodup,
    documentOrder_eq received.linked received.nodup]

/-- Completing a record moves no record. -/
theorem Whole.completed_order {after : RenderTree} (whole : Whole tree written)
    (writable : tree.isOpen index = true) (completed : complete index tree = (.ok (), after)) :
    after.documentOrder = tree.documentOrder := by
  obtain ⟨out, rest, settled, _⟩ := whole
  obtain ⟨last, moved, left, same, rfl, done, _⟩ := settled.complete writable
  obtain rfl : after = last := congrArg Prod.snd (completed.symm.trans same)
  rw [documentOrder_eq settled.linked settled.nodup, documentOrder_eq done.linked done.nodup,
    List.append_assoc]

/-- Forking a record puts the branch and the continuation behind it. -/
theorem Whole.forked_order {after : RenderTree} {records : Nat × Nat}
    (whole : Whole tree written) (writable : tree.isOpen index = true)
    (forks : fork index tree = (.ok records, after)) :
    after.documentOrder = insertBehind index [records.1, records.2] tree.documentOrder := by
  obtain ⟨out, rest, settled, _⟩ := whole
  obtain ⟨last, moved, left, forked, split, done, _⟩ := settled.fork writable
  cases forks.symm.trans forked
  have behind : index ∉ out := settled.notMem_out (isComplete_of_isOpen writable)
  rw [documentOrder_eq settled.linked settled.nodup, documentOrder_eq done.linked done.nodup,
    insertBehind_append, insertBehind_of_notMem behind, split, List.append_assoc]

end whole

end RenderTree

/-! ## Owners -/

/-- Each handle of a pass has a record to itself, and is complete when the record is. -/
structure Pass.Owned (pass : Pass) : Prop where
  inside : ∀ {number : Nat} {handle : Handle}, pass.handles[number]? = some handle →
    handle.record < pass.tree.records.size
  /-- No two handles share a record. -/
  apart : ∀ {number other : Nat} {handle held : Handle}, pass.handles[number]? = some handle →
    pass.handles[other]? = some held → handle.record = held.record → number = other
  complete : ∀ {number : Nat} {handle : Handle}, pass.handles[number]? = some handle →
    pass.tree.isComplete handle.record = handle.complete
  untapped : ∀ {number : Nat} {handle : Handle}, pass.handles[number]? = some handle →
    handle.complete = true → handle.taps.depth = 0
  /-- Every open record is that of a handle, once the root was taken. -/
  held : pass.rootTaken = true → ∀ {index : Nat}, pass.tree.isOpen index = true →
    ∃ number : Nat, ∃ handle : Handle,
      pass.handles[number]? = some handle ∧ handle.record = index
  /-- Until then nothing can be done. -/
  untaken : pass.rootTaken = false → pass.handles = #[] ∧ pass.tree = .new .accepting

/-- What an operation on a chunk, or on none, can do to the tree and the handles of a pass. -/
inductive Pass.Effect (pass : Pass) : Option Chunk → Pass → Prop where
  /-- Neither the tree nor a handle changed. -/
  | nothing {target : Option Chunk} {after : Pass} (untouched : pass.Untouched after) :
      pass.Effect target after
  | rooted (untaken : pass.rootTaken = false) :
      pass.Effect none { pass with
        rootTaken := true
        handles := pass.handles.push { record := pass.tree.head } }
  | wrote {chunk : Chunk} {handle : Handle} (writable : pass.Writable chunk handle)
      (text : String) (memory : TapMemory) :
      pass.Effect (some chunk) (pass.wrote handle [text] memory)
  | tapped {chunk : Chunk} {handle : Handle} (writable : pass.Writable chunk handle) (tap : Tap)
      (memory : TapMemory) :
      pass.Effect (some chunk) ({ pass with memory }.changed chunk
        fun handle => { handle with taps := handle.taps.push tap })
  | untapped {chunk : Chunk} {handle : Handle} {tap : Tap} {taps : TapStack}
      (writable : pass.Writable chunk handle) (popped : handle.taps.pop = .ok (tap, taps)) :
      pass.Effect (some chunk) (pass.changed chunk ({ · with taps := taps }))
  | forked {chunk : Chunk} {handle : Handle} {tree : RenderTree}
      (writable : pass.Writable chunk handle)
      (forks : RenderTree.fork handle.record pass.tree =
        (.ok (pass.tree.records.size + 1, pass.tree.records.size), tree)) :
      pass.Effect (some chunk) (pass.forked chunk handle tree)
  | completed {chunk : Chunk} {handle : Handle} {tree : RenderTree}
      (writable : pass.Writable chunk handle) (untapped : handle.taps.depth = 0)
      (completes : RenderTree.complete handle.record pass.tree = (.ok (), tree)) :
      pass.Effect (some chunk) (pass.completed chunk tree)

/-- A tap that can be taken off is one that the owner put on. -/
theorem TapStack.depth_of_pop {stack taps : TapStack} {tap : Tap}
    (popped : stack.pop = .ok (tap, taps)) :
    stack.frames = tap :: taps.frames ∧ taps.inherited = stack.inherited ∧
      stack.inherited ≤ taps.frames.length := by
  cases frames : stack.frames with
  | nil =>
    rw [pop, frames] at popped
    cases popped
  | cons first rest =>
    rw [pop, frames] at popped
    dsimp only at popped
    split at popped
    · rename_i inside
      cases popped
      rw [List.length_cons] at inside
      exact ⟨rfl, rfl, Nat.le_of_lt_succ inside⟩
    · cases popped

namespace Pass.Owned

variable {pass after : Pass} {written : Journal} {chunk : Chunk} {handle : Handle}

/-- An open chunk can be written to, for its record is open. -/
theorem writable (owned : pass.Owned) (found : pass.handles[chunk.number]? = some handle)
    (isOpen : handle.complete = false) : pass.Writable chunk handle where
  found := found
  isOpen := isOpen
  record := by
    rw [isOpen_eq, owned.complete found, isOpen, decide_eq_true (owned.inside found)]
    rfl

/-- A chunk whose newest tap can be taken off is open. -/
theorem writable_of_pop (owned : pass.Owned) (found : pass.handles[chunk.number]? = some handle)
    {tap : Tap} {taps : TapStack} (popped : handle.taps.pop = .ok (tap, taps)) :
    pass.Writable chunk handle := by
  refine owned.writable found ?_
  cases complete : handle.complete with
  | false => rfl
  | true =>
    obtain ⟨frames, _, own⟩ := TapStack.depth_of_pop popped
    have none := owned.untapped found complete
    rw [TapStack.depth, frames, List.length_cons] at none
    omega

/-- An operation that is refused on a chunk which is not open does nothing there. -/
theorem effect_of_open {α : Type} (owned : pass.Owned) (operation : ChunkOperation)
    {next : PUnit → PassM α}
    (effect : ∀ handle, pass.Writable chunk handle →
      pass.Effect (some chunk) ((chunk.ensureOpen operation >>= next) pass).2) :
    pass.Effect (some chunk) ((chunk.ensureOpen operation >>= next) pass).2 := by
  cases found : pass.handles[chunk.number]? with
  | none =>
    rw [bind_step, Chunk.ensureOpen_absent found]
    exact .nothing ⟨rfl, rfl, rfl⟩
  | some handle =>
    cases isOpen : handle.complete with
    | true =>
      rw [bind_step, Chunk.ensureOpen_step found, isOpen]
      exact .nothing ⟨rfl, rfl, rfl⟩
    | false => exact effect handle (owned.writable found isOpen)

/-- What writing can do. -/
theorem write_effect (owned : pass.Owned) (chunk : Chunk) (value : Value) :
    pass.Effect (some chunk) (chunk.write value pass).2 := by
  refine owned.effect_of_open .write fun handle writable => ?_
  show pass.Effect (some chunk) (chunk.write value pass).2
  by_cases absent : value = .null
  · rw [absent, Chunk.write_null writable.found writable.isOpen]
    exact .nothing ⟨rfl, rfl, rfl⟩
  · rw [Chunk.write_step writable.found writable.isOpen absent]
    rcases handle.taps.apply value.toText pass.memory with ⟨fault | text, memory⟩
    · exact .nothing ⟨rfl, rfl, rfl⟩
    · simp only [Pass.onTree_step, RenderTree.append_step writable.record]
      exact .wrote writable text memory

/-- What putting a tap on can do. -/
theorem tap_effect (owned : pass.Owned) (chunk : Chunk) (transform : Option Transform) :
    pass.Effect (some chunk) (chunk.tap transform pass).2 := by
  refine owned.effect_of_open .tap fun handle writable => ?_
  cases transform with
  | none =>
    rw [bind_step, Chunk.ensureOpen_step writable.found, writable.isOpen]
    exact .nothing ⟨rfl, rfl, rfl⟩
  | some transform =>
    obtain ⟨tap, memory, installed⟩ := transform.install_ok pass.memory
    show pass.Effect (some chunk) (chunk.tap (some transform) pass).2
    rw [Chunk.tap_step writable.found writable.isOpen installed]
    exact .tapped writable tap memory

/-- What taking a tap off can do. -/
theorem untap_effect (owned : pass.Owned) (chunk : Chunk) :
    pass.Effect (some chunk) (chunk.untap pass).2 := by
  cases found : pass.handles[chunk.number]? with
  | none =>
    have refused : chunk.untap pass = (.error (.chunk .noRecord), pass) := by
      simp [Chunk.untap, bind_step, Chunk.handle_absent found]
    rw [refused]
    exact .nothing ⟨rfl, rfl, rfl⟩
  | some handle =>
    rw [Chunk.untap_step found]
    cases popped : handle.taps.pop with
    | error fault => exact .nothing ⟨rfl, rfl, rfl⟩
    | ok taken => exact .untapped (owned.writable_of_pop found popped) popped

/-- What forking a branch can do. -/
theorem branch_effect (owned : pass.Owned) (whole : Whole pass.tree written) (chunk : Chunk) :
    pass.Effect (some chunk) (chunk.branch pass).2 := by
  refine owned.effect_of_open .map fun handle writable => ?_
  show pass.Effect (some chunk) (chunk.branch pass).2
  obtain ⟨tree, forks, _⟩ := whole.forks writable.record
  rw [Chunk.branch_step writable.found writable.isOpen, forks]
  exact .forked writable forks

/-- What completing a chunk can do. -/
theorem complete_effect (owned : pass.Owned) (whole : Whole pass.tree written) (chunk : Chunk) :
    pass.Effect (some chunk) (chunk.complete pass).2 := by
  refine owned.effect_of_open .finish fun handle writable => ?_
  show pass.Effect (some chunk) (chunk.complete pass).2
  by_cases untapped : handle.taps.depth = 0
  · obtain ⟨tree, completes, _⟩ := whole.completes writable.record
    have completed : chunk.complete pass = (.ok (), pass.completed chunk tree) := by
      rw [Chunk.complete_step writable.found writable.isOpen untapped]
      simp only [Pass.onTree_step, Pass.changed, completes, Pass.completed]
    rw [completed]
    exact .completed writable untapped completes
  · rw [Chunk.complete_tapped writable.found writable.isOpen untapped]
    exact .nothing ⟨rfl, rfl, rfl⟩

/-- What taking the root can do. -/
theorem root_effect (pass : Pass) : pass.Effect none (Chunk.root pass).2 := by
  cases taken : pass.rootTaken with
  | true =>
    have refused : Chunk.root pass = (.error (.chunk .rootTaken), pass) := by
      simp [Chunk.root, bind_step, taken]
    rw [refused]
    exact .nothing ⟨rfl, rfl, rfl⟩
  | false =>
    rw [Chunk.root_step taken]
    exact .rooted taken

/-- What an operation can do. -/
theorem effect (owned : pass.Owned) (whole : Whole pass.tree written) (operation : Operation) :
    pass.Effect operation.target (operation.perform pass).2 := by
  cases operation with
  | root =>
    rw [Operation.perform, discard_state]
    exact root_effect pass
  | write chunk value => exact owned.write_effect chunk value
  | tap chunk transform => exact owned.tap_effect chunk transform
  | untap chunk => exact owned.untap_effect chunk
  | branch chunk =>
    rw [Operation.perform, discard_state]
    exact owned.branch_effect whole chunk
  | complete chunk => exact owned.complete_effect whole chunk

end Pass.Owned

end TemplateStream
