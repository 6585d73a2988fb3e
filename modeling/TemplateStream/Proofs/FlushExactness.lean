import Mathlib.Data.List.TakeWhile
import TemplateStream.Proofs.ChunkSteps
import TemplateStream.Proofs.Flow
import TemplateStream.Proofs.Lasting

/-!
# Exact flushing

Operations on chunks are data here, so that a statement can be about every sequence of them. A
history remembers the moment after each operation, also after those that a function given to a
map performs, and also after those that fail. At each moment a journal says what was appended to
which record, and the tree has emitted exactly what the journal says of the complete records at
the front of the document.
-/

namespace TemplateStream

open RenderTree

/-- An operation on chunks. -/
inductive ChunkCall where
  /-- The root chunk is taken. -/
  | root
  | write (chunk : Chunk) (value : Value)
  | tap (chunk : Chunk) (transform : Option Transform)
  | untap (chunk : Chunk)
  /-- A branch is forked, and the function that it is given to performs operations on any chunks
  before it answers or fails. -/
  | map (chunk : Chunk) (work : List ChunkCall) (answer : Except Fault Outcome)
  | finish (chunk : Chunk) (value : Value)

mutual

/-- Performs an operation. -/
def ChunkCall.perform : ChunkCall → PassM Unit
  | .root => discard Chunk.root
  | .write chunk value => chunk.write value
  | .tap chunk transform => chunk.tap transform
  | .untap chunk => chunk.untap
  | .map chunk work answer => chunk.map fun _ => do
    performAll work
    liftExcept answer
  | .finish chunk value => chunk.finish value

/-- Performs operations in order, whether they fail or not. -/
def performAll : List ChunkCall → PassM Unit
  | [] => pure ()
  | call :: rest => do
    discard (attempt call.perform)
    performAll rest

end

/-- What writing a value appends, and to which record: the text that the taps make of it, if the
handle and its record are open and no tap refuses. -/
def Chunk.appended (chunk : Chunk) (value : Value) (pass : Pass) : Option (Nat × String) :=
  match pass.handles[chunk.number]? with
  | none => none
  | some handle =>
    match value, (handle.taps.apply value.toText pass.memory).1 with
    | .null, _ | _, .error _ => none
    | _, .ok text =>
      if !handle.complete && pass.tree.isOpen handle.record then some (handle.record, text)
      else none

/-- A journal with what was appended, if anything was. -/
def RenderTree.Journal.enter (written : Journal) : Option (Nat × String) → Journal
  | none => written
  | some (index, text) => Function.update written index (written index ++ [text])

/-- The state of a pass, and what was appended to its records so far. -/
structure Snapshot where
  pass : Pass
  written : Journal

/-- The present moment and the earlier ones, the latest first. -/
structure History where
  now : Snapshot
  past : List Snapshot := []

/-- All moments of a history, the latest first. -/
def History.moments (history : History) : List Snapshot := history.now :: history.past

/-- A history that goes on to another moment. -/
def History.next (history : History) (pass : Pass) (written : Journal) : History :=
  ⟨⟨pass, written⟩, history.moments⟩

mutual

/-- The history after an operation. -/
def ChunkCall.extend (history : History) : ChunkCall → History
  | .write chunk value =>
    history.next (ChunkCall.perform (.write chunk value) history.now.pass).2
      (history.now.written.enter (chunk.appended value history.now.pass))
  | .finish chunk value =>
    history.next (ChunkCall.perform (.finish chunk value) history.now.pass).2
      (history.now.written.enter (chunk.appended value history.now.pass))
  | .map chunk work answer =>
    let inner := match chunk.branch history.now.pass with
      | (.ok _, forked) => extendAll (history.next forked history.now.written) work
      | (.error _, _) => history
    inner.next (ChunkCall.perform (.map chunk work answer) history.now.pass).2 inner.now.written
  | call => history.next (call.perform history.now.pass).2 history.now.written

/-- The history after operations in order. -/
def extendAll (history : History) : List ChunkCall → History
  | [] => history
  | call :: rest => extendAll (call.extend history) rest

end

/-- A tree has emitted exactly what can be emitted of what was appended to its records. -/
structure Exact (tree : RenderTree) (written : Journal) : Prop where
  /-- Each record is in the document once. -/
  order : tree.documentOrder.Perm (List.range tree.records.size)
  /-- Everything before the first incomplete record is out, in document order and in the order
  of writing. -/
  output : tree.output =
    solid ((tree.documentOrder.takeWhile tree.isComplete).flatMap written)
  /-- The sink has received the fragments that the output joins. -/
  delivered : tree.delivered = tree.output
  text : tree.text = String.join tree.delivered
  /-- The cursor is at the first incomplete record. -/
  cursor : tree.cursor = tree.documentOrder.find? fun index => !tree.isComplete index
  finished : tree.cursor = none ↔ ∀ index < tree.records.size, tree.isComplete index = true
  /-- From the cursor on no record is flushed, and each holds what was appended to it. -/
  waiting : ∀ index ∈ tree.documentOrder.dropWhile tree.isComplete,
    ∃ record, tree.records[index]? = some record ∧
      record.flushed = false ∧ record.fragments = written index

namespace RenderTree

variable {tree after : RenderTree} {written : Journal} {out rest : List Nat}

/-- A settled tree all of whose records are in the document. -/
def Whole (tree : RenderTree) (written : Journal) : Prop :=
  ∃ out rest, Settled tree written out rest ∧ (out ++ rest).length = tree.records.size

/-- A tree became another one that is whole, and what was emitted stayed. -/
structure Advances (before after : RenderTree) (written : Journal) : Prop where
  whole : Whole after written
  grows : before.output <+: after.output

/-- A whole tree that did not change is whole. -/
theorem Whole.unchanged (whole : Whole tree written) : Advances tree tree written :=
  ⟨whole, List.prefix_rfl⟩

/-- Trees that advance twice advance. -/
theorem Advances.trans {first second third : RenderTree} {early late : Journal}
    (once : Advances first second early) (twice : Advances second third late) :
    Advances first third late :=
  ⟨twice.whole, once.grows.trans twice.grows⟩

/-- Records that flow out later extend what was emitted. -/
theorem Settled.grows {moved left : List Nat} (before : Settled tree written out rest)
    (settled : Settled after written (out ++ moved) left) : tree.output <+: after.output := by
  rw [before.output, settled.output, List.flatMap_append, solid_append]
  exact List.prefix_append ..

/-- The records of a whole tree in document order are all its records. -/
theorem Layout.perm_range (layout : Layout tree written out rest)
    (whole : (out ++ rest).length = tree.records.size) :
    (out ++ rest).Perm (List.range tree.records.size) := by
  refine (List.subperm_of_subset layout.nodup layout.linked.subset_range).perm_of_length_le ?_
  exact Nat.le_of_eq (List.length_range.trans whole.symm)

/-- An open record of a whole tree waits. -/
theorem Layout.mem_rest {index : Nat} (layout : Layout tree written out rest)
    (whole : (out ++ rest).length = tree.records.size) (writable : tree.isOpen index = true) :
    index ∈ rest := by
  obtain ⟨record, found, _⟩ := isOpen_iff.mp writable
  have inside : index < tree.records.size := lt_size_of_found found
  have visited : index ∈ out ++ rest :=
    (layout.perm_range whole).mem_iff.mpr (List.mem_range.mpr inside)
  exact layout.waits_of_open visited (isComplete_of_isOpen writable)

/-- A new tree without strangers is whole, and nothing was written to it. -/
theorem fresh_whole : Whole (fresh #[]) fun _ => [] := ⟨[], [0], fresh_settled #[], rfl⟩

/-- Appending to any index advances the tree. -/
theorem append_advances (whole : Whole tree written) (index : Nat) (text : String) :
    Advances tree (append index text tree).2
      (written.enter (if tree.isOpen index then some (index, text) else none)) := by
  cases writable : tree.isOpen index with
  | false =>
    obtain ⟨fault, refused⟩ := append_refused writable text
    rw [refused]
    exact whole.unchanged
  | true =>
    obtain ⟨out, rest, settled, covers⟩ := whole
    obtain ⟨appended, alike⟩ := settled.receive writable [text]
    rw [append_step writable]
    exact ⟨⟨out, rest, appended, covers.trans alike.size.symm⟩, List.prefix_rfl⟩

/-- Completing any index advances the tree. -/
theorem complete_advances (whole : Whole tree written) (index : Nat) :
    Advances tree (complete index tree).2 written := by
  cases writable : tree.isOpen index with
  | false =>
    obtain ⟨fault, refused⟩ := complete_refused writable
    rw [refused]
    exact whole.unchanged
  | true =>
    obtain ⟨out, rest, settled, covers⟩ := whole
    obtain ⟨after, moved, left, completed, split, done, size, _⟩ := settled.complete writable
    rw [completed]
    refine ⟨⟨out ++ moved, left, done, ?_⟩, settled.grows done⟩
    rw [size, ← covers, split, List.append_assoc]

/-- Forking any index advances the tree. -/
theorem fork_advances (whole : Whole tree written) (index : Nat) :
    Advances tree (fork index tree).2 written := by
  cases writable : tree.isOpen index with
  | false =>
    obtain ⟨fault, refused⟩ := fork_refused writable
    rw [refused]
    exact whole.unchanged
  | true =>
    obtain ⟨out, rest, settled, covers⟩ := whole
    obtain ⟨after, moved, left, forked, split, done, size, _⟩ := settled.fork writable
    rw [forked]
    refine ⟨⟨out ++ moved, left, done, ?_⟩, settled.grows done⟩
    have waits := settled.mem_rest covers writable
    have longer := length_insertBehind (List.nodup_append.mp settled.nodup).2.1 waits
      [tree.records.size + 1, tree.records.size]
    rw [split, List.length_append] at longer
    rw [List.length_append] at covers
    rw [size, List.length_append, List.length_append, ← covers, Nat.add_assoc, longer]
    rfl

/-- The order of a settled tree splits at the cursor into the complete front and the rest. -/
theorem Settled.split (settled : Settled tree written out rest) :
    tree.documentOrder.takeWhile tree.isComplete = out ∧
      tree.documentOrder.dropWhile tree.isComplete = rest := by
  have complete : ∀ index ∈ out, tree.isComplete index = true := by
    intro index member
    obtain ⟨record, found, complete, _⟩ := settled.flowed index member
    rw [isComplete_of_found found, complete]
  rw [documentOrder_eq settled.linked settled.nodup, List.takeWhile_append_of_pos complete,
    List.dropWhile_append_of_pos complete]
  cases rest with
  | nil => simp
  | cons index rest =>
    have front : tree.isComplete index = false := settled.front index rfl
    simp [front]

/-- A whole tree has emitted exactly what can be emitted. -/
theorem Whole.exact (whole : Whole tree written) : Exact tree written := by
  obtain ⟨out, rest, settled, covers⟩ := whole
  obtain ⟨front, back⟩ := settled.split
  have ordered : tree.documentOrder = out ++ rest :=
    documentOrder_eq settled.linked settled.nodup
  have cursor : tree.cursor = tree.documentOrder.find? fun index => !tree.isComplete index := by
    rw [List.find?_not_eq_head?_dropWhile, back]
    exact settled.cursor
  refine {
    order := by
      rw [ordered]
      exact settled.perm_range covers
    output := by
      rw [front]
      exact settled.output
    delivered := settled.delivered
    text := by rw [settled.delivered]; rfl
    cursor := cursor
    finished := ?finished
    waiting := by
      rw [back]
      exact settled.waiting }
  case finished =>
    rw [cursor, List.find?_eq_none, ordered]
    constructor
    · intro complete index inside
      have visited := (settled.perm_range covers).mem_iff.mpr (List.mem_range.mpr inside)
      simpa using complete index visited
    · intro complete index visited
      have inside := List.mem_range.mp ((settled.perm_range covers).mem_iff.mp visited)
      simpa using complete index inside

end RenderTree

namespace Chunk

variable {pass : Pass} {chunk : Chunk} {written : Journal}

/-- Writing leaves the tree alone or appends a text to a record. -/
theorem write_tree (chunk : Chunk) (value : Value) (pass : Pass) :
    ((chunk.write value pass).2.tree = pass.tree ∧ chunk.appended value pass = none) ∨
      ∃ index text, (chunk.write value pass).2.tree = (append index text pass.tree).2 ∧
        chunk.appended value pass =
          if pass.tree.isOpen index then some (index, text) else none := by
  cases found : pass.handles[chunk.number]? with
  | none =>
    have unwritten : chunk.write value pass = (.error (.chunk .noRecord), pass) := by
      simp [write, bind_step, ensureOpen_absent found]
    rw [unwritten]
    exact .inl ⟨rfl, by simp only [appended, found]⟩
  | some handle =>
    cases complete : handle.complete with
    | true =>
      have unwritten : chunk.write value pass =
          (.error (.chunk (.closedChunk .write)), pass) := by
        simp [write, bind_step, ensureOpen_step found, complete]
      rw [unwritten]
      refine .inl ⟨rfl, ?_⟩
      simp only [appended, found, complete]
      split <;> rfl
    | false =>
      by_cases absent : value = .null
      · rw [absent, write_null found complete]
        exact .inl ⟨rfl, by simp only [appended, found]⟩
      · rw [write_step found complete absent]
        rcases applied : handle.taps.apply value.toText pass.memory with ⟨fault | text, memory⟩
        · exact .inl ⟨rfl, by cases value <;> simp_all [appended]⟩
        · exact .inr ⟨handle.record, text, rfl, by cases value <;> simp_all [appended]⟩

/-- Completing a chunk leaves the tree alone or completes a record. -/
theorem complete_tree (chunk : Chunk) (pass : Pass) :
    (chunk.complete pass).2.tree = pass.tree ∨
      ∃ index, (chunk.complete pass).2.tree = (RenderTree.complete index pass.tree).2 := by
  cases found : pass.handles[chunk.number]? with
  | none =>
    have refused : chunk.complete pass = (.error (.chunk .noRecord), pass) := by
      simp [Chunk.complete, bind_step, ensureOpen_absent found]
    exact .inl (by rw [refused])
  | some handle =>
    cases closed : handle.complete with
    | true =>
      have refused : chunk.complete pass = (.error (.chunk (.closedChunk .finish)), pass) := by
        simp [Chunk.complete, bind_step, ensureOpen_step found, closed]
      exact .inl (by rw [refused])
    | false =>
      by_cases untapped : handle.taps.depth = 0
      · exact .inr ⟨handle.record, by rw [complete_step found closed untapped]; rfl⟩
      · exact .inl (by rw [complete_tapped found closed untapped])

/-- Forking a branch leaves the tree alone or forks a record. -/
theorem branch_tree (chunk : Chunk) (pass : Pass) :
    (chunk.branch pass).2.tree = pass.tree ∨
      ∃ index, (chunk.branch pass).2.tree = (fork index pass.tree).2 := by
  cases found : pass.handles[chunk.number]? with
  | none =>
    have refused : chunk.branch pass = (.error (.chunk .noRecord), pass) := by
      simp [branch, bind_step, ensureOpen_absent found]
    exact .inl (by rw [refused])
  | some handle =>
    cases closed : handle.complete with
    | true =>
      have refused : chunk.branch pass = (.error (.chunk (.closedChunk .map)), pass) := by
        simp [branch, bind_step, ensureOpen_step found, closed]
      exact .inl (by rw [refused])
    | false =>
      refine .inr ⟨handle.record, ?_⟩
      rw [branch_step found closed]
      rcases RenderTree.fork handle.record pass.tree with ⟨fault | _, tree⟩ <;> rfl

/-- Writing advances the tree by what it appends. -/
theorem write_advances (whole : Whole pass.tree written) (value : Value) :
    Advances pass.tree (chunk.write value pass).2.tree
      (written.enter (chunk.appended value pass)) := by
  rcases chunk.write_tree value pass with ⟨same, nothing⟩ | ⟨index, text, appended, added⟩
  · rw [same, nothing]
    exact whole.unchanged
  · rw [appended, added]
    exact append_advances whole index text

/-- Completing a chunk advances the tree. -/
theorem complete_advances (whole : Whole pass.tree written) :
    Advances pass.tree (chunk.complete pass).2.tree written := by
  rcases chunk.complete_tree pass with same | ⟨index, completed⟩
  · rw [same]
    exact whole.unchanged
  · rw [completed]
    exact RenderTree.complete_advances whole index

/-- Finishing a chunk advances the tree by what it appends. -/
theorem finish_advances (whole : Whole pass.tree written) (value : Value) :
    Advances pass.tree (chunk.finish value pass).2.tree
      (written.enter (chunk.appended value pass)) := by
  have advances := chunk.write_advances whole value
  by_cases absent : value = .null
  · have nothing : chunk.appended .null pass = none := by
      cases found : pass.handles[chunk.number]? <;> simp only [appended, found]
    rw [absent, nothing]
    exact complete_advances whole
  · have unfolded : chunk.finish value = (do
        chunk.write value
        chunk.complete) := by
      cases value <;> first | rfl | exact absurd rfl absent
    rw [unfolded, bind_step]
    rcases result : chunk.write value pass with ⟨fault | _, after⟩
    · rw [result] at advances
      exact advances
    · rw [result] at advances
      exact advances.trans (complete_advances advances.whole)

/-- Forking a branch advances the tree. -/
theorem branch_advances (whole : Whole pass.tree written) :
    Advances pass.tree (chunk.branch pass).2.tree written := by
  rcases chunk.branch_tree pass with same | ⟨index, forked⟩
  · rw [same]
    exact whole.unchanged
  · rw [forked]
    exact fork_advances whole index

/-- Installing a tap leaves the tree alone. -/
theorem tap_tree (transform : Option Transform) :
    (chunk.tap transform pass).2.tree = pass.tree := by
  cases found : pass.handles[chunk.number]? with
  | none => simp [Chunk.tap, bind_step, ensureOpen_absent found]
  | some handle =>
    cases complete : handle.complete with
    | true => simp [Chunk.tap, bind_step, ensureOpen_step found, complete]
    | false =>
      cases transform with
      | none => simp [Chunk.tap, bind_step, ensureOpen_step found, complete]
      | some transform =>
        obtain ⟨tap, memory, installed⟩ := transform.install_ok pass.memory
        rw [tap_step found complete installed]
        rfl

/-- Removing a tap leaves the tree alone. -/
theorem untap_tree : (chunk.untap pass).2.tree = pass.tree := by
  cases found : pass.handles[chunk.number]? with
  | none => simp [untap, bind_step, handle_absent found]
  | some handle =>
    rw [untap_step found]
    cases handle.taps.pop <;> rfl

/-- Taking the root leaves the tree alone. -/
theorem root_tree : (root pass).2.tree = pass.tree := by
  cases taken : pass.rootTaken with
  | true => simp [root, bind_step, taken]
  | false => rw [root_step taken]

end Chunk

/-- Scheduling work leaves the tree alone. -/
theorem Pass.spawn_tree (work : Work) (pass : Pass) :
    (Pass.spawn work pass).2.tree = pass.tree := by
  cases looping : pass.looping <;> simp [Pass.spawn, Pass.enqueue, bind_step, looping]

/-- A history is sound when its trees are whole and what was emitted only grew. -/
structure History.Sound (history : History) : Prop where
  whole : ∀ snapshot ∈ history.moments, Whole snapshot.pass.tree snapshot.written
  grows : history.moments.Pairwise fun later earlier =>
    earlier.pass.tree.output <+: later.pass.tree.output

namespace History.Sound

variable {history : History} {pass : Pass} {written : Journal}

/-- The tree of the present moment of a sound history is whole. -/
theorem now (sound : history.Sound) : Whole history.now.pass.tree history.now.written :=
  sound.whole history.now List.mem_cons_self

/-- A sound history can go on to where its tree advances. -/
theorem next (sound : history.Sound)
    (advances : Advances history.now.pass.tree pass.tree written) :
    (history.next pass written).Sound := by
  constructor
  · intro snapshot member
    rcases List.mem_cons.mp member with rfl | earlier
    · exact advances.whole
    · exact sound.whole snapshot earlier
  · refine List.pairwise_cons.mpr ⟨?_, sound.grows⟩
    intro earlier member
    rcases List.mem_cons.mp member with rfl | past
    · exact advances.grows
    · exact ((List.pairwise_cons.mp sound.grows).1 earlier past).trans advances.grows

/-- A history goes on soundly when the tree did not change. -/
theorem same (sound : history.Sound) (unchanged : pass.tree = history.now.pass.tree) :
    (history.next pass history.now.written).Sound := by
  apply sound.next
  rw [unchanged]
  exact sound.now.unchanged

end History.Sound

/-- The history of an operation ends where the operation does. -/
theorem ChunkCall.extend_now (call : ChunkCall) (history : History) :
    (call.extend history).now.pass = (call.perform history.now.pass).2 := by
  cases call <;> rfl

/-- Operations never fail together, and their history ends where they do. -/
theorem performAll_step (calls : List ChunkCall) (history : History) :
    performAll calls history.now.pass = (.ok (), (extendAll history calls).now.pass) := by
  induction calls generalizing history with
  | nil => rfl
  | cons call rest ih =>
    have goesOn := ih (call.extend history)
    rw [call.extend_now] at goesOn
    simp [performAll, extendAll, bind_step, discard_step, goesOn]

/-- Taking the root as an operation leaves the tree alone. -/
theorem root_perform_tree {pass : Pass} : (ChunkCall.root.perform pass).2.tree = pass.tree := by
  have unchanged : (Chunk.root pass).2.tree = pass.tree := Chunk.root_tree
  simp only [ChunkCall.perform, discard_step]
  rcases taken : Chunk.root pass with ⟨_ | _, _⟩
  all_goals
    rw [taken] at unchanged
    exact unchanged

/-- After a map the tree is as the function given to it left it, whatever that answered. -/
theorem map_perform_tree {pass forked last : Pass} {chunk branch : Chunk}
    {work : List ChunkCall} (branched : chunk.branch pass = (.ok branch, forked))
    (worked : performAll work forked = (.ok (), last)) (answer : Except Fault Outcome) :
    (ChunkCall.perform (.map chunk work answer) pass).2.tree = last.tree := by
  simp only [ChunkCall.perform, Chunk.map, bind_step, branched, worked, liftExcept_step]
  cases answer with
  | error fault => rfl
  | ok outcome =>
    cases outcome with
    | awaitable work => exact Pass.spawn_tree work last
    | nothing | value _ | chunk _ => rfl

mutual

/-- Every operation goes on soundly. -/
theorem ChunkCall.extend_sound {history : History} (sound : history.Sound) :
    ∀ call : ChunkCall, (call.extend history).Sound
  | .root => sound.same root_perform_tree
  | .write chunk value => sound.next (chunk.write_advances sound.now value)
  | .tap chunk transform => sound.same (chunk.tap_tree transform)
  | .untap chunk => sound.same chunk.untap_tree
  | .map chunk work answer => by
    have advances := chunk.branch_advances sound.now
    rcases forked : chunk.branch history.now.pass with ⟨fault | branch, pass⟩
    · rw [forked] at advances
      have extended : ChunkCall.extend history (.map chunk work answer) =
          history.next pass history.now.written := by
        simp [ChunkCall.extend, ChunkCall.perform, Chunk.map, bind_step, forked]
      rw [extended]
      exact sound.next advances
    · rw [forked] at advances
      have inner := extendAll_sound (sound.next advances) work
      have worked := performAll_step work (history.next pass history.now.written)
      have extended : ChunkCall.extend history (.map chunk work answer) =
          (extendAll (history.next pass history.now.written) work).next
            (ChunkCall.perform (.map chunk work answer) history.now.pass).2
            (extendAll (history.next pass history.now.written) work).now.written := by
        simp only [ChunkCall.extend, forked]
      rw [extended]
      exact inner.same (map_perform_tree forked worked answer)
  | .finish chunk value => sound.next (chunk.finish_advances sound.now value)

/-- Operations in order go on soundly. -/
theorem extendAll_sound {history : History} (sound : history.Sound) :
    ∀ calls : List ChunkCall, (extendAll history calls).Sound
  | [] => sound
  | call :: rest => extendAll_sound (call.extend_sound sound) rest

end

/-- The history that starts with a new tree. -/
def History.start (sink : Sink) (looping : Bool) : History :=
  ⟨⟨Pass.start sink looping, fun _ => []⟩, []⟩

/-- With a sink that refuses nothing, after every operation of every sequence of operations on
chunks, be they refused or not, exactly what can be emitted has been emitted, and nothing that
was emitted is ever taken back. -/
theorem flush_exact (sink : Sink) (looping : Bool)
    (accepts : ∀ received fragment, sink received fragment = none) (calls : List ChunkCall) :
    let history := extendAll (.start sink looping) calls
    (∀ snapshot ∈ history.moments, Exact snapshot.pass.tree snapshot.written) ∧
      history.moments.Pairwise fun later earlier =>
        earlier.pass.tree.output <+: later.pass.tree.output := by
  obtain rfl : sink = .accepting := funext fun received => funext (accepts received)
  have started : (History.start .accepting looping).Sound :=
    ⟨fun snapshot member => by rw [List.mem_singleton.mp member]; exact fresh_whole,
      List.pairwise_singleton ..⟩
  have sound := extendAll_sound started calls
  exact ⟨fun snapshot member => (sound.whole snapshot member).exact, sound.grows⟩

/-- A root that goes on behind a branch is ended before the branch, and writes to it once more. -/
def branchEndedLast : List ChunkCall := [
  .root,
  .write ⟨0⟩ (.text "a"),
  .map ⟨0⟩ [.write ⟨1⟩ (.text "b"), .write ⟨0⟩ (.text "c")] (.ok .nothing),
  .finish ⟨0⟩ .null,
  .write ⟨0⟩ (.text "d"),
  .finish ⟨1⟩ .null]

/-- What the branch holds back comes out in its place when the branch is ended. -/
theorem flush_exact_branchEndedLast :
    let history := extendAll (.start .accepting false) branchEndedLast
    (∀ received fragment, Sink.accepting received fragment = none) ∧
      history.now.pass.tree.output = ["a", "b", "c"] ∧
      (∀ snapshot ∈ history.moments, Exact snapshot.pass.tree snapshot.written) ∧
      history.moments.Pairwise fun later earlier =>
        earlier.pass.tree.output <+: later.pass.tree.output :=
  ⟨fun _ _ => rfl, by decide +kernel, flush_exact .accepting false (fun _ _ => rfl) branchEndedLast⟩

/-- Trees that were whole advance, whatever a pass does. -/
theorem advances_lasting : Lasting fun pass after =>
    ∀ written, Whole pass.tree written → ∃ later, Advances pass.tree after.tree later where
  trans once twice written whole := by
    obtain ⟨later, advances⟩ := once written whole
    obtain ⟨last, goesOn⟩ := twice later advances.whole
    exact ⟨last, advances.trans goesOn⟩
  elsewhere tree _ _ written whole := by
    rw [tree]
    exact ⟨written, whole.unchanged⟩
  append index text _ _ whole := ⟨_, append_advances whole index text⟩
  fork index _ written whole := ⟨written, fork_advances whole index⟩
  complete index _ written whole := ⟨written, complete_advances whole index⟩
  recovery _ _ _ written whole := ⟨written, whole.unchanged⟩

/-- Whatever is done, trees that were whole advance. -/
theorem advances_endure : Abiding fun pass after =>
    ∀ written, Whole pass.tree written → ∃ later, Advances pass.tree after.tree later where
  toEnduring := advances_lasting.enduring
  failure _ _ written whole := ⟨written, whole.unchanged⟩

/-- Rendering a body, of whatever kind and whether it fails or not, leaves a tree that has
emitted exactly what can be emitted. -/
theorem Body.render_advances {pass : Pass} {written : Journal} (whole : Whole pass.tree written)
    (body : Body) (chunk : Chunk) (context : Context) :
    ∃ later, Advances pass.tree (Body.render body chunk context pass).2.tree later :=
  advances_endure.renderTo Body.nestingLimit body chunk context pass written whole

/-- So does a turn of the work that was scheduled. -/
theorem Pass.turn_advances {pass : Pass} {written : Journal} (whole : Whole pass.tree written) :
    ∃ later, Advances pass.tree (Pass.turn Body.render pass).2.tree later :=
  advances_endure.turn (advances_endure.renderTo Body.nestingLimit) pass written whole

end TemplateStream
