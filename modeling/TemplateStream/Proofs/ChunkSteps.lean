import TemplateStream.Proofs.Steps
import TemplateStream.Chunk

/-!
# Steps of chunks

What each operation on a chunk does to the state of a pass, for a chunk whose handle is known. An
operation touches the handle, the record that it writes into and the memory of its taps; all
else stays as it is.
-/

namespace TemplateStream

/-- Installing a transform never fails. -/
theorem Transform.install_ok (transform : Transform) (memory : TapMemory) :
    ∃ tap after, transform.install memory = (.ok tap, after) := by
  cases transform with
  | stateless apply => exact ⟨_, _, rfl⟩
  | remembering apply => exact ⟨_, _, rfl⟩

namespace TapStack

variable {stack : TapStack}

/-- A new tap is one more of the owner's own. -/
theorem depth_push (own : stack.inherited ≤ stack.frames.length) (tap : Tap) :
    (stack.push tap).depth = stack.depth + 1 := by
  simp only [push, depth, List.length_cons]
  omega

/-- The newest tap can be taken off when the owner has one. -/
theorem pop_of_depth {depth : Nat} (owned : stack.depth = depth + 1) :
    ∃ tap rest, stack.frames = tap :: rest ∧
      stack.pop = .ok (tap, { stack with frames := rest }) ∧
      stack.inherited ≤ rest.length ∧ rest.length - stack.inherited = depth := by
  rw [TapStack.depth] at owned
  cases frames : stack.frames with
  | nil => simp [frames] at owned
  | cons tap rest =>
    rw [frames, List.length_cons] at owned
    refine ⟨tap, rest, rfl, ?_, by omega, by omega⟩
    have inside : stack.inherited < stack.frames.length := by
      rw [frames, List.length_cons]
      omega
    simp only [pop, frames] at inside ⊢
    rw [if_pos inside]

/-- Taking a new tap off again gives the old taps, if it can be taken off. -/
theorem pop_push {tap other : Tap} {left : TapStack}
    (popped : (stack.push tap).pop = .ok (other, left)) : left = stack := by
  have step : (stack.push tap).pop =
      if stack.inherited < stack.frames.length + 1 then .ok (tap, stack)
      else .error (.chunk .unmatchedUntap) := rfl
  rw [step] at popped
  split at popped
  · cases popped
    rfl
  · cases popped

/-- None of the taps that a stack inherits are the owner's own. -/
@[simp]
theorem depth_inherit : stack.inherit.depth = 0 := Nat.sub_self _

end TapStack

/-- What a tap that refuses nothing makes of a text. -/
def Tap.effect : Tap → String → String
  | .stateless apply, text => (apply text).toOption.getD text
  | .remembering .., text => text

/-- A tap that refuses nothing and remembers nothing. -/
def Tap.IsTotal (tap : Tap) : Prop := ∃ apply : String → String, tap = .stateless (.ok ∘ apply)

/-- Taps that refuse nothing pass text on, the newest first. -/
theorem TapStack.apply_total {stack : TapStack} (total : ∀ tap ∈ stack.frames, tap.IsTotal)
    (text : String) (memory : TapMemory) :
    stack.apply text memory =
      (.ok ((stack.frames.map Tap.effect).foldl (fun text apply => apply text) text),
        memory) := by
  rw [TapStack.apply]
  generalize stack.frames = frames at total
  induction frames generalizing text with
  | nil => rfl
  | cons tap rest ih =>
    obtain ⟨apply, rfl⟩ := total tap List.mem_cons_self
    rw [List.foldlM_cons, bind_step]
    exact ih (apply text) fun other member => total other (List.mem_cons_of_mem _ member)

/-- A pass with the handle of a chunk changed. -/
def Pass.changed (pass : Pass) (chunk : Chunk) (change : Handle → Handle) : Pass :=
  { pass with handles := pass.handles.modify chunk.number change }

namespace Chunk

variable {pass : Pass} {chunk : Chunk} {handle : Handle}

/-- Looking up a handle that is there gives it. -/
theorem handle_step (found : pass.handles[chunk.number]? = some handle) :
    chunk.handle pass = (.ok handle, pass) := by
  simp [Chunk.handle, bind_step, found]

/-- Looking up a handle that is not there fails. -/
theorem handle_absent (absent : pass.handles[chunk.number]? = none) :
    chunk.handle pass = (.error (.chunk .noRecord), pass) := by
  simp [Chunk.handle, bind_step, absent]

/-- Changing a handle changes nothing else. -/
@[simp]
theorem update_step (change : Handle → Handle) :
    chunk.update change pass = (.ok (), pass.changed chunk change) := rfl

/-- A new handle gets the next number. -/
@[simp]
theorem create_step (handle : Handle) :
    create handle pass =
      (.ok ⟨pass.handles.size⟩, { pass with handles := pass.handles.push handle }) := rfl

/-- Every operation but the removal of a tap fails on a complete chunk. -/
theorem ensureOpen_step (found : pass.handles[chunk.number]? = some handle)
    (operation : ChunkOperation) :
    chunk.ensureOpen operation pass =
      (if handle.complete then .error (.chunk (.closedChunk operation)) else .ok (), pass) := by
  cases complete : handle.complete <;>
    simp [ensureOpen, bind_step, handle_step found, complete]

/-- A chunk on which an operation is allowed has an open handle. -/
theorem ensureOpen_ok {operation : ChunkOperation} {after : Pass}
    (allowed : chunk.ensureOpen operation pass = (.ok (), after)) :
    pass = after ∧ ∃ handle, pass.handles[chunk.number]? = some handle ∧
      handle.complete = false := by
  cases found : pass.handles[chunk.number]? with
  | none =>
    simp only [ensureOpen, bind_step, handle_absent found] at allowed
    cases allowed
  | some handle =>
    rw [ensureOpen_step found] at allowed
    cases complete : handle.complete with
    | true =>
      rw [complete] at allowed
      cases allowed
    | false =>
      rw [complete] at allowed
      cases allowed
      exact ⟨rfl, handle, rfl, complete⟩

/-- Without a handle nothing can be asked of a chunk. -/
theorem ensureOpen_absent (absent : pass.handles[chunk.number]? = none)
    (operation : ChunkOperation) :
    chunk.ensureOpen operation pass = (.error (.chunk .noRecord), pass) := by
  simp [ensureOpen, bind_step, handle_absent absent]

/-- The number of taps of the owner is that of the handle. -/
theorem tapDepth_step (found : pass.handles[chunk.number]? = some handle) :
    chunk.tapDepth pass = (.ok handle.taps.depth, pass) := by
  simp [tapDepth, bind_step, handle_step found]

/-- Null writes nothing. -/
theorem write_null (found : pass.handles[chunk.number]? = some handle)
    (isOpen : handle.complete = false) : chunk.write .null pass = (.ok (), pass) := by
  simp [write, bind_step, ensureOpen_step found, isOpen]

/-- A value is written as its text, which the taps pass on to the record. -/
theorem write_step (found : pass.handles[chunk.number]? = some handle)
    (isOpen : handle.complete = false) {value : Value} (present : value ≠ .null) :
    chunk.write value pass =
      match handle.taps.apply value.toText pass.memory with
      | (.ok text, memory) =>
        Pass.onTree (RenderTree.append handle.record text) { pass with memory }
      | (.error fault, memory) => (.error fault, { pass with memory }) := by
  have unfolded : chunk.write value = (do
      chunk.ensureOpen .write
      let handle ← chunk.handle
      let text ← Pass.onTaps (handle.taps.apply value.toText)
      Pass.onTree (RenderTree.append handle.record text)) := by
    cases value <;> first | rfl | exact absurd rfl present
  rw [unfolded]
  simp only [bind_step, ensureOpen_step found, isOpen, Bool.false_eq_true, if_false,
    handle_step found, Pass.onTaps_step]
  rcases handle.taps.apply value.toText pass.memory with ⟨_ | _, _⟩ <;> rfl

/-- A tap is put on top of the taps of the handle. -/
theorem tap_step (found : pass.handles[chunk.number]? = some handle)
    (isOpen : handle.complete = false) {transform : Transform} {tap : Tap} {memory : TapMemory}
    (installed : transform.install pass.memory = (.ok tap, memory)) :
    chunk.tap (some transform) pass =
      (.ok (), { pass with memory }.changed chunk
        fun handle => { handle with taps := handle.taps.push tap }) := by
  simp [Chunk.tap, bind_step, ensureOpen_step found, isOpen, installed]

/-- The newest tap is taken off the taps of the handle, if it is the owner's own. -/
theorem untap_step (found : pass.handles[chunk.number]? = some handle) :
    chunk.untap pass =
      match handle.taps.pop with
      | .ok (_, taps) => (.ok (), pass.changed chunk ({ · with taps := taps }))
      | .error fault => (.error fault, pass) := by
  cases popped : handle.taps.pop <;>
    simp [untap, bind_step, handle_step found, popped]

/-- A branch is a new handle on a new record, and the handle goes on behind it. -/
theorem branch_step (found : pass.handles[chunk.number]? = some handle)
    (isOpen : handle.complete = false) :
    chunk.branch pass =
      match RenderTree.fork handle.record pass.tree with
      | (.ok (branch, continuation), tree) =>
        (.ok ⟨pass.handles.size⟩,
          { pass with
            tree
            handles := pass.handles.push { record := branch, taps := handle.taps.inherit }
          }.changed chunk ({ · with record := continuation }))
      | (.error fault, tree) => (.error fault, { pass with tree }) := by
  simp only [branch, bind_step, ensureOpen_step found, isOpen, Bool.false_eq_true, if_false,
    handle_step found, Pass.onTree_step]
  rcases RenderTree.fork handle.record pass.tree with ⟨_ | _, _⟩ <;> rfl

/-- Completing a chunk without taps of its own completes its record. -/
theorem complete_step (found : pass.handles[chunk.number]? = some handle)
    (isOpen : handle.complete = false) (untapped : handle.taps.depth = 0) :
    chunk.complete pass =
      Pass.onTree (RenderTree.complete handle.record)
        (pass.changed chunk ({ · with complete := true })) := by
  simp [complete, bind_step, ensureOpen_step found, isOpen, handle_step found, untapped]

/-- A chunk that still has taps of its own cannot be completed. -/
theorem complete_tapped (found : pass.handles[chunk.number]? = some handle)
    (isOpen : handle.complete = false) (tapped : handle.taps.depth ≠ 0) :
    chunk.complete pass = (.error (.chunk (.tapsLeft handle.taps.depth)), pass) := by
  simp [complete, bind_step, ensureOpen_step found, isOpen, handle_step found, tapped]

/-- Finishing with a value writes it first. -/
theorem finish_present {value : Value} (present : value ≠ .null) :
    chunk.finish value = (do
      chunk.write value
      chunk.complete) := by
  cases value <;> first | rfl | exact absurd rfl present

/-- The root is a chunk on the first record of the document. -/
theorem root_step (untaken : pass.rootTaken = false) :
    root pass =
      (.ok ⟨pass.handles.size⟩,
        { pass with
          rootTaken := true
          handles := pass.handles.push { record := pass.tree.head } }) := by
  simp [root, bind_step, untaken]

end Chunk

end TemplateStream
