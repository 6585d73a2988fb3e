import TemplateStream.Pass

/-!
# Chunks

A chunk is a writable place in a document. What is written passes through the taps of the chunk
first. Mapping forks a branch at the current place; the chunk itself goes on behind the branch,
so that a handle keeps its identity and siblings keep their order. Every chunk has to be ended.
-/

namespace TemplateStream.Chunk

/-- The state of a chunk's handle. -/
def handle (chunk : Chunk) : PassM Handle := do
  match (← get).handles[chunk.number]? with
  | some handle => pure handle
  | none => throw (.chunk .noRecord)

/-- Changes the state of a chunk's handle. -/
def update (chunk : Chunk) (change : Handle → Handle) : PassM Unit :=
  modify fun pass => { pass with handles := pass.handles.modify chunk.number change }

/-- A new handle. -/
def create (handle : Handle) : PassM Chunk := do
  let number := (← get).handles.size
  modify fun pass => { pass with handles := pass.handles.push handle }
  pure ⟨number⟩

/-- The root chunk, which can be taken once. -/
def root : PassM Chunk := do
  let pass ← get
  if pass.rootTaken then
    throw (.chunk .rootTaken)
  set { pass with rootTaken := true }
  create { record := pass.tree.head }

/-- Fails when the chunk is complete. -/
def ensureOpen (chunk : Chunk) (operation : ChunkOperation) : PassM Unit := do
  if (← chunk.handle).complete then
    throw (.chunk (.closedChunk operation))

/-- The number of taps that were installed through the chunk. -/
def tapDepth (chunk : Chunk) : PassM Nat := do
  pure (← chunk.handle).taps.depth

/-- Writes the text of a value through the taps of the chunk. Null writes nothing. -/
def write (chunk : Chunk) (value : Value) : PassM Unit := do
  chunk.ensureOpen .write
  match value with
  | .null => pure ()
  | value =>
    let handle ← chunk.handle
    let text ← Pass.onTaps (handle.taps.apply value.toText)
    Pass.onTree (RenderTree.append handle.record text)

/-- Installs a tap. -/
def tap (chunk : Chunk) (transform : Option Transform) : PassM Unit := do
  chunk.ensureOpen .tap
  match transform with
  | none => throw (.chunk .notTransform)
  | some transform =>
    let tap ← Pass.onTaps transform.install
    chunk.update fun handle => { handle with taps := handle.taps.push tap }

/-- Removes the newest tap. -/
def untap (chunk : Chunk) : PassM Unit := do
  let (_, taps) ← liftExcept (← chunk.handle).taps.pop
  chunk.update fun handle => { handle with taps := taps }

/-- Forks a branch at the current place. It inherits all taps of the chunk, which itself goes on
behind the branch. -/
def branch (chunk : Chunk) : PassM Chunk := do
  chunk.ensureOpen .map
  let handle ← chunk.handle
  let (branch, continuation) ← Pass.onTree (RenderTree.fork handle.record)
  let branch ← create { record := branch, taps := handle.taps.inherit }
  chunk.update fun handle => { handle with record := continuation }
  pure branch

/-- Forks a branch at the current place and gives it to a function. What the function answers
with is scheduled when it has to be awaited. -/
def map (chunk : Chunk) (work : Chunk → PassM Outcome) : PassM Unit := do
  match ← work (← chunk.branch) with
  | .awaitable work => Pass.spawn work
  | _ => pure ()

/-- Completes the chunk, whose taps must all have been removed. -/
def complete (chunk : Chunk) : PassM Unit := do
  chunk.ensureOpen .finish
  let handle ← chunk.handle
  if handle.taps.depth != 0 then
    throw (.chunk (.tapsLeft handle.taps.depth))
  chunk.update fun handle => { handle with complete := true }
  Pass.onTree (RenderTree.complete handle.record)

/-- Writes a value, if it is not null, and completes the chunk. -/
def finish (chunk : Chunk) (value : Value := .null) : PassM Unit := do
  match value with
  | .null => chunk.complete
  | value =>
    chunk.write value
    chunk.complete

/-- Ends a chunk that was not ended yet. -/
def close (chunk : Chunk) : PassM Unit := do
  if !(← chunk.handle).complete then
    chunk.finish

end TemplateStream.Chunk
