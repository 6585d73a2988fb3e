import Mathlib.Logic.Relation
import TemplateStream.Proofs.FlushExactness
import TemplateStream.Proofs.Schedules

/-!
# Elementary operations

Whatever is done to the chunks of a pass is done by a few elementary operations: the root is
taken, a value is written, a tap is put on or taken off, a branch is forked, a chunk is completed.
Rendering a body, running a script, mapping, ending a chunk and every turn of the work that was
scheduled are chains of these, between which neither the tree nor a handle changes. A run is such
a chain too: calls of the operations from outside, and pending work that goes on in any order.
-/

namespace TemplateStream

open RenderTree Relation

/-- An elementary operation on chunks. -/
inductive Operation where
  /-- The root chunk is taken. -/
  | root
  | write (chunk : Chunk) (value : Value)
  | tap (chunk : Chunk) (transform : Option Transform)
  | untap (chunk : Chunk)
  /-- A branch is forked, and the chunk goes on behind it. -/
  | branch (chunk : Chunk)
  | complete (chunk : Chunk)

namespace Operation

/-- Performs an operation. -/
def perform : Operation → PassM Unit
  | .root => discard Chunk.root
  | .write chunk value => chunk.write value
  | .tap chunk transform => chunk.tap transform
  | .untap chunk => chunk.untap
  | .branch chunk => discard chunk.branch
  | .complete chunk => chunk.complete

/-- The chunk that an operation is called on. The root is taken from the tree. -/
def target : Operation → Option Chunk
  | .root => none
  | .write chunk _ | .tap chunk _ | .untap chunk | .branch chunk | .complete chunk => some chunk

/-- What an operation appends, and to which record. -/
def appended (pass : Pass) : Operation → Option (Nat × String)
  | .write chunk value => chunk.appended value pass
  | _ => none

/-- A property of a tree and of what was written to its records, which the operations on records
keep. -/
structure Durable (property : RenderTree → Journal → Prop) : Prop where
  append : ∀ {tree written}, property tree written → ∀ index text,
    property (append index text tree).2
      (written.enter (if tree.isOpen index then some (index, text) else none))
  complete : ∀ {tree written}, property tree written → ∀ index,
    property (RenderTree.complete index tree).2 written
  fork : ∀ {tree written}, property tree written → ∀ index, property (fork index tree).2 written

/-- An operation keeps what is durable, with what it appends. -/
theorem Durable.operation {property : RenderTree → Journal → Prop} (durable : Durable property)
    {pass : Pass} {written : Journal} (kept : property pass.tree written)
    (operation : Operation) :
    property (operation.perform pass).2.tree (written.enter (operation.appended pass)) := by
  cases operation with
  | root =>
    rw [perform, discard_state, Chunk.root_tree]
    exact kept
  | write chunk value =>
    rw [perform, appended]
    rcases chunk.write_tree value pass with ⟨same, nothing⟩ | ⟨index, text, tree, added⟩
    · rw [same, nothing]
      exact kept
    · rw [tree, added]
      exact durable.append kept index text
  | tap chunk transform =>
    rw [perform, Chunk.tap_tree]
    exact kept
  | untap chunk =>
    rw [perform, Chunk.untap_tree]
    exact kept
  | branch chunk =>
    rw [perform, discard_state]
    rcases chunk.branch_tree pass with same | ⟨index, forked⟩
    · rw [same]
      exact kept
    · rw [forked]
      exact durable.fork kept index
  | complete chunk =>
    rw [perform]
    rcases chunk.complete_tree pass with same | ⟨index, completed⟩
    · rw [same]
      exact kept
    · rw [completed]
      exact durable.complete kept index

/-- That a tree is whole is durable. -/
theorem whole_durable : Durable Whole where
  append whole index text := (append_advances whole index text).whole
  complete whole index := (complete_advances whole index).whole
  fork whole index := (fork_advances whole index).whole

end Operation

namespace Pass

/-- What a pass goes on to: an operation is performed, or something happens that touches neither
the tree nor a handle. -/
inductive Goes : Pass → Pass → Prop where
  | performs (pass : Pass) (operation : Operation) : Goes pass (operation.perform pass).2
  | aside {pass after : Pass} (untouched : pass.Untouched after) : Goes pass after

/-- What a pass can become by a chain of operations. -/
abbrev Reaches : Pass → Pass → Prop := ReflTransGen Goes

/-- An operation is a chain by itself. -/
theorem reaches_perform (operation : Operation) : Keeps Reaches operation.perform :=
  fun pass => .single (.performs pass operation)

/-- An operation is a chain by itself, also when its result is wanted. -/
theorem reaches_discard {α : Type} {step : PassM α} (kept : Keeps Reaches (discard step)) :
    Keeps Reaches step := by
  intro pass
  rw [← discard_state]
  exact kept pass

end Pass

/-- Whatever is done to the chunks of a pass is a chain of operations. -/
theorem reaches_endure : Abiding Pass.Reaches where
  trans := .trans
  elsewhere untouched _ _ := .single (.aside untouched)
  root := Pass.reaches_discard (Pass.reaches_perform .root)
  write chunk value := Pass.reaches_perform (.write chunk value)
  tap chunk transform := Pass.reaches_perform (.tap chunk transform)
  untap chunk := Pass.reaches_perform (.untap chunk)
  branch chunk := Pass.reaches_discard (Pass.reaches_perform (.branch chunk))
  complete chunk := Pass.reaches_perform (.complete chunk)
  recovery _ _ _ := .single (.aside ⟨rfl, rfl, rfl⟩)
  failure _ _ := .single (.aside ⟨rfl, rfl, rfl⟩)

/-! ## Runs -/

/-- A call on a chunk from outside of the scheduled work. -/
inductive HandleCall where
  /-- An operation on chunks. -/
  | chunk (call : ChunkCall)
  /-- A body of any kind is rendered into a chunk. -/
  | render (chunk : Chunk) (body : Body) (context : Context)
  /-- A branch is forked, and the function that it is given to makes calls on any chunks before it
  answers or fails. -/
  | map (chunk : Chunk) (work : List HandleCall) (answer : Except Fault Outcome)

mutual

/-- Makes a call. -/
def HandleCall.perform : HandleCall → PassM Unit
  | .chunk call => call.perform
  | .render chunk body context => discard (Body.render body chunk context)
  | .map chunk work answer => chunk.map fun _ => do
    performCalls work
    liftExcept answer

/-- Makes calls in order, whether they fail or not. -/
def performCalls : List HandleCall → PassM Unit
  | [] => pure ()
  | call :: rest => do
    discard (attempt call.perform)
    performCalls rest

end

/-- The fault of a result, if it is one. -/
def faultsOf {α : Type} : Except Fault α → List Fault
  | .ok _ => []
  | .error fault => [fault]

/-- A pass that was run: calls were made, time passed and gates opened, and work went on. The
faults of the work are listed in the order of time. -/
inductive Pass.Runs (origin : Pass) : List Fault → Pass → Prop where
  | start : origin.Runs [] origin
  | calls {faults : List Fault} {pass : Pass} (ran : origin.Runs faults pass)
      (call : HandleCall) : origin.Runs faults (call.perform pass).2
  | waits {faults : List Fault} {pass after : Pass} (ran : origin.Runs faults pass)
      (waited : pass.Waited after) : origin.Runs faults after
  | works {faults : List Fault} {pass : Pass} {work : Work} {rest : List Work}
      (ran : origin.Runs faults pass) (first : pass.agenda.ready = work :: rest) :
      origin.Runs (faults ++ faultsOf (work.step Body.render (pass.queued rest)).1)
        (Pass.turn Body.render pass).2

section calls

variable {relation : Pass → Pass → Prop}

mutual

/-- A call on chunks keeps every relation that is carried. -/
theorem Carried.chunkCall (carried : Carried relation) :
    ∀ call : ChunkCall, Keeps relation call.perform
  | .root => carried.root.discard
  | .write chunk value => carried.write chunk value
  | .tap chunk transform => carried.tap chunk transform
  | .untap chunk => carried.untap chunk
  | .map chunk work answer => carried.map chunk fun _ =>
    carried.bind (carried.chunkCalls work) fun _ => carried.lift answer
  | .finish chunk value => carried.finish chunk value

/-- So do several. -/
theorem Carried.chunkCalls (carried : Carried relation) :
    ∀ calls : List ChunkCall, Keeps relation (performAll calls)
  | [] => carried.pure ()
  | call :: rest =>
    carried.bind (carried.chunkCall call).attempt.discard fun _ => carried.chunkCalls rest

end

mutual

/-- A call from outside keeps every relation that is carried. -/
theorem Carried.call (carried : Carried relation) :
    ∀ call : HandleCall, Keeps relation call.perform
  | .chunk call => carried.chunkCall call
  | .render chunk body context =>
    (carried.renderTo Body.nestingLimit body chunk context).discard
  | .map chunk work answer => carried.map chunk fun _ =>
    carried.bind (carried.calls work) fun _ => carried.lift answer

/-- So do several. -/
theorem Carried.calls (carried : Carried relation) :
    ∀ calls : List HandleCall, Keeps relation (performCalls calls)
  | [] => carried.pure ()
  | call :: rest =>
    carried.bind (carried.call call).attempt.discard fun _ => carried.calls rest

end

end calls

namespace Pass.Runs

variable {origin pass : Pass} {faults : List Fault}

/-- A run keeps every relation that turns keep and waiting does. -/
theorem keeps {relation : Pass → Pass → Prop} (abiding : Abiding relation)
    (ran : origin.Runs faults pass) : relation origin pass := by
  induction ran with
  | start => exact abiding.elsewhere ⟨rfl, rfl, rfl⟩ rfl rfl
  | calls _ call ih => exact abiding.trans ih (abiding.call call _)
  | waits _ waited ih =>
    obtain ⟨agenda, gates, _, rfl⟩ := waited
    exact abiding.trans ih (abiding.elsewhere ⟨rfl, rfl, rfl⟩ rfl rfl)
  | works _ _ ih =>
    exact abiding.trans ih (abiding.turn (abiding.renderTo Body.nestingLimit) _)

/-- A run goes on with several calls, whether they fail or not. -/
theorem performs (ran : origin.Runs faults pass) (calls : List HandleCall) :
    origin.Runs faults (performCalls calls pass).2 := by
  induction calls generalizing pass with
  | nil => exact ran
  | cons call rest ih =>
    simp only [performCalls, bind_step, discard_step, attempt_step]
    exact ih (ran.calls call)

/-- A run is a chain of operations. -/
theorem reaches (ran : origin.Runs faults pass) : origin.Reaches pass :=
  ran.keeps reaches_endure

end Pass.Runs

end TemplateStream
