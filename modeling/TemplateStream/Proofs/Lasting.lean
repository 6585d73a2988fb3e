import TemplateStream.Proofs.Enduring

/-!
# What lasts

The operations on chunks are made of steps on the tree, the taps and the handles of a pass, so they
keep a relation between the states of a pass that is grounded in these. It lasts when only the
operations on the tree need to keep it, since it says nothing about the rest of the pass but its
recoveries and failures. A relation that lasts endures.
-/

namespace TemplateStream

/-- A relation that the steps on the tree, the taps and the handles of a pass keep. -/
structure Grounded (relation : Pass → Pass → Prop) : Prop where
  trans : ∀ {first second third}, relation first second → relation second third →
    relation first third
  refl : ∀ pass, relation pass pass
  taken : ∀ pass, relation pass { pass with rootTaken := true }
  onTaps : ∀ {α : Type} (step : TapM α), Keeps relation (Pass.onTaps step)
  update : ∀ chunk change, Keeps relation (Chunk.update chunk change)
  create : ∀ handle, Keeps relation (Chunk.create handle)
  append : ∀ index text, Keeps relation (Pass.onTree (RenderTree.append index text))
  fork : ∀ index, Keeps relation (Pass.onTree (RenderTree.fork index))
  complete : ∀ index, Keeps relation (Pass.onTree (RenderTree.complete index))

/-- A relation that all operations of a pass keep. -/
structure Lasting (relation : Pass → Pass → Prop) : Prop extends Grounded relation where
  /-- The relation is about the tree, the recoveries and the failures alone. -/
  elsewhere : ∀ {pass after : Pass}, after.tree = pass.tree →
    after.recoveries = pass.recoveries → after.failures = pass.failures → relation pass after
  recovery : ∀ helper fault, Keeps relation (Pass.noteRecovery helper fault)
  refl := fun _ => elsewhere rfl rfl rfl
  taken := fun _ => elsewhere rfl rfl rfl
  onTaps := fun _ _ => elsewhere rfl rfl rfl
  update := fun _ _ _ => elsewhere rfl rfl rfl
  create := fun _ _ => elsewhere rfl rfl rfl

namespace Grounded

variable {relation : Pass → Pass → Prop} {α β : Type}

/-- A step that changes nothing keeps every relation that is grounded. -/
theorem unchanged (grounded : Grounded relation) {step : PassM α}
    (same : ∀ pass, (step pass).2 = pass) : Keeps relation step :=
  Keeps.unchanged grounded.refl same

/-- A sequence keeps the relation when its steps do. -/
theorem bind (grounded : Grounded relation) {step : PassM α} {next : α → PassM β}
    (first : Keeps relation step) (second : ∀ value, Keeps relation (next value)) :
    Keeps relation (step >>= next) :=
  Keeps.bind grounded.trans first second

/-- What an open chunk is asked for keeps the relation when what is done for it does. -/
theorem opened (grounded : Grounded relation) {chunk : Chunk} {operation : ChunkOperation}
    {next : Handle → PassM β} (kept : ∀ handle, Keeps relation (next handle)) :
    Keeps relation (do chunk.ensureOpen operation; next (← chunk.handle)) :=
  grounded.bind (grounded.unchanged (chunk.ensureOpen_same operation)) fun _ =>
    grounded.bind (grounded.unchanged chunk.handle_same) kept

/-- Taking the root keeps the relation. -/
theorem root (grounded : Grounded relation) : Keeps relation Chunk.root := by
  intro pass
  cases taken : pass.rootTaken with
  | true =>
    have refused : Chunk.root pass = (.error (.chunk .rootTaken), pass) := by
      simp [Chunk.root, bind_step, taken]
    rw [refused]
    exact grounded.refl pass
  | false =>
    rw [Chunk.root_step taken]
    exact grounded.trans (grounded.taken pass) (grounded.create { record := pass.tree.head } _)

/-- Writing keeps the relation. -/
theorem write (grounded : Grounded relation) (chunk : Chunk) (value : Value) :
    Keeps relation (chunk.write value) := by
  refine grounded.bind (grounded.unchanged (chunk.ensureOpen_same .write)) fun _ => ?_
  split
  · exact grounded.unchanged fun _ => rfl
  · refine grounded.bind (grounded.unchanged chunk.handle_same) fun handle => ?_
    exact grounded.bind (grounded.onTaps _) fun text => grounded.append _ text

/-- Installing a tap keeps the relation. -/
theorem tap (grounded : Grounded relation) (chunk : Chunk) (transform : Option Transform) :
    Keeps relation (chunk.tap transform) := by
  refine grounded.bind (grounded.unchanged (chunk.ensureOpen_same .tap)) fun _ => ?_
  split
  · exact grounded.unchanged fun _ => rfl
  · exact grounded.bind (grounded.onTaps _) fun _ => grounded.update chunk _

/-- Removing a tap keeps the relation. -/
theorem untap (grounded : Grounded relation) (chunk : Chunk) : Keeps relation chunk.untap := by
  refine grounded.bind (grounded.unchanged chunk.handle_same) fun handle => ?_
  refine grounded.bind (grounded.unchanged fun pass => ?_) fun _ => grounded.update chunk _
  rw [liftExcept_step]

/-- Forking a branch keeps the relation. -/
theorem branch (grounded : Grounded relation) (chunk : Chunk) : Keeps relation chunk.branch := by
  refine grounded.opened fun handle => ?_
  refine grounded.bind (grounded.fork _) fun _ => ?_
  refine grounded.bind (grounded.create _) fun _ => ?_
  exact grounded.bind (grounded.update chunk _) fun _ => grounded.unchanged fun _ => rfl

/-- Completing a chunk keeps the relation. -/
theorem completed (grounded : Grounded relation) (chunk : Chunk) :
    Keeps relation chunk.complete := by
  refine grounded.opened fun handle => Keeps.guard (grounded.unchanged fun _ => rfl) ?_
  exact grounded.bind (grounded.update chunk _) fun _ => grounded.complete _

end Grounded

/-- A relation that lasts endures. -/
theorem Lasting.enduring {relation : Pass → Pass → Prop} (lasting : Lasting relation) :
    Enduring relation where
  trans := lasting.trans
  elsewhere same := lasting.elsewhere same.tree
  root := lasting.root
  write := lasting.write
  tap := lasting.tap
  untap := lasting.untap
  branch := lasting.branch
  complete := lasting.completed
  recovery := lasting.recovery

end TemplateStream
