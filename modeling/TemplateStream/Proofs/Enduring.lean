import TemplateStream.Pass.Agenda
import TemplateStream.Proofs.ChunkSteps

/-!
# What endures

Whatever a pass does is made of operations on chunks and of a few steps besides, which schedule work,
open gates and note things. A relation between the states of a pass that these keep is carried by
every script and every rendering of a body, also when they fail. It endures when it says nothing
about what the other steps change, and then every turn keeps it that keeps what is noted of
failures.
-/

namespace TemplateStream

/-! ## Looking at chunks -/

/-- Looking up a handle changes nothing. -/
theorem Chunk.handle_same (chunk : Chunk) (pass : Pass) : (chunk.handle pass).2 = pass := by
  cases found : pass.handles[chunk.number]? with
  | none => rw [handle_absent found]
  | some handle => rw [handle_step found]

/-- Asking whether a chunk is open changes nothing. -/
theorem Chunk.ensureOpen_same (chunk : Chunk) (operation : ChunkOperation) (pass : Pass) :
    (chunk.ensureOpen operation pass).2 = pass := by
  cases found : pass.handles[chunk.number]? with
  | none => rw [ensureOpen_absent found]
  | some handle => rw [ensureOpen_step found]

/-- Asking for the number of taps changes nothing. -/
theorem Chunk.tapDepth_same (chunk : Chunk) (pass : Pass) : (chunk.tapDepth pass).2 = pass := by
  cases found : pass.handles[chunk.number]? with
  | none => simp [tapDepth, bind_step, handle_absent found]
  | some handle => rw [tapDepth_step found]

/-- Two states of a pass have the same tree and the same handles. -/
structure Pass.Untouched (pass after : Pass) : Prop where
  tree : after.tree = pass.tree
  handles : after.handles = pass.handles
  rootTaken : after.rootTaken = pass.rootTaken

/-- A relation that whatever is done to the chunks of a pass keeps, and what scripts do besides. -/
structure Carried (relation : Pass → Pass → Prop) : Prop where
  trans : ∀ {first second third}, relation first second → relation second third →
    relation first third
  refl : ∀ pass, relation pass pass
  root : Keeps relation Chunk.root
  write : ∀ chunk value, Keeps relation (Chunk.write chunk value)
  tap : ∀ chunk transform, Keeps relation (Chunk.tap chunk transform)
  untap : ∀ chunk, Keeps relation (Chunk.untap chunk)
  branch : ∀ chunk, Keeps relation (Chunk.branch chunk)
  complete : ∀ chunk, Keeps relation (Chunk.complete chunk)
  recovery : ∀ helper fault, Keeps relation (Pass.noteRecovery helper fault)
  enqueue : ∀ work, Keeps relation (Pass.enqueue work)
  openGate : ∀ name, Keeps relation (Pass.openGate name)
  note : ∀ entry, Keeps relation (Pass.note entry)
  save : ∀ name chunk, Keeps relation (saveChunk name chunk)

/-- A relation that all operations on chunks keep, and that all else leaves alone. -/
structure Enduring (relation : Pass → Pass → Prop) : Prop extends Carried relation where
  /-- The relation is about the tree, the handles, the recoveries and the failures alone. -/
  elsewhere : ∀ {pass after : Pass}, pass.Untouched after →
    after.recoveries = pass.recoveries → after.failures = pass.failures → relation pass after
  refl := fun _ => elsewhere ⟨rfl, rfl, rfl⟩ rfl rfl
  enqueue := fun _ _ => elsewhere ⟨rfl, rfl, rfl⟩ rfl rfl
  openGate := fun _ _ => elsewhere ⟨rfl, rfl, rfl⟩ rfl rfl
  note := fun _ _ => elsewhere ⟨rfl, rfl, rfl⟩ rfl rfl
  save := fun _ _ _ => elsewhere ⟨rfl, rfl, rfl⟩ rfl rfl

/-- A relation that all operations on chunks keep, and also what is noted of work that failed. -/
structure Abiding (relation : Pass → Pass → Prop) : Prop extends Enduring relation where
  failure : ∀ fault, Keeps relation
    (modify fun pass => { pass with failures := pass.failures ++ [fault] } : PassM Unit)

/-- A way to render bodies keeps a relation. -/
def Enduring.Renders (relation : Pass → Pass → Prop) (render : RenderBody) : Prop :=
  ∀ body chunk context, Keeps relation (render body chunk context)

namespace Carried

variable {relation : Pass → Pass → Prop} {α β : Type}

/-! ## Sequences -/

/-- A step that changes nothing keeps every relation that is carried. -/
theorem unchanged (carried : Carried relation) {step : PassM α}
    (same : ∀ pass, (step pass).2 = pass) : Keeps relation step :=
  Keeps.unchanged carried.refl same

/-- A value alone keeps the relation. -/
theorem pure (carried : Carried relation) (value : α) :
    Keeps relation (pure value : PassM α) :=
  carried.unchanged fun _ => rfl

/-- A fault keeps the relation. -/
theorem throw (carried : Carried relation) (fault : Fault) :
    Keeps relation (throw fault : PassM α) :=
  carried.unchanged fun _ => rfl

/-- A result that was computed aside keeps the relation. -/
theorem lift (carried : Carried relation) (result : Except Fault α) :
    Keeps relation (liftExcept result : PassM α) :=
  carried.unchanged fun pass => by rw [liftExcept_step]

/-- Reading the state keeps the relation. -/
theorem get (carried : Carried relation) : Keeps relation (get : PassM Pass) :=
  carried.unchanged fun _ => rfl

/-- A sequence keeps the relation when its steps do. -/
theorem bind (carried : Carried relation) {step : PassM α} {next : α → PassM β}
    (first : Keeps relation step) (second : ∀ value, Keeps relation (next value)) :
    Keeps relation (step >>= next) :=
  Keeps.bind carried.trans first second

/-- A step for each element of a list. -/
theorem foldlM (carried : Carried relation) {step : β → α → PassM β}
    (kept : ∀ value element, Keeps relation (step value element)) (elements : List α)
    (value : β) : Keeps relation (elements.foldlM step value) := by
  induction elements generalizing value with
  | nil => exact carried.pure value
  | cons element rest ih =>
    rw [List.foldlM_cons]
    exact carried.bind (kept value element) fun next => ih next

/-- A step for each element of a list, without results. -/
theorem forM (carried : Carried relation) {step : α → PassM Unit}
    (kept : ∀ element, Keeps relation (step element)) (elements : List α) :
    Keeps relation (elements.forM step) := by
  induction elements with
  | nil => exact carried.pure ()
  | cons element rest ih => exact carried.bind (kept element) fun _ => ih

/-- A fault in the way of a step keeps the relation when the step does. -/
theorem guard (carried : Carried relation) {condition : Prop} [Decidable condition]
    {fault : Fault} {next : PUnit → PassM β} (kept : Keeps relation (next ⟨⟩)) :
    Keeps relation (if condition then MonadExcept.throw fault >>= next else next ⟨⟩) :=
  Keeps.guard (carried.throw fault) kept

/-! ## Chunks -/

/-- Scheduling work keeps the relation. -/
theorem spawn (carried : Carried relation) (work : Work) : Keeps relation (Pass.spawn work) := by
  refine carried.bind carried.get fun pass => ?_
  split
  · exact carried.enqueue work
  · exact carried.throw _

/-- Mapping keeps the relation when the function that it is given does. -/
theorem map (carried : Carried relation) (chunk : Chunk) {work : Chunk → PassM Outcome}
    (kept : ∀ branch, Keeps relation (work branch)) : Keeps relation (chunk.map work) := by
  refine carried.bind (carried.branch chunk) fun branch => ?_
  refine carried.bind (kept branch) fun outcome => ?_
  split
  · exact carried.spawn _
  · exact carried.pure _

/-- Finishing a chunk keeps the relation. -/
theorem finish (carried : Carried relation) (chunk : Chunk) (value : Value) :
    Keeps relation (chunk.finish value) := by
  unfold Chunk.finish
  split
  · exact carried.complete chunk
  · exact carried.bind (carried.write chunk _) fun _ => carried.complete chunk

/-- Closing a chunk keeps the relation. -/
theorem close (carried : Carried relation) (chunk : Chunk) : Keeps relation chunk.close := by
  refine carried.bind (carried.unchanged chunk.handle_same) fun handle => ?_
  split
  · exact carried.finish chunk .null
  · exact carried.pure _

/-! ## Scripts -/

/-- Looking up a remembered chunk keeps the relation. -/
theorem savedChunk (carried : Carried relation) (name : String) :
    Keeps relation (savedChunk name) := by
  refine carried.bind carried.get fun pass => ?_
  split
  · exact carried.pure _
  · exact carried.throw _

/-- Answering keeps the relation. -/
theorem answer (carried : Carried relation) (scope : Scope) (answer : Answer) :
    Keeps relation (answer.outcome scope) := by
  cases answer with
  | chunk | awaitable | value result | parameter key => exact carried.pure _
  | context name => exact carried.bind (carried.lift _) fun _ => carried.pure _
  | saved name => exact carried.bind (carried.savedChunk name) fun _ => carried.pure _

mutual

/-- A statement keeps the relation when renderings do. -/
theorem statement {render : RenderBody} (carried : Carried relation)
    (rendered : Enduring.Renders relation render) :
    ∀ (statement : Statement) (scope : Scope), Keeps relation (statement.run render scope)
  | .write _, _ | .parameter _, _ | .info, _ =>
    carried.bind (carried.write _ _) fun _ => carried.pure _
  | .get _ _, _ =>
    carried.bind (carried.lift _) fun _ =>
      carried.bind (carried.write _ _) fun _ => carried.pure _
  | .logParameters, _ | .log _, _ => carried.bind (carried.note _) fun _ => carried.pure _
  | .save _, _ => carried.bind (carried.save _ _) fun _ => carried.pure _
  | .openGate _, _ => carried.bind (carried.openGate _) fun _ => carried.pure _
  | .tap _, _ => carried.bind (carried.tap _ _) fun _ => carried.pure _
  | .untap, _ => carried.bind (carried.untap _) fun _ => carried.pure _
  | .finish _, _ => carried.bind (carried.finish _ _) fun _ => carried.pure _
  | .render _ _, _ | .body _ _, _ => carried.bind (rendered _ _ _) fun _ => carried.pure _
  | .map script, _ =>
    carried.bind (carried.map _ fun _ => carried.script rendered script _) fun _ =>
      carried.pure _
  | .spawn _, _ => carried.bind (carried.map _ fun _ => carried.pure _) fun _ => carried.pure _
  | .on _ script, _ =>
    carried.bind (carried.savedChunk _) fun _ =>
      carried.bind (carried.script rendered script _).discard fun _ => carried.pure _
  | .within _ script, _ | .iterate _ _ script, _ =>
    carried.bind (carried.script rendered script _).discard fun _ => carried.pure _
  | .raise _, _ => carried.throw _
  | .sleep _, _ | .gate _, _ | .answer _, _ => carried.pure _

/-- A script keeps the relation when renderings do. -/
theorem script {render : RenderBody} (carried : Carried relation)
    (rendered : Enduring.Renders relation render) :
    ∀ (script : List Statement) (scope : Scope), Keeps relation (runScript render scope script)
  | [], _ => carried.pure _
  | statement :: rest, scope => by
    unfold runScript
    split
    · exact carried.pure _
    · exact carried.answer scope _
    · next same =>
      cases same
      exact carried.bind (carried.statement rendered statement scope).discard fun _ =>
        carried.script rendered rest scope

end

/-! ## Bodies -/

section render

variable {render : RenderBody}

/-- Going on after a helper keeps the relation. -/
theorem proceed (carried : Carried relation) (rendered : Enduring.Renders relation render)
    (call : HelperCall) (chunk : Chunk) (context : Context) (outcome : Outcome) :
    Keeps relation (call.proceed render chunk context outcome) := by
  have wrote (value : Value) : Keeps relation (do chunk.write value; Pure.pure chunk) :=
    carried.bind (carried.write chunk value) fun _ => carried.pure chunk
  unfold HelperCall.proceed
  split
  · exact carried.pure _
  · exact carried.pure _
  · exact carried.pure _
  · split
    · exact rendered _ _ _
    · split
      · exact carried.pure _
      · exact wrote _
  · split
    · exact rendered _ _ _
    · exact wrote _

/-- Removing the taps that a helper left behind keeps the relation. -/
theorem untapTo (carried : Carried relation) (chunk : Chunk) (depth : Nat) :
    Keeps relation (HelperCall.untapTo chunk depth) :=
  carried.bind (carried.unchanged chunk.tapDepth_same) fun _ =>
    carried.forM (fun _ => carried.untap chunk) _

/-- Answering for a helper keeps the relation. -/
theorem recover (carried : Carried relation) (rendered : Enduring.Renders relation render)
    (call : HelperCall) (chunk : Chunk) (context : Context) (depth : Nat) (fault : Fault) :
    Keeps relation (call.recover render chunk context depth fault) := by
  have untaps := carried.untapTo chunk depth
  refine carried.guard ?_
  split
  · dsimp only
    split
    · refine carried.bind (carried.recovery _ _) fun _ => carried.bind untaps fun _ => ?_
      refine carried.bind (carried.lift _) fun _ => ?_
      exact carried.bind (carried.write chunk _) fun _ => carried.pure chunk
    · exact carried.throw _
  · exact carried.bind (carried.recovery _ _) fun _ =>
      carried.bind untaps fun _ => rendered _ _ _

/-- Calling a helper function that is not asynchronous keeps the relation. -/
theorem invoke (carried : Carried relation) (rendered : Enduring.Renders relation render)
    (scope : Scope) (function : HelperFunction) :
    Keeps relation (function.invoke render scope) := by
  have block : Keeps relation (HelperFunction.invoke.block render scope) :=
    carried.bind (rendered _ _ _) fun _ => carried.pure _
  have tapped (transform : Transform) :
      Keeps relation (HelperFunction.invoke.tapped render scope transform) :=
    carried.bind (carried.tap _ _) fun _ => carried.bind (rendered _ _ _) fun _ =>
      carried.bind (carried.untap _) fun _ => carried.pure _
  cases function with
  | builtin which =>
    cases which with
    | upper | lower => exact tapped _
    | eq => exact carried.pure _
    | sep =>
      simp only [HelperFunction.invoke]
      split
      · split
        · exact carried.pure _
        · exact block
      · exact block
    | defer => exact block
  | scripted style script => exact carried.script rendered script scope
  | inert value => exact carried.throw _

/-- The outcome of a helper keeps the relation. -/
theorem outcome (carried : Carried relation) (rendered : Enduring.Renders relation render)
    (call : HelperCall) (helper : Helper) (chunk : Chunk) (context : Context) :
    Keeps relation (call.outcome render helper chunk context) := by
  refine carried.bind (carried.lift _) fun parameters => ?_
  refine carried.bind (carried.invoke rendered _ _) fun outcome => ?_
  split
  · exact carried.throw _
  · exact carried.pure _

/-- Calling a helper keeps the relation. -/
theorem perform (carried : Carried relation) (rendered : Enduring.Renders relation render)
    (call : HelperCall) (chunk : Chunk) (context : Context) :
    Keeps relation (call.perform render chunk context) := by
  unfold HelperCall.perform
  split
  · exact carried.throw _
  · refine carried.bind (carried.lift _) fun helper => ?_
    split
    · exact carried.bind (carried.map chunk fun _ => carried.pure _) fun _ => carried.pure _
    · refine carried.bind (carried.unchanged chunk.tapDepth_same) fun depth => ?_
      have answers := carried.outcome rendered call helper chunk context
      refine carried.bind answers.attempt fun result => ?_
      split
      · exact carried.proceed rendered call chunk context _
      · split
        · exact carried.throw _
        · exact carried.recover rendered call chunk context depth _

/-- Writing a body keeps the relation when the renderings in it do. -/
theorem body (carried : Carried relation) (rendered : Enduring.Renders relation render)
    (body : Body) (chunk : Chunk) (context : Context) : Keeps relation (body.write render chunk context) := by
  have scripted (script : Script) : Keeps relation (do
      let outcome ← runScript render (.plain chunk context) script
      Pure.pure (outcome.chunkOr chunk)) :=
    carried.bind (carried.script rendered script _) fun _ => carried.pure _
  cases body with
  | text content => exact carried.bind (carried.write chunk _) fun _ => carried.pure _
  | reference path escape =>
    refine carried.bind (carried.lift _) fun value => ?_
    split
    · exact carried.pure _
    · exact carried.bind (carried.write chunk _) fun _ => carried.pure _
  | sequence bodies => exact carried.foldlM (fun _ _ => rendered _ _ _) bodies chunk
  | each path block otherwise =>
    refine carried.bind (carried.lift _) fun value => ?_
    split
    · exact rendered _ _ _
    · exact carried.foldlM (fun _ _ => rendered _ _ _) _ chunk
    · split
      · exact rendered _ _ _
      · split
        · exact rendered _ _ _
        · exact rendered _ _ _
  | embed name values =>
    simp only [Body.write]
    split
    · exact carried.throw _
    · exact carried.bind (carried.lift _) fun _ => rendered _ _ _
  | call helper bodies parameters => exact carried.perform rendered _ chunk context
  | callback script => exact scripted script
  | function name script => exact scripted script
  | deferred style name script =>
    exact carried.bind (carried.map chunk fun _ => carried.pure _) fun _ => carried.pure _
  | absent => exact carried.pure _
  | inert value => exact carried.throw _

end render

/-- Rendering any body keeps every relation that is carried, however deep bodies are nested. -/
theorem renderTo (carried : Carried relation) (depth : Nat) :
    Enduring.Renders relation (Body.renderTo depth) := by
  induction depth with
  | zero => exact fun _ _ _ => carried.throw _
  | succ depth ih =>
    intro body chunk context
    exact carried.bind (carried.unchanged (chunk.ensureOpen_same .render)) fun _ =>
      carried.body ih body _ _

/-! ## Asynchronous work -/

section render

variable {render : RenderBody}

/-- Running a script up to its next pause keeps the relation. -/
theorem advance (carried : Carried relation) (rendered : Enduring.Renders relation render)
    (scope : Scope) (script : Script) : Keeps relation (advance render scope script) := by
  induction script with
  | nil => exact carried.pure _
  | cons statement rest ih =>
    unfold TemplateStream.advance
    split
    · exact carried.pure _
    · exact carried.bind (carried.answer scope _) fun _ => carried.pure _
    · exact carried.pure _
    · next same =>
      cases same
      refine carried.bind carried.get fun pass => ?_
      split
      · exact ih
      · exact carried.pure _
    · next same =>
      cases same
      exact carried.bind (carried.statement rendered statement scope).discard fun _ => ih

/-- Finishing with a branch keeps the relation. -/
theorem conclude (carried : Carried relation) (rendered : Enduring.Renders relation render)
    (finish : Finish) (chunk : Chunk) (context : Context) (result : Except Fault Outcome) :
    Keeps relation (finish.conclude render chunk context result) := by
  cases finish with
  | leave => exact (carried.lift result).discard
  | close => exact carried.bind (carried.lift result).discard fun _ => carried.close chunk
  | settle call depth =>
    have settled : Keeps relation (do
        discard (call.proceed render chunk context (← liftExcept result))) :=
      carried.bind (carried.lift result) fun outcome =>
        (carried.proceed rendered call chunk context outcome).discard
    refine carried.bind settled.attempt fun result => ?_
    split
    · exact carried.close chunk
    · refine carried.guard ?_
      exact carried.bind (carried.recover rendered call chunk context depth _).discard fun _ =>
        carried.close chunk

/-- Doing work up to its next pause keeps the relation. -/
theorem step (carried : Carried relation) (rendered : Enduring.Renders relation render)
    (work : Work) : Keeps relation (work.step render) := by
  have concludes (finish : Finish) (chunk : Chunk) (context : Context)
      (result : Except Fault Outcome) :
      Keeps relation (do
        finish.conclude render chunk context result
        Pure.pure (none : Option (Pause × Work))) :=
    carried.bind (carried.conclude rendered finish chunk context result) fun _ =>
      carried.pure _
  have continues (script : Script) (scope : Scope) (finish : Finish) :
      Keeps relation (Work.continueScript render script scope finish) := by
    refine carried.bind (carried.advance rendered scope script).attempt fun result => ?_
    split
    · exact carried.pure _
    · exact concludes _ _ _ _
    · exact concludes _ _ _ _
  cases work with
  | idle => exact carried.pure _
  | run script scope finish => exact continues script scope finish
  | block scope finish =>
    have blocked : Keeps relation (do
        let next ← render (bodyNamed scope.bodies "block") scope.chunk scope.context
        Pure.pure (Outcome.chunk next)) :=
      carried.bind (rendered _ _ _) fun _ => carried.pure _
    exact carried.bind blocked.attempt fun _ => concludes _ _ _ _
  | invoke call helper branch context =>
    refine carried.bind (carried.unchanged branch.tapDepth_same) fun depth => ?_
    split
    · exact concludes _ _ _ _
    · dsimp only
      split
      · exact continues _ _ _
      · exact carried.pure _
      · exact concludes _ _ _ _

end render

end Carried

namespace Enduring

variable {relation : Pass → Pass → Prop}

/-- A change to the rest of the pass keeps the relation. -/
theorem aside (enduring : Enduring relation) {change : Pass → Pass}
    (kept : ∀ pass, pass.Untouched (change pass) ∧
      (change pass).recoveries = pass.recoveries ∧ (change pass).failures = pass.failures) :
    Keeps relation (modify change : PassM Unit) :=
  fun pass => enduring.elsewhere (kept pass).1 (kept pass).2.1 (kept pass).2.2

/-- Letting time pass keeps the relation. -/
theorem passTime (enduring : Enduring relation) : Keeps relation Pass.passTime := by
  intro pass
  have same : pass.Untouched (Pass.passTime pass).2 ∧
      (Pass.passTime pass).2.recoveries = pass.recoveries ∧
      (Pass.passTime pass).2.failures = pass.failures := by
    simp only [Pass.passTime, bind_step, get_step]
    cases Pass.earliest pass.agenda.timed <;> exact ⟨⟨rfl, rfl, rfl⟩, rfl, rfl⟩
  exact enduring.elsewhere same.1 same.2.1 same.2.2

end Enduring

namespace Abiding

variable {relation : Pass → Pass → Prop} {render : RenderBody}

/-- A turn keeps the relation. -/
theorem turn (abiding : Abiding relation) (rendered : Enduring.Renders relation render) :
    Keeps relation (Pass.turn render) := by
  refine abiding.bind abiding.get fun pass => ?_
  split
  · exact abiding.pure _
  · refine abiding.bind (abiding.aside fun _ => ⟨⟨rfl, rfl, rfl⟩, rfl, rfl⟩) fun _ => ?_
    refine abiding.bind (abiding.step rendered _).attempt fun result => ?_
    split
    · exact abiding.pure _
    · exact abiding.aside fun _ => ⟨⟨rfl, rfl, rfl⟩, rfl, rfl⟩
    · exact abiding.failure _

/-- Taking turns until no work is left keeps the relation. -/
theorem driveWithin (abiding : Abiding relation) (rendered : Enduring.Renders relation render)
    (steps : Nat) : Keeps relation (Pass.driveWithin render steps) := by
  induction steps with
  | zero => exact abiding.throw _
  | succ steps ih =>
    refine abiding.bind abiding.get fun pass => ?_
    dsimp only
    split
    · exact abiding.pure _
    · split
      · refine abiding.bind abiding.passTime fun moved => ?_
        split
        · exact ih
        · exact abiding.throw _
      · exact abiding.bind (abiding.turn rendered) fun _ => ih

end Abiding

end TemplateStream
