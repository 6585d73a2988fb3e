import TemplateStream.Pass.Agenda
import TemplateStream.Proofs.Mirroring

/-!
# Runs that mirror each other

What a pass does is made of operations on its chunks, each of which goes alike in a pass that
mirrors it. So scripts and bodies that keep to themselves go alike as well, and what they leave to
be done later keeps to itself, too. A document that is rendered twice comes to the same, whatever
taps remembered in between.
-/

namespace TemplateStream

namespace Mirrored

variable {first : Pass} {twin : Nat} {chunk : Chunk} {α β : Type} {good : α → Prop}
  {better : β → Prop}

/-! ## Beside chunks -/

/-- What follows on looking at what has nothing to do with handles and taps. -/
theorem look {next : Pass → PassM α}
    (blind : ∀ (pass : Pass) handles memory, next (pass.beside handles memory) = next pass)
    (later : ∀ pass, pass.agenda.Confined first.handles.size →
      Mirrored first twin good (next pass)) :
    Mirrored first twin good (get >>= next) := by
  intro pass handles memory mirrors
  refine .of_later (later pass mirrors.agenda _ _ _ mirrors) rfl ?_
  rw [bind_step, get_step]
  dsimp only
  rw [blind]

/-- A change to what has nothing to do with handles, taps and remembered chunks. -/
theorem change {change : Pass → Pass}
    (blind : ∀ (pass : Pass) handles memory,
      change (pass.beside handles memory) = (change pass).beside handles memory)
    (stays : ∀ pass, (change pass).handles = pass.handles ∧ (change pass).memory = pass.memory ∧
      (change pass).saved = pass.saved)
    (kept : ∀ pass, pass.agenda.Confined first.handles.size →
      (change pass).agenda.Confined first.handles.size) :
    Mirrored first twin anything (modify change) := by
  refine Mirrored.blind (fun pass handles memory => ?_) stays fun pass confined =>
    ⟨kept pass confined, fun _ _ => trivial⟩
  rw [modify_step, blind]
  rfl

/-- Making a note. -/
theorem note (entry : Value) : Mirrored first twin anything (Pass.note entry) :=
  change (fun _ _ _ => rfl) (fun _ => ⟨rfl, rfl, rfl⟩) fun _ confined => confined

/-- Noting that a helper is answered for. -/
theorem noteRecovery (helper : String) (fault : Fault) :
    Mirrored first twin anything (Pass.noteRecovery helper fault) :=
  change (fun _ _ _ => rfl) (fun _ => ⟨rfl, rfl, rfl⟩) fun _ confined => confined

/-- Noting that work failed. -/
theorem noteFailure (fault : Fault) : Mirrored first twin anything
    (modify fun pass => { pass with failures := pass.failures ++ [fault] }) :=
  change (fun _ _ _ => rfl) (fun _ => ⟨rfl, rfl, rfl⟩) fun _ confined => confined

/-- Opening a gate frees work that was begun before. -/
theorem openGate (name : String) : Mirrored first twin anything (Pass.openGate name) := by
  refine change (fun _ _ _ => rfl) (fun _ => ⟨rfl, rfl, rfl⟩) fun pass confined => ?_
  simp only [List.partition_eq_filter_filter]
  refine ⟨List.forall_mem_append.mpr ⟨confined.ready, fun work freed => ?_⟩, confined.timed,
    fun entry member => confined.gated entry (List.mem_of_mem_filter member)⟩
  obtain ⟨entry, found, rfl⟩ := List.mem_map.mp freed
  exact confined.gated entry (List.mem_of_mem_filter found)

/-- Scheduling work. -/
theorem spawn {work : Work} (confined : work.Confined first.handles.size) :
    Mirrored first twin anything (Pass.spawn work) := by
  refine look (fun _ _ _ => rfl) fun pass _ => ?_
  split
  · refine change (fun _ _ _ => rfl) (fun _ => ⟨rfl, rfl, rfl⟩) fun pass former => ?_
    have last := List.forall_mem_singleton.mpr confined
    exact ⟨List.forall_mem_append.mpr ⟨former.ready, last⟩, former.timed, former.gated⟩
  · exact throw _

/-- Suspending work. -/
theorem suspend (pause : Pause) {work : Work} (confined : work.Confined first.handles.size) :
    Mirrored first twin anything (Pass.suspend pause work) := by
  refine change (fun _ _ _ => by cases pause <;> rfl) (fun _ => ⟨rfl, rfl, rfl⟩)
    fun pass former => ?_
  have last {label : Type} (label : label) : ∀ entry ∈ [(label, work)],
      entry.2.Confined first.handles.size := List.forall_mem_singleton.mpr confined
  cases pause with
  | turn =>
    have last := List.forall_mem_singleton.mpr confined
    exact ⟨List.forall_mem_append.mpr ⟨former.ready, last⟩, former.timed, former.gated⟩
  | delay ticks =>
    exact ⟨former.ready, List.forall_mem_append.mpr ⟨former.timed, last _⟩, former.gated⟩
  | gate name =>
    exact ⟨former.ready, former.timed, List.forall_mem_append.mpr ⟨former.gated, last _⟩⟩

/-- Mapping, when the function that is given goes alike on chunks of the pass. -/
theorem map (since : chunk.Since first.handles.size) {work : Chunk → PassM Outcome}
    (worked : ∀ branch : Chunk, branch.Since first.handles.size →
      Mirrored first twin (Outcome.Confined first.handles.size) (work branch)) :
    Mirrored first twin anything (chunk.map work) := by
  refine (branch since).bind fun branch since => (worked branch since).bind fun outcome fine => ?_
  split
  · exact spawn fine
  · exact pure trivial

/-- Forking a branch on which work is to be done later. -/
theorem mapLater (since : chunk.Since first.handles.size) {work : Chunk → Work}
    (confined : ∀ branch : Chunk, branch.Since first.handles.size →
      (work branch).Confined first.handles.size) :
    Mirrored first twin anything (chunk.map fun branch => Pure.pure (.awaitable (work branch))) :=
  map since fun branch since =>
    have left : Outcome.Confined first.handles.size (.awaitable (work branch)) :=
      confined branch since
    pure left

/-! ## Scripts -/

/-- A way to render bodies goes alike for bodies, chunks and contexts that keep to themselves, and
gives a chunk of the pass. -/
def Renders (first : Pass) (twin : Nat) (render : RenderBody) : Prop :=
  ∀ (body : Body) (chunk : Chunk) (context : Context), body.Confined →
    chunk.Since first.handles.size → context.Confined →
    Mirrored first twin (Chunk.Since first.handles.size) (render body chunk context)

variable {render : RenderBody} {scope : Scope} {context : Context}

/-- Answering, unless with a remembered chunk. -/
theorem answer {result : Answer} (confined : (Statement.answer result).Confined)
    (fits : scope.Confined first.handles.size) :
    Mirrored first twin (Outcome.Confined first.handles.size) (result.outcome scope) := by
  cases result with
  | chunk => exact pure fits.chunk
  | awaitable => exact pure trivial
  | value result => exact pure trivial
  | parameter key => exact pure trivial
  | context name =>
    exact (lift fun _ _ => trivial : Mirrored first twin anything _).bind fun _ _ => pure trivial
  | saved name => exact confined.inner.elim

/-- A statement whose result is the chunk that it works on, or none. -/
theorem stating {step : PassM α} (mirrored : Mirrored first twin good step)
    (result : Option Chunk) :
    Mirrored first twin anything (do
      let _ ← step
      Pure.pure result) :=
  mirrored.bind fun _ _ => pure trivial

mutual

/-- A statement that keeps to itself goes alike. -/
theorem statement (rendered : Renders first twin render) :
    ∀ (statement : Statement) (scope : Scope), statement.Confined →
      scope.Confined first.handles.size →
      Mirrored first twin anything (statement.run render scope)
  | .write _, _, _, fits | .parameter _, _, _, fits | .info, _, _, fits =>
    stating (write fits.chunk _) _
  | .get _ _, _, _, fits =>
    (lift fun _ _ => trivial : Mirrored first twin anything _).bind fun _ _ =>
      stating (write fits.chunk _) _
  | .logParameters, _, _, _ | .log _, _, _, _ => stating (note _) _
  | .openGate _, _, _, _ => stating (openGate _) _
  | .tap _, _, confined, fits => stating (tap fits.chunk confined.inner) _
  | .untap, _, _, fits => stating (untap fits.chunk) _
  | .finish _, _, _, fits => stating (finish fits.chunk _) _
  | .render _ _, _, confined, fits =>
    (rendered _ _ _ confined.inner fits.chunk (fits.context.pushed _)).bind fun _ _ =>
      pure trivial
  | .body _ _, _, _, fits =>
    (rendered _ _ _ (fits.bodies.named _) fits.chunk (fits.context.pushed _)).bind
      fun _ _ => pure trivial
  | .map inner, scope, confined, fits =>
    stating (map fits.chunk fun branch since =>
      script rendered inner { scope with chunk := branch } confined.inner
        ⟨since, fits.context, fits.bodies⟩) _
  | .spawn _, _, confined, fits => by
    refine stating (mapLater fits.chunk fun branch since => ?_) _
    exact ⟨confined.inner, ⟨since, fits.context, fits.bodies⟩, trivial⟩
  | .save _, _, confined, _ | .on _ _, _, confined, _ => confined.inner.elim
  | .within value inner, scope, confined, fits =>
    stating (script rendered inner { scope with context := scope.context.push value }
      confined.inner ⟨fits.chunk, fits.context.push _ _ _, fits.bodies⟩).discard _
  | .iterate index length inner, scope, confined, fits =>
    stating (script rendered inner { scope with context := scope.context.push .null index length }
      confined.inner ⟨fits.chunk, fits.context.push _ _ _, fits.bodies⟩).discard _
  | .raise _, _, _, _ => throw _
  | .sleep _, _, _, _ | .gate _, _, _, _ | .answer _, _, _, _ => pure trivial

/-- A script that keeps to itself goes alike, and so does what it gives back. -/
theorem script (rendered : Renders first twin render) :
    ∀ (script : List Statement) (scope : Scope), Script.Confined script →
      scope.Confined first.handles.size →
      Mirrored first twin (Outcome.Confined first.handles.size) (runScript render scope script)
  | [], _, _, _ => pure trivial
  | statement :: rest, scope, confined, fits => by
    have head := confined statement List.mem_cons_self
    unfold runScript
    split
    · exact pure trivial
    · next same =>
      cases same
      exact answer head fits
    · next same =>
      cases same
      exact (Mirrored.statement rendered statement scope head fits).discard.bind fun _ _ =>
        script rendered rest scope
          (fun other member => confined other (List.mem_cons_of_mem _ member))
          fits

end

/-! ## Bodies -/

/-- Going on after a helper. -/
theorem proceed (rendered : Renders first twin render) {call : HelperCall}
    (bodies : BodiesConfined call.bodies) (since : chunk.Since first.handles.size)
    (confined : context.Confined) {outcome : Outcome}
    (fine : outcome.Confined first.handles.size) :
    Mirrored first twin (Chunk.Since first.handles.size)
      (call.proceed render chunk context outcome) := by
  have wrote (value : Value) : Mirrored first twin (Chunk.Since first.handles.size) (do
      chunk.write value
      Pure.pure chunk) := (write since value).bind fun _ _ => pure since
  unfold HelperCall.proceed
  split
  · exact pure fine
  · exact pure since
  · exact pure since
  · split
    · exact rendered _ _ _ (bodies.named _) since confined
    · split
      · exact pure since
      · exact wrote _
  · split
    · exact rendered _ _ _ (bodies.named _) since confined
    · exact wrote _

/-- Removing the taps that a helper left behind. -/
theorem untapTo (since : chunk.Since first.handles.size) (depth : Nat) :
    Mirrored first twin anything (HelperCall.untapTo chunk depth) :=
  (tapDepth since).bind fun _ _ => forM (fun _ => untap since) _

/-- Answering for a helper. -/
theorem recover (rendered : Renders first twin render) {call : HelperCall}
    (bodies : BodiesConfined call.bodies) (since : chunk.Since first.handles.size)
    (confined : context.Confined) (depth : Nat) (fault : Fault) :
    Mirrored first twin (Chunk.Since first.handles.size)
      (call.recover render chunk context depth fault) := by
  unfold HelperCall.recover
  refine Mirrored.guard ?_
  split
  · dsimp only
    split
    · refine (noteRecovery _ _).bind fun _ _ => (untapTo since depth).bind fun _ _ => ?_
      refine (lift fun _ _ => trivial : Mirrored first twin anything _).bind fun _ _ => ?_
      exact (write since _).bind fun _ _ => pure since
    · exact throw _
  · refine (noteRecovery _ _).bind fun _ _ => (untapTo since depth).bind fun _ _ => ?_
    exact rendered _ _ _ (bodies.named _) since (confined.push _ _ _)

/-- Calling a helper function that keeps to itself and is not asynchronous. -/
theorem invoke (rendered : Renders first twin render) (fits : scope.Confined first.handles.size)
    {function : HelperFunction} (confined : function.Confined) :
    Mirrored first twin (Outcome.Confined first.handles.size) (function.invoke render scope) := by
  have inner := rendered _ scope.chunk scope.context (fits.bodies.named "block") fits.chunk
    fits.context
  have block : Mirrored first twin (Outcome.Confined first.handles.size)
      (HelperFunction.invoke.block render scope) :=
    inner.bind fun next since => by
      have after : Outcome.Confined first.handles.size (.chunk next) := since
      exact pure after
  have tapped {transform : Transform} (confined : transform.Confined) :
      Mirrored first twin (Outcome.Confined first.handles.size)
        (HelperFunction.invoke.tapped render scope transform) := by
    refine (tap fits.chunk fun some same => ?_).bind fun _ _ => inner.bind fun next since => ?_
    · cases same
      exact confined
    · have after : Outcome.Confined first.handles.size (.chunk next) := since
      exact (untap since).bind fun _ _ => pure after
  cases function with
  | builtin which =>
    cases which with
    | upper | lower => exact tapped trivial
    | eq => exact pure trivial
    | sep =>
      simp only [HelperFunction.invoke]
      split
      · split
        · exact pure fits.chunk
        · exact block
      · exact block
    | defer => exact block
  | scripted style inner => exact script rendered inner scope confined fits
  | inert value => exact throw _

/-- The outcome of a helper that keeps to itself. -/
theorem outcome (rendered : Renders first twin render) {call : HelperCall}
    (bodies : BodiesConfined call.bodies) {helper : Helper} (keeps : helper.function.Confined)
    (since : chunk.Since first.handles.size) (confined : context.Confined) :
    Mirrored first twin (Outcome.Confined first.handles.size)
      (call.outcome render helper chunk context) := by
  refine (lift fun _ _ => trivial : Mirrored first twin anything _).bind fun parameters _ => ?_
  refine (invoke rendered ⟨since, confined, bodies⟩ keeps).bind fun outcome fine => ?_
  split
  · exact throw _
  · exact pure fine

/-- Calling a helper. -/
theorem perform (rendered : Renders first twin render) {call : HelperCall}
    (bodies : BodiesConfined call.bodies) (since : chunk.Since first.handles.size)
    (confined : context.Confined) :
    Mirrored first twin (Chunk.Since first.handles.size) (call.perform render chunk context) := by
  unfold HelperCall.perform
  split
  · exact throw _
  · next environment here =>
    refine (lift fun helper found =>
      (confined environment here).helpers _ helper found).bind fun helper keeps => ?_
    split
    · refine (mapLater since fun branch since => ?_).bind fun _ _ => pure since
      exact ⟨bodies, keeps, since, confined⟩
    · refine (tapDepth since).bind fun depth _ => ?_
      refine (outcome rendered bodies keeps since confined).attempt.bind fun result fine => ?_
      split
      · exact proceed rendered bodies since confined (fine _ rfl)
      · split
        · exact throw _
        · exact recover rendered bodies since confined depth _

/-- Writing a body that keeps to itself. -/
theorem body (rendered : Renders first twin render) {body : Body} (keeps : body.Confined)
    (since : chunk.Since first.handles.size) (confined : context.Confined) :
    Mirrored first twin (Chunk.Since first.handles.size) (body.write render chunk context) := by
  have scripted {inner : Script} (keeps : inner.Confined) :
      Mirrored first twin (Chunk.Since first.handles.size) (do
        let outcome ← runScript render (.plain chunk context) inner
        Pure.pure (outcome.chunkOr chunk)) := by
    refine (script rendered inner _ keeps (.plain since confined)).bind fun outcome fine => ?_
    cases outcome with
    | chunk next => exact pure fine
    | _ => exact pure since
  have got (path : String) : Mirrored first twin anything (liftExcept (context.get path)) :=
    lift fun _ _ => trivial
  have inner := keeps.inner
  cases body with
  | text content => exact (write since _).bind fun _ _ => pure since
  | reference path escape =>
    refine (got path).bind fun value _ => ?_
    split
    · exact pure since
    · exact (write since _).bind fun _ _ => pure since
  | sequence bodies =>
    exact foldlM (fun _ entry since member => rendered _ _ _ (inner entry member) since confined)
      since
  | each path block otherwise =>
    refine (got path).bind fun value _ => ?_
    split
    · exact rendered _ _ _ inner.2 since confined
    · exact foldlM (fun _ _ since _ => rendered _ _ _ inner.1 since (confined.push _ _ _)) since
    · split
      · exact rendered _ _ _ inner.2 since confined
      · split
        · exact rendered _ _ _ inner.1 since (confined.push _ _ _)
        · exact rendered _ _ _ inner.1 since confined
  | embed name values =>
    simp only [Body.write]
    split
    · exact throw _
    · next environment here =>
      refine (lift fun body found =>
        (confined environment here).templates _ body found).bind fun body keeps => ?_
      refine rendered _ _ _ keeps since (Context.Confined.forTemplate ?_ _)
      split
      · exact confined
      · exact confined.push _ _ _
  | call helper bodies parameters => exact perform rendered inner since confined
  | callback script => exact scripted inner
  | function name script => exact scripted inner
  | deferred style name script =>
    refine (mapLater since fun branch since => ?_).bind fun _ _ => pure since
    exact ⟨inner, .plain since confined, trivial⟩
  | absent => exact pure since
  | inert value => exact throw _

/-- Rendering bodies goes alike, however deep they are nested. -/
theorem renderTo (depth : Nat) : Renders first twin (Body.renderTo depth) := by
  induction depth with
  | zero => exact fun _ _ _ _ _ _ => throw _
  | succ depth ih =>
    intro inner chunk context keeps since confined
    exact (ensureOpen since .render).bind fun _ _ => body ih keeps since confined

/-! ## Asynchronous work -/

/-- Running a script up to its next pause. -/
theorem advance (rendered : Renders first twin render) (fits : scope.Confined first.handles.size)
    {inner : Script} (confined : inner.Confined) :
    Mirrored first twin (Progress.Confined first.handles.size)
      (advance render scope inner) := by
  induction inner with
  | nil => exact pure trivial
  | cons entry rest ih =>
    have head := confined entry List.mem_cons_self
    have tail : Script.Confined rest := fun other member =>
      confined other (List.mem_cons_of_mem _ member)
    unfold TemplateStream.advance
    split
    · exact pure trivial
    · next same =>
      cases same
      exact (answer head fits).bind fun outcome fine => pure fine
    · next same =>
      cases same
      exact pure tail
    · next name _ same =>
      cases same
      refine look (fun _ _ _ => rfl) fun pass _ => ?_
      split
      · exact ih tail
      · exact pure tail
    · next same =>
      cases same
      exact (statement rendered entry scope head fits).discard.bind fun _ _ => ih tail

/-- Finishing with a branch. -/
theorem conclude (rendered : Renders first twin render) {finish : Finish}
    (keeps : finish.Confined) (since : chunk.Since first.handles.size)
    (confined : context.Confined) {result : Except Fault Outcome}
    (fine : ∀ outcome, result = .ok outcome → outcome.Confined first.handles.size) :
    Mirrored first twin anything (finish.conclude render chunk context result) := by
  cases finish with
  | leave => exact (lift fine).discard
  | close => exact (lift fine).discard.bind fun _ _ => close since
  | settle call depth =>
    have settled : Mirrored first twin anything (do
        Functor.discard (call.proceed render chunk context (← liftExcept result))) :=
      (lift fine).bind fun outcome fine => (proceed rendered keeps since confined fine).discard
    refine settled.attempt.bind fun result _ => ?_
    split
    · exact close since
    · refine Mirrored.guard ?_
      exact (recover rendered keeps since confined depth _).discard.bind fun _ _ => close since

/-- Nothing is left of work that keeps to itself. -/
theorem nothing_left (bound : Nat) : LeftConfined bound none := by
  intro pause work same
  cases same

/-- Doing work up to its next pause, after which what is left keeps to itself. -/
theorem step (rendered : Renders first twin render) {work : Work}
    (keeps : work.Confined first.handles.size) :
    Mirrored first twin (LeftConfined first.handles.size) (work.step render) := by
  have concludes {finish : Finish} {chunk : Chunk} {context : Context}
      {result : Except Fault Outcome} (keeps : finish.Confined)
      (since : chunk.Since first.handles.size) (confined : context.Confined)
      (fine : ∀ outcome, result = .ok outcome → outcome.Confined first.handles.size) :
      Mirrored first twin (LeftConfined first.handles.size) (do
        finish.conclude render chunk context result
        Pure.pure (none : Option (Pause × Work))) :=
    (conclude rendered keeps since confined fine).bind fun _ _ => pure (nothing_left _)
  have continues {inner : Script} {scope : Scope} {finish : Finish} (confined : inner.Confined)
      (fits : scope.Confined first.handles.size) (keeps : finish.Confined) :
      Mirrored first twin (LeftConfined first.handles.size)
        (Work.continueScript render inner scope finish) := by
    refine (advance rendered fits confined).attempt.bind fun result fine => ?_
    split
    · refine pure fun pause work same => ?_
      cases same
      exact ⟨fine _ rfl, fits, keeps⟩
    · refine concludes keeps fits.chunk fits.context fun outcome same => ?_
      cases same
      exact fine _ rfl
    · exact concludes keeps fits.chunk fits.context fun _ same => by cases same
  cases work with
  | idle => exact pure (nothing_left _)
  | run inner scope finish => exact continues keeps.1 keeps.2.1 keeps.2.2
  | block scope finish =>
    obtain ⟨fits, keeps⟩ := keeps
    have blocked : Mirrored first twin (Outcome.Confined first.handles.size) (do
        let next ← render (bodyNamed scope.bodies "block") scope.chunk scope.context
        Pure.pure (Outcome.chunk next)) := by
      refine (rendered _ _ _ (fits.bodies.named _) fits.chunk fits.context).bind
        fun next since => ?_
      have after : Outcome.Confined first.handles.size (.chunk next) := since
      exact pure after
    exact blocked.attempt.bind fun _ fine => concludes keeps fits.chunk fits.context fine
  | invoke call helper branch context =>
    obtain ⟨bodies, function, since, confined⟩ := keeps
    refine (tapDepth since).bind fun depth _ => ?_
    split
    · exact concludes bodies since confined fun _ same => by cases same
    · next parameters _ =>
      have fits : (call.scope branch context parameters).Confined first.handles.size :=
        ⟨since, confined, bodies⟩
      dsimp only
      split
      · next inner same =>
        rw [same] at function
        exact continues function fits bodies
      · refine pure fun pause work same => ?_
        cases same
        exact ⟨fits, bodies⟩
      · exact concludes bodies since confined fun _ same => by cases same

/-- Taking a turn. -/
theorem turn (rendered : Renders first twin render) :
    Mirrored first twin anything (Pass.turn render) := by
  refine look (fun _ _ _ => rfl) fun pass agenda => ?_
  split
  · exact pure trivial
  · next work rest queue =>
    have keeps : work.Confined first.handles.size :=
      agenda.ready work (queue ▸ List.mem_cons_self)
    have taken : ∀ work ∈ rest, work.Confined first.handles.size := fun other member =>
      agenda.ready other (queue ▸ List.mem_cons_of_mem work member)
    have taking : Mirrored first twin anything
        (modify fun pass => { pass with agenda := { pass.agenda with ready := rest } }) :=
      change (fun _ _ _ => rfl) (fun _ => ⟨rfl, rfl, rfl⟩) fun pass former =>
        ⟨taken, former.timed, former.gated⟩
    refine taking.bind fun _ _ => (step rendered keeps).attempt.bind fun result fine => ?_
    split
    · exact pure trivial
    · exact suspend _ (fine _ rfl _ _ rfl)
    · exact noteFailure _

/-- Letting time pass. -/
theorem passTime : Mirrored first twin anything Pass.passTime := by
  have passed (pass : Pass) : ∃ result agenda,
      (∀ handles memory, Pass.passTime (pass.beside handles memory) =
        (.ok result, { pass with agenda }.beside handles memory)) ∧
      (pass.agenda.Confined first.handles.size → agenda.Confined first.handles.size) := by
    simp only [Pass.passTime, bind_step, get_step, Pass.beside]
    cases Pass.earliest pass.agenda.timed with
    | none => exact ⟨false, pass.agenda, fun _ _ => rfl, id⟩
    | some moment =>
      refine ⟨true, _, fun _ _ => rfl, fun former => ⟨fun work member => ?_, fun entry member => ?_,
        former.gated⟩⟩
      · obtain ⟨entry, found, rfl⟩ := List.mem_map.mp member
        exact former.timed entry (List.mem_of_mem_drop (List.mem_of_mem_take found))
      · rcases List.mem_append.mp member with before | after
        · exact former.timed entry (List.takeWhile_subset _ before)
        · exact former.timed entry (List.mem_of_mem_drop (List.mem_of_mem_drop after))
  intro pass handles memory mirrors
  obtain ⟨result, agenda, ran, kept⟩ := passed pass
  exact .of_value (ran pass.handles pass.memory) (ran handles memory)
    (mirrors.aside rfl rfl rfl (kept mirrors.agenda)) trivial

/-- Taking turns and letting time pass. -/
theorem driveWithin (rendered : Renders first twin render) (steps : Nat) :
    Mirrored first twin anything (Pass.driveWithin render steps) := by
  induction steps with
  | zero => exact throw _
  | succ steps ih =>
    refine look (fun _ _ _ => rfl) fun pass _ => ?_
    dsimp only
    split
    · exact pure trivial
    · split
      · refine passTime.bind fun moved _ => ?_
        split
        · exact ih
        · exact throw _
      · exact (turn rendered).bind fun _ _ => ih

/-- Waiting until no work is left. -/
theorem wait : Mirrored first twin anything Pass.wait := by
  refine (driveWithin (renderTo _) _).bind fun _ _ => look (fun _ _ _ => rfl) fun pass _ => ?_
  exact lift fun _ _ => trivial

/-- Rendering a body that keeps to itself into the root. -/
theorem begin {body : Body} (keeps : body.Confined) (confined : context.Confined) :
    Mirrored first twin anything (Pass.begin body context) := by
  refine root.bind fun root since => ?_
  exact (renderTo _ _ _ _ keeps since confined).discard.bind fun _ _ => finish since .null

/-- Rendering a body that keeps to itself as a document. -/
theorem document {body : Body} (keeps : body.Confined) (confined : context.Confined) :
    Mirrored first twin anything (Pass.document body context) := by
  have rendering : Mirrored first twin anything (do
      Pass.begin body context
      Pass.wait) := (begin keeps confined).bind fun _ _ => wait
  have draining : Mirrored first twin anything Pass.drain :=
    (driveWithin (renderTo _) _).bind fun _ _ => look (fun _ _ _ => rfl) fun _ _ => pure trivial
  refine rendering.attempt.bind fun result _ => ?_
  split
  · exact pure trivial
  · exact draining.discard.bind fun _ _ => throw _

end Mirrored

/-! ## Documents -/

/-- A memory in which only installed taps were called. -/
def TapMemory.Orderly (memory : TapMemory) : Prop :=
  ∀ call ∈ memory.calls, call.tap < memory.installed

/-- A tap that is not installed yet was not called. -/
theorem TapMemory.Orderly.unheard {memory : TapMemory} (orderly : memory.Orderly) {number : Nat}
    (late : memory.installed ≤ number) : textsFor number memory.calls = [] := by
  rw [textsFor, List.map_eq_nil_iff, List.filter_eq_nil_iff]
  intro call member same
  have early := orderly call member
  rw [beq_iff_eq.mp same] at early
  exact Nat.not_lt_of_le late early

namespace Pass

variable {sink : Sink} {looping : Bool} {marks : Bookmarks} {log : List Value} {memory : TapMemory}

/-- A pass that begins is mirrored with any other memory of taps. -/
theorem start_mirrors (orderly : marks.memory.Orderly) (orderlyToo : memory.Orderly) :
    Mirrors (start sink looping marks log) memory.installed (start sink looping marks log)
      (start sink looping marks log).handles memory where
  memory := {
    count := ⟨0, rfl, rfl⟩
    heard := fun offset => by
      rw [orderlyToo.unheard (Nat.le_add_right _ offset)]
      exact orderly.unheard (Nat.le_add_right _ offset)
    counted := orderly }
  size := rfl
  more := Nat.le_refl _
  former := fun _ _ => rfl
  saved := rfl
  same := fun number handle late found => by
    rw [Array.getElem?_eq_none late] at found
    cases found
  agenda := .none _

/-- After a pass that was mirrored another one begins as it did, but for what taps remember. -/
theorem start_again {twin : Nat} {after : Pass} {handles : Array Handle}
    (mirrors : Mirrors (start sink looping marks log) twin after handles memory) :
    start sink looping after.bookmarks log =
      (start sink looping marks log).beside (start sink looping marks log).handles
        after.memory := by
  -- The remembered handles are the first ones of a pass, which an onlooker leaves alone.
  have kept : after.bookmarks.handles = marks.handles.mapIdx fun index entry =>
      (entry.1, { entry.2 with record := index + 1 }) := by
    rw [bookmarks, mirrors.saved]
    refine List.ext_getElem? fun index => ?_
    simp only [start, List.getElem?_map, List.getElem?_mapIdx]
    cases found : marks.handles[index]? with
    | none => rfl
    | some entry =>
      have early : index < (start sink looping marks log).handles.size := by
        simpa [start] using (List.getElem?_eq_some_iff.mp found).1
      have former := mirrors.former index early
      simp only [start, List.getElem?_toArray, List.getElem?_mapIdx, found] at former
      simp [former]
  have records : after.bookmarks.handles.map (fun _ => ({} : Record)) =
      marks.handles.map fun _ => {} := by
    rw [kept, List.map_const', List.map_const', List.length_mapIdx]
  have recalled : after.bookmarks.memory = after.memory := rfl
  simp only [start, beside, records, recalled]
  simp [kept, List.mapIdx_mapIdx, Function.comp_def]

/-- A document that keeps to itself comes to the same in the next pass, which leaves alone what the
first pass remembered but for what its taps remember. -/
theorem document_repeats {body : Body} {context : Context} (orderly : marks.memory.Orderly)
    (keeps : body.Confined) (confined : context.Confined) :
    let ran := document body context (start sink looping marks log)
    (∃ handles memory, document body context (start sink looping ran.2.bookmarks log) =
      (ran.1, ran.2.beside handles memory)) ∧ ran.2.memory.Orderly := by
  intro ran
  obtain ⟨_, _, _, own, _⟩ :=
    Mirrored.document keeps confined _ _ _ (start_mirrors orderly orderly)
  have counted : ran.2.memory.Orderly := own.memory.counted
  obtain ⟨handles, memory, again, _, _⟩ :=
    Mirrored.document keeps confined _ _ _ (start_mirrors orderly counted)
  refine ⟨⟨handles, memory, ?_⟩, counted⟩
  rw [start_again own]
  exact again

end Pass

end TemplateStream
