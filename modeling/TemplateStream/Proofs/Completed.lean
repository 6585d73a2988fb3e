import TemplateStream.Proofs.Telling

/-!
# What a complete document tells

When a document came out whole, without any failure or recovery, all work that was scheduled for
it was done, and done without one. So the work means something, with it the body of the document
does, and the document is just what the body means.
-/

namespace TemplateStream

open Body

/-- Failures are only ever added. -/
theorem failures_lasting : Lasting fun pass after => pass.failures <+: after.failures where
  trans := List.IsPrefix.trans
  elsewhere _ _ same := same ▸ List.prefix_rfl
  append _ _ _ := List.prefix_rfl
  fork _ _ := List.prefix_rfl
  complete _ _ := List.prefix_rfl
  recovery _ _ _ := List.prefix_rfl

/-- Whatever is done, failures are only ever added. -/
theorem failures_endure : Abiding fun pass after => pass.failures <+: after.failures where
  toEnduring := failures_lasting.enduring
  failure _ _ := List.prefix_append ..

/-! ## Turns -/

section turns

variable {pass after : Pass} {chunk : Chunk} {context : Context}

/-- Ending a chunk without a value schedules nothing. -/
theorem finish_same (ran : chunk.finish .null pass = (.ok (), after)) :
    after.agenda = pass.agenda ∧ after.looping = pass.looping := by
  have completed : chunk.complete pass = (.ok (), after) := ran
  obtain ⟨_, _, allowed, _⟩ := bind_ok completed
  obtain ⟨rfl, handle, found, isOpen⟩ := Chunk.ensureOpen_ok allowed
  by_cases untapped : handle.taps.depth = 0
  · rw [Chunk.complete_step found isOpen untapped, Pass.onTree_step] at completed
    obtain ⟨_, rfl⟩ := Prod.mk.inj completed
    exact ⟨rfl, rfl⟩
  · have refused : chunk.complete pass =
        (.error (.chunk (.tapsLeft handle.taps.depth)), pass) := by
      simp [Chunk.complete, bind_step, Chunk.ensureOpen_step found, isOpen,
        Chunk.handle_step found, untapped]
    rw [refused] at completed
    cases completed

/-- Closing a chunk schedules nothing. -/
theorem close_same (ran : chunk.close pass = (.ok (), after)) :
    after.agenda = pass.agenda ∧ after.looping = pass.looping := by
  cases found : pass.handles[chunk.number]? with
  | none =>
    simp only [Chunk.close, bind_step, Chunk.handle_absent found] at ran
    cases ran
  | some handle =>
    simp only [Chunk.close, bind_step, Chunk.handle_step found] at ran
    split at ran
    · exact finish_same ran
    · cases ran
      exact ⟨rfl, rfl⟩

/-- A call whose branch was closed without a recovery has an outcome. -/
theorem outcome_of_conclude {call : HelperCall} {depth : Nat} {result : Except Fault Outcome}
    (concluded : (Finish.settle call depth).conclude Body.render chunk context result pass =
      (.ok (), after))
    (unrecovered : after.recoveries = pass.recoveries) : ∃ outcome, result = .ok outcome := by
  cases result with
  | ok outcome => exact ⟨outcome, rfl⟩
  | error fault =>
    have lasting := recoveries_endure.renderTo nestingLimit
    have answered : (do
        if fault.kind.isStructural then throw fault
        discard (call.recover Body.render chunk context depth fault)
        chunk.close : PassM Unit) pass = (.ok (), after) := concluded
    split at answered
    · cases answered
    · obtain ⟨_, middle, recovered, closed⟩ := bind_ok answered
      rw [discard_step] at recovered
      rcases answering : call.recover Body.render chunk context depth fault pass
        with ⟨failure | next, settled⟩
      · rw [answering] at recovered
        cases recovered
      · rw [answering] at recovered
        cases recovered
        have early := (recoveries_endure.recover lasting call chunk context depth fault).after
          answering
        have late := (recoveries_endure.close chunk).after closed
        exact absurd (prefix_between early late unrecovered).1
          (HelperCall.recover_grows lasting answering)

/-- How work that was done up to its next pause tells that it means something. -/
def Work.Tells (work : Work) (pass after : Pass) : Option (Pause × Work) → Prop
  | none => pass.Tells after work.IsMeaningful True
  | some (_, rest) => after = pass ∧ rest.Defers ∧ (rest.IsMeaningful → work.IsMeaningful)

/-- The work of a call that renders its block later tells that it means something when it is done
without a recovery. -/
theorem step_tells {work : Work} {left : Option (Pause × Work)} (defers : work.Defers)
    (stepped : work.step Body.render pass = (.ok left, after))
    (unrecovered : after.recoveries = pass.recoveries) : work.Tells pass after left := by
  cases work with
  | idle | run script scope finish => exact absurd defers not_false
  | invoke call helper branch context =>
    obtain ⟨builtin, standard⟩ := defers
    cases found : pass.handles[branch.number]? with
    | none =>
      simp only [Work.step, bind_step, Chunk.tapDepth, Chunk.handle_absent found] at stepped
      cases stepped
    | some handle =>
      simp only [Work.step, bind_step, Chunk.tapDepth_step found] at stepped
      cases resolved : Parameter.resolve helper (.ofList call.parameters) (some context) with
      | error fault =>
        rw [resolved] at stepped
        obtain ⟨_, middle, concluded, done⟩ := bind_ok stepped
        cases done
        obtain ⟨outcome, same⟩ := outcome_of_conclude concluded unrecovered
        cases same
      | ok parameters =>
        rw [resolved, builtin] at stepped
        cases stepped
        refine ⟨rfl, standard parameters resolved, ?_⟩
        rintro ⟨steps, chunk, texts, owned, meant⟩
        exact ⟨steps, chunk, texts, owned, builtin, ⟨parameters, resolved⟩, meant⟩
  | block scope finish =>
    cases finish with
    | leave | close => exact absurd defers not_false
    | settle call depth =>
      obtain ⟨result, middle, attempted, concluding⟩ := bind_ok stepped
      obtain ⟨_, _, concluded, done⟩ := bind_ok concluding
      cases done
      rw [attempt_step, bind_step] at attempted
      have within := (recoveries_endure.conclude (recoveries_endure.renderTo nestingLimit) _ _ _
        _).after concluded
      rcases rendered : Body.render (bodyNamed scope.bodies "block") scope.chunk scope.context pass
        with ⟨fault | next, inside⟩
      · rw [rendered] at attempted
        cases attempted
        have early := (recoveries_endure.renderTo nestingLimit _ _ _).after rendered
        obtain ⟨_, unanswered⟩ := prefix_between early within unrecovered
        obtain ⟨outcome, same⟩ := outcome_of_conclude concluded unanswered
        cases same
      · rw [rendered] at attempted
        cases attempted
        have early := (recoveries_endure.renderTo nestingLimit _ _ _).after rendered
        obtain ⟨before, unanswered⟩ := prefix_between early within unrecovered
        obtain ⟨agenda, looping⟩ := close_same concluded
        have told := renderTo_tells defers rendered before
        refine (told.trans (.of_same agenda looping trivial trivial)).imp ?_ fun _ => trivial
        rintro ⟨⟨steps, texts, meant⟩, _⟩
        exact ⟨steps, scope.chunk, texts, rfl, meant⟩

/-- Work that is done in a turn tells that it means something. -/
theorem turn_tells {work : Work} {rest : List Work}
    (defers : ∀ work ∈ pass.agenda.pending, work.Defers)
    (first : pass.agenda.ready = work :: rest)
    (turned : Pass.turn Body.render pass = (.ok (), after))
    (unfailed : after.failures = pass.failures)
    (unrecovered : after.recoveries = pass.recoveries) :
    (∀ work ∈ after.agenda.pending, work.Defers) ∧
      ((∀ work ∈ after.agenda.pending, work.IsMeaningful) →
        ∀ work ∈ pass.agenda.pending, work.IsMeaningful) := by
  have pending {other : Work} : other ∈ pass.agenda.pending ↔
      other = work ∨ other ∈ (pass.queued rest).agenda.pending := by
    rw [Agenda.pending, first]
    exact List.mem_cons
  have promised : work.Defers := defers work (pending.mpr (.inl rfl))
  have others {other : Work} (member : other ∈ (pass.queued rest).agenda.pending) :
      other.Defers := defers other (pending.mpr (.inr member))
  rw [Pass.turn_step first] at turned
  rcases stepped : work.step Body.render (pass.queued rest) with ⟨fault | _ | ⟨pause, left⟩, middle⟩
  · rw [stepped] at turned
    cases turned
    have grown := ((failures_endure.step (failures_endure.renderTo nestingLimit) work).after
      stepped).length_le
    have longer := congrArg List.length unfailed
    rw [List.length_append, List.length_singleton] at longer
    exact absurd longer (Nat.ne_of_gt (Nat.lt_succ_of_le grown))
  · rw [stepped] at turned
    cases turned
    obtain ⟨new, spawned, promisedNew, told, _⟩ := step_tells promised stepped unrecovered
    constructor
    · intro other member
      rcases spawned.mem_pending.mp member with old | added
      · exact others old
      · exact promisedNew other added
    · intro all other member
      rcases pending.mp member with rfl | old
      · exact told fun work added => all work (spawned.mem_pending.mpr (.inr added))
      · exact all other (spawned.mem_pending.mpr (.inl old))
  · rw [stepped] at turned
    obtain ⟨agenda, suspension, same⟩ := Pass.suspend_step pause left middle
    dsimp only at turned
    rw [suspension] at turned
    cases turned
    obtain ⟨rfl, promisedLeft, told⟩ := step_tells promised stepped unrecovered
    have waiting {other : Work} : other ∈ agenda.pending ↔
        other = left ∨ other ∈ (pass.queued rest).agenda.pending :=
      same.mem_iff.trans List.mem_cons
    constructor
    · intro other member
      rcases waiting.mp member with rfl | old
      · exact promisedLeft
      · exact others old
    · intro all other member
      rcases pending.mp member with rfl | old
      · exact told (all left (waiting.mpr (.inl rfl)))
      · exact all other (waiting.mpr (.inr old))

/-- All work that is pending means something when all work is done without a failure or recovery. -/
theorem driveWithin_tells {steps : Nat} (defers : ∀ work ∈ pass.agenda.pending, work.Defers)
    (drove : Pass.driveWithin Body.render steps pass = (.ok (), after))
    (unfailed : after.failures = pass.failures)
    (unrecovered : after.recoveries = pass.recoveries) :
    ∀ work ∈ pass.agenda.pending, work.IsMeaningful := by
  replace drove := Pass.driven_of_driveWithin drove
  induction drove with
  | ended done =>
    rw [done]
    exact fun _ member => absurd member List.not_mem_nil
  | waited waits _ ih =>
    obtain ⟨agenda, gates, same, rfl⟩ := waits
    intro work member
    have promised (work : Work) (member : work ∈ agenda.pending) : work.Defers :=
      defers work (same.mem_iff.mp member)
    exact ih promised unfailed unrecovered work (same.mem_iff.mpr member)
  | @turned _ _ steps _ _ first turned more _ ih =>
    obtain ⟨failedBefore, failedBehind⟩ := prefix_between
      ((failures_endure.turn (failures_endure.renderTo nestingLimit)).after turned)
      ((failures_endure.driveWithin (failures_endure.renderTo nestingLimit) steps).after more)
      unfailed
    obtain ⟨before, behind⟩ := prefix_between
      ((recoveries_endure.turn (recoveries_endure.renderTo nestingLimit)).after turned)
      ((recoveries_endure.driveWithin (recoveries_endure.renderTo nestingLimit) steps).after more)
      unrecovered
    obtain ⟨promised, told⟩ := turn_tells defers first turned failedBefore before
    exact told (ih promised failedBehind behind)

end turns

/-! ## Documents -/

section documents

variable {body : Body} {context : Context} {pass after started : Pass} {text : String}

/-- A document that came out was begun, its work was done, and it was concluded. -/
theorem document_ok (came : Pass.document body context pass = (.ok text, after)) :
    ∃ started, Pass.begin body context pass = (.ok (), started) ∧
      Pass.drive started = (.ok (), after) ∧ after.conclusion = .ok text := by
  obtain ⟨result, middle, attempted, reported⟩ := bind_ok came
  rw [attempt_step] at attempted
  cases result with
  | error fault =>
    obtain ⟨_, _, _, failed⟩ := bind_ok reported
    cases failed
  | ok value =>
    cases reported
    obtain ⟨result, last⟩ := Prod.mk.inj attempted
    have whole : (do Pass.begin body context; Pass.wait : PassM String) pass = (.ok text, after) :=
      Prod.ext (Except.ok.inj result) last
    obtain ⟨_, started, begun, waited⟩ := bind_ok whole
    obtain ⟨_, last, drove, concluding⟩ := bind_ok waited
    obtain ⟨_, _, reading, lifted⟩ := bind_ok concluding
    cases reading
    obtain ⟨concluded, rfl⟩ := liftExcept_ok lifted
    exact ⟨started, begun, drove, concluded⟩

/-- A new document is begun by rendering its body into the root, which is then ended. -/
theorem begin_ok {looping : Bool}
    (begun : Pass.begin body context (Pass.start .accepting looping) = (.ok (), started)) :
    ∃ next middle, body.render ⟨0⟩ context (Pass.opened looping) = (.ok next, middle) ∧
      Chunk.finish ⟨0⟩ .null middle = (.ok (), started) := by
  simp only [Pass.begin, bind_step, Pass.root_opened, discard_step] at begun
  rcases rendered : body.render ⟨0⟩ context (Pass.opened looping) with ⟨fault | next, middle⟩
  · rw [rendered] at begun
    cases begun
  · rw [rendered] at begun
    exact ⟨next, middle, rfl, begun⟩

/-- A pass is concluded well only without failures. -/
theorem conclusion_ok (concluded : pass.conclusion = .ok text) :
    pass.failures = [] ∧ pass.tree.finished = true ∧ text = pass.tree.text := by
  rw [Pass.conclusion] at concluded
  split at concluded
  · cases concluded
  · rename_i none
    split at concluded
    · rename_i finished
      cases concluded
      exact ⟨none, finished, rfl⟩
    · cases concluded

/-- Driving a pass without pending work does nothing. -/
theorem driveWithin_empty {render : RenderBody} (steps : Nat) (idle : pass.agenda.pending = []) :
    Pass.driveWithin render (steps + 1) pass = (.ok (), pass) := by
  have empty : (pass.agenda.size == 0) = true := by
    have none := congrArg List.length idle
    simp only [Agenda.pending, List.length_append, List.length_map, List.length_nil] at none
    simp only [Agenda.size, beq_iff_eq]
    omega
  simp only [Pass.driveWithin, bind_step, get_step, empty, if_true, pure_step]

/-- Driving a pass without pending work leaves it as it is. -/
theorem driveWithin_idle {steps : Nat} (idle : pass.agenda.pending = [])
    (drove : Pass.driveWithin Body.render steps pass = (.ok (), after)) : after = pass := by
  cases steps with
  | zero => cases drove
  | succ steps =>
    rw [driveWithin_empty steps idle] at drove
    cases drove
    rfl

/-- A document of plain forms that was begun without a recovery is what its body means. -/
theorem begin_wrote {looping : Bool} (plain : body.Throughout Body.IsPlain context)
    (begun : Pass.begin body context (Pass.start .accepting looping) = (.ok (), started))
    (unrecovered : started.recoveries = []) :
    ∃ steps texts, meaningTo steps nestingLimit context body = some texts ∧
      started.tree.text = String.join texts := by
  obtain ⟨next, middle, rendered, finished⟩ := begin_ok begun
  have early := (recoveries_endure.renderTo nestingLimit _ _ _).after rendered
  have late := (recoveries_endure.finish ⟨0⟩ .null).after finished
  obtain ⟨before, _⟩ := prefix_between early late unrecovered
  obtain ⟨rfl, texts, meant, handle, fragments, memory, found, _, applied, rfl⟩ :=
    renderTo_wrote nestingLimit plain rendered before
  refine ⟨nestingLimit, texts, meant, ?_⟩
  obtain ⟨held, foundHeld, untapped⟩ := Pass.opened_tapped looping
  obtain rfl : handle = held := Option.some.inj (found.symm.trans foundHeld)
  rw [untapped, TapStack.applyEach_empty] at applied
  cases applied
  have owes := (Pass.opened_owes looping (texts ++ [])).wrote found (Pass.opened looping).memory
  have root : ((Pass.opened looping).wrote handle texts (Pass.opened looping).memory).handles[
      (Chunk.mk 0).number]? = some handle := found
  obtain ⟨tree, completed, paid⟩ := owes.complete root (by rw [untapped]; rfl)
  have ended : Chunk.complete ⟨0⟩
      ((Pass.opened looping).wrote handle texts (Pass.opened looping).memory) =
        (.ok (), started) := finished
  rw [ended] at completed
  cases completed
  obtain ⟨_, output, _⟩ := paid.settled
  rw [RenderTree.text, output, RenderTree.join_solid, List.append_nil]

/-- A document that comes out without a recovery has a body that means something, and its text is
just that. -/
theorem document_tells {looping : Bool} (standard : body.Throughout Body.IsStandard context)
    (came : Pass.document body context (Pass.start .accepting looping) = (.ok text, after))
    (unrecovered : after.recoveries = []) :
    ∃ steps texts, meaningTo steps nestingLimit context body = some texts ∧
      text = String.join texts := by
  obtain ⟨started, begun, drove, concluded⟩ := document_ok came
  obtain ⟨unfailed, _, same⟩ := conclusion_ok concluded
  obtain ⟨next, middle, rendered, finished⟩ := begin_ok begun
  have lasting := recoveries_endure.renderTo nestingLimit
  have rendering := (lasting body ⟨0⟩ context).after rendered
  have ending := (recoveries_endure.finish ⟨0⟩ .null).after finished
  have driving := (recoveries_endure.driveWithin lasting Pass.turnLimit).after drove
  obtain ⟨unrecoveredBefore, unrecoveredBehind⟩ :=
    prefix_between (rendering.trans ending) driving unrecovered
  obtain ⟨before, _⟩ := prefix_between rendering ending unrecoveredBefore
  obtain ⟨new, spawned, defers, told, plainly⟩ := renderTo_tells standard rendered before
  obtain ⟨agenda, loops⟩ := finish_same finished
  have pending : started.agenda.pending = new := by
    rw [agenda, spawned.agenda]
    exact List.append_nil new
  cases looping with
  | true =>
    have unfailedBefore : started.failures = [] := by
      have grown := (failures_endure.driveWithin (failures_endure.renderTo nestingLimit)
        Pass.turnLimit).after drove
      rw [unfailed] at grown
      exact List.prefix_nil.mp grown
    have meaningful := driveWithin_tells (pending ▸ defers) drove
      (unfailed.trans unfailedBefore.symm) unrecoveredBehind
    obtain ⟨steps, texts, meant⟩ := told (pending ▸ meaningful)
    refine ⟨steps, texts, meant, ?_⟩
    obtain ⟨begunToo, tasks, begins, working⟩ := begin_pays meant
    have comes := Pass.document_comes begins working
    rw [came] at comes
    rcases comes with whole | stalled
    · exact Except.ok.inj whole
    · cases stalled
  | false =>
    obtain ⟨steps, texts, meant, output⟩ := begin_wrote (plainly rfl) begun unrecoveredBefore
    refine ⟨steps, texts, meant, ?_⟩
    have idle : started.agenda.pending = [] := pending.trans (spawned.needed rfl)
    obtain rfl := driveWithin_idle idle drove
    rw [same, output]

end documents

end TemplateStream
