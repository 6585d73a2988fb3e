import TemplateStream.Proofs.Lifecycle
import TemplateStream.Proofs.Unreached
import TemplateStream.Proofs.Waiting

/-!
# Spent passes

A pass ends only when nothing is pending in it, be it that the document comes out or that it fails:
by a fault of the body or of a branch, by taps that were left, or by a chunk that was not ended. The
branches that other branches fork meanwhile are waited for as well. So whatever the event loop does
afterwards, nothing is written any more and the sink is given nothing.
-/

namespace TemplateStream

open Relation

namespace Pass

variable {pass middle last : Pass} {body : Body} {context : Context} {steps limit : Nat}

/-- What the event loop does: it lets time pass and gates open, or does the first work in its queue
up to the next pause of that. -/
inductive Loops : Pass → Pass → Prop where
  | waits {pass after : Pass} (waited : pass.Waited after) : Loops pass after
  | turns (pass : Pass) : Loops pass (turn Body.render pass).2

/-- Nothing is pending, and whatever the event loop does nothing is written or ended, and the sink
is given nothing. -/
structure Spent (pass : Pass) : Prop where
  idle : pass.agenda.pending = []
  still : ∀ after, ReflTransGen Loops pass after →
    after.agenda.pending = [] ∧ after.tree = pass.tree ∧ after.handles = pass.handles ∧
      after.failures = pass.failures

/-- A step of the event loop does nothing to the chunks of a pass without pending work. -/
theorem Loops.idle (goes : pass.Loops middle) (idle : pass.agenda.pending = []) :
    middle.agenda.pending = [] ∧ middle.tree = pass.tree ∧ middle.handles = pass.handles ∧
      middle.failures = pass.failures := by
  cases goes with
  | waits waited =>
    obtain ⟨agenda, gates, same, rfl⟩ := waited
    exact ⟨(idle ▸ same).eq_nil, rfl, rfl, rfl⟩
  | turns =>
    have none : pass.agenda.ready = [] := (List.append_eq_nil_iff.mp idle).1
    have stays : turn Body.render pass = (.ok (), pass) := by
      simp only [turn, bind_step, get_step, none, pure_step]
    rw [stays]
    exact ⟨idle, rfl, rfl, rfl⟩

/-- A pass without pending work is spent. -/
theorem spent_of_idle (idle : pass.agenda.pending = []) : pass.Spent where
  idle := idle
  still := by
    intro after goes
    induction goes with
    | refl => exact ⟨idle, rfl, rfl, rfl⟩
    | tail _ step ih =>
      obtain ⟨none, tree, handles, failures⟩ := ih
      obtain ⟨noneLater, treeLater, handlesLater, failuresLater⟩ := step.idle none
      exact ⟨noneLater, treeLater.trans tree, handlesLater.trans handles,
        failuresLater.trans failures⟩

/-- Driving a pass is what the event loop does, until nothing is pending. -/
theorem driveWithin_loops (drove : driveWithin Body.render steps pass = (.ok (), last)) :
    ReflTransGen Loops pass last ∧ last.agenda.pending = [] := by
  obtain ⟨before, goes, waited, idle⟩ := driveWithin_continues (.refl pass) drove
  refine ⟨ReflTransGen.tail ?_ (.waits waited), idle⟩
  clear drove waited
  induction goes with
  | refl => exact .refl
  | tail _ step ih =>
    obtain ⟨waited, waits, _, rfl⟩ := step
    exact (ih.tail (.waits waits)).tail (.turns waited)

/-- Renders a body as a whole document, and gives up waiting for the work that is left after a
number of steps. -/
def documentWithin (limit : Nat) (body : Body) (context : Context) : PassM String := do
  let result ← attempt do
    begin body context
    driveWithin Body.render limit
    liftExcept (← get).conclusion
  match result with
  | .ok text => pure text
  | .error fault =>
    driveWithin Body.render limit
    throw fault

/-- A document is waited for within the limit of turns. -/
theorem document_eq (body : Body) (context : Context) :
    document body context = documentWithin turnLimit body context := by
  have drained (fault : Fault) :
      (do discard drain; throw fault : PassM String) = (do drive; throw fault) := by
    funext pass
    simp only [drain, bind_step, discard_step]
    rcases drive pass with ⟨_ | _, after⟩ <;> rfl
  simp only [document, drained]
  rfl

/-- A fault is reported after the work that is left is done, unless that was given up. -/
theorem reported_loops {fault : Fault} {result : Except Fault String}
    (ran : (do driveWithin Body.render limit; throw fault : PassM String) pass = (result, last))
    (ends : result ≠ .error .stalled) :
    result = .error fault ∧ driveWithin Body.render limit pass = (.ok (), last) := by
  rw [bind_step] at ran
  rcases drove : driveWithin Body.render limit pass with ⟨other | _, after⟩
  · obtain rfl := driveWithin_stalled drove
    rw [drove] at ran
    cases ran
    exact (ends rfl).elim
  · rw [drove] at ran
    cases ran
    exact ⟨rfl, rfl⟩

/-- The work that was begun is done by the event loop when a document ends, unless waiting for it
was given up. -/
theorem documentWithin_loops {result : Except Fault String}
    (ran : documentWithin limit body context pass = (result, last))
    (ends : result ≠ .error .stalled) :
    ReflTransGen Loops (begin body context pass).2 last ∧ last.agenda.pending = [] := by
  rw [documentWithin, bind_step, attempt_step, bind_step] at ran
  rcases begun : begin body context pass with ⟨fault | _, started⟩
  · -- The body failed, and the branches that it forked are waited for before that is reported.
    rw [begun] at ran
    exact driveWithin_loops (reported_loops ran ends).2
  · rw [begun] at ran
    dsimp only at ran
    rw [bind_step] at ran
    rcases drove : driveWithin Body.render limit started with ⟨fault | _, after⟩
    · obtain rfl := driveWithin_stalled drove
      rw [drove] at ran
      exact (ends (reported_loops ran ends).1).elim
    · have waited := driveWithin_loops drove
      simp only [drove, bind_step, get_step, liftExcept_step] at ran
      cases concluded : after.conclusion with
      | ok text =>
        rw [concluded] at ran
        cases ran
        exact waited
      | error fault =>
        rw [concluded] at ran
        -- Nothing is left of the work by then, so waiting once more does nothing.
        obtain ⟨_, again⟩ := reported_loops ran ends
        rw [driveWithin_idle waited.2 again]
        exact waited

end Pass

/-! ## Passes of a renderer -/

namespace Session

variable {target : RenderTarget} {input : RenderInput} {session reached : Session}
  {commission : Commission} {output : String}

/-- After the content only plugins are told of events. -/
theorem later_of_content {before later : List Leg}
    (course : Leg.course = before ++ .content :: later) :
    later = [.event .afterRenderContent, .event .afterRender] := by
  have whole : Leg.content.upTo ++ later = Leg.course := by
    rw [Leg.upTo_of_course course, List.append_assoc]
    exact course.symm
  exact List.append_cancel_left (whole.trans rfl)

/-- After the content the sink is given nothing. -/
theorem Arrives.delivered
    (arrives : Arrives target input session .content commission output reached) :
    (Session.render target input session).2.delivered =
      (reached.contentRun commission).2.tree.delivered := by
  obtain ⟨opened, before, later, began, course, went⟩ := arrives
  rw [render_eq, bind_step, began]
  dsimp only
  rw [course, travel_append, bind_step, went]
  dsimp only
  rw [travel, bind_step, carryOut_content]
  cases (reached.contentRun commission).1 with
  | error fault => rfl
  | ok text =>
    rw [later_of_content course]
    exact (travel_spares commission (by decide) (by decide) text _).delivered

end Session

open Session

/-- No branch outlives its pass. When a document ends, be it with its text or with a fault and
however many steps it is waited for, the event loop has done the work that was begun and all that
came of it; and whatever the event loop does then, nothing more is written to the tree or given to
its sink. So it is with the content of every pass of a renderer that comes to it, and the sink is
given nothing in the rest of that pass. -/
theorem branches_settled :
    (∀ (limit : Nat) (body : Body) (context : Context) (pass : Pass),
      (Pass.documentWithin limit body context pass).1 ≠ .error .stalled →
        ReflTransGen Pass.Loops (Pass.begin body context pass).2
          (Pass.documentWithin limit body context pass).2 ∧
        (Pass.documentWithin limit body context pass).2.Spent) ∧
    ∀ (target : RenderTarget) (input : RenderInput) (session : Session) (commission : Commission)
      (output : String) (reached : Session),
      Arrives target input session .content commission output reached →
      (reached.contentRun commission).1 ≠ .error .stalled →
        (reached.contentRun commission).2.Spent ∧
        (render target input session).2.delivered =
          (reached.contentRun commission).2.tree.delivered := by
  have settled (limit : Nat) (body : Body) (context : Context) (pass : Pass)
      (ends : (Pass.documentWithin limit body context pass).1 ≠ .error .stalled) :
      ReflTransGen Pass.Loops (Pass.begin body context pass).2
          (Pass.documentWithin limit body context pass).2 ∧
        (Pass.documentWithin limit body context pass).2.Spent := by
    obtain ⟨goes, idle⟩ := Pass.documentWithin_loops rfl ends
    exact ⟨goes, Pass.spent_of_idle idle⟩
  refine ⟨settled, fun target input session commission output reached arrives ends => ?_⟩
  refine ⟨?_, arrives.delivered⟩
  rw [contentRun, Pass.document_eq] at ends ⊢
  exact (settled _ _ _ _ ends).2

/-- A body that fails when it has forked a branch, which sleeps and forks another. -/
def branchingOn : Body :=
  .callback [
    .write (.text "a"),
    .spawn [.write (.text "b"), .sleep 2, .spawn [.sleep 3, .write (.text "c"), .finish .null],
      .finish .null],
    .raise (.raised .value "boom")]

/-- The kind of the fault of a result, if it is one. -/
def faultKind? (result : Except Fault String) : Option Kind :=
  match result with
  | .ok _ => none
  | .error fault => some fault.kind

/-- A fault of another kind does not come of giving up. -/
theorem not_stalled {result : Except Fault String} (failed : faultKind? result = some .value) :
    result ≠ .error .stalled := by
  rintro rfl
  cases failed

/-- Both branches have ended when the pass over that body fails, in the content of a renderer as
well. -/
theorem branches_settled_branchingOn :
    let context : Context := .ofValue .null [] none
    let begun := (Pass.begin branchingOn context (Pass.start .accepting true)).2
    let ran := Pass.documentWithin 9 branchingOn context (Pass.start .accepting true)
    let commission : Commission := ⟨branchingOn.ownName, branchingOn, .value .null⟩
    let reached := (travel commission "" (Leg.course.takeWhile (· != .content)) ({} : Session)).2
    (ran.1 ≠ .error .stalled ∧ begun.agenda.pending.length = 1 ∧ begun.tree.delivered = ["a"] ∧
      ReflTransGen Pass.Loops begun ran.2 ∧ ran.2.Spent ∧ ran.2.tree.output = ["a", "b", "c"]) ∧
    Arrives (.given branchingOn) (.value .null) {} .content commission "" reached ∧
      (reached.contentRun commission).1 ≠ .error .stalled ∧
      (reached.contentRun commission).2.Spent ∧
      (render (.given branchingOn) (.value .null) {}).2.delivered = ["a", "b", "c"] := by
  intro context begun ran commission reached
  have ends : ran.1 ≠ .error .stalled := not_stalled (by decide +kernel)
  have endsToo : (reached.contentRun commission).1 ≠ .error .stalled :=
    not_stalled (by decide +kernel)
  have arrives : Arrives (.given branchingOn) (.value .null) {} .content commission "" reached :=
    ⟨{}, _, _, opening_step _ _ _, rfl, ran_ok (by decide +kernel)⟩
  obtain ⟨settled, passes⟩ := branches_settled
  obtain ⟨goes, spent⟩ := settled 9 branchingOn context (Pass.start .accepting true) ends
  obtain ⟨done, delivered⟩ := passes _ _ _ _ _ _ arrives endsToo
  exact ⟨⟨ends, by decide +kernel, by decide +kernel, goes, spent, by decide +kernel⟩, arrives,
    endsToo, done, delivered.trans (by decide +kernel)⟩

end TemplateStream
