import Mathlib.Data.Prod.Lex
import Mathlib.Logic.Hydra
import TemplateStream.Proofs.Turns

/-!
# Schedules

Work that is pending goes on in any order: while time passes and gates open, any of it can be
next. A pass all of whose pending work is that of tasks stays one, whatever the order, and each
turn lowers a well-founded measure of its tasks. When nothing is pending any more the document is
complete.
-/

namespace TemplateStream

open Relation

/-- A pass in which time passed and gates opened: the same work is pending, but may wait for
something else, or for nothing. -/
def Pass.Waited (pass after : Pass) : Prop :=
  ∃ agenda gates, agenda.pending.Perm pass.agenda.pending ∧
    after = { pass with agenda := agenda, gates := gates }

/-- Some piece of pending work goes on, up to its next pause. -/
def Pass.Continues (pass after : Pass) : Prop :=
  ∃ waited, pass.Waited waited ∧ waited.agenda.ready ≠ [] ∧
    after = (Pass.turn Body.render waited).2

/-- A pass with another queue of work that can go on. -/
def Pass.queued (pass : Pass) (ready : List Work) : Pass :=
  { pass with agenda := { pass.agenda with ready := ready } }

/-- A measure of what is left of a task: the number of steps in which its meaning is found, and
how far it is from its last turn. -/
def Task.measure (task : Task) : Nat ×ₗ Nat := toLex (task.steps, task.work.phase)

/-- The measures of tasks, in no order. -/
def measures (tasks : List Task) : Multiset (Nat ×ₗ Nat) := (tasks.map Task.measure : List _)

/-- Replacing a task by others with lower measures lowers the measures. -/
theorem measures_cut {task : Task} {tasks others added : List Task}
    (reordered : tasks.Perm (task :: others))
    (lower : ∀ other ∈ added, other.measure < task.measure) :
    CutExpand (· < ·) (measures (added ++ others)) (measures tasks) := by
  refine ⟨measures added, task.measure, fun measure member => ?_, ?_⟩
  · obtain ⟨other, inside, rfl⟩ := List.mem_map.mp (Multiset.mem_coe.mp member)
    exact lower other inside
  · have front : measures tasks = {task.measure} + measures others := by
      rw [Multiset.singleton_add]
      exact Multiset.coe_eq_coe.mpr (reordered.map _)
    have together : measures (added ++ others) = measures added + measures others := by
      rw [measures, List.map_append]
      rfl
    rw [front, together, add_assoc, add_comm (measures added), add_comm (measures others)]

namespace Pass

variable {pass middle after : Pass}

/-- A pass may not have waited at all. -/
theorem Waited.refl (pass : Pass) : pass.Waited pass :=
  ⟨pass.agenda, pass.gates, .rfl, rfl⟩

/-- Waiting twice is waiting. -/
theorem Waited.trans (early : pass.Waited middle) (late : middle.Waited after) :
    pass.Waited after := by
  obtain ⟨agenda, gates, same, rfl⟩ := early
  obtain ⟨agendaLate, gatesLate, sameLate, rfl⟩ := late
  exact ⟨agendaLate, gatesLate, sameLate.trans same, rfl⟩

/-- Any work that is pending can be next. -/
theorem waited_for {work : Work} (member : work ∈ pass.agenda.pending) :
    ∃ waited rest, pass.Waited waited ∧ waited.agenda.ready = work :: rest := by
  obtain ⟨early, late, split⟩ := List.append_of_mem member
  let agenda : Agenda := { ready := work :: (early ++ late) }
  refine ⟨{ pass with agenda }, early ++ late, ⟨agenda, pass.gates, ?_, rfl⟩, rfl⟩
  rw [split]
  simp only [Agenda.pending, agenda, List.map_nil, List.append_nil]
  exact List.perm_middle.symm

/-- Work that is suspended is pending. -/
theorem suspend_step (pause : Pause) (work : Work) (pass : Pass) :
    ∃ agenda, suspend pause work pass = (.ok (), { pass with agenda := agenda }) ∧
      agenda.pending.Perm (work :: pass.agenda.pending) := by
  cases pause with
  | turn =>
    refine ⟨_, rfl, ?_⟩
    simp only [Agenda.pending, List.append_assoc]
    exact List.perm_middle
  | delay ticks =>
    refine ⟨_, rfl, ?_⟩
    simp only [Agenda.pending, List.map_append, List.map_singleton, List.append_assoc,
      List.singleton_append]
    exact (List.perm_middle.append_left _).trans List.perm_middle
  | gate name =>
    refine ⟨_, rfl, ?_⟩
    simp only [Agenda.pending, List.map_append, List.map_singleton, ← List.append_assoc]
    exact List.perm_append_singleton ..

/-- A turn takes the first work from the queue, does it, and suspends what is left of it. -/
theorem turn_step {render : RenderBody} {work : Work} {rest : List Work}
    (first : pass.agenda.ready = work :: rest) :
    turn render pass =
      match work.step render (pass.queued rest) with
      | (.ok none, after) => (.ok (), after)
      | (.ok (some (pause, left)), after) => suspend pause left after
      | (.error fault, after) =>
        (.ok (), { after with failures := after.failures ++ [fault] }) := by
  simp only [turn, bind_step, get_step, first, modify_step, attempt_step]
  rw [queued]
  rcases work.step render { pass with agenda := { pass.agenda with ready := rest } }
    with ⟨fault | _ | ⟨pause, left⟩, after⟩ <;> rfl

namespace Working

variable {document : List String} {tasks : List Task}

/-- Waiting changes no tasks. -/
theorem waited (working : pass.Working document [] tasks) (waits : pass.Waited after) :
    after.Working document [] tasks := by
  obtain ⟨agenda, gates, same, rfl⟩ := waits
  exact {
    owes := working.owes.of_same rfl rfl
    ready := working.ready
    agenda := working.agenda.trans same.symm
    looping := working.looping
    failures := working.failures }

/-- The first piece of work in the queue is that of a task, which is being done when the work is
taken from there. -/
theorem taken {work : Work} {rest : List Work} (working : pass.Working document [] tasks)
    (first : pass.agenda.ready = work :: rest) :
    ∃ task others, task.work = work ∧ tasks.Perm (task :: others) ∧
      (pass.queued rest).Working document [task.debt] others := by
  have pending : pass.agenda.pending = work :: (pass.queued rest).agenda.pending := by
    rw [Agenda.pending, first]
    rfl
  have member : work ∈ tasks.map Task.work := by
    rw [working.agenda.mem_iff, pending]
    exact List.mem_cons_self
  obtain ⟨task, inside, rfl⟩ := List.mem_map.mp member
  obtain ⟨early, late, rfl⟩ := List.append_of_mem inside
  have moved : (early ++ task :: late).Perm (task :: (early ++ late)) := List.perm_middle
  have reordered := working.perm moved
  refine ⟨task, early ++ late, rfl, moved, ?_⟩
  exact {
    owes := reordered.owes.of_same rfl rfl
    ready := fun other old => reordered.ready other (List.mem_cons_of_mem _ old)
    agenda := by
      have same := reordered.agenda
      rw [pending, List.map_cons] at same
      exact same.cons_inv
    looping := working.looping
    failures := working.failures }

/-- A task whose work is suspended waits again. -/
theorem suspended {task : Task} {pause : Pause}
    (working : pass.Working document [task.debt] tasks) (ready : task.Ready pass) :
    ∃ after, suspend pause task.work pass = (.ok (), after) ∧
      after.Working document [] (task :: tasks) := by
  obtain ⟨agenda, step, pending⟩ := suspend_step pause task.work pass
  refine ⟨_, step, ?_⟩
  exact {
    owes := working.owes.of_same rfl rfl
    ready := fun other member => by
      rcases List.mem_cons.mp member with rfl | old
      · exact ready
      · exact working.ready other old
    agenda := (working.agenda.cons task.work).trans pending.symm
    looping := working.looping
    failures := working.failures }

/-- A turn succeeds and replaces a task by tasks of lower measures. -/
theorem turn (working : pass.Working document [] tasks) (waits : pass.agenda.ready ≠ []) :
    ∃ after others, Pass.turn Body.render pass = (.ok (), after) ∧
      after.Working document [] others ∧
      CutExpand (· < ·) (measures others) (measures tasks) := by
  obtain ⟨work, rest, first⟩ := List.exists_cons_of_ne_nil waits
  obtain ⟨task, others, rfl, reordered, doing⟩ := working.taken first
  have ready : task.Ready (pass.queued rest) :=
    working.ready task (reordered.mem_iff.mpr List.mem_cons_self)
  obtain ⟨left, middle, new, stepped, fewer, leaves⟩ := step_pays ready doing
  rw [turn_step first, stepped]
  have lower {other : Task} (member : other ∈ new) : other.measure < task.measure :=
    Prod.Lex.toLex_lt_toLex.mpr (.inl (fewer other member))
  cases left with
  | none =>
    exact ⟨middle, new ++ others, rfl, leaves,
      measures_cut reordered fun other member => lower member⟩
  | some left =>
    obtain ⟨pause, work⟩ := left
    obtain ⟨nearer, texts, readyAgain, owing⟩ := leaves
    obtain ⟨after, suspension, waiting⟩ := owing.suspended readyAgain
    refine ⟨after, _, suspension, waiting, ?_⟩
    rw [← List.cons_append]
    refine measures_cut reordered fun other member => ?_
    rcases List.mem_cons.mp member with rfl | added
    · exact Prod.Lex.toLex_lt_toLex.mpr (.inr ⟨rfl, nearer⟩)
    · exact lower added

/-- Whichever work goes on, all that is pending afterwards is that of tasks, of lower measures. -/
theorem continues (working : pass.Working document [] tasks) (goes : pass.Continues after) :
    ∃ others, after.Working document [] others ∧
      CutExpand (· < ·) (measures others) (measures tasks) := by
  obtain ⟨middle, waits, ready, rfl⟩ := goes
  obtain ⟨after, others, turned, kept, lower⟩ := (working.waited waits).turn ready
  rw [turned]
  exact ⟨others, kept, lower⟩

/-- However work goes on, all that is pending is that of tasks. -/
theorem reaches (working : pass.Working document [] tasks)
    (goes : ReflTransGen Continues pass after) : ∃ others, after.Working document [] others := by
  induction goes with
  | refl => exact ⟨tasks, working⟩
  | tail _ last ih =>
    obtain ⟨others, kept⟩ := ih
    obtain ⟨left, keptOn, _⟩ := kept.continues last
    exact ⟨left, keptOn⟩

/-- No schedule goes on for ever: each turn replaces a task by any number of tasks with lower
measures. -/
theorem ends (working : pass.Working document [] tasks) :
    Acc (fun later earlier : Pass => earlier.Continues later) pass := by
  have founded : WellFounded (CutExpand (· < · : Nat ×ₗ Nat → Nat ×ₗ Nat → Prop)) :=
    wellFounded_lt.cutExpand
  generalize same : measures tasks = left
  induction left using founded.induction generalizing pass tasks with
  | _ left ih =>
    subst same
    refine ⟨pass, fun after goes => ?_⟩
    obtain ⟨others, kept, lower⟩ := working.continues goes
    exact ih _ lower kept rfl

/-- When no work is pending the document is complete. -/
theorem concluded (working : pass.Working document [] tasks) (idle : pass.agenda.pending = []) :
    pass.tree.finished = true ∧ pass.tree.delivered = RenderTree.solid document ∧
      pass.conclusion = .ok (String.join document) := by
  have none : tasks = [] := by
    have empty := working.agenda
    rw [idle] at empty
    exact List.map_eq_nil_iff.mp empty.eq_nil
  subst none
  obtain ⟨finished, output, delivered⟩ := working.owes.settled
  refine ⟨finished, delivered, ?_⟩
  simp only [conclusion, working.failures, finished, if_true, RenderTree.text, output,
    RenderTree.join_solid]

end Working

end Pass

/-- A document can be begun when its body means something. What is pending then are tasks that owe
the texts which are not written yet. -/
theorem begin_pays {steps : Nat} {body : Body} {context : Context} {texts : List String}
    (means : Body.meaningTo steps Body.nestingLimit context body = some texts) :
    ∃ started tasks,
      Pass.begin body context (Pass.start .accepting true) = (.ok (), started) ∧
      started.Working texts [] tasks := by
  have unchanged : texts.map (TapStack.effect {}) ++ [] = texts := by
    rw [List.append_nil]
    exact List.map_id texts
  have working : (Pass.opened true).Working texts
      [(⟨0⟩, texts.map (TapStack.effect {}) ++ [])] [] := by
    rw [unchanged]
    exact ⟨Pass.opened_owes true texts, fun _ member => absurd member List.not_mem_nil, .rfl, rfl,
      rfl⟩
  obtain ⟨middle, new, rendered, _, paid, kept⟩ :=
    renderTo_pays TapStack.harmless_empty means working (Pass.opened_tapped true)
  obtain ⟨started, finished, settled⟩ := paid.finish kept rfl
  rw [List.append_nil] at settled
  refine ⟨started, new, ?_, settled⟩
  simp only [Pass.begin, bind_step, Pass.root_opened, discard_step, Body.render, rendered]
  exact finished

/-! ## The schedule of a pass -/

namespace Pass

variable {origin pass after : Pass} {steps : Nat}

/-- A turn never fails: a fault of the work is kept aside. -/
theorem turn_ok (render : RenderBody) (pass : Pass) :
    ∃ after, turn render pass = (.ok (), after) := by
  cases queue : pass.agenda.ready with
  | nil =>
    refine ⟨pass, ?_⟩
    simp only [turn, bind_step, get_step, queue, pure_step]
  | cons work rest =>
    rw [turn_step queue]
    rcases work.step render (pass.queued rest) with ⟨fault | _ | ⟨pause, left⟩, middle⟩
    · exact ⟨_, rfl⟩
    · exact ⟨_, rfl⟩
    · obtain ⟨agenda, suspension, _⟩ := suspend_step pause left middle
      exact ⟨_, suspension⟩

/-- Nothing is pending in an agenda without work. -/
theorem pending_of_size (empty : (pass.agenda.size == 0) = true) : pass.agenda.pending = [] := by
  have none : pass.agenda.size = 0 := by simpa using empty
  apply List.eq_nil_of_length_eq_zero
  rw [Agenda.size] at none
  simp only [Agenda.pending, List.length_append, List.length_map]
  omega

/-- Letting time pass is waiting, when no work can go on. -/
theorem passTime_waits (idle : pass.agenda.ready.isEmpty = true) :
    ∃ moved after, passTime pass = (.ok moved, after) ∧ pass.Waited after := by
  simp only [passTime, bind_step, get_step]
  cases earliest pass.agenda.timed with
  | none => exact ⟨false, pass, rfl, .refl pass⟩
  | some moment =>
    refine ⟨true, _, rfl, _, _, ?_, rfl⟩
    have none : pass.agenda.ready = [] := List.isEmpty_iff.mp idle
    generalize found : pass.agenda.timed.takeWhile (fun entry => entry.1 != moment) = before
    have split : before ++ pass.agenda.timed.drop before.length = pass.agenda.timed :=
      List.prefix_iff_eq_append.mp (found ▸ List.takeWhile_prefix _)
    generalize pass.agenda.timed.drop before.length = rest at split
    simp only [Agenda.pending, none, ← split, List.nil_append, ← List.map_append,
      ← List.append_assoc]
    have moved : (rest.take 1 ++ before ++ rest.drop 1).Perm
        (before ++ rest.take 1 ++ rest.drop 1) := List.perm_append_comm.append_right _
    have whole : before ++ rest.take 1 ++ rest.drop 1 = before ++ rest := by
      rw [List.append_assoc, List.take_append_drop]
    exact (List.Perm.map _ (whole ▸ moved)).append_right _

/-- A pass is driven to its end: no work is pending then, and until then time passes when no work can
go on, and else a turn is taken. -/
inductive Driven (last : Pass) : Pass → Prop where
  | ended (done : last.agenda.pending = []) : Driven last last
  | waited {pass middle : Pass} (waits : pass.Waited middle) (driven : Driven last middle) :
      Driven last pass
  | turned {pass middle : Pass} {steps : Nat} {work : Work} {rest : List Work}
      (first : pass.agenda.ready = work :: rest)
      (turned : turn Body.render pass = (.ok (), middle))
      (more : driveWithin Body.render steps middle = (.ok (), last))
      (driven : Driven last middle) : Driven last pass

/-- Driving a pass drives it to its end, when that does not take too long. -/
theorem driven_of_driveWithin (drove : driveWithin Body.render steps pass = (.ok (), after)) :
    Driven after pass := by
  induction steps generalizing pass with
  | zero => cases drove
  | succ steps ih =>
    rw [driveWithin, bind_step, get_step] at drove
    dsimp only at drove
    split at drove
    · rename_i empty
      cases drove
      exact .ended (pending_of_size empty)
    · split at drove
      · rename_i idle
        obtain ⟨moved, middle, passed, waits⟩ := passTime_waits idle
        rw [bind_step, passed] at drove
        cases moved with
        | false => cases drove
        | true => exact .waited waits (ih drove)
      · rename_i busy
        obtain ⟨_, middle, turned, more⟩ := bind_ok drove
        have ready : pass.agenda.ready ≠ [] := fun none => busy (by rw [none]; rfl)
        obtain ⟨work, rest, first⟩ := List.exists_cons_of_ne_nil ready
        exact .turned first turned more (ih more)

/-- The schedule that a pass follows is one of all schedules. -/
theorem driveWithin_continues (waits : origin.Waited pass)
    (drove : driveWithin Body.render steps pass = (.ok (), after)) :
    ∃ last, ReflTransGen Continues origin last ∧ last.Waited after ∧
      after.agenda.pending = [] := by
  replace drove := driven_of_driveWithin drove
  induction drove generalizing origin with
  | ended done => exact ⟨origin, .refl, waits, done⟩
  | waited waited _ ih => exact ih (waits.trans waited)
  | @turned pass middle _ _ _ first turned _ _ ih =>
    have ready : pass.agenda.ready ≠ [] := fun none => by cases none.symm.trans first
    have goes : origin.Continues middle := ⟨pass, waits, ready, by rw [turned]⟩
    obtain ⟨last, more, waited, done⟩ := ih (.refl middle)
    exact ⟨last, .head goes more, waited, done⟩

/-- Driving a pass fails only when it takes too long. -/
theorem driveWithin_stalled {render : RenderBody} {fault : Fault}
    (drove : driveWithin render steps pass = (.error fault, after)) : fault = .stalled := by
  induction steps generalizing pass with
  | zero =>
    cases drove
    rfl
  | succ steps ih =>
    rw [driveWithin, bind_step, get_step] at drove
    dsimp only at drove
    split at drove
    · cases drove
    · split at drove
      · rename_i idle
        obtain ⟨moved, middle, passed, _⟩ := passTime_waits idle
        rw [bind_step, passed] at drove
        cases moved with
        | false =>
          cases drove
          rfl
        | true => exact ih drove
      · obtain ⟨middle, turned⟩ := turn_ok render pass
        rw [bind_step, turned] at drove
        exact ih drove

/-- A document that was begun comes out whole, unless it takes too long. -/
theorem document_comes {body : Body} {context : Context} {document : List String}
    {tasks : List Task} {started : Pass} (begun : begin body context pass = (.ok (), started))
    (working : started.Working document [] tasks) :
    (Pass.document body context pass).1 = .ok (String.join document) ∨
      (Pass.document body context pass).1 = .error .stalled := by
  have reported (fault : Fault) (last : Pass) (fails : fault = .stalled) :
      ((do discard drain; throw fault : PassM String) last).1 = .error .stalled := by
    subst fails
    rw [bind_step, discard_step, drain, bind_step]
    cases drove : drive last with
    | mk result final =>
      cases result with
      | ok value => rfl
      | error fault =>
        rw [driveWithin_stalled drove]
  simp only [Pass.document, bind_step, attempt_step, begun, wait]
  cases drove : drive started with
  | mk result final =>
    cases result with
    | error fault => exact .inr (reported fault final (driveWithin_stalled drove))
    | ok value =>
      obtain ⟨last, goes, waited, idle⟩ := driveWithin_continues (.refl started) drove
      obtain ⟨others, kept⟩ := working.reaches goes
      obtain ⟨_, _, concluded⟩ := (kept.waited waited).concluded idle
      refine .inl ?_
      simp only [get_step, concluded, liftExcept_step, pure_step]

end Pass

end TemplateStream
