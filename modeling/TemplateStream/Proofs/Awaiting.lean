import TemplateStream.Proofs.Spent
import TemplateStream.Proofs.Telling

/-!
# Work that is awaited

A body that announces itself as asynchronous is given a branch, and what is to be awaited is
scheduled; so is the call of an asynchronous helper. Nothing that a pass does afterwards loses
pending work, and waiting for the pass does all of it: each piece is taken, and so is what each of
its pauses leaves of it, until it ends or fails. A plain function does not announce that what it
answers with has to be awaited. Its answer is dropped, and it renders as if it gave none.
-/

namespace TemplateStream

open Relation

/-! ## Pending work -/

/-- All work that was pending still is, as often. -/
def Pass.Remembers (pass after : Pass) : Prop :=
  List.Subperm pass.agenda.pending after.agenda.pending

namespace Pass

variable {pass middle after last : Pass}

/-- No work is lost where the agenda is the same. -/
theorem Remembers.of_same (same : after.agenda = pass.agenda) : pass.Remembers after := by
  rw [Remembers, same]

/-- Waiting loses no work. -/
theorem Waited.remembers (waited : pass.Waited after) : pass.Remembers after := by
  obtain ⟨agenda, gates, same, rfl⟩ := waited
  exact same.symm.subperm

/-- The steps on the tree, the taps and the handles of a pass lose no work. -/
theorem remembers_grounded : Grounded Remembers where
  trans := List.Subperm.trans
  refl _ := .of_same rfl
  taken _ := .of_same rfl
  onTaps _ _ := .of_same rfl
  update _ _ _ := .of_same rfl
  create _ _ := .of_same rfl
  append _ _ _ := .of_same rfl
  fork _ _ := .of_same rfl
  complete _ _ := .of_same rfl

/-- Scheduling work adds it to what is pending. -/
theorem enqueue_pending (work : Work) (pass : Pass) :
    (enqueue work pass).2.agenda.pending.Perm (work :: pass.agenda.pending) := by
  simp only [enqueue, modify_step, Agenda.pending, List.append_assoc, List.singleton_append]
  exact List.perm_middle

/-- Opening a gate is waiting. -/
theorem openGate_waits (name : String) (pass : Pass) : pass.Waited (openGate name pass).2 := by
  refine ⟨_, _, ?_, rfl⟩
  let freed := pass.agenda.gated.partition fun entry => entry.1 == name
  have parts : (freed.1 ++ freed.2).Perm pass.agenda.gated := by
    simp only [freed, List.partition_eq_filter_filter]
    exact List.filter_append_perm _ _
  simp only [Agenda.pending, List.append_assoc]
  refine .append_left _ ((List.perm_append_comm_assoc _ _ _).trans (.append_left _ ?_))
  rw [← List.map_append]
  exact parts.map Prod.snd

/-- What a pass does at a time: an operation on chunks, or something that is noted, scheduled or
opened besides. -/
inductive Acts : Pass → Pass → Prop where
  | operates (operation : Operation) (pass : Pass) : Acts pass (operation.perform pass).2
  | recovers (helper : String) (fault : Fault) (pass : Pass) :
      Acts pass (noteRecovery helper fault pass).2
  | schedules (work : Work) (pass : Pass) : Acts pass (enqueue work pass).2
  | opens (name : String) (pass : Pass) : Acts pass (openGate name pass).2
  | notes (entry : Value) (pass : Pass) : Acts pass (note entry pass).2
  | saves (name : String) (chunk : Chunk) (pass : Pass) : Acts pass (saveChunk name chunk pass).2

/-- Whatever scripts and renderings do, they do one such thing after the other. -/
theorem acts_carried : Carried (ReflTransGen Acts) where
  trans := .trans
  refl _ := .refl
  root pass := discard_state Chunk.root pass ▸ .single (.operates .root pass)
  write chunk value pass := .single (.operates (.write chunk value) pass)
  tap chunk transform pass := .single (.operates (.tap chunk transform) pass)
  untap chunk pass := .single (.operates (.untap chunk) pass)
  branch chunk pass := discard_state chunk.branch pass ▸ .single (.operates (.branch chunk) pass)
  complete chunk pass := .single (.operates (.complete chunk) pass)
  recovery helper fault pass := .single (.recovers helper fault pass)
  enqueue work pass := .single (.schedules work pass)
  openGate name pass := .single (.opens name pass)
  note entry pass := .single (.notes entry pass)
  save name chunk pass := .single (.saves name chunk pass)

/-- An operation on chunks loses no work. -/
theorem operation_remembers (operation : Operation) (pass : Pass) :
    pass.Remembers (operation.perform pass).2 := by
  cases operation with
  | root => exact remembers_grounded.root.discard pass
  | write chunk value => exact remembers_grounded.write chunk value pass
  | tap chunk transform => exact remembers_grounded.tap chunk transform pass
  | untap chunk => exact remembers_grounded.untap chunk pass
  | branch chunk => exact (remembers_grounded.branch chunk).discard pass
  | complete chunk => exact remembers_grounded.completed chunk pass

/-- Nothing that a pass does loses work. -/
theorem Acts.remembers (acts : pass.Acts after) : pass.Remembers after := by
  cases acts with
  | operates operation => exact operation_remembers operation pass
  | recovers => exact .of_same rfl
  | schedules work =>
    exact (List.sublist_cons_self work _).subperm.trans (enqueue_pending work pass).symm.subperm
  | opens name => exact (openGate_waits name pass).remembers
  | notes => exact .of_same rfl
  | saves => exact .of_same rfl

/-- Nor do several things that it does. -/
theorem remembers_of_acts (acts : ReflTransGen Acts pass after) : pass.Remembers after := by
  induction acts with
  | refl => exact .of_same rfl
  | tail _ last ih => exact ih.trans last.remembers

/-! ## Turns -/

end Pass

/-- A turn of the event loop: the work that was taken, and its fault or what is left of it. -/
structure WorkTurn where
  work : Work
  result : Except Fault (Option (Pause × Work))

/-- Work is attended to in the course of turns: one of them takes it, and later ones what each of
its pauses leaves of it, until it ends or fails. -/
inductive Work.Attended : Work → List WorkTurn → Prop where
  | ends {work : Work} {turns : List WorkTurn} : Attended work (⟨work, .ok none⟩ :: turns)
  | fails {work : Work} {fault : Fault} {turns : List WorkTurn} :
      Attended work (⟨work, .error fault⟩ :: turns)
  | goesOn {work left : Work} {pause : Pause} {turns : List WorkTurn}
      (later : Attended left turns) : Attended work (⟨work, .ok (some (pause, left))⟩ :: turns)
  | waits {work : Work} {turn : WorkTurn} {turns : List WorkTurn} (later : Attended work turns) :
      Attended work (turn :: turns)

namespace Pass

variable {pass middle after last : Pass} {turns : List WorkTurn}

/-- What the event loop does, with the turns that are taken. -/
inductive Works : Pass → List WorkTurn → Pass → Prop where
  | done (pass : Pass) : Works pass [] pass
  | waits {pass middle last : Pass} {turns : List WorkTurn} (waited : pass.Waited middle)
      (works : Works middle turns last) : Works pass turns last
  | takes {pass last : Pass} {work : Work} {rest : List Work} {turns : List WorkTurn}
      (first : pass.agenda.ready = work :: rest)
      (works : Works (turn Body.render pass).2 turns last) :
      Works pass (⟨work, (work.step Body.render (pass.queued rest)).1⟩ :: turns) last

/-- All that the event loop does is to wait and to take turns. -/
theorem works_of_loops (loops : ReflTransGen Loops pass last) : ∃ turns, pass.Works turns last := by
  induction loops using ReflTransGen.head_induction_on with
  | refl => exact ⟨[], .done last⟩
  | @head pass middle goes _ ih =>
    obtain ⟨turns, works⟩ := ih
    cases goes with
    | waits waited => exact ⟨turns, .waits waited works⟩
    | turns =>
      cases first : pass.agenda.ready with
      | cons work rest => exact ⟨_, .takes first works⟩
      | nil =>
        have stays : turn Body.render pass = (.ok (), pass) := by
          simp only [turn, bind_step, get_step, first, pure_step]
        rw [stays] at works
        exact ⟨turns, works⟩

/-- A turn leaves all other work pending, and also what a pause leaves of its own. -/
theorem turn_leaves {work : Work} {rest : List Work}
    (first : pass.agenda.ready = work :: rest) :
    (pass.queued rest).Remembers (turn Body.render pass).2 ∧
      ∀ pause left, (work.step Body.render (pass.queued rest)).1 = .ok (some (pause, left)) →
        left ∈ (turn Body.render pass).2.agenda.pending := by
  have kept : (pass.queued rest).Remembers (work.step Body.render (pass.queued rest)).2 :=
    remembers_of_acts (acts_carried.step (acts_carried.renderTo Body.nestingLimit) work _)
  rw [turn_step first]
  rcases stepped : work.step Body.render (pass.queued rest) with
    ⟨fault | _ | ⟨pause, left⟩, middle⟩
  all_goals
    rw [stepped] at kept
    dsimp only at kept ⊢
  · exact ⟨kept, fun _ _ same => nomatch same⟩
  · exact ⟨kept, fun _ _ same => nomatch same⟩
  · obtain ⟨agenda, suspended, pending⟩ := suspend_step pause left middle
    rw [suspended]
    have more : List.Subperm middle.agenda.pending agenda.pending :=
      (List.sublist_cons_self left _).subperm.trans pending.symm.subperm
    refine ⟨kept.trans more, fun _ _ same => ?_⟩
    cases same
    exact pending.mem_iff.mpr List.mem_cons_self

/-- When nothing is pending at the end, all that was pending has been attended to. -/
theorem Works.attended (works : pass.Works turns last) (idle : last.agenda.pending = [])
    {work : Work} (pending : work ∈ pass.agenda.pending) : work.Attended turns := by
  induction works generalizing work with
  | done pass =>
    rw [idle] at pending
    exact absurd pending List.not_mem_nil
  | waits waited _ ih => exact ih idle (waited.remembers.subset pending)
  | @takes pass last taken rest turns first _ ih =>
    obtain ⟨others, left⟩ := turn_leaves first
    have split : work = taken ∨ work ∈ (pass.queued rest).agenda.pending := by
      simpa [Agenda.pending, first, queued, or_assoc] using pending
    rcases split with rfl | other
    · rcases stepped : (work.step Body.render (pass.queued rest)).1 with
        fault | _ | ⟨pause, behind⟩
      · exact .fails
      · exact .ends
      · exact .goesOn (ih idle (left pause behind stepped))
    · exact .waits (ih idle (others.subset other))

/-- Waiting for a pass does all its work, unless it is given up. -/
theorem wait_works {result : Except Fault String} (waited : wait pass = (result, last))
    (ends : result ≠ .error .stalled) :
    ∃ turns, pass.Works turns last ∧ last.agenda.pending = [] := by
  rw [wait, bind_step] at waited
  rcases drove : drive pass with ⟨fault | _, after⟩
  · obtain rfl := driveWithin_stalled drove
    rw [drove] at waited
    cases waited
    exact absurd rfl ends
  · rw [drove] at waited
    simp only [bind_step, get_step, liftExcept_step] at waited
    obtain ⟨loops, idle⟩ := driveWithin_loops drove
    obtain rfl : after = last := congrArg Prod.snd waited
    obtain ⟨turns, works⟩ := works_of_loops loops
    exact ⟨turns, works, idle⟩

end Pass

/-! ## Bodies -/

/-- The work that a body asks to be awaited on its branch: to run its script, or to call a helper
that is asynchronous. -/
def Body.work? (context : Context) : Body → Option (Chunk → Work)
  | .deferred _ _ script => some fun branch => .run script (.plain branch context) .close
  | .call helper bodies parameters => do
    let environment ← context.environment
    let found ← (environment.helpers.get helper).toOption
    if found.function.isAsync then
      some fun branch => .invoke ⟨helper, bodies, parameters⟩ found branch context
    else none
  | _ => none

section render

variable {render : RenderBody} {body : Body} {chunk next : Chunk} {context : Context}
  {work : Chunk → Work} {pass after : Pass}

/-- What a body asks to be awaited is scheduled for a branch of the chunk. -/
theorem Body.write_of_work (asks : body.work? context = some work) :
    body.write render chunk context = (do
      chunk.map fun branch => pure (.awaitable (work branch))
      pure chunk) := by
  cases body with
  | deferred style name script =>
    cases asks
    rfl
  | call helper bodies parameters =>
    obtain ⟨environment, known, asks⟩ := Option.bind_eq_some_iff.mp asks
    obtain ⟨found, got, asks⟩ := Option.bind_eq_some_iff.mp asks
    split at asks
    · rename_i later
      cases asks
      exact write_asynchronous known (ok_of_toOption got) later
    · cases asks
  | _ => cases asks

/-- The rendering of a body that asks for work to be awaited schedules the work, or fails. -/
theorem Body.render_of_work (asks : body.work? context = some work) {depth : Nat}
    (rendered : Body.renderTo depth body chunk context pass = (.ok next, after)) :
    next = chunk ∧ pass.looping = true ∧ ∃ branch forked,
      chunk.branch pass = (.ok branch, forked) ∧
        after = (Pass.enqueue (work branch) forked).2 := by
  cases depth with
  | zero => cases rendered
  | succ depth =>
    obtain ⟨_, middle, allowed, wrote⟩ := bind_ok rendered
    obtain ⟨rfl, -⟩ := Chunk.ensureOpen_ok allowed
    rw [write_of_work asks] at wrote
    obtain ⟨_, mapped, mapping, done⟩ := bind_ok wrote
    cases done
    obtain ⟨branch, forked, branched, scheduled⟩ := bind_ok mapping
    obtain ⟨loops, same⟩ := Pass.spawn_ok scheduled
    exact ⟨rfl, (branch_same branched).2 ▸ loops, branch, forked, branched, same⟩

/-- It makes no difference to the rendering of a script that it answers with something to be
awaited. -/
theorem runScript_awaitable (render : RenderBody) (front rest : Script) (scope : Scope)
    (chunk : Chunk) :
    (runScript render scope (front ++ .answer .awaitable :: rest) >>= fun outcome =>
        pure (outcome.chunkOr chunk)) =
      (runScript render scope front >>= fun outcome => pure (outcome.chunkOr chunk)) := by
  induction front with
  | nil => rfl
  | cons statement front ih =>
    cases statement with
    | answer result => rfl
    | _ => simp only [List.cons_append, runScript, bind_assoc, ih]

end render

/-- What a body asks to be awaited is scheduled when the body is rendered at any depth, or the
rendering fails. Whatever is done then, it has been attended to when a pass has been waited for. So
has all that is pending when the body of a document was rendered, also when that failed. But a plain
function that answers with something to be awaited is rendered as if it gave no answer. -/
theorem awaitables_awaited_unless_unannounced (pass : Pass) :
    (∀ depth body chunk context work next after, body.work? context = some work →
      Body.renderTo depth body chunk context pass = (.ok next, after) →
      next = chunk ∧ pass.looping = true ∧ ∃ branch forked,
        chunk.branch pass = (.ok branch, forked) ∧
        after = (Pass.enqueue (work branch) forked).2 ∧
        ∀ later result last, ReflTransGen Pass.Acts after later →
          Pass.wait later = (result, last) → result ≠ .error .stalled →
          ∃ turns, later.Works turns last ∧ (work branch).Attended turns) ∧
    (∀ depth body chunk context,
      ReflTransGen Pass.Acts pass (Body.renderTo depth body chunk context pass).2) ∧
    (∀ call : HandleCall, ReflTransGen Pass.Acts pass (call.perform pass).2) ∧
    (∀ body context result last, Pass.document body context pass = (result, last) →
      result ≠ .error .stalled → ∃ turns, (Pass.begin body context pass).2.Works turns last ∧
        ∀ work ∈ (Pass.begin body context pass).2.agenda.pending, work.Attended turns) ∧
    ∀ depth name chunk context (front rest : Script),
      Body.renderTo depth (.callback (front ++ .answer .awaitable :: rest)) chunk context pass =
        Body.renderTo depth (.callback front) chunk context pass ∧
      Body.renderTo depth (.function name (front ++ .answer .awaitable :: rest)) chunk context
        pass = Body.renderTo depth (.function name front) chunk context pass := by
  refine ⟨?asked, ?renders, ?calls, ?documents, ?unannounced⟩
  case asked =>
    intro depth body chunk context work next after asks rendered
    obtain ⟨same, loops, branch, forked, branched, rfl⟩ := Body.render_of_work asks rendered
    refine ⟨same, loops, branch, forked, branched, rfl, ?_⟩
    intro later result last acts waited ends
    have pending := (Pass.enqueue_pending (work branch) forked).mem_iff.mpr List.mem_cons_self
    obtain ⟨turns, works, idle⟩ := Pass.wait_works waited ends
    exact ⟨turns, works, works.attended idle ((Pass.remembers_of_acts acts).subset pending)⟩
  case renders =>
    exact fun depth body chunk context => Pass.acts_carried.renderTo depth body chunk context pass
  case calls => exact fun call => Pass.acts_carried.call call pass
  case documents =>
    intro body context result last ran ends
    rw [Pass.document_eq] at ran
    obtain ⟨loops, idle⟩ := Pass.documentWithin_loops ran ends
    obtain ⟨turns, works⟩ := Pass.works_of_loops loops
    exact ⟨turns, works, fun work pending => works.attended idle pending⟩
  case unannounced =>
    intro depth name chunk context front rest
    cases depth with
    | zero => exact ⟨rfl, rfl⟩
    | succ depth =>
      have same := runScript_awaitable (Body.renderTo depth) front rest (.plain chunk context)
        chunk
      have rendered := congrArg (fun wrote => (do chunk.ensureOpen .render; wrote) pass) same
      exact ⟨rendered, rendered⟩

end TemplateStream
