import TemplateStream.Proofs.Completed
import TemplateStream.Proofs.Unrefused

/-!
# Waiting for a pass

Waiting does the work that is left, in whatever order it goes on, and then gives one of three
results: the first fault of the work in time, the number of handles that were not ended, or
everything that was written, in document order. The open records are counted for the handles, and
as long as the sink refuses nothing each of them is that of one handle. A sink that refuses a
fragment keeps the cursor back at a record that is complete, so that a pass may then be unfinished
without an open record.
-/

namespace TemplateStream

open HasSink RenderTree Relation

/-! ## What was written -/

/-- What a pass goes on to, and what was written by then. -/
inductive Snapshot.Goes : Snapshot → Snapshot → Prop where
  | performs (pass : Pass) (written : Journal) (operation : Operation) :
      Goes ⟨pass, written⟩
        ⟨(operation.perform pass).2, written.enter (operation.appended pass)⟩
  | aside {pass after : Pass} (written : Journal) (untouched : pass.Untouched after) :
      Goes ⟨pass, written⟩ ⟨after, written⟩

/-- What a pass can become by a chain of operations, and what was written by then. -/
abbrev Snapshot.Reaches : Snapshot → Snapshot → Prop := ReflTransGen Snapshot.Goes

/-- Whatever is done keeps what is durable, with what was written. -/
theorem Snapshot.Reaches.keeps {property : RenderTree → Journal → Prop}
    (durable : Operation.Durable property) {before after : Snapshot}
    (reached : before.Reaches after) (kept : property before.pass.tree before.written) :
    property after.pass.tree after.written := by
  induction reached with
  | refl => exact kept
  | tail _ last ih =>
    cases last with
    | performs pass written operation => exact durable.operation ih operation
    | aside written untouched => exact untouched.tree ▸ ih

/-- Whatever is done, a whole tree stays whole, with what was written. -/
theorem Snapshot.Reaches.whole {before after : Snapshot} (reached : before.Reaches after)
    (whole : Whole before.pass.tree before.written) : Whole after.pass.tree after.written :=
  reached.keeps Operation.whole_durable whole

/-- What a pass goes on to while its sink refuses nothing, it goes on to with a sink that never
does. -/
theorem Snapshot.Goes.unrefused {before after : Snapshot} (goes : before.Goes after)
    (accepted : Accepted after.pass) : Accepted before.pass ∧
      Snapshot.Goes ⟨unrefusing before.pass, before.written⟩
        ⟨unrefusing after.pass, after.written⟩ := by
  cases goes with
  | performs pass written operation =>
    obtain ⟨acceptedBefore, same⟩ := (SinkBlind.perform operation).unseen pass accepted
    have appends : operation.appended (unrefusing pass) = operation.appended pass := by
      cases operation <;> rfl
    have performs := Goes.performs (unrefusing pass) written operation
    rw [same, appends] at performs
    exact ⟨acceptedBefore, performs⟩
  | @aside pass after written untouched =>
    have acceptedBefore : pass.tree.sink.Accepts [] pass.tree.delivered := untouched.tree ▸ accepted
    exact ⟨acceptedBefore,
      .aside written ⟨congrArg unrefusing untouched.tree, untouched.handles, untouched.rootTaken⟩⟩

/-- Whatever is done, a pass keeps its sink. -/
theorem Snapshot.Reaches.sink {before after : Snapshot} (reached : before.Reaches after) :
    after.pass.tree.sink = before.pass.tree.sink := by
  induction reached with
  | refl => rfl
  | tail _ last ih =>
    cases last with
    | performs pass _ operation => exact ((SinkBlind.perform operation).stays pass).trans ih
    | aside _ untouched => exact (congrArg RenderTree.sink untouched.tree).trans ih

/-- What a pass becomes while its sink refuses nothing, it becomes with a sink that never does. -/
theorem Snapshot.Reaches.unrefused {before after : Snapshot} (reached : before.Reaches after)
    (accepted : Accepted after.pass) :
    Snapshot.Reaches ⟨unrefusing before.pass, before.written⟩
      ⟨unrefusing after.pass, after.written⟩ := by
  induction reached with
  | refl => exact .refl
  | tail _ last ih =>
    obtain ⟨acceptedBefore, goes⟩ := last.unrefused accepted
    exact (ih acceptedBefore).tail goes

/-- What is reached with what was written is reached. -/
theorem Snapshot.Reaches.pass {before after : Snapshot} (reached : before.Reaches after) :
    before.pass.Reaches after.pass := by
  induction reached with
  | refl => exact .refl
  | tail _ last ih =>
    cases last with
    | performs pass written operation => exact ih.tail (.performs pass operation)
    | aside written untouched => exact ih.tail (.aside untouched)

/-- A chain of operations writes something, be it nothing. -/
theorem Pass.Reaches.writes {pass after : Pass} (reached : pass.Reaches after)
    (written : Journal) : ∃ later, Snapshot.Reaches ⟨pass, written⟩ ⟨after, later⟩ := by
  induction reached with
  | refl => exact ⟨written, .refl⟩
  | @tail middle last _ goes ih =>
    obtain ⟨later, reached⟩ := ih
    cases goes with
    | performs operation => exact ⟨_, reached.tail (.performs middle later operation)⟩
    | aside untouched => exact ⟨later, reached.tail (.aside later untouched)⟩

namespace RenderTree

variable {tree : RenderTree} {written : Journal}

/-- A tree is finished when none of its records is open. -/
theorem Whole.finished_iff (whole : Whole tree written) :
    tree.finished = true ↔ tree.incompleteCount = 0 := by
  rw [finished, Option.isNone_iff_eq_none, whole.exact.cursor, List.find?_eq_none,
    incompleteCount, List.countP_eq_zero]

/-- A tree none of whose records is open has the text of everything that was written. -/
theorem Whole.text_eq (whole : Whole tree written) (finished : tree.incompleteCount = 0) :
    tree.text = String.join (tree.documentOrder.flatMap written) := by
  have all : ∀ index ∈ tree.documentOrder, tree.isComplete index = true := by
    intro index member
    simpa using List.countP_eq_zero.mp finished index member
  rw [text, whole.exact.output, List.takeWhile_eq_self_iff.mpr all, join_solid]

end RenderTree

/-! ## Faults of the work -/

/-- Calls and renderings note no faults of the work. -/
theorem failures_same : Enduring fun pass after => after.failures = pass.failures :=
  Lasting.enduring {
    trans := fun early late => late.trans early
    elsewhere := fun _ _ same => same
    append := fun _ _ _ => rfl
    fork := fun _ _ => rfl
    complete := fun _ _ => rfl
    recovery := fun _ _ _ => rfl }

namespace Pass

variable {origin pass after last : Pass} {faults : List Fault}

/-- A turn notes the fault of its work, if there is one. -/
theorem turn_failures {work : Work} {rest : List Work}
    (first : pass.agenda.ready = work :: rest) :
    (turn Body.render pass).2.failures =
      pass.failures ++ faultsOf (work.step Body.render (pass.queued rest)).1 := by
  have same : (work.step Body.render (pass.queued rest)).2.failures = pass.failures :=
    failures_same.step (failures_same.renderTo Body.nestingLimit) work (pass.queued rest)
  rw [turn_step first]
  rcases stepped : work.step Body.render (pass.queued rest) with ⟨fault | _ | _, middle⟩
  all_goals rw [stepped] at same
  · exact congrArg (· ++ [fault]) same
  · exact same.trans (List.append_nil _).symm
  · exact same.trans (List.append_nil _).symm

/-- The failures of a pass are the faults of the work in its run, in the order of time. -/
theorem Runs.failures_eq (ran : origin.Runs faults pass) :
    pass.failures = origin.failures ++ faults := by
  induction ran with
  | start => exact (List.append_nil _).symm
  | calls _ call ih => exact (failures_same.call call _).trans ih
  | waits _ waited ih =>
    obtain ⟨agenda, gates, _, rfl⟩ := waited
    exact ih
  | works _ first ih => rw [turn_failures first, ih, List.append_assoc]

/-- Taking turns until no work is left goes on with a run. -/
theorem Runs.driveWithin {steps : Nat} (ran : origin.Runs faults pass)
    (drove : Pass.driveWithin Body.render steps pass = (.ok (), last)) :
    ∃ more, origin.Runs (faults ++ more) last ∧ last.agenda.pending = [] := by
  replace drove := driven_of_driveWithin drove
  induction drove generalizing faults with
  | ended done => exact ⟨[], (List.append_nil faults).symm ▸ ran, done⟩
  | waited waits _ ih => exact ih (ran.waits waits)
  | turned first turned _ _ ih =>
    have goes := ran.works first
    rw [turned] at goes
    obtain ⟨more, ranOn, done⟩ := ih goes
    exact ⟨_, List.append_assoc .. ▸ ranOn, done⟩

/-! ## Handles that were not ended -/

/-- The number of handles that were not ended. As long as the root was not taken it is one that
was not ended. -/
def unended (pass : Pass) : Nat :=
  pass.handles.toList.countP (fun handle => !handle.complete) + if pass.rootTaken then 0 else 1

/-- The open records of a pass are those of its open handles. -/
theorem Owned.open_records (owned : pass.Owned) (taken : pass.rootTaken = true) :
    ((pass.handles.toList.filter fun handle => !handle.complete).map Handle.record).Perm
      ((List.range pass.tree.records.size).filter fun index => !pass.tree.isComplete index) := by
  have distinct : (pass.handles.toList.map Handle.record).Nodup := by
    rw [List.nodup_iff_pairwise_ne, List.pairwise_iff_getElem]
    intro first second insideFirst insideSecond early same
    simp only [List.length_map, Array.length_toList] at insideFirst insideSecond
    simp only [List.getElem_map, Array.getElem_toList] at same
    have numbers := owned.apart (Array.getElem?_eq_getElem insideFirst)
      (Array.getElem?_eq_getElem insideSecond) same
    omega
  have distinctOpen : ((pass.handles.toList.filter fun handle => !handle.complete).map
      Handle.record).Nodup := distinct.sublist (List.filter_sublist.map _)
  refine (List.perm_ext_iff_of_nodup distinctOpen (List.nodup_range.filter _)).mpr fun index => ?_
  simp only [List.mem_map, List.mem_filter, List.mem_range, Bool.not_eq_true']
  constructor
  · rintro ⟨handle, ⟨member, isOpen⟩, rfl⟩
    obtain ⟨number, found⟩ := Array.mem_iff_getElem?.mp (Array.mem_toList_iff.mp member)
    exact ⟨owned.inside found, (owned.complete found).trans isOpen⟩
  · rintro ⟨inside, incomplete⟩
    have isOpen : pass.tree.isOpen index = true := by
      rw [isOpen_eq, incomplete, decide_eq_true inside]
      rfl
    obtain ⟨number, handle, found, rfl⟩ := owned.held taken isOpen
    have member : handle ∈ pass.handles.toList :=
      Array.mem_toList_iff.mpr (Array.mem_iff_getElem?.mpr ⟨number, found⟩)
    exact ⟨handle, ⟨member, (owned.complete found).symm.trans incomplete⟩, rfl⟩

/-- As many records of the document are open as handles were not ended. -/
theorem Kept.incompleteCount_eq (kept : pass.Kept) :
    pass.tree.incompleteCount = pass.unended := by
  obtain ⟨written, whole⟩ := kept.whole
  cases taken : pass.rootTaken with
  | false =>
    obtain ⟨none, new⟩ := kept.owned.untaken taken
    rw [unended, none, new, taken]
    decide
  | true =>
    have counted := (kept.owned.open_records taken).length_eq
    rw [List.length_map, ← List.countP_eq_length_filter, ← List.countP_eq_length_filter]
      at counted
    rw [incompleteCount, whole.exact.order.countP_eq, ← counted, unended, taken]
    rfl

/-! ## The result -/

/-- What is to come of a pass whose work is done: the first of the faults of the work, the number
of handles that were not ended, or everything that was written. -/
def verdict (pass : Pass) (faults : List Fault) (written : Journal) : Except Fault String :=
  match faults with
  | fault :: _ => .error fault
  | [] =>
    if pass.unended = 0 then .ok (String.join (pass.tree.documentOrder.flatMap written))
    else .error (.chunk (.unfinished pass.unended))

/-- A pass is concluded by its verdict. -/
theorem Kept.conclusion_eq (kept : pass.Kept) {written : Journal}
    (whole : Whole pass.tree written) (failed : pass.failures = faults) :
    pass.conclusion = pass.verdict faults written := by
  cases faults with
  | cons fault rest => simp only [conclusion, failed, verdict]
  | nil =>
    simp only [conclusion, failed, verdict]
    rw [← kept.incompleteCount_eq]
    by_cases finished : pass.tree.incompleteCount = 0
    · rw [if_pos (whole.finished_iff.mpr finished), if_pos finished, whole.text_eq finished]
    · rw [if_neg finished, if_neg fun all => finished (whole.finished_iff.mp all)]

/-- A pass comes to the same conclusion with a sink that refuses nothing from here on. -/
theorem conclusion_unrefusing : (unrefusing pass).conclusion = pass.conclusion := by
  have same : (unrefusing pass).tree.documentOrder = pass.tree.documentOrder :=
    orderFrom_unrefusing
  simp only [conclusion, incompleteCount, same]
  rfl

/-- A pass has the same verdict with a sink that refuses nothing from here on. -/
theorem verdict_unrefusing {written : Journal} :
    (unrefusing pass).verdict faults written = pass.verdict faults written := by
  have same : (unrefusing pass).tree.documentOrder = pass.tree.documentOrder :=
    orderFrom_unrefusing
  simp only [verdict, same]
  rfl

/-- Waiting for a pass without pending work gives its conclusion. -/
theorem wait_idle (idle : pass.agenda.pending = []) : wait pass = (pass.conclusion, pass) := by
  have drove : drive pass = (.ok (), pass) := driveWithin_empty (turnLimit - 1) idle
  simp only [wait, bind_step, drove, get_step, liftExcept_step]

end Pass

/-- Waiting after any run of calls and work gives the first fault of the work in time, if there is
one. Else it gives the text when all has flowed out, and the number of open records when not. As
long as the sink has accepted all that it was given, that is the number of handles that were not
ended, if there are any, and the text is everything that was written, in document order. Work that
is still pending is done first, which goes on with the run. -/
theorem wait_exact_unless_refused (sink : Sink) (looping : Bool) {faults : List Fault}
    {pass : Pass} (ran : (Pass.start sink looping).Runs faults pass) :
    (∃ written, Snapshot.Reaches ⟨Pass.start sink looping, fun _ => []⟩ ⟨pass, written⟩) ∧
      (pass.agenda.pending = [] →
        (∀ fault rest, faults = fault :: rest → Pass.wait pass = (.error fault, pass)) ∧
        (faults = [] → Pass.wait pass = (if pass.tree.cursor = none then .ok pass.tree.text
          else .error (.chunk (.unfinished pass.tree.incompleteCount)), pass)) ∧
        (sink.Accepts [] pass.tree.delivered →
          (∀ written, Snapshot.Reaches ⟨Pass.start sink looping, fun _ => []⟩ ⟨pass, written⟩ →
            Pass.wait pass = (pass.verdict faults written, pass)) ∧
          ((∃ text, (Pass.wait pass).1 = .ok text) ↔ faults = [] ∧ pass.unended = 0))) ∧
      ∀ last, Pass.drive pass = (.ok (), last) →
        ∃ more, (Pass.start sink looping).Runs (faults ++ more) last ∧
          last.agenda.pending = [] ∧ Pass.wait pass = Pass.wait last := by
  have failed : pass.failures = faults := ran.failures_eq
  have writes := ran.reaches.writes fun _ => []
  refine ⟨writes, fun idle => ⟨?first, ?unfailed, fun accepts => ?accepted⟩, fun last drove => ?_⟩
  case first =>
    rintro fault rest rfl
    rw [Pass.wait_idle idle, Pass.conclusion, failed]
  case unfailed =>
    rintro rfl
    rw [Pass.wait_idle idle, Pass.conclusion, failed]
    simp only [finished, Option.isNone_iff_eq_none]
  case accepted =>
    obtain ⟨_, reachedOnce⟩ := id writes
    have same : pass.tree.sink = sink := reachedOnce.sink
    have accepted : Accepted pass := by
      show pass.tree.sink.Accepts [] pass.tree.delivered
      rwa [same]
    have concluded {written : Journal}
        (reached : Snapshot.Reaches ⟨Pass.start sink looping, fun _ => []⟩ ⟨pass, written⟩) :
        pass.conclusion = pass.verdict faults written := by
      have unrefused := reached.unrefused accepted
      have kept := (Pass.kept_start looping).reaches unrefused.pass
      rw [← Pass.conclusion_unrefusing, ← Pass.verdict_unrefusing]
      exact kept.conclusion_eq (unrefused.whole fresh_whole) failed
    refine ⟨fun written reached => ?_, ?_⟩
    · rw [Pass.wait_idle idle, concluded reached]
    · obtain ⟨written, reached⟩ := writes
      rw [Pass.wait_idle idle, concluded reached]
      cases faults with
      | cons fault rest => simp [Pass.verdict]
      | nil =>
        by_cases ended : pass.unended = 0
        · simp [Pass.verdict, ended]
        · simp [Pass.verdict, ended]
  · obtain ⟨more, ranOn, idle⟩ := ran.driveWithin drove
    refine ⟨more, ranOn, idle, ?_⟩
    rw [Pass.wait_idle idle]
    simp only [Pass.wait, bind_step, drove, get_step, liftExcept_step]

/-- A branch is forked that nobody ends, and the root is ended. -/
def branchLeftOpen : List HandleCall :=
  [.chunk .root, .map ⟨0⟩ [] (.ok .nothing), .chunk (.finish ⟨0⟩ .null)]

/-- Waiting counts the branch that nobody ended. -/
theorem wait_exact_unless_refused_branchLeftOpen :
    let origin := Pass.start .accepting false
    let left := (performCalls branchLeftOpen origin).2
    origin.Runs [] left ∧ left.agenda.pending = [] ∧
      Sink.accepting.Accepts [] left.tree.delivered ∧
      (Pass.wait left).1 = .error (.chunk (.unfinished 1)) := by
  have ran : (Pass.start .accepting false).Runs []
      (performCalls branchLeftOpen (Pass.start .accepting false)).2 :=
    Pass.Runs.start.performs branchLeftOpen
  have idle : (performCalls branchLeftOpen (Pass.start .accepting false)).2.agenda.pending = [] :=
    List.isEmpty_iff.mp (by decide +kernel)
  have unended : (performCalls branchLeftOpen (Pass.start .accepting false)).2.unended = 1 := by
    decide +kernel
  have nothing :
      (performCalls branchLeftOpen (Pass.start .accepting false)).2.tree.delivered = [] := by
    decide +kernel
  obtain ⟨⟨written, reached⟩, waited, _⟩ := wait_exact_unless_refused .accepting false ran
  have accepts : Sink.accepting.Accepts []
      (performCalls branchLeftOpen (Pass.start .accepting false)).2.tree.delivered := by
    rw [nothing]
    trivial
  refine ⟨ran, idle, accepts, ?_⟩
  rw [((waited idle).2.2 accepts).1 written reached]
  simp only [Pass.verdict, unended, Nat.one_ne_zero, if_false]

/-- A sink that refuses everything. -/
def refusingAll : Sink := fun _ _ => some (.raised .runtime "full")

/-- When the sink refuses the text of the root as that is ended, every handle is ended and no work
failed, but the pass is not finished. When the record of the root is completed past its handle, the
pass is finished although that was not ended. -/
theorem wait_inexact :
    let refused := (performCalls [.chunk .root, .chunk (.write ⟨0⟩ (.text "a")),
      .chunk (.finish ⟨0⟩ .null)] (Pass.start refusingAll false)).2
    let bypassed :=
      (Pass.onTree (RenderTree.complete 0) (Chunk.root (Pass.start .accepting false)).2).2
    (refused.failures.isEmpty ∧ refused.unended = 0 ∧
      (Pass.wait refused).1 = .error (.chunk (.unfinished 0))) ∧
      bypassed.failures.isEmpty ∧ bypassed.unended = 1 ∧ (Pass.wait bypassed).1 = .ok "" :=
  ⟨⟨rfl, by decide +kernel, rfl⟩, rfl, by decide +kernel, rfl⟩

end TemplateStream
