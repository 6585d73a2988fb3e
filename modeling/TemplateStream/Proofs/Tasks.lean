import TemplateStream.Pass.Agenda
import TemplateStream.Proofs.Meaning
import TemplateStream.Proofs.Owing

/-!
# Tasks

Work that is not done is a task: it has a branch of its own, and the texts that it is to write
there are owed to the document. While a piece of work is being done its branch is written to; all
other tasks wait meanwhile, whatever is done to that branch.
-/

namespace TemplateStream

namespace TapStack

/-- What taps that refuse nothing make of a text, the newest first. -/
def effect (stack : TapStack) (text : String) : String :=
  (stack.frames.map Tap.effect).foldl (fun text apply => apply text) text

/-- Taps that refuse nothing and remember nothing, of which the owner inherited some. -/
structure Harmless (stack : TapStack) : Prop where
  total : ∀ tap ∈ stack.frames, tap.IsTotal
  own : stack.inherited ≤ stack.frames.length

variable {stack : TapStack}

/-- A stack without taps is harmless. -/
theorem harmless_empty : ({} : TapStack).Harmless :=
  ⟨fun _ member => absurd member List.not_mem_nil, Nat.le_refl _⟩

/-- A tap that refuses nothing does no harm. -/
theorem Harmless.push (harmless : stack.Harmless) (transform : String → String) :
    (stack.push (.stateless (.ok ∘ transform))).Harmless := by
  refine ⟨fun tap member => ?_, Nat.le_succ_of_le harmless.own⟩
  rcases List.mem_cons.mp member with rfl | old
  · exact ⟨transform, rfl⟩
  · exact harmless.total tap old

/-- Inherited taps do no harm when they did none before. -/
theorem Harmless.inherit (harmless : stack.Harmless) : stack.inherit.Harmless :=
  ⟨harmless.total, Nat.le_refl _⟩

/-- Harmless taps pass every text on. -/
theorem Harmless.apply (harmless : stack.Harmless) (text : String) (memory : TapMemory) :
    stack.apply text memory = (.ok (stack.effect text), memory) :=
  TapStack.apply_total harmless.total text memory

/-- The newest tap can be taken off harmless ones when the owner put it there. -/
theorem Harmless.pop_push (harmless : stack.Harmless) (tap : Tap) :
    (stack.push tap).pop = .ok (tap, stack) := by
  have step : (stack.push tap).pop =
      if stack.inherited < stack.frames.length + 1 then .ok (tap, stack)
      else .error (.chunk .unmatchedUntap) := rfl
  rw [step, if_pos (Nat.lt_succ_of_le harmless.own)]

end TapStack

/-- A chunk has the given taps. -/
def Pass.Tapped (pass : Pass) (chunk : Chunk) (taps : TapStack) : Prop :=
  ∃ handle, pass.handles[chunk.number]? = some handle ∧ handle.taps = taps

/-- A chunk keeps its taps with its handle. -/
theorem Pass.Tapped.of_same {pass after : Pass} {chunk : Chunk} {taps : TapStack}
    (tapped : pass.Tapped chunk taps)
    (same : after.handles[chunk.number]? = pass.handles[chunk.number]?) :
    after.Tapped chunk taps := by
  obtain ⟨handle, found, own⟩ := tapped
  exact ⟨handle, same.trans found, own⟩

/-- The root of a new pass has no taps. -/
theorem Pass.opened_tapped (looping : Bool) : (Pass.opened looping).Tapped ⟨0⟩ {} :=
  ⟨{ record := (RenderTree.new .accepting).head }, rfl, rfl⟩

/-- All work that is not done, whatever it waits for. -/
def Agenda.pending (agenda : Agenda) : List Work :=
  agenda.ready ++ (agenda.timed.map Prod.snd ++ agenda.gated.map Prod.snd)

/-- Work on a branch that means texts which are found in a number of steps. The work is that of a
call which renders its block later, before or after its delay, or that of a body whose script
renders others. -/
def Work.Means (steps : Nat) (chunk : Chunk) (texts : List String) : Work → Prop
  | .invoke call helper branch context =>
    branch = chunk ∧ helper.function = .builtin .defer ∧
      (∃ parameters,
        Parameter.resolve helper (.ofList call.parameters) (some context) = .ok parameters) ∧
      Body.meaningTo steps Body.nestingLimit context (bodyNamed call.bodies "block") = some texts
  | .block scope (.settle _ _) =>
    scope.chunk = chunk ∧
      Body.meaningTo steps Body.nestingLimit scope.context (bodyNamed scope.bodies "block") =
        some texts
  | .run script scope .close =>
    scope.chunk = chunk ∧ ∃ bodies, scriptBodies script = some bodies ∧
      joined (Body.meaningTo steps Body.nestingLimit)
        (bodies.map fun body => (scope.context, body)) = some texts
  | _ => False

/-- Work that is to be done on a branch. -/
structure Task where
  work : Work
  branch : Chunk
  /-- What the branch is to add to the document. -/
  texts : List String
  /-- The number of steps in which the meaning of the work is found. -/
  steps : Nat

/-- What the branch of a task owes the document. -/
def Task.debt (task : Task) : Chunk × List String := (task.branch, task.texts)

/-- The branch of a task has only inherited taps, and through them what the work means becomes
what the branch is to add. -/
def Task.Ready (pass : Pass) (task : Task) : Prop :=
  ∃ taps texts, pass.Tapped task.branch taps ∧ taps.Harmless ∧ taps.depth = 0 ∧
    task.work.Means task.steps task.branch texts ∧ task.texts = texts.map taps.effect

/-- A pass in which chunks are being written to that owe the document some texts, while all work
that is pending is that of tasks which owe it the others. -/
structure Pass.Working (pass : Pass) (document : List String)
    (writing : List (Chunk × List String)) (tasks : List Task) : Prop where
  owes : pass.Owes document (writing ++ tasks.map Task.debt)
  ready : ∀ task ∈ tasks, task.Ready pass
  agenda : (tasks.map Task.work).Perm pass.agenda.pending
  looping : pass.looping = true
  failures : pass.failures = []

namespace Pass.Working

variable {pass after : Pass} {document : List String} {chunk : Chunk} {taps : TapStack}
  {owed left : List String} {tasks others : List Task} {writing : List (Chunk × List String)}

/-- It does not matter in which order tasks are listed. -/
theorem perm (working : pass.Working document writing tasks) (reordered : tasks.Perm others) :
    pass.Working document writing others where
  owes := working.owes.perm ((reordered.map _).append_left writing)
  ready task member := working.ready task (reordered.mem_iff.mpr member)
  agenda := (reordered.map _).symm.trans working.agenda
  looping := working.looping
  failures := working.failures

/-- What was done to a branch leaves all tasks as they are that have others. -/
theorem of_branch (working : pass.Working document [(chunk, owed)] tasks)
    (owes : after.Owes document (writing ++ tasks.map Task.debt))
    (same : ∀ number < pass.handles.size, number ≠ chunk.number →
      after.handles[number]? = pass.handles[number]?)
    (agenda : after.agenda = pass.agenda) (looping : after.looping = pass.looping)
    (failures : after.failures = pass.failures) : after.Working document writing tasks where
  owes := owes
  ready task member := by
    obtain ⟨branchTaps, texts, tapped, kept⟩ := working.ready task member
    have apart : task.branch.number ≠ chunk.number :=
      working.owes.apart (List.mem_map_of_mem member)
    have inside : task.branch.number < pass.handles.size := by
      obtain ⟨handle, found, _⟩ := tapped
      exact RenderTree.lt_size_of_found found
    exact ⟨branchTaps, texts, tapped.of_same (same _ inside apart), kept⟩
  agenda := agenda ▸ working.agenda
  looping := looping.trans working.looping
  failures := failures.trans working.failures

/-- A chunk that owes something and has taps can be written through them. -/
theorem writable (working : pass.Working document [(chunk, owed)] tasks)
    (tapped : pass.Tapped chunk taps) :
    ∃ handle, pass.Writable chunk handle ∧ handle.taps = taps := by
  obtain ⟨handle, writable⟩ := working.owes.writable
  obtain ⟨held, found, own⟩ := tapped
  obtain rfl : handle = held := Option.some.inj (writable.found.symm.trans found)
  exact ⟨handle, writable, own⟩

/-- Writing a text pays what the taps make of it. -/
theorem write {text : String}
    (working : pass.Working document [(chunk, taps.effect text :: left)] tasks)
    (tapped : pass.Tapped chunk taps) (harmless : taps.Harmless) :
    ∃ after, chunk.write (.text text) pass = (.ok (), after) ∧
      after.Working document [(chunk, left)] tasks ∧ after.Tapped chunk taps := by
  obtain ⟨handle, writable, rfl⟩ := working.writable tapped
  have wrote : chunk.write (.text text) pass =
      (.ok (), pass.wrote handle [handle.taps.effect text] pass.memory) := by
    rw [Chunk.write_step writable.found writable.isOpen (by simp), harmless.apply]
    simp only [onTree_step, RenderTree.append_step writable.record, Pass.wrote]
    rfl
  have owes : pass.Owes document
      ((chunk, [handle.taps.effect text] ++ left) :: tasks.map Task.debt) := working.owes
  exact ⟨_, wrote, working.of_branch (owes.wrote writable.found pass.memory) (fun _ _ _ => rfl)
    rfl rfl rfl, tapped⟩

/-- A tap that refuses nothing can be put on a chunk, which owes the same as before. -/
theorem tap (working : pass.Working document [(chunk, owed)] tasks)
    (tapped : pass.Tapped chunk taps) (transform : String → String) :
    ∃ after, chunk.tap (some (.total transform)) pass = (.ok (), after) ∧
      after.Working document [(chunk, owed)] tasks ∧
      after.Tapped chunk (taps.push (.stateless (.ok ∘ transform))) := by
  obtain ⟨handle, writable, rfl⟩ := working.writable tapped
  let tap : Tap := .stateless (.ok ∘ transform)
  have installed : (Transform.total transform).install pass.memory = (.ok tap, pass.memory) := rfl
  refine ⟨_, Chunk.tap_step writable.found writable.isOpen installed, ?_, ?_⟩
  · exact working.of_branch (working.owes.retapped fun taps => taps.push tap)
      (fun _ _ apart => changed_other apart _) rfl rfl rfl
  · exact ⟨_, changed_self writable.found _, rfl⟩

/-- A tap that was put on a chunk can be taken off again, and the chunk owes the same. -/
theorem untap {tap : Tap} (working : pass.Working document [(chunk, owed)] tasks)
    (tapped : pass.Tapped chunk (taps.push tap)) (harmless : taps.Harmless) :
    ∃ after, chunk.untap pass = (.ok (), after) ∧
      after.Working document [(chunk, owed)] tasks ∧ after.Tapped chunk taps := by
  obtain ⟨handle, found, own⟩ := tapped
  have popped : handle.taps.pop = .ok (tap, taps) := by
    rw [own]
    exact harmless.pop_push tap
  refine ⟨pass.changed chunk ({ · with taps := taps }), ?_, ?_, ?_⟩
  · rw [Chunk.untap_step found, popped]
  · exact working.of_branch (working.owes.retapped fun _ => taps)
      (fun _ _ apart => changed_other apart _) rfl rfl rfl
  · exact ⟨_, changed_self found _, rfl⟩

/-- A branch can be forked off a chunk for a task, which owes the first part of what the chunk
owed. -/
theorem spawn {texts : List String} {steps : Nat} {work : Chunk → Work}
    (working : pass.Working document [(chunk, texts.map taps.effect ++ left)] tasks)
    (tapped : pass.Tapped chunk taps) (harmless : taps.Harmless)
    (means : ∀ branch, (work branch).Means steps branch texts) :
    ∃ after task, chunk.map (fun branch => pure (.awaitable (work branch))) pass =
        (.ok (), after) ∧ task.steps = steps ∧
      after.Working document [(chunk, left)] (task :: tasks) ∧ after.Tapped chunk taps := by
  obtain ⟨handle, writable, rfl⟩ := working.writable tapped
  obtain ⟨tree, forked, divided⟩ := Owes.branch working.owes writable.found
  let branch : Chunk := ⟨pass.handles.size⟩
  let task : Task := ⟨work branch, branch, texts.map handle.taps.effect, steps⟩
  let divide := pass.forked chunk handle tree
  let after : Pass :=
    { divide with agenda := { divide.agenda with ready := divide.agenda.ready ++ [work branch] } }
  have kept : divide.Working document [(branch, texts.map handle.taps.effect), (chunk, left)]
      tasks :=
    working.of_branch divided (fun _ inside apart => forked_other apart inside tree) rfl rfl rfl
  refine ⟨after, task, ?mapped, rfl, ?working, ?tapped⟩
  case mapped =>
    have looping : divide.looping = true := kept.looping
    simp only [Chunk.map, bind_step, forked, pure_step, Pass.spawn, get_step]
    rw [if_pos looping]
    rfl
  case tapped =>
    exact ⟨_, forked_self writable.found tree, rfl⟩
  case working =>
    have reordered : ([(branch, texts.map handle.taps.effect), (chunk, left)] ++
        tasks.map Task.debt).Perm ([(chunk, left)] ++ (task :: tasks).map Task.debt) :=
      List.Perm.swap ..
    have owes : after.Owes document ([(chunk, left)] ++ (task :: tasks).map Task.debt) :=
      (kept.owes.perm reordered).of_same rfl rfl
    have pending : ((task :: tasks).map Task.work).Perm after.agenda.pending := by
      have front := kept.agenda.cons (work branch)
      refine front.trans ?_
      simp only [Agenda.pending, after, List.append_assoc]
      exact List.perm_middle.symm
    refine ⟨owes, fun other member => ?_, pending, kept.looping, kept.failures⟩
    rcases List.mem_cons.mp member with rfl | old
    · exact ⟨handle.taps.inherit, texts, ⟨_, forked_branch writable.found tree, rfl⟩,
        harmless.inherit, TapStack.depth_inherit, means branch, rfl⟩
    · exact kept.ready other old

/-- A chunk that owes nothing more and has no taps of its own can be ended. -/
theorem finish (working : pass.Working document [(chunk, [])] tasks)
    (tapped : pass.Tapped chunk taps) (untapped : taps.depth = 0) :
    ∃ after, chunk.finish .null pass = (.ok (), after) ∧ after.Working document [] tasks := by
  obtain ⟨handle, writable, rfl⟩ := working.writable tapped
  obtain ⟨tree, completed, paid⟩ := Owes.complete working.owes writable.found untapped
  exact ⟨pass.completed chunk tree, completed,
    working.of_branch paid (fun _ _ apart => changed_other apart _) rfl rfl rfl⟩

/-- Closing such a chunk ends it. -/
theorem close (working : pass.Working document [(chunk, [])] tasks)
    (tapped : pass.Tapped chunk taps) (untapped : taps.depth = 0) :
    ∃ after, chunk.close pass = (.ok (), after) ∧ after.Working document [] tasks := by
  obtain ⟨handle, writable, _⟩ := working.writable tapped
  obtain ⟨after, finished, paid⟩ := working.finish tapped untapped
  refine ⟨after, ?_, paid⟩
  simp [Chunk.close, bind_step, Chunk.handle_step writable.found, writable.isOpen, finished]

end Pass.Working

end TemplateStream
