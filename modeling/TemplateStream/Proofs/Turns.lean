import TemplateStream.Proofs.Paying

/-!
# Turns

A turn does the work of one task up to its next pause. It never fails: either the task is done and
its branch is closed, or what is left of its work is a task again. What the work rendered
asynchronously are tasks of their own.
-/

namespace TemplateStream

open Body

section statements

variable {pass : Pass} {scope : Scope} {handle : Handle}

/-- Rendering into an open chunk is writing what the body is. -/
theorem render_open {chunk : Chunk} (found : pass.handles[chunk.number]? = some handle)
    (isOpen : handle.complete = false) (body : Body) (context : Context) :
    Body.render body chunk context pass =
      body.write (renderTo (nestingLimit - 1)) chunk context pass := by
  show renderTo (nestingLimit - 1 + 1) body chunk context pass = _
  simp only [renderTo, renderWith, bind_step, Chunk.ensureOpen_step found, isOpen,
    Bool.false_eq_true, if_false]

/-- Writing a value is writing its text. -/
theorem write_value {chunk : Chunk} (found : pass.handles[chunk.number]? = some handle)
    (isOpen : handle.complete = false) {value : Value} (present : value ≠ .null) :
    chunk.write value pass = chunk.write (.text value.toText) pass := by
  rw [Chunk.write_step found isOpen present, Chunk.write_step found isOpen (by simp)]
  rfl

/-- A statement that writes or renders does what its body does. -/
theorem statement_step {statement : Statement} {body : Body}
    (found : pass.handles[scope.chunk.number]? = some handle) (isOpen : handle.complete = false)
    (same : statement.body? = some body) :
    discard (statement.run Body.render scope) pass =
      discard (Body.render body scope.chunk scope.context) pass := by
  have wrote {value : Value} (present : value ≠ .null) :
      discard (do scope.chunk.write value; pure (some scope.chunk) : PassM (Option Chunk)) pass =
        discard (do scope.chunk.write (.text value.toText); pure scope.chunk : PassM Chunk)
          pass := by
    rw [discard_step, discard_step, bind_step, bind_step, write_value found isOpen present]
    rcases scope.chunk.write (.text value.toText) pass with ⟨fault | _, after⟩ <;> rfl
  cases statement with
  | write value =>
    by_cases absent : value = .null
    · subst absent
      cases same
      rw [discard_step, discard_step, render_open found isOpen, Statement.run, bind_step,
        Chunk.write_null found isOpen]
      rfl
    · have written : body = .text value.toText := by
        cases value <;> first | exact (Option.some.inj same).symm | exact absurd rfl absent
      subst written
      rw [Statement.run, wrote absent, discard_step, discard_step, render_open found isOpen]
      rfl
  | get name default =>
    cases default with
    | null =>
      cases same
      cases got : scope.context.get name with
      | error fault =>
        rw [discard_step, discard_step, render_open found isOpen]
        simp only [Statement.run, Body.write, bind_step, got, liftExcept_step]
      | ok value =>
        have ran : Statement.run Body.render scope (.get name .null) pass =
            (do scope.chunk.write value; pure (some scope.chunk) : PassM (Option Chunk)) pass := by
          simp only [Statement.run, bind_step, got, liftExcept_step]
        rw [discard_step (Body.render _ _ _), render_open found isOpen, write_reference got,
          discard_step, ran]
        by_cases absent : value = .null
        · subst absent
          rw [bind_step, Chunk.write_null found isOpen]
          rfl
        · have texts : referenceTexts value false = [value.toText] := by
            cases value <;> first | rfl | exact absurd rfl absent
          have written := wrote absent
          rw [discard_step, discard_step] at written
          rw [Option.getD_some, texts, render_text]
          exact written
    | _ => cases same
  | render inner value =>
    cases value with
    | none =>
      cases same
      have unchanged : scope.context.pushed none = scope.context := rfl
      rw [Statement.run, discard_step, discard_step, bind_step, unchanged]
      rcases body.render scope.chunk scope.context pass with ⟨fault | _, after⟩ <;> rfl
    | some value => cases same
  | _ => cases same

end statements

/-- What a script does first: it answers, it pauses, or it writes or renders a body. -/
theorem scriptBodies_cons {statement : Statement} {rest : Script} {bodies : List Body}
    (rendered : scriptBodies (statement :: rest) = some bodies) :
    (∃ result, statement = .answer result ∧ (result = .chunk ∨ ∃ value, result = .value value) ∧
      bodies = []) ∨
    ((∃ milliseconds, statement = .sleep milliseconds) ∧ scriptBodies rest = some bodies) ∨
    ((∃ name, statement = .gate name) ∧ scriptBodies rest = some bodies) ∨
    ∃ body others, statement.body? = some body ∧ scriptBodies rest = some others ∧
      bodies = body :: others := by
  cases statement with
  | answer result =>
    cases result with
    | chunk | value value =>
      cases rendered
      exact .inl ⟨_, rfl, by simp, rfl⟩
    | _ => cases rendered
  | sleep milliseconds => exact .inr (.inl ⟨⟨_, rfl⟩, rendered⟩)
  | gate name => exact .inr (.inr (.inl ⟨⟨_, rfl⟩, rendered⟩))
  | write _ | get _ _ | render _ _ =>
    obtain ⟨body, same, rendered⟩ := Option.bind_eq_some_iff.mp rendered
    obtain ⟨others, listed, rendered⟩ := Option.bind_eq_some_iff.mp rendered
    cases rendered
    exact .inr (.inr (.inr ⟨body, others, same, listed, rfl⟩))
  | _ => cases rendered

/-- A script that writes or renders first goes on with the rest of it. -/
theorem advance_cons {render : RenderBody} {scope : Scope} {statement : Statement} {rest : Script}
    {body : Body} (same : statement.body? = some body) :
    advance render scope (statement :: rest) = (do
      discard (statement.run render scope)
      advance render scope rest) := by
  cases statement with
  | answer result | sleep milliseconds | gate name => cases same
  | _ => rfl

/-- How far a script got on a branch: to its end, when the branch owes nothing more, or to a pause,
when the branch owes what the rest of the script means. -/
def Progress.Leaves (document : List String) (scope : Scope) (taps : TapStack) (steps : Nat)
    (script : Script) (tasks : List Task) (after : Pass) : Progress → Prop
  | .finished _ => after.Working document [(scope.chunk, [])] tasks
  | .paused _ rest => rest.length < script.length ∧
    ∃ texts, (Work.run rest scope .close).Means steps scope.chunk texts ∧
      after.Working document [(scope.chunk, texts.map taps.effect)] tasks

/-- A script that got as far in the rest of another got as far in that one. -/
theorem Progress.Leaves.cons {document : List String} {scope : Scope} {taps : TapStack}
    {steps : Nat} {statement : Statement} {rest : Script} {tasks : List Task} {after : Pass}
    {progress : Progress} (leaves : progress.Leaves document scope taps steps rest tasks after) :
    progress.Leaves document scope taps steps (statement :: rest) tasks after := by
  cases progress with
  | finished outcome => exact leaves
  | paused pause left => exact ⟨Nat.lt_succ_of_lt leaves.1, leaves.2⟩

/-- Running a script that renders what it owes pays up to the next pause. -/
theorem advance_pays {steps : Nat} {scope : Scope} {taps : TapStack} {script : Script}
    {bodies : List Body} {texts document : List String} {pass : Pass} {tasks : List Task}
    (harmless : taps.Harmless) (rendered : scriptBodies script = some bodies)
    (means : joined (meaningTo steps nestingLimit)
      (bodies.map fun body => (scope.context, body)) = some texts)
    (working : pass.Working document [(scope.chunk, texts.map taps.effect)] tasks)
    (tapped : pass.Tapped scope.chunk taps) :
    ∃ progress after new, advance Body.render scope script pass = (.ok progress, after) ∧
      (∀ task ∈ new, task.steps < steps) ∧ after.Tapped scope.chunk taps ∧
      progress.Leaves document scope taps steps script (new ++ tasks) after := by
  induction script generalizing bodies texts pass tasks with
  | nil =>
    cases rendered
    cases means
    exact ⟨.finished .nothing, pass, [], rfl, by simp, tapped, working⟩
  | cons statement rest ih =>
    rcases scriptBodies_cons rendered with answered | paused | gated | wrote
    · obtain ⟨result, rfl, plain, rfl⟩ := answered
      cases means
      rcases plain with rfl | ⟨value, rfl⟩
      · exact ⟨.finished (.chunk scope.chunk), pass, [], rfl, by simp, tapped, working⟩
      · exact ⟨.finished (.value value), pass, [], rfl, by simp, tapped, working⟩
    · obtain ⟨⟨milliseconds, rfl⟩, listed⟩ := paused
      exact ⟨_, pass, [], rfl, by simp, tapped, Nat.lt_succ_self _, texts,
        ⟨rfl, bodies, listed, means⟩, working⟩
    · obtain ⟨⟨name, rfl⟩, listed⟩ := gated
      cases isOpen : pass.gates.isOpen name with
      | false =>
        refine ⟨.paused (.gate name) rest, pass, [], ?_, by simp, tapped, Nat.lt_succ_self _, texts,
          ⟨rfl, bodies, listed, means⟩, working⟩
        simp only [advance, bind_step, get_step, isOpen, Bool.false_eq_true, if_false, pure_step]
      | true =>
        obtain ⟨progress, after, new, ran, fewer, kept, leaves⟩ := ih listed means working tapped
        refine ⟨progress, after, new, ?_, fewer, kept, leaves.cons⟩
        simp only [advance, bind_step, get_step, isOpen, if_true]
        exact ran
    · obtain ⟨body, others, same, listed, rfl⟩ := wrote
      obtain ⟨first, more, meant, meantMore, rfl⟩ := joined_cons means
      rw [List.map_append] at working
      obtain ⟨handle, writable, _⟩ := working.writable tapped
      obtain ⟨middle, new, ran, fewer, paid, kept⟩ :=
        renderTo_pays harmless meant working tapped
      obtain ⟨progress, after, added, ranOn, fewerOn, keptOn, leaves⟩ :=
        ih listed meantMore paid kept
      refine ⟨progress, after, added ++ new, ?_, ?_, keptOn, ?_⟩
      · have stepped := statement_step writable.found writable.isOpen same
        rw [discard_step (Body.render _ _ _), Body.render, ran] at stepped
        rw [advance_cons same, bind_step, Body.render, stepped]
        exact ranOn
      · intro task member
        rcases List.mem_append.mp member with late | early
        · exact fewerOn task late
        · exact fewer task early
      · rw [List.append_assoc]
        exact leaves.cons

/-! ## The work of a task -/

/-- How far work on a branch is from its last turn. -/
def Work.phase : Work → Nat
  | .invoke .. => 1
  | .run script _ _ => script.length
  | _ => 0

/-- What the work of a task left: nothing, when the branch owes nothing more, or the work of a
task on the same branch. -/
def Task.Leaves (document : List String) (task : Task) (others : List Task) (after : Pass) :
    Option (Pause × Work) → Prop
  | none => after.Working document [] others
  | some (_, rest) => rest.phase < task.work.phase ∧
    ∃ texts, Task.Ready after { task with work := rest, texts := texts } ∧
      after.Working document [(task.branch, texts)] others

/-- The result of a call is a chunk that its branch is closed on. -/
theorem conclude_settle {call : HelperCall} {depth : Nat} {render : RenderBody}
    {chunk next : Chunk} {context : Context} {pass : Pass} :
    (Finish.settle call depth).conclude render chunk context (.ok (.chunk next)) pass =
      chunk.close pass := rfl

/-- The branch of a script is closed whatever the script answered. -/
theorem conclude_close {render : RenderBody} {chunk : Chunk} {context : Context}
    {outcome : Outcome} {pass : Pass} :
    Finish.close.conclude render chunk context (.ok outcome) pass = chunk.close pass := rfl

/-- The work of a task succeeds. What it renders asynchronously are tasks whose meanings are found
in fewer steps, and what is left of it is nearer to its last turn. -/
theorem step_pays {document : List String} {task : Task} {others : List Task} {pass : Pass}
    (ready : task.Ready pass) (working : pass.Working document [task.debt] others) :
    ∃ left after new, task.work.step Body.render pass = (.ok left, after) ∧
      (∀ other ∈ new, other.steps < task.steps) ∧
      task.Leaves document (new ++ others) after left := by
  obtain ⟨work, branch, owed, steps⟩ := task
  obtain ⟨taps, texts, tapped, harmless, untapped, means, rfl⟩ := ready
  cases work with
  | idle => exact absurd means not_false
  | invoke call helper chunk context =>
    obtain ⟨rfl, builtin, ⟨parameters, resolved⟩, meant⟩ := means
    obtain ⟨handle, found, own⟩ := tapped
    refine ⟨some (.sleep (delayOf parameters), .block (call.scope chunk context parameters)
      (.settle call handle.taps.depth)), pass, [], ?_, by simp, Nat.zero_lt_one, _,
      ⟨taps, texts, ⟨handle, found, own⟩, harmless, untapped, ⟨rfl, meant⟩, rfl⟩, working⟩
    simp only [Work.step, bind_step, Chunk.tapDepth_step found, resolved, builtin]
    rfl
  | block scope finish =>
    cases finish with
    | settle call depth =>
      obtain ⟨rfl, meant⟩ := means
      have owing : pass.Working document [(scope.chunk, texts.map taps.effect ++ [])] others := by
        rw [List.append_nil]
        exact working
      obtain ⟨middle, new, ran, fewer, paid, kept⟩ := renderTo_pays harmless meant owing tapped
      obtain ⟨after, closed, settled⟩ := paid.close kept untapped
      have rendered : Body.render (bodyNamed scope.bodies "block") scope.chunk scope.context pass =
          (.ok scope.chunk, middle) := ran
      refine ⟨none, after, new, ?_, fewer, settled⟩
      simp only [Work.step, bind_step, attempt_step, rendered, conclude_settle, closed, pure_step]
    | leave | close => exact absurd means not_false
  | run script scope finish =>
    cases finish with
    | close =>
      obtain ⟨rfl, bodies, listed, meant⟩ := means
      obtain ⟨progress, middle, new, ran, fewer, kept, leaves⟩ :=
        advance_pays harmless listed meant working tapped
      cases progress with
      | finished outcome =>
        obtain ⟨after, closed, settled⟩ := leaves.close kept untapped
        refine ⟨none, after, new, ?_, fewer, settled⟩
        simp only [Work.step, Work.continueScript, bind_step, attempt_step, ran, conclude_close,
          closed, pure_step]
      | paused pause rest =>
        obtain ⟨shorter, left, meantLeft, owing⟩ := leaves
        refine ⟨some (pause, .run rest scope .close), middle, new, ?_, fewer, shorter, _,
          ⟨taps, left, kept, harmless, untapped, meantLeft, rfl⟩, owing⟩
        simp only [Work.step, Work.continueScript, bind_step, attempt_step, ran, pure_step]
    | leave | settle call depth => exact absurd means not_false

end TemplateStream
