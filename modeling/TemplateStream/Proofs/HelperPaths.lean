import TemplateStream.Proofs.Composing
import TemplateStream.Proofs.Owing

/-!
# Two ways to call a helper

A helper whose function is a script is called at once on the chunk of the call, or, when it is
declared asynchronous, later on a branch. The two ways answer alike for what the helper itself
does, be it a result or a fault. They differ in what they do with a fault of going on with the
result, such as that of the body which the result selected: called at once the helper passes it
on, called later it answers for it as for a fault of its own.
-/

namespace TemplateStream

/-- A statement that neither pauses a script nor answers with something to be awaited. -/
def Statement.runsThrough : Statement → Bool
  | .sleep _ | .gate _ | .answer .awaitable => false
  | _ => true

/-- A helper with the given script for a function, which runs asynchronously if it has a style. -/
def Helper.running (helper : Helper) (style : Option AsyncStyle) (script : Script) : Helper :=
  { helper with function := .scripted style script }

section script

variable {render : RenderBody} {scope : Scope} {script : Script} {pass after : Pass}

/-- A statement that runs through answers, or else is run before the statements behind it, be it
asynchronously or not. -/
theorem Statement.runsThrough_cases {statement : Statement} (through : statement.runsThrough) :
    (∃ result, statement = .answer result ∧ result ≠ .awaitable) ∨
      ∀ render scope rest, advance render scope (statement :: rest) = (do
          discard (statement.run render scope)
          advance render scope rest) ∧
        runScript render scope (statement :: rest) = (do
          discard (statement.run render scope)
          runScript render scope rest) := by
  cases statement with
  | sleep milliseconds => cases through
  | gate name => cases through
  | answer result =>
    refine .inl ⟨result, rfl, ?_⟩
    rintro rfl
    cases through
  | _ => exact .inr fun render scope rest => ⟨rfl, rfl⟩

/-- A script that runs through does so asynchronously as it does at once. -/
theorem advance_runsThrough (through : ∀ statement ∈ script, statement.runsThrough) :
    advance render scope script = Progress.finished <$> runScript render scope script := by
  induction script with
  | nil => rfl
  | cons statement rest ih =>
    have goesOn := ih fun other later => through other (List.mem_cons_of_mem _ later)
    funext pass
    rcases Statement.runsThrough_cases (through statement List.mem_cons_self)
      with ⟨result, rfl, _⟩ | steps
    · rw [advance, runScript, bind_step, map_step]
      rcases result.outcome scope pass with ⟨_ | _, _⟩ <;> rfl
    · rw [(steps render scope rest).1, (steps render scope rest).2, map_step, bind_step, bind_step,
        goesOn]
      rcases discard (statement.run render scope) pass with ⟨_ | _, middle⟩
      · rfl
      · exact map_step _ _ _

/-- A script that runs through gives nothing that has to be awaited. -/
theorem runScript_not_awaitable {work : Work}
    (through : ∀ statement ∈ script, statement.runsThrough) :
    runScript render scope script pass ≠ (.ok (.awaitable work), after) := by
  intro ran
  induction script generalizing pass with
  | nil => cases ran
  | cons statement rest ih =>
    rcases Statement.runsThrough_cases (through statement List.mem_cons_self)
      with ⟨result, rfl, other⟩ | steps
    · rw [runScript] at ran
      cases result with
      | awaitable => exact other rfl
      | chunk => cases ran
      | value result => cases ran
      | parameter key => cases ran
      | context name =>
        obtain ⟨value, middle, _, given⟩ := bind_ok ran
        cases given
      | saved name =>
        obtain ⟨chunk, middle, _, given⟩ := bind_ok ran
        cases given
    · rw [(steps render scope rest).2] at ran
      obtain ⟨_, middle, _, goesOn⟩ := bind_ok ran
      exact ih (fun other later => through other (List.mem_cons_of_mem _ later)) goesOn

end script

section call

variable {render : RenderBody} {call : HelperCall} {helper : Helper} {style : Option AsyncStyle}
  {script : Script} {chunk : Chunk} {context : Context} {pass : Pass} {handle : Handle}

/-- The outcome of a helper whose script runs through is that of the script. -/
theorem HelperCall.outcome_running (through : ∀ statement ∈ script, statement.runsThrough) :
    call.outcome render (helper.running style script) chunk context = (do
      let parameters ← liftExcept
        (Parameter.resolve helper (.ofList call.parameters) (some context))
      runScript render (call.scope chunk context parameters) script) := by
  funext pass
  have same : Parameter.resolve (helper.running style script) (.ofList call.parameters)
      (some context) = Parameter.resolve helper (.ofList call.parameters) (some context) := rfl
  rw [HelperCall.outcome, same, bind_step, bind_step, liftExcept_step]
  cases Parameter.resolve helper (.ofList call.parameters) (some context) with
  | error fault => rfl
  | ok parameters =>
    simp only [bind_step, Helper.running, HelperFunction.invoke]
    rcases ran : runScript render (call.scope chunk context parameters) script pass
      with ⟨fault | outcome, after⟩
    · rfl
    · cases outcome with
      | awaitable work => exact absurd ran (runScript_not_awaitable through)
      | _ => rfl

/-- A helper whose script runs through is done with in the turn in which it is called. -/
theorem Work.step_running (through : ∀ statement ∈ script, statement.runsThrough)
    (found : pass.handles[chunk.number]? = some handle) :
    (Work.invoke call (helper.running style script) chunk context).step render pass = (do
      let result ← attempt (call.outcome render (helper.running style script) chunk context)
      (Finish.settle call handle.taps.depth).conclude render chunk context result
      pure none) pass := by
  have same : Parameter.resolve (helper.running style script) (.ofList call.parameters)
      (some context) = Parameter.resolve helper (.ofList call.parameters) (some context) := rfl
  rw [HelperCall.outcome_running through, Work.step]
  simp only [bind_step, attempt_step, Chunk.tapDepth_step found, liftExcept_step, same]
  cases Parameter.resolve helper (.ofList call.parameters) (some context) with
  | error fault => exact bind_step _ _ _
  | ok parameters =>
    simp only [Helper.running, Work.continueScript, bind_step, attempt_step,
      advance_runsThrough through, map_step]
    rcases runScript render (call.scope chunk context parameters) script pass
      with ⟨fault | outcome, after⟩
    · exact bind_step _ _ _
    · exact bind_step _ _ _

/-- Settling a call goes on with its result, and answers for a fault of that unless it is
structural. In the end the chunk is closed. -/
theorem settle_step {depth : Nat} {result : Except Fault Outcome} :
    (Finish.settle call depth).conclude render chunk context result pass =
      match (liftExcept result >>= call.proceed render chunk context) pass with
      | (.ok _, after) => chunk.close after
      | (.error fault, after) =>
        if fault.kind.isStructural then (.error fault, after)
        else (do
          discard (call.recover render chunk context depth fault)
          chunk.close) after := by
  simp only [Finish.conclude, bind_step, attempt_step, discard_step, liftExcept_step]
  cases result with
  | error fault =>
    dsimp only
    split
    · rfl
    · simp only [bind_step, discard_step]
  | ok outcome =>
    dsimp only
    rcases call.proceed render chunk context outcome pass with ⟨fault | next, after⟩
    · dsimp only
      split
      · rfl
      · simp only [bind_step, discard_step]
    · rfl

/-- A fault that is answered for by a call whose helper raises it. -/
def Fault.isAnswered (fault : Fault) : Bool :=
  !fault.kind.isStructural && !(fault.kind == .helper)

/-- A fault that is not structural, and which still no call answers for, is passed on. -/
theorem recover_unanswered {depth : Nat} {fault : Fault}
    (unanswered : fault.isAnswered = false) (ordinary : fault.kind.isStructural = false) :
    call.recover render chunk context depth fault pass = (.error fault, pass) := by
  have helper : (fault.kind == .helper) = true := by
    simpa [Fault.isAnswered, ordinary] using unanswered
  simp only [HelperCall.recover, helper, if_true]
  rfl

/-- A helper whose script runs through does the same on a chunk whether it is called at once or
later, if the result is gone on with, or if that raises a fault which no call answers for. A fault
of any other kind is passed on when the helper was called at once, and answered for when it was
called later. -/
theorem paths_part {style : AsyncStyle} {environment : Environment}
    (surrounded : context.environment = some environment)
    (registered : environment.helpers.get call.helper = .ok (helper.running none script))
    (through : ∀ statement ∈ script, statement.runsThrough)
    (found : pass.handles[chunk.number]? = some handle) :
    let later : Work := .invoke call (helper.running (some style) script) chunk context
    let atOnce : PassM (Option (Pause × Work)) := do
      discard (call.perform render chunk context)
      chunk.close
      pure none
    let Fails (fault : Fault) (after : Pass) : Prop := ∃ outcome middle,
      call.outcome render (helper.running none script) chunk context pass = (.ok outcome, middle) ∧
        call.proceed render chunk context outcome middle = (.error fault, after)
    ((∀ fault after, Fails fault after → fault.isAnswered = false) →
        later.step render pass = atOnce pass) ∧
      ∀ fault after, Fails fault after → fault.isAnswered = true →
        atOnce pass = (.error fault, after) ∧
          later.step render pass = (do
            discard (call.recover render chunk context handle.taps.depth fault)
            chunk.close
            pure none) after := by
  intro later atOnce Fails
  have same : call.outcome render (helper.running (some style) script) chunk context =
      call.outcome render (helper.running none script) chunk context := by
    rw [HelperCall.outcome_running through, HelperCall.outcome_running through]
  have performed : call.perform render chunk context pass = _ :=
    perform_step surrounded registered rfl found
  have stepped : later.step render pass = _ := Work.step_running through found
  rw [same] at stepped
  simp only [bind_step, attempt_step, settle_step] at stepped
  rcases answered : call.outcome render (helper.running none script) chunk context pass
    with ⟨fault | outcome, middle⟩
  · rw [answered] at performed stepped
    refine ⟨fun _ => ?_, fun fault after fails => ?_⟩
    · rw [stepped]
      simp only [atOnce, bind_step, discard_step, performed, liftExcept_step]
      cases fault.kind.isStructural with
      | true => rfl
      | false =>
        simp only [Bool.false_eq_true, if_false]
        rcases call.recover render chunk context handle.taps.depth fault middle
          with ⟨other | next, after⟩ <;> rfl
    · obtain ⟨outcome, _, returned, _⟩ := fails
      cases answered.symm.trans returned
  · rw [answered] at performed stepped
    simp only [liftExcept_step] at performed stepped
    rcases proceeded : call.proceed render chunk context outcome middle with ⟨fault | next, after⟩
    · rw [proceeded] at performed stepped
      have passedOn : atOnce pass = (.error fault, after) := by
        simp only [atOnce, bind_step, discard_step, performed]
      refine ⟨fun unanswered => ?_, fun other last fails answers => ?_⟩
      · have unanswered := unanswered fault after ⟨outcome, middle, answered, proceeded⟩
        rw [stepped, passedOn]
        cases structural : fault.kind.isStructural with
        | true => simp only [structural, if_true]
        | false =>
          simp only [structural, Bool.false_eq_true, if_false, discard_step,
            recover_unanswered unanswered structural]
      · obtain ⟨result, between, returned, failed⟩ := fails
        cases answered.symm.trans returned
        cases proceeded.symm.trans failed
        have ordinary : fault.kind.isStructural = false := by
          simpa using (Bool.and_eq_true_iff.mp answers).1
        refine ⟨passedOn, ?_⟩
        rw [stepped]
        simp only [ordinary, Bool.false_eq_true, if_false, bind_step, discard_step]
        rcases call.recover render chunk context handle.taps.depth fault after
          with ⟨other | next, last⟩ <;> rfl
    · rw [proceeded] at performed stepped
      refine ⟨fun _ => ?_, fun fault last fails => ?_⟩
      · rw [stepped]
        simp only [atOnce, bind_step, discard_step, performed]
      · obtain ⟨result, between, returned, failed⟩ := fails
        cases answered.symm.trans returned
        cases proceeded.symm.trans failed

end call

/-- A helper that selects the block of its calls. -/
def selector : Helper where
  id := "h"
  function := .inert .null

/-- What the helper that selects the block does. -/
def selection : Script := [.answer (.value (.bool true))]

/-- A context in which that helper is called at once, or later if it has a style, and in which
helpers that fail leave a placeholder. -/
def selectorContext (style : Option AsyncStyle) : Context :=
  .ofValue .null [] (some {
    helpers := { helpers := Table.empty.insert "h" (selector.running style selection) }
    policy := .placeholder })

/-- A call whose block raises a fault. -/
def failingBlock : HelperCall where
  helper := "h"
  bodies := [("block", .callback [.raise (.raised .value "boom")])]
  parameters := []

/-- A call whose block raises a fault, between texts. -/
def failingDocument : Body :=
  .sequence [.text "a", .call failingBlock.helper failingBlock.bodies failingBlock.parameters,
    .text "b"]

/-- A document with that call fails when the helper is called at once, and has a placeholder when
it is called later, for on a chunk the fault of the block is passed on or answered for. -/
theorem paths_part_failingBlock :
    let pass := Pass.opened true
    let fault : Fault := .raised .value "boom"
    let atOnce : PassM (Option (Pause × Work)) := do
      discard (failingBlock.perform Body.render ⟨0⟩ (selectorContext none))
      Chunk.close ⟨0⟩
      pure none
    let later : Work :=
      .invoke failingBlock (selector.running (some .function) selection) ⟨0⟩ (selectorContext none)
    (Pass.document failingDocument (selectorContext none) (Pass.start .accepting true)).1.isOk =
        false ∧
      (Pass.document failingDocument (selectorContext (some .function))
        (Pass.start .accepting true)).1.toOption = some "a[error: h]b" ∧
      atOnce pass = (.error fault, pass) ∧
      later.step Body.render pass = (do
        discard (failingBlock.recover Body.render ⟨0⟩ (selectorContext none) 0 fault)
        Chunk.close ⟨0⟩
        pure none) pass := by
  intro pass fault atOnce later
  have parted := @paths_part Body.render failingBlock selector selection ⟨0⟩
    (selectorContext none) pass { record := 0 } .function _ rfl rfl (by decide) rfl
  exact ⟨by decide +kernel, by decide +kernel,
    parted.2 fault pass ⟨.value (.bool true), pass, rfl, rfl⟩ rfl⟩

end TemplateStream
