import TemplateStream.Pass.Rendering

/-!
# Asynchronous work

Work is taken from the front of the queue and done up to its next pause. Time passes only when
the queue is empty: it then jumps to the earliest moment that work waits for. A fault of one
piece of work is kept and does not disturb the others; waiting for a pass to end reports the
first fault in time, else that some chunk was never ended, else the text of the document.
-/

namespace TemplateStream

/-- Finishes with a branch when the work on it is over, be it with an outcome or a fault. A
branch that is left alone and one that is only closed pass their fault on; a helper call answers
for its own, unless it is structural. -/
def Finish.conclude (render : RenderBody) (finish : Finish) (chunk : Chunk) (context : Context)
    (result : Except Fault Outcome) : PassM Unit :=
  match finish with
  | .leave => discard (liftExcept result)
  | .close => do
    discard (liftExcept result)
    chunk.close
  | .settle call depth => do
    let settled ← attempt do
      discard (call.proceed render chunk context (← liftExcept result))
    match settled with
    | .ok _ => pure ()
    | .error fault =>
      if fault.kind.isStructural then throw fault
      discard (call.recover render chunk context depth fault)
    chunk.close

/-- The delay parameter of a helper call. -/
def delayOf (parameters : Table Value) : Nat :=
  match parameters.get? delayParameter.key with
  | some (.float seconds) => ticksOfSeconds seconds
  | _ => 0

namespace Work

/-- Runs a script up to its next pause or its end, and finishes with its branch at the end. -/
def continueScript (render : RenderBody) (script : Script) (scope : Scope) (finish : Finish) :
    PassM (Option (Pause × Work)) := do
  match ← attempt (advance render scope script) with
  | .ok (.paused pause rest) => pure (some (pause, .run rest scope finish))
  | .ok (.finished outcome) => do
    finish.conclude render scope.chunk scope.context (.ok outcome)
    pure none
  | .error fault => do
    finish.conclude render scope.chunk scope.context (.error fault)
    pure none

/-- Does work up to its next pause, and gives what is left of it. -/
def step (render : RenderBody) : Work → PassM (Option (Pause × Work))
  | .idle => pure none
  | .run script scope finish => continueScript render script scope finish
  | .block scope finish => do
    let result ← attempt do
      pure (.chunk (← render (bodyNamed scope.bodies "block") scope.chunk scope.context))
    finish.conclude render scope.chunk scope.context result
    pure none
  | .invoke call helper branch context => do
    let finish := Finish.settle call (← branch.tapDepth)
    match Parameter.resolve helper (.ofList call.parameters) (some context) with
    | .error fault => do
      finish.conclude render branch context (.error fault)
      pure none
    | .ok parameters =>
      let scope := call.scope branch context parameters
      match helper.function with
      | .scripted _ script => continueScript render script scope finish
      | .builtin _ => pure (some (.sleep (delayOf parameters), .block scope finish))
      | .inert value => do
        finish.conclude render branch context (.error (.notCallable value.typeName))
        pure none

end Work

namespace Pass

/-- Does the first piece of work in the queue up to its next pause. -/
def turn (render : RenderBody) : PassM Unit := do
  match (← get).agenda.ready with
  | [] => pure ()
  | work :: rest =>
    modify fun pass => { pass with agenda := { pass.agenda with ready := rest } }
    match ← attempt (work.step render) with
    | .ok none => pure ()
    | .ok (some (pause, rest)) => suspend pause rest
    | .error fault => modify fun pass => { pass with failures := pass.failures ++ [fault] }

/-- The earliest of the moments that work waits for. -/
def earliest (timed : List (Nat × Work)) : Option Nat :=
  (timed.map Prod.fst).min?

/-- Lets time pass to the earliest moment that work waits for. Of work that waits for the same
moment, the first to wait goes on. -/
def passTime : PassM Bool := do
  let pass ← get
  match earliest pass.agenda.timed with
  | none => pure false
  | some moment =>
    let before := pass.agenda.timed.takeWhile fun entry => entry.1 != moment
    let after := pass.agenda.timed.drop before.length
    set { pass with agenda := { pass.agenda with
      now := moment
      ready := (after.take 1).map Prod.snd
      timed := before ++ after.drop 1 } }
    pure true

/-- Takes turns until the queue is empty, at most the given number of them. -/
def settleWithin (render : RenderBody) : Nat → PassM Unit
  | 0 => throw .stalled
  | turns + 1 => do
    if (← get).agenda.ready.isEmpty then pure ()
    else
      turn render
      settleWithin render turns

/-- Takes turns and lets time pass until no work is left, in at most the given number of
steps. -/
def driveWithin (render : RenderBody) : Nat → PassM Unit
  | 0 => throw .stalled
  | steps + 1 => do
    let agenda := (← get).agenda
    if agenda.size == 0 then pure ()
    else if agenda.ready.isEmpty then
      if ← passTime then driveWithin render steps else throw .stalled
    else
      turn render
      driveWithin render steps

/-- The number of turns after which a pass is given up. -/
def turnLimit : Nat := 1000000

/-- Takes turns until the queue is empty. -/
def settle : PassM Unit := settleWithin Body.render turnLimit

/-- Takes turns and lets time pass until no work is left. -/
def drive : PassM Unit := driveWithin Body.render turnLimit

/-- Opens all gates for good: those that work waits for, one after the other in the order in
which they were first waited for, and those that are named later. -/
def liftGates : PassM Unit := do
  for name in ((← get).agenda.gated.map Prod.fst).eraseDups do
    openGate name
  modify fun pass => { pass with gates := { pass.gates with lifted := true } }

/-- The result of a pass whose work is done. -/
def conclusion (pass : Pass) : Except Fault String :=
  match pass.failures with
  | fault :: _ => .error fault
  | [] =>
    if pass.tree.finished then .ok pass.tree.text
    else .error (.chunk (.unfinished pass.tree.incompleteCount))

/-- Waits until no work is left, and gives the text of the document. -/
def wait : PassM String := do
  drive
  liftExcept (← get).conclusion

/-- Waits until no work is left, and gives the faults of the work. -/
def drain : PassM (List Fault) := do
  drive
  pure (← get).failures

/-- Renders a body into the root chunk, which is then ended. -/
def begin (body : Body) (context : Context) : PassM Unit := do
  let root ← Chunk.root
  discard (Body.render body root context)
  root.finish

/-- Renders a body as a whole document. When that fails, the work that is left is still done
before the fault is reported. -/
def document (body : Body) (context : Context) : PassM String := do
  let result ← attempt do
    begin body context
    wait
  match result with
  | .ok text => pure text
  | .error fault =>
    discard drain
    throw fault

end Pass

end TemplateStream
