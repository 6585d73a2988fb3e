import TemplateStream.Chunk

/-!
# Running scripts

A script runs its statements in order on a chunk until one answers. How bodies are rendered is a
parameter here, so that running a script is a recursion over the script alone. A script that
runs asynchronously can pause between statements, and what is left of it is data.
-/

namespace TemplateStream

/-- A way to render bodies into chunks, which gives the chunk to go on with. -/
abbrev RenderBody := Body → Chunk → Context → PassM Chunk

/-- The body of a name, absent when there is none. -/
def bodyNamed (bodies : List (String × Body)) (name : String) : Body :=
  (bodies.lookup name).getD .absent

/-- The remembered chunk of a name. -/
def savedChunk (name : String) : PassM Chunk := do
  match (← get).saved.lookup name with
  | some chunk => pure chunk
  | none => throw (.chunk (.noHandle name))

/-- Remembers a chunk under a name. -/
def saveChunk (name : String) (chunk : Chunk) : PassM Unit :=
  modify fun pass =>
    { pass with saved := (name, chunk) :: pass.saved.filter fun entry => entry.1 != name }

/-- The result that an answer stands for. -/
def Answer.outcome (scope : Scope) : Answer → PassM Outcome
  | .chunk => pure (.chunk scope.chunk)
  | .awaitable => pure (.awaitable .idle)
  | .value result => pure (.value result)
  | .parameter key => pure (.value ((scope.parameters.get? key).getD .null))
  | .context name => do pure (.value (← liftExcept (scope.context.get name)))
  | .saved name => do pure (.chunk (← savedChunk name))

/-- A context with a value pushed, if there is one. -/
def Context.pushed (context : Context) (value : Option Value) : Context :=
  match value with
  | some value => context.push value
  | none => context

/-- An optional number as it is written. -/
def optionalNumber (value : Option Int) : String :=
  match value with
  | some value => toString value
  | none => "None"

/-- What a context says about itself. -/
def Context.summary (context : Context) : String :=
  "[i=" ++ optionalNumber context.index ++ " n=" ++ optionalNumber context.length ++
    s!" d={context.depth} t=" ++ context.template.getD "None" ++ "]"

mutual

/-- Runs one statement. Statements that call on the chunk give the chunk that they are answered
with. -/
def Statement.run (render : RenderBody) (scope : Scope) : Statement → PassM (Option Chunk)
  | .write value => do
    scope.chunk.write value
    pure (some scope.chunk)
  | .get name default => do
    scope.chunk.write (← liftExcept (scope.context.get name default))
    pure (some scope.chunk)
  | .parameter key => do
    scope.chunk.write ((scope.parameters.get? key).getD .null)
    pure (some scope.chunk)
  | .logParameters => do
    Pass.note (.ofTable scope.parameters)
    pure none
  | .tap transform => do
    scope.chunk.tap transform
    pure (some scope.chunk)
  | .untap => do
    scope.chunk.untap
    pure (some scope.chunk)
  | .finish value => do
    scope.chunk.finish value
    pure (some scope.chunk)
  | .render body value => do
    pure (some (← render body scope.chunk (scope.context.pushed value)))
  | .body name value => do
    pure (some
      (← render (bodyNamed scope.bodies name) scope.chunk (scope.context.pushed value)))
  | .map script => do
    scope.chunk.map fun branch => runScript render { scope with chunk := branch } script
    pure (some scope.chunk)
  | .spawn script => do
    scope.chunk.map fun branch =>
      pure (.awaitable (.run script { scope with chunk := branch } .leave))
    pure (some scope.chunk)
  | .save name => do
    saveChunk name scope.chunk
    pure none
  | .on name script => do
    let chunk ← savedChunk name
    discard (runScript render { scope with chunk } script)
    pure none
  | .within value script => do
    discard (runScript render { scope with context := scope.context.push value } script)
    pure none
  | .iterate index length script => do
    let context := scope.context.push .null index length
    discard (runScript render { scope with context } script)
    pure none
  | .info => do
    scope.chunk.write (.text scope.context.summary)
    pure none
  | .openGate name => do
    Pass.openGate name
    pure none
  | .log entry => do
    Pass.note entry
    pure none
  | .raise fault => throw fault
  | .sleep _ | .gate _ | .answer _ => pure none

/-- Runs statements in order up to the first that answers. -/
def runScript (render : RenderBody) (scope : Scope) : List Statement → PassM Outcome
  | [] => pure .nothing
  | .answer result :: _ => result.outcome scope
  | statement :: rest => do
    discard (statement.run render scope)
    runScript render scope rest

end

/-- The number of ticks of virtual time in a second: the smallest positive floating-point number
of seconds is one tick. -/
def ticksPerSecond : Nat := Decimal.twoTo 1074

/-- A delay that is longer than every finite one. -/
def endlessDelay : Nat := Decimal.twoTo 2200

/-- The ticks of a number of seconds. -/
def ticksOfSeconds (seconds : Float) : Nat :=
  match Decimal.parts seconds with
  | .finite false significand exponent => significand * Decimal.twoTo (exponent + 1074).toNat
  | .infinite false => endlessDelay
  | _ => 0

/-- The pause of a sleep: not even a positive delay lets others go first. -/
def Pause.sleep (ticks : Nat) : Pause := if ticks == 0 then .turn else .delay ticks

/-- How far a script got. -/
inductive Progress where
  | finished (outcome : Outcome)
  | paused (pause : Pause) (rest : Script)

/-- Runs statements in order up to the first that answers or pauses. -/
def advance (render : RenderBody) (scope : Scope) : Script → PassM Progress
  | [] => pure (.finished .nothing)
  | .answer result :: _ => do pure (.finished (← result.outcome scope))
  | .sleep milliseconds :: rest =>
    pure (.paused (.sleep (milliseconds * ticksPerSecond / 1000)) rest)
  | .gate name :: rest => do
    if (← get).gates.isOpen name then advance render scope rest
    else pure (.paused (.gate name) rest)
  | statement :: rest => do
    discard (statement.run render scope)
    advance render scope rest

end TemplateStream
