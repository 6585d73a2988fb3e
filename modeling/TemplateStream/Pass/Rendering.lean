import TemplateStream.Parameter.Resolution
import TemplateStream.Pass.Script
import TemplateStream.Pattern
import TemplateStream.Text.Escaped

/-!
# Rendering bodies

Each kind of body writes into the chunk that it is given and gives the chunk to go on with. The
rendering of one body is defined over the rendering of the bodies that it contains or refers to,
and closed under nesting up to a fixed depth.
-/

namespace TemplateStream

/-- The body scripts that are no helper calls have neither bodies nor parameters. -/
def Scope.plain (chunk : Chunk) (context : Context) : Scope := { chunk, context }

namespace HelperCall

/-- The name under which a fault is pushed for an error body. -/
def errorName : String := "error"

/-- The scope in which a helper function runs. -/
def scope (call : HelperCall) (chunk : Chunk) (context : Context) (parameters : Table Value) :
    Scope where
  chunk := chunk
  context := context
  bodies := call.bodies
  parameters := parameters

/-- Goes on after a helper gave its result. A chunk is gone on with. Any other value selects the
block or the else body, if the call has bodies, and else is written unless it is a truth
value. -/
def proceed (render : RenderBody) (call : HelperCall) (chunk : Chunk) (context : Context)
    (outcome : Outcome) : PassM Chunk :=
  let select (truth : Bool) : PassM Chunk :=
    render (bodyNamed call.bodies (if truth then "block" else "else")) chunk context
  match outcome with
  | .chunk next => pure next
  | .nothing | .value .null => pure chunk
  | .value value =>
    if !call.bodies.isEmpty then select value.isTruthy
    else match value with
      | .bool _ => pure chunk
      | value => do
        chunk.write value
        pure chunk
  | .awaitable _ =>
    if !call.bodies.isEmpty then select true
    else do
      chunk.write (.record [])
      pure chunk

/-- Removes the newest taps of a chunk until it has no more than the given number. -/
def untapTo (chunk : Chunk) (depth : Nat) : PassM Unit := do
  let excess := (← chunk.tapDepth) - depth
  (List.range excess).forM fun _ => chunk.untap

/-- Answers a fault of a helper: with the error body, or with a placeholder when that is the
policy; otherwise the render fails. Taps that the helper left behind are removed first. -/
def recover (render : RenderBody) (call : HelperCall) (chunk : Chunk) (context : Context)
    (depth : Nat) (fault : Fault) : PassM Chunk := do
  if fault.kind == .helper then throw fault
  let environment := context.environment.getD {}
  match bodyNamed call.bodies "error" with
  | .absent =>
    if environment.policy == .placeholder then
      Pass.noteRecovery call.helper fault
      untapTo chunk depth
      let text ← liftExcept (Pattern.fill environment.placeholder
        [("helper", .ofValue (.text call.helper)), (errorName, .ofFault fault)])
      chunk.write (.text text)
      pure chunk
    else throw (.helperFailed call.helper fault)
  | body =>
    Pass.noteRecovery call.helper fault
    untapTo chunk depth
    render body chunk
      (context.push (.ofFields [(errorName, .text fault.message)]))

end HelperCall

/-- What a helper that is no asynchronous one does when it is called. -/
def HelperFunction.invoke (render : RenderBody) (scope : Scope) :
    HelperFunction → PassM Outcome
  | .builtin .upper => tapped .upper
  | .builtin .lower => tapped .lower
  | .builtin .eq =>
    let parameter (key : String) : Value := (scope.parameters.get? key).getD .null
    pure (.value (.bool ((parameter "key").same (parameter "value"))))
  | .builtin .sep =>
    match scope.context.position with
    | some position =>
      if position.index == position.length - 1 then pure (.chunk scope.chunk) else block
    | none => block
  | .builtin .defer => block
  | .scripted _ script => runScript render scope script
  | .inert value => throw (.notCallable value.typeName)
where
  /-- Renders the block of the call. -/
  block : PassM Outcome := do
    pure (.chunk (← render (bodyNamed scope.bodies "block") scope.chunk scope.context))
  /-- Renders the block of the call through a tap. -/
  tapped (transform : Transform) : PassM Outcome := do
    scope.chunk.tap (some transform)
    let next ← render (bodyNamed scope.bodies "block") scope.chunk scope.context
    next.untap
    pure (.chunk next)

/-- The outcome of a helper that is no asynchronous one, called with its parameters, which must
not have to be awaited. -/
def HelperCall.outcome (render : RenderBody) (call : HelperCall) (helper : Helper)
    (chunk : Chunk) (context : Context) : PassM Outcome := do
  let parameters ← liftExcept (Parameter.resolve helper (.ofList call.parameters) (some context))
  match ← helper.function.invoke render (call.scope chunk context parameters) with
  | .awaitable _ => throw .awaitableResult
  | outcome => pure outcome

/-- Calls a helper on a chunk, or on a branch of it when the helper is asynchronous. -/
def HelperCall.perform (render : RenderBody) (call : HelperCall) (chunk : Chunk)
    (context : Context) : PassM Chunk := do
  match context.environment with
  | none => throw (.helperWithoutEnvironment call.helper)
  | some environment =>
    let helper ← liftExcept (environment.helpers.get call.helper)
    if helper.function.isAsync then
      chunk.map fun branch => pure (.awaitable (.invoke call helper branch context))
      pure chunk
    else
      let depth ← chunk.tapDepth
      match ← attempt (call.outcome render helper chunk context) with
      | .ok outcome => call.proceed render chunk context outcome
      | .error fault =>
        if fault.kind.isStructural then throw fault
        else call.recover render chunk context depth fault

/-- The chunk that a script answered with, or the one it worked on. -/
def Outcome.chunkOr (chunk : Chunk) : Outcome → Chunk
  | .chunk next => next
  | _ => chunk

namespace Body

/-- The text of a reference to a value: escaped unless it is markup or not to be escaped. -/
def referenceText (value : Value) (escapes : Bool) : String :=
  match value with
  | .markup content => content
  | value => if escapes then Text.escaped value.toText else value.toText

/-- Writes a body into a chunk, given how the bodies in it are rendered. -/
def write (render : RenderBody) (chunk : Chunk) (context : Context) : Body → PassM Chunk
  | .text content => do
    chunk.write (.text content)
    pure chunk
  | .reference path escape => do
    match ← liftExcept (context.get path) with
    | .null => pure chunk
    | value =>
      let escapes := escape.getD ((context.environment.map Environment.escapes).getD true)
      chunk.write (.text (referenceText value escapes))
      pure chunk
  | .sequence bodies => bodies.foldlM (fun chunk body => render body chunk context) chunk
  | .each path block otherwise => do
    let value ← liftExcept (context.get path)
    match value.items? with
    | some [] => render otherwise chunk context
    | some items =>
      items.zipIdx.foldlM (fun chunk (item, index) =>
        render block chunk (context.push item (some index) (some items.length))) chunk
    | none =>
      if !value.isTruthy then render otherwise chunk context
      else match value with
        | .mapping _ => render block chunk (context.push value)
        | _ => render block chunk context
  | .embed name values => do
    match context.environment with
    | none => throw (.partialWithoutEnvironment name)
    | some environment =>
      let body ← liftExcept (environment.templates.get name)
      let inner := if values.isEmpty then context else context.push (.ofFields values)
      render body chunk (inner.forTemplate name)
  | .call helper bodies parameters =>
    HelperCall.perform render ⟨helper, bodies, parameters⟩ chunk context
  | .callback script | .function _ script => do
    pure ((← runScript render (.plain chunk context) script).chunkOr chunk)
  | .deferred _ _ script => do
    chunk.map fun branch => pure (.awaitable (.run script (.plain branch context) .close))
    pure chunk
  | .absent => pure chunk
  | .inert value => throw (.notCallable value.typeName)

/-- Renders a body into a chunk that is open, given how the bodies in it are rendered. -/
def renderWith (render : RenderBody) : RenderBody := fun body chunk context => do
  chunk.ensureOpen .render
  body.write render chunk context

/-- Renders a body in which bodies are nested to less than the given depth. -/
def renderTo : Nat → RenderBody
  | 0 => fun _ _ _ => throw .tooDeep
  | depth + 1 => renderWith (renderTo depth)

/-- The depth to which bodies may be nested. -/
def nestingLimit : Nat := 1000

/-- Renders a body into a chunk and gives the chunk to go on with. -/
def render : RenderBody := renderTo nestingLimit

end Body

end TemplateStream
