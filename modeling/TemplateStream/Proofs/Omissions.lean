import TemplateStream.Proofs.Composing
import TemplateStream.Proofs.TwinSteps

/-!
# Templates without some calls

A template without some calls renders the same bodies in the same contexts, but for those calls. In
the place of each of them stands a body that does nothing, under a label that tells which call it
stands in for. Where such a body is rendered there is a gap in the document, and to show where the
gaps are they can be marked as the template is rendered. Which bodies a template renders, and in
which contexts, is unfolded along its rendering: a relation of templates with and without the calls
holds if it holds of all that rendering them comes to next. The taps that templates put on are to
refuse nothing and to remember nothing.
-/

namespace TemplateStream

open RenderTree Outline Relation

/-- What is left out of templates. -/
structure Omission where
  /-- Whether an event loop runs. -/
  looping : Bool
  /-- The calls that are left out, by the labels of what stands in for them. -/
  calls : String → Option HelperCall

/-! ## Gaps -/

/-- The label of a body that stands in for a call. -/
def Omission.label? (omission : Omission) : Body → Option String
  | .function label [] => if (omission.calls label).isSome then some label else none
  | _ => none

/-- Writes the mark of a gap, if it has one. -/
def markGap (marks : Marks) (label : String) (depth : Nat) (chunk : Chunk) (context : Context) :
    PassM Chunk := do
  chunk.ensureOpen .render
  let handle ← chunk.handle
  match marks ⟨label, context, depth, handle.taps⟩ with
  | some mark => do
    chunk.write (.text mark)
    pure chunk
  | none => pure chunk

/-- Renders a body as a pass does, but that the gaps are marked. -/
def Omission.renderTo (omission : Omission) (marks : Marks) : Nat → RenderBody
  | 0 => fun _ _ _ => throw .tooDeep
  | depth + 1 => fun body chunk context =>
    match omission.label? body with
    | some label => markGap marks label depth chunk context
    | none => Body.renderWith (omission.renderTo marks depth) body chunk context

/-- Renders a body into a chunk and gives the chunk to go on with, and marks the gaps. -/
def Omission.render (omission : Omission) (marks : Marks) : RenderBody :=
  omission.renderTo marks Body.nestingLimit

/-- A relation of bodies that are rendered in a context, with bodies nested to at most a depth. -/
abbrev Shedding := Nat → Context → Body → Body → Prop

/-- A statement that neither ends the script, nor renders a body, nor contains a script, nor puts on
a tap. -/
def Statement.isSimple : Statement → Bool
  | .answer _ | .tap (some _) | .render .. | .body .. | .map _ | .spawn _ | .on .. | .within ..
  | .iterate .. => false
  | _ => true

/-- Scripts that do the same but for the bodies that they render, in a context, for a call with
bodies of its own. -/
inductive Script.Sheds (sheds : Shedding) (bodies others : List (String × Body)) :
    Nat → Context → Script → Script → Prop where
  | nil {depth : Nat} {context : Context} : Sheds sheds bodies others depth context [] []
  | answer {depth : Nat} {context : Context} (result : Answer) (rest others' : Script) :
      Sheds sheds bodies others depth context (.answer result :: rest) (.answer result :: others')
  | simple {depth : Nat} {context : Context} {statement : Statement} {rest left : Script}
      (simple : statement.isSimple = true)
      (goesOn : Sheds sheds bodies others depth context rest left) :
      Sheds sheds bodies others depth context (statement :: rest) (statement :: left)
  | tap {depth : Nat} {context : Context} {rest left : Script} (transform : String → String)
      (goesOn : Sheds sheds bodies others depth context rest left) :
      Sheds sheds bodies others depth context (.tap (some (.total transform)) :: rest)
        (.tap (some (.total transform)) :: left)
  | render {depth : Nat} {context : Context} {body other : Body} {rest left : Script}
      (value : Option Value) (related : sheds depth (context.pushed value) body other)
      (goesOn : Sheds sheds bodies others depth context rest left) :
      Sheds sheds bodies others depth context (.render body value :: rest)
        (.render other value :: left)
  | body {depth : Nat} {context : Context} {rest left : Script} (name : String)
      (value : Option Value)
      (related : sheds depth (context.pushed value) (bodyNamed bodies name)
        (bodyNamed others name))
      (goesOn : Sheds sheds bodies others depth context rest left) :
      Sheds sheds bodies others depth context (.body name value :: rest) (.body name value :: left)
  | map {depth : Nat} {context : Context} {script other rest left : Script}
      (inner : Sheds sheds bodies others depth context script other)
      (goesOn : Sheds sheds bodies others depth context rest left) :
      Sheds sheds bodies others depth context (.map script :: rest) (.map other :: left)
  | spawn {depth : Nat} {context : Context} {script other rest left : Script}
      (inner : Sheds sheds bodies others Body.nestingLimit context script other)
      (goesOn : Sheds sheds bodies others depth context rest left) :
      Sheds sheds bodies others depth context (.spawn script :: rest) (.spawn other :: left)
  | on {depth : Nat} {context : Context} {script other rest left : Script} (name : String)
      (inner : Sheds sheds bodies others depth context script other)
      (goesOn : Sheds sheds bodies others depth context rest left) :
      Sheds sheds bodies others depth context (.on name script :: rest) (.on name other :: left)
  | within {depth : Nat} {context : Context} {script other rest left : Script} (value : Value)
      (inner : Sheds sheds bodies others depth (context.push value) script other)
      (goesOn : Sheds sheds bodies others depth context rest left) :
      Sheds sheds bodies others depth context (.within value script :: rest)
        (.within value other :: left)
  | iterate {depth : Nat} {context : Context} {script other rest left : Script}
      (index length : Option Int)
      (inner : Sheds sheds bodies others depth (context.push .null index length) script other)
      (goesOn : Sheds sheds bodies others depth context rest left) :
      Sheds sheds bodies others depth context (.iterate index length script :: rest)
        (.iterate index length other :: left)

/-- The bodies of two calls that the result of a helper, or a fault of it, may select. -/
structure BodiesShed (sheds : Shedding) (depth : Nat) (context : Context)
    (bodies others : List (String × Body)) : Prop where
  none : bodies.isEmpty = others.isEmpty
  block : sheds depth context (bodyNamed bodies "block") (bodyNamed others "block")
  otherwise : sheds depth context (bodyNamed bodies "else") (bodyNamed others "else")
  unanswered : bodyNamed bodies "error" = .absent ↔ bodyNamed others "error" = .absent
  error : bodyNamed bodies "error" ≠ .absent → ∀ fault,
    sheds depth (HelperCall.errorContext context fault) (bodyNamed bodies "error")
      (bodyNamed others "error")

/-- What a helper function does for two calls is the same but for the bodies that it renders. -/
def HelperFunction.Sheds (sheds : Shedding) (depth : Nat) (context : Context)
    (bodies others : List (String × Body)) : HelperFunction → Prop
  | .scripted _ script => Script.Sheds sheds bodies others depth context script script
  | _ => True

/-- Bodies that render the same bodies in the same contexts, but for calls that are left out and
fail alone there. The bodies in them are nested to at most the given depth, but to the full depth
again where they are rendered asynchronously. -/
inductive Body.Sheds (omission : Omission) (sheds : Shedding) (depth : Nat) (context : Context) :
    Body → Body → Prop where
  | text (content : String) : Sheds omission sheds depth context (.text content) (.text content)
  | reference (path : String) (escape : Option Bool) :
      Sheds omission sheds depth context (.reference path escape) (.reference path escape)
  | absent : Sheds omission sheds depth context .absent .absent
  | inert (value : Value) : Sheds omission sheds depth context (.inert value) (.inert value)
  | sequence {bodies others : List Body}
      (related : List.Forall₂ (sheds depth context) bodies others) :
      Sheds omission sheds depth context (.sequence bodies) (.sequence others)
  | each {path : String} {block otherwise other instead : Body}
      (related : ∀ value, context.get path = .ok value →
        List.Forall₂ (fun (site place : Site) =>
            site.1 = place.1 ∧ sheds depth site.1 site.2 place.2)
          (sectionSites context value block otherwise)
          (sectionSites context value other instead)) :
      Sheds omission sheds depth context (.each path block otherwise) (.each path other instead)
  | embed {name : String} {values : List (String × Value)}
      (related : ∀ environment body, context.environment = some environment →
        environment.templates.get name = .ok body →
        sheds depth (context.embedded name values) body body) :
      Sheds omission sheds depth context (.embed name values) (.embed name values)
  | call {helper : String} {bodies others : List (String × Body)}
      {parameters : List (String × Value)}
      (related : ∀ environment found, context.environment = some environment →
        environment.helpers.get helper = .ok found →
        let reached := if found.function.isAsync then nestingLimit else depth
        BodiesShed sheds reached context bodies others ∧
          found.function.Sheds sheds reached context bodies others) :
      Sheds omission sheds depth context (.call helper bodies parameters)
        (.call helper others parameters)
  | callback {script other : Script}
      (related : Script.Sheds sheds [] [] depth context script other) :
      Sheds omission sheds depth context (.callback script) (.callback other)
  | function {script other : Script} (name : String)
      (own : omission.label? (.function name other) = none)
      (related : Script.Sheds sheds [] [] depth context script other) :
      Sheds omission sheds depth context (.function name script) (.function name other)
  | deferred {script other : Script} (style : AsyncStyle) (name : String)
      (related : Script.Sheds sheds [] [] nestingLimit context script other) :
      Sheds omission sheds depth context (.deferred style name script)
        (.deferred style name other)
  | omitted {call : HelperCall} {label : String} {environment : Environment} {helper : Helper}
      (known : context.environment = some environment)
      (registered : environment.helpers.get call.helper = .ok helper)
      (labelled : omission.calls label = some call)
      (fails : call.FailsAlone helper omission.looping depth context) :
      Sheds omission sheds depth context (.call call.helper call.bodies call.parameters)
        (.function label [])

/-- A relation of bodies that holds of all that rendering them comes to next. -/
def Omission.Unfolds (omission : Omission) (sheds : Shedding) : Prop :=
  ∀ depth context body other, sheds (depth + 1) context body other →
    body.Sheds omission sheds depth context other

/-- A body is another without some calls. -/
def Omission.Sheds (omission : Omission) (context : Context) (full bare : Body) : Prop :=
  ∃ sheds, omission.Unfolds sheds ∧ sheds Body.nestingLimit context full bare

/-! ## The same work on twins -/

/-- Scopes that are the same on twins, but for the bodies of a call. -/
structure SameScope (twins : List Chunk) (scope other : Scope) : Prop where
  twin : Twin twins scope.chunk other.chunk
  context : scope.context = other.context
  parameters : scope.parameters = other.parameters

/-- Calls that are the same but for their bodies. -/
structure SameCall (sheds : Shedding) (depth : Nat) (context : Context) (call other : HelperCall) :
    Prop where
  helper : call.helper = other.helper
  parameters : call.parameters = other.parameters
  bodies : BodiesShed sheds depth context call.bodies other.bodies

/-- What is done in the end is the same. -/
inductive SameFinish (sheds : Shedding) (context : Context) : Finish → Finish → Prop where
  | leave : SameFinish sheds context .leave .leave
  | close : SameFinish sheds context .close .close
  | settle {call other : HelperCall} (same : SameCall sheds Body.nestingLimit context call other)
      (depth : Nat) : SameFinish sheds context (.settle call depth) (.settle other depth)

/-- Work that is the same on twins. -/
inductive SameWork (sheds : Shedding) (twins : List Chunk) : Work → Work → Prop where
  | idle : SameWork sheds twins .idle .idle
  | run {script other : Script} {scope held : Scope} {finish final : Finish}
      (scopes : SameScope twins scope held)
      (scripts : Script.Sheds sheds scope.bodies held.bodies Body.nestingLimit scope.context script
        other)
      (finishes : SameFinish sheds scope.context finish final) :
      SameWork sheds twins (.run script scope finish) (.run other held final)
  | block {scope held : Scope} {finish final : Finish} (scopes : SameScope twins scope held)
      (blocks : sheds Body.nestingLimit scope.context (bodyNamed scope.bodies "block")
        (bodyNamed held.bodies "block"))
      (finishes : SameFinish sheds scope.context finish final) :
      SameWork sheds twins (.block scope finish) (.block held final)
  | invoke {call other : HelperCall} {helper : Helper} {branch own : Chunk} {context : Context}
      (twin : Twin twins branch own)
      (same : SameCall sheds Body.nestingLimit context call other)
      (functions : helper.function.Sheds sheds Body.nestingLimit context call.bodies other.bodies) :
      SameWork sheds twins (.invoke call helper branch context) (.invoke other helper own context)

theorem SameScope.mono {twins later : List Chunk} {scope held : Scope}
    (same : SameScope twins scope held) (grows : twins <+: later) : SameScope later scope held :=
  ⟨twin_mono grows same.twin, same.context, same.parameters⟩

theorem SameWork.mono {sheds : Shedding} {twins later : List Chunk} {work other : Work}
    (grows : twins <+: later) (same : SameWork sheds twins work other) :
    SameWork sheds later work other := by
  cases same with
  | idle => exact .idle
  | run scopes scripts finishes => exact .run (scopes.mono grows) scripts finishes
  | block scopes blocks finishes => exact .block (scopes.mono grows) blocks finishes
  | invoke twin same functions => exact .invoke (twin_mono grows twin) same functions

/-- What may be left in the document by the call that is left out in a gap: what that very call
leaves in the context of the gap, nested as deep, through the taps in force there. -/
def Omission.Leaves (omission : Omission) (gap : Gap) (left : Outline) : Prop :=
  ∃ call environment helper, omission.calls gap.label = some call ∧
    gap.context.environment = some environment ∧
    environment.helpers.get call.helper = .ok helper ∧
    call.Leaves helper omission.looping gap.depth gap.context gap.taps left

/-- What a pass over templates and one over those without some calls are to agree on. -/
def Omission.accord (omission : Omission) (sheds : Shedding) : Accord where
  looping := omission.looping
  leaves := omission.Leaves
  related := SameWork sheds
  related_mono := SameWork.mono

end TemplateStream
