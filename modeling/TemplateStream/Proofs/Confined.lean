import TemplateStream.Pass.Agenda

/-!
# What keeps to itself

A script keeps to itself when it neither remembers chunks nor goes back to remembered ones, and
when each transform that it installs goes by the text and by what itself was called with before.
What it does then depends on nothing that other passes left behind. Bodies keep to themselves when
their scripts and the bodies in them do, and work that waits when what is left of it does.
-/

namespace TemplateStream

/-! ## Transforms -/

/-- The texts that a tap was called with, oldest first. -/
def textsFor (number : Nat) (calls : List TapCall) : List String :=
  (calls.filter fun call => call.tap == number).map TapCall.text

/-- A transform that goes by the text alone, or also by what itself was called with before. -/
def Transform.Confined : Transform → Prop
  | .stateless _ => True
  | .remembering apply => ∃ own : List String → String → Except Fault String,
      ∀ number calls text, apply number calls text = own (textsFor number calls) text

/-- The number of a call is how often the tap was called before. -/
theorem Transform.counting_confined : Transform.counting.Confined := by
  refine ⟨fun heard text => .ok s!"{heard.length + 1}:{text}", fun number calls text => ?_⟩
  have count : (textsFor number calls).length = calls.countP (fun call => call.tap == number) := by
    rw [textsFor, List.length_map, List.countP_eq_length_filter]
  simp only [count]

/-! ## Bodies and scripts -/

/-- Whether a statement has no script, body or transform in it, and leaves remembered chunks
alone. -/
def Statement.isBare : Statement → Bool
  | .tap (some _) | .render .. | .map _ | .spawn _ | .save _ | .on .. | .within .. | .iterate ..
  | .answer (.saved _) => false
  | _ => true

/-- Whether a body has no script or body in it. -/
def Body.isBare : Body → Bool
  | .sequence _ | .each .. | .call .. | .callback _ | .function .. | .deferred .. => false
  | _ => true

mutual

/-- A body that keeps to itself: so do its scripts and the bodies in it. -/
inductive Body.Confined : Body → Prop where
  | bare {body : Body} (bare : body.isBare = true) : Body.Confined body
  | sequence {bodies : List Body} (inner : ∀ body ∈ bodies, Body.Confined body) :
      Body.Confined (.sequence bodies)
  | each {path : String} {block otherwise : Body} (inner : Body.Confined block)
      (other : Body.Confined otherwise) : Body.Confined (.each path block otherwise)
  | call {helper : String} {bodies : List (String × Body)} {parameters : List (String × Value)}
      (inner : ∀ entry ∈ bodies, Body.Confined entry.2) :
      Body.Confined (.call helper bodies parameters)
  | callback {script : List Statement}
      (inner : ∀ statement ∈ script, Statement.Confined statement) :
      Body.Confined (.callback script)
  | function {name : String} {script : List Statement}
      (inner : ∀ statement ∈ script, Statement.Confined statement) :
      Body.Confined (.function name script)
  | deferred {style : AsyncStyle} {name : String} {script : List Statement}
      (inner : ∀ statement ∈ script, Statement.Confined statement) :
      Body.Confined (.deferred style name script)

/-- A statement that keeps to itself: so do the scripts and bodies in it, and the transform that it
installs. -/
inductive Statement.Confined : Statement → Prop where
  | bare {statement : Statement} (bare : statement.isBare = true) : Statement.Confined statement
  | tap {transform : Transform} (confined : transform.Confined) :
      Statement.Confined (.tap (some transform))
  | render {body : Body} {value : Option Value} (inner : Body.Confined body) :
      Statement.Confined (.render body value)
  | map {script : List Statement} (inner : ∀ statement ∈ script, Statement.Confined statement) :
      Statement.Confined (.map script)
  | spawn {script : List Statement} (inner : ∀ statement ∈ script, Statement.Confined statement) :
      Statement.Confined (.spawn script)
  | within {value : Value} {script : List Statement}
      (inner : ∀ statement ∈ script, Statement.Confined statement) :
      Statement.Confined (.within value script)
  | iterate {index length : Option Int} {script : List Statement}
      (inner : ∀ statement ∈ script, Statement.Confined statement) :
      Statement.Confined (.iterate index length script)

end

/-- A script whose statements keep to themselves. -/
abbrev Script.Confined (script : Script) : Prop := ∀ statement ∈ script, statement.Confined

/-- Bodies of a call that keep to themselves. -/
abbrev BodiesConfined (bodies : List (String × Body)) : Prop := ∀ entry ∈ bodies, entry.2.Confined

/-- What is in a body that keeps to itself. -/
theorem Body.Confined.inner {body : Body} (confined : body.Confined) :
    match body with
    | .sequence bodies => ∀ body ∈ bodies, body.Confined
    | .each _ block otherwise => block.Confined ∧ otherwise.Confined
    | .call _ bodies _ => BodiesConfined bodies
    | .callback script | .function _ script | .deferred _ _ script => Script.Confined script
    | _ => True := by
  cases confined with
  | @bare body bare => cases body <;> trivial
  | sequence inner => exact inner
  | each inner other => exact ⟨inner, other⟩
  | call inner => exact inner
  | callback inner => exact inner
  | function inner => exact inner
  | deferred inner => exact inner

/-- What is in a statement that keeps to itself. -/
theorem Statement.Confined.inner {statement : Statement} (confined : statement.Confined) :
    match statement with
    | .tap transform => ∀ some, transform = .some some → some.Confined
    | .render inner _ => inner.Confined
    | .map script | .spawn script | .within _ script | .iterate _ _ script =>
      Script.Confined script
    | .save _ | .on .. | .answer (.saved _) => False
    | _ => True := by
  cases confined with
  | @bare statement bare =>
    cases statement with
    | tap transform =>
      rintro some rfl
      cases bare
    | answer result => cases result <;> trivial
    | _ => trivial
  | tap confined =>
    rintro some same
    cases same
    exact confined
  | render inner => exact inner
  | map inner => exact inner
  | spawn inner => exact inner
  | within inner => exact inner
  | iterate inner => exact inner

/-- A body that is named is one of those that there are, or absent. -/
theorem BodiesConfined.named {bodies : List (String × Body)} (confined : BodiesConfined bodies)
    (name : String) : (bodyNamed bodies name).Confined := by
  unfold bodyNamed
  cases found : bodies.lookup name with
  | none => exact .bare rfl
  | some body =>
    obtain ⟨front, back, rfl, _⟩ := List.lookup_eq_some_iff.mp found
    exact confined (name, body) (List.mem_append_right _ List.mem_cons_self)

/-- A helper function that keeps to itself: so does its script. -/
def HelperFunction.Confined : HelperFunction → Prop
  | .scripted _ script => script.Confined
  | .builtin _ | .inert _ => True

/-! ## Where bodies are rendered -/

/-- An environment whose templates and helpers keep to themselves. -/
structure Environment.Confined (environment : Environment) : Prop where
  templates : ∀ name body, environment.templates.get name = .ok body → body.Confined
  helpers : ∀ name helper, environment.helpers.get name = .ok helper → helper.function.Confined

/-- A context whose environment, if any, keeps to itself. -/
def Context.Confined (context : Context) : Prop :=
  ∀ environment, context.environment = some environment → environment.Confined

namespace Context.Confined

variable {context : Context}

theorem push (confined : context.Confined) (value : Value) (index length : Option Int) :
    (context.push value index length).Confined := confined

theorem pushed (confined : context.Confined) (value : Option Value) :
    (context.pushed value).Confined := by
  cases value with
  | none => exact confined
  | some value => exact confined.push value none none

theorem forTemplate (confined : context.Confined) (name : String) :
    (context.forTemplate name).Confined := by
  unfold Context.forTemplate
  split
  · exact confined
  · exact confined

end Context.Confined

/-! ## Work -/

/-- A chunk that was made in a pass which began with so many handles. -/
abbrev Chunk.Since (bound : Nat) (chunk : Chunk) : Prop := bound ≤ chunk.number

/-- A scope that keeps to itself, on a chunk of the pass. -/
structure Scope.Confined (bound : Nat) (scope : Scope) : Prop where
  chunk : scope.chunk.Since bound
  context : scope.context.Confined
  bodies : BodiesConfined scope.bodies

/-- The scope of a body script has no bodies. -/
theorem Scope.Confined.plain {bound : Nat} {chunk : Chunk} {context : Context}
    (since : chunk.Since bound) (confined : context.Confined) :
    (Scope.plain chunk context).Confined bound where
  chunk := since
  context := confined
  bodies := fun _ member => (List.not_mem_nil member).elim

/-- What is done with a branch at last, when it keeps to itself. -/
def Finish.Confined : Finish → Prop
  | .settle call _ => BodiesConfined call.bodies
  | .leave | .close => True

/-- Work that keeps to itself, on chunks of the pass. -/
def Work.Confined (bound : Nat) : Work → Prop
  | .idle => True
  | .run script scope finish => script.Confined ∧ scope.Confined bound ∧ finish.Confined
  | .block scope finish => scope.Confined bound ∧ finish.Confined
  | .invoke call helper branch context => BodiesConfined call.bodies ∧ helper.function.Confined ∧
      branch.Since bound ∧ context.Confined

/-- An outcome that keeps to itself. -/
def Outcome.Confined (bound : Nat) : Outcome → Prop
  | .chunk next => next.Since bound
  | .awaitable work => work.Confined bound
  | .nothing | .value _ => True

/-- A script that got somewhere and keeps to itself. -/
def Progress.Confined (bound : Nat) : Progress → Prop
  | .finished outcome => outcome.Confined bound
  | .paused _ rest => rest.Confined

/-- What is left of work when it keeps to itself. -/
def LeftConfined (bound : Nat) (left : Option (Pause × Work)) : Prop :=
  ∀ pause work, left = some (pause, work) → work.Confined bound

/-- An agenda whose work keeps to itself. -/
structure Agenda.Confined (bound : Nat) (agenda : Agenda) : Prop where
  ready : ∀ work ∈ agenda.ready, work.Confined bound
  timed : ∀ entry ∈ agenda.timed, entry.2.Confined bound
  gated : ∀ entry ∈ agenda.gated, entry.2.Confined bound

/-- No work keeps to itself. -/
theorem Agenda.Confined.none (bound : Nat) : ({} : Agenda).Confined bound where
  ready := fun _ member => (List.not_mem_nil member).elim
  timed := fun _ member => (List.not_mem_nil member).elim
  gated := fun _ member => (List.not_mem_nil member).elim

end TemplateStream
