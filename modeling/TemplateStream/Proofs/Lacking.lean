import TemplateStream.Proofs.Forms
import TemplateStream.Proofs.Omissions

/-!
# Templates that lack calls

Templates are built alike but that one of them lacks some calls, where it has what stands in for
them. In an environment of such templates the one is the other without those calls, in whatever
context it is rendered, when no helper puts on a tap that refuses a text or remembers one, and when
the calls fail alone.
-/

namespace TemplateStream

open RenderTree Outline

/-- The bodies of two calls are related one by one, under the same names. -/
inductive NamedAlike (related : Body → Body → Prop) :
    List (String × Body) → List (String × Body) → Prop where
  | nil : NamedAlike related [] []
  | cons {body other : Body} {bodies others : List (String × Body)} (name : String)
      (first : related body other) (rest : NamedAlike related bodies others) :
      NamedAlike related ((name, body) :: bodies) ((name, other) :: others)

/-- Two bodies are built alike, but that the second lacks some calls. No script in them puts on a
tap that refuses a text or remembers one. -/
inductive Body.Lacks (omission : Omission) : Body → Body → Prop where
  | text (content : String) : Lacks omission (.text content) (.text content)
  | reference (path : String) (escape : Option Bool) :
      Lacks omission (.reference path escape) (.reference path escape)
  | absent : Lacks omission .absent .absent
  | inert (value : Value) : Lacks omission (.inert value) (.inert value)
  | sequence {bodies others : List Body} (built : List.Forall₂ (Lacks omission) bodies others) :
      Lacks omission (.sequence bodies) (.sequence others)
  | each {block otherwise other instead : Body} (path : String)
      (builtBlock : Lacks omission block other) (builtOther : Lacks omission otherwise instead) :
      Lacks omission (.each path block otherwise) (.each path other instead)
  | embed (name : String) (values : List (String × Value)) :
      Lacks omission (.embed name values) (.embed name values)
  | call {bodies others : List (String × Body)} (helper : String)
      (parameters : List (String × Value)) (built : NamedAlike (Lacks omission) bodies others) :
      Lacks omission (.call helper bodies parameters) (.call helper others parameters)
  | callback {script other : Script}
      (built : ∀ depth context,
        Script.Sheds (fun _ _ => Lacks omission) [] [] depth context script other) :
      Lacks omission (.callback script) (.callback other)
  | function {script other : Script} (name : String)
      (own : omission.label? (.function name other) = none)
      (built : ∀ depth context,
        Script.Sheds (fun _ _ => Lacks omission) [] [] depth context script other) :
      Lacks omission (.function name script) (.function name other)
  | deferred {script other : Script} (style : AsyncStyle) (name : String)
      (built : ∀ depth context,
        Script.Sheds (fun _ _ => Lacks omission) [] [] depth context script other) :
      Lacks omission (.deferred style name script) (.deferred style name other)
  | omitted {call : HelperCall} {label : String} (labelled : omission.calls label = some call) :
      Lacks omission (.call call.helper call.bodies call.parameters) (.function label [])

/-- An environment in which templates lack calls that fail alone. -/
structure Environment.Lacks (environment : Environment) (omission : Omission) : Prop where
  templates : ∀ name body, environment.templates.get name = .ok body → body.Lacks omission body
  helpers : ∀ name helper style script, environment.helpers.get name = .ok helper →
    helper.function = .scripted style script →
    ∀ bodies others, NamedAlike (Body.Lacks omission) bodies others → ∀ depth context,
      Script.Sheds (fun _ _ => Body.Lacks omission) bodies others depth context script script
  fails : ∀ label call, omission.calls label = some call →
    ∃ helper, environment.helpers.get call.helper = .ok helper ∧
      ∀ depth context, context.environment = some environment →
        call.FailsAlone helper omission.looping depth context

section lacks

variable {omission : Omission} {environment : Environment} {context : Context} {depth : Nat}
  {bodies others : List (String × Body)} {body other : Body}

/-- The bodies of a name are built alike. -/
theorem NamedAlike.lacks (lack : NamedAlike (Body.Lacks omission) bodies others) (name : String) :
    (bodyNamed bodies name).Lacks omission (bodyNamed others name) := by
  induction lack with
  | nil => exact .absent
  | cons key first _ ih =>
    simp only [bodyNamed, List.lookup_cons] at ih ⊢
    cases name == key with
    | true => exact first
    | false => exact ih

/-- A body is missing where the other one is. -/
theorem Body.Lacks.absent_iff (lacks : body.Lacks omission other) :
    body = .absent ↔ other = .absent := by
  cases lacks <;> simp_all

/-- What is rendered of a template, in whatever context with an environment. -/
def Omission.lacking (omission : Omission) (environment : Environment) : Shedding :=
  fun _ context body other => context.environment = some environment ∧ body.Lacks omission other

/-- Scripts that are built alike do the same but for the bodies that they render. -/
theorem Script.Sheds.lacking {script other : Script}
    (scripts : Script.Sheds (fun _ _ => Body.Lacks omission) bodies others depth context script
      other) (known : context.environment = some environment) :
    Script.Sheds (omission.lacking environment) bodies others depth context script other := by
  have pushed {context : Context} (known : context.environment = some environment)
      (value : Option Value) : (context.pushed value).environment = some environment := by
    cases value <;> exact known
  induction scripts with
  | nil => exact .nil
  | answer result rest others' => exact .answer result rest others'
  | simple simple _ ih => exact .simple simple (ih known)
  | tap transform _ ih => exact .tap transform (ih known)
  | render value related _ ih => exact .render value ⟨pushed known value, related⟩ (ih known)
  | body name value related _ ih => exact .body name value ⟨pushed known value, related⟩ (ih known)
  | map _ _ inner ih => exact .map (inner known) (ih known)
  | spawn _ _ inner ih => exact .spawn (inner known) (ih known)
  | on name _ _ inner ih => exact .on name (inner known) (ih known)
  | within value _ _ inner ih => exact .within value (inner known) (ih known)
  | iterate index length _ _ inner ih => exact .iterate index length (inner known) (ih known)

/-- The bodies of two calls that are built alike do the same for what selects them. -/
theorem NamedAlike.shed (lack : NamedAlike (Body.Lacks omission) bodies others)
    (known : context.environment = some environment) :
    BodiesShed (omission.lacking environment) depth context bodies others where
  none := by cases lack <;> rfl
  block := ⟨known, lack.lacks "block"⟩
  otherwise := ⟨known, lack.lacks "else"⟩
  unanswered := (lack.lacks "error").absent_iff
  error _ _ := ⟨known, lack.lacks "error"⟩

/-- What a section renders is built alike when its bodies are. -/
theorem sectionSites_lack {block otherwise instead : Body} (value : Value)
    (known : context.environment = some environment) (blocks : block.Lacks omission other)
    (others : otherwise.Lacks omission instead) :
    List.Forall₂ (fun (site place : Site) => site.1 = place.1 ∧
        omission.lacking environment depth site.1 site.2 place.2)
      (sectionSites context value block otherwise) (sectionSites context value other instead) := by
  have one {context : Context} {body other : Body} (known : context.environment = some environment)
      (lacks : body.Lacks omission other) :
      List.Forall₂ (fun (site place : Site) => site.1 = place.1 ∧
        omission.lacking environment depth site.1 site.2 place.2) [(context, body)]
        [(context, other)] := .cons ⟨rfl, known, lacks⟩ .nil
  simp only [sectionSites]
  split
  · exact one known others
  · rw [List.forall₂_map_left_iff, List.forall₂_map_right_iff, List.forall₂_same]
    exact fun entry _ => ⟨rfl, known, blocks⟩
  · split
    · exact one known others
    · split
      · exact one known blocks
      · exact one known blocks

/-- What is rendered of a template that lacks calls comes to the same again. -/
theorem Environment.Lacks.unfolds (lacks : environment.Lacks omission) :
    omission.Unfolds (omission.lacking environment) := by
  rintro depth context body other ⟨known, built⟩
  have same {other : Environment} (knownToo : context.environment = some other) :
      environment = other := Option.some.inj (known.symm.trans knownToo)
  cases built with
  | text content => exact .text content
  | reference path escape => exact .reference path escape
  | absent => exact .absent
  | inert value => exact .inert value
  | sequence built => exact .sequence (built.imp fun _ _ lacks => ⟨known, lacks⟩)
  | each path block otherwise =>
    exact .each fun value _ => sectionSites_lack value known block otherwise
  | embed name values =>
    refine .embed fun other body knownToo registered => ?_
    obtain rfl := same knownToo
    exact ⟨(embedded_environment context name values).trans known, lacks.templates _ _ registered⟩
  | @call bodies others helper parameters built =>
    refine .call fun other found knownToo registered => ?_
    obtain rfl := same knownToo
    refine ⟨NamedAlike.shed built known, ?_⟩
    cases function : found.function with
    | builtin which => trivial
    | inert value => trivial
    | scripted style script =>
      exact (lacks.helpers _ _ style script registered function bodies others built _ _).lacking
        known
  | callback built => exact .callback ((built _ _).lacking known)
  | function name own built => exact .function name own ((built _ _).lacking known)
  | deferred style name built => exact .deferred style name ((built _ _).lacking known)
  | @omitted call label labelled =>
    obtain ⟨helper, registered, fails⟩ := lacks.fails label call labelled
    exact .omitted known registered labelled (fails depth context known)

/-- A template that lacks calls is the other one without those calls. -/
theorem Environment.Lacks.sheds (lacks : environment.Lacks omission)
    (known : context.environment = some environment) (built : body.Lacks omission other) :
    omission.Sheds context body other :=
  ⟨omission.lacking environment, lacks.unfolds, known, built⟩

end lacks

end TemplateStream
