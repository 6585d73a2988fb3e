import Mathlib.Logic.Relation
import TemplateStream.Proofs.Meaning
import TemplateStream.Proofs.Tables

/-!
# Forms of bodies

Rendering a body renders others, each in a context of its own. Which forms these have is said of
all of them together, in the contexts in which they are rendered. A body that is built of the
ready-made forms, under templates that are, renders no others.
-/

namespace TemplateStream

/-- A rendering of a body renders another one. -/
def Involves (site other : Site) : Prop :=
  ∃ composition, site.2.composition site.1 = some composition ∧ other ∈ composition.sites

/-- Every body that is rendered when a body is, itself included, has a property in the context in
which it is rendered. -/
def Body.Throughout (property : Context → Body → Prop) (context : Context) (body : Body) : Prop :=
  ∀ site, Relation.ReflTransGen Involves (context, body) site → property site.1 site.2

namespace Body.Throughout

variable {property : Context → Body → Prop} {context : Context} {body : Body}

/-- What holds of all bodies that are rendered holds of the first. -/
theorem self (holds : body.Throughout property context) : property context body :=
  holds _ .refl

/-- What holds of all bodies that are rendered holds of those that one of them renders. -/
theorem site {composition : Composition} {site : Site} (holds : body.Throughout property context)
    (composed : body.composition context = some composition) (member : site ∈ composition.sites) :
    site.2.Throughout property site.1 :=
  fun other reached => holds other (.head ⟨composition, composed, member⟩ reached)

/-- What holds of a body, and of all that are rendered by those that it renders, holds of all that
are rendered. -/
theorem of_sites (first : property context body)
    (others : ∀ composition, body.composition context = some composition →
      ∀ site ∈ composition.sites, site.2.Throughout property site.1) :
    body.Throughout property context := by
  intro site reached
  rcases reached.cases_head with rfl | ⟨next, ⟨composition, composed, member⟩, more⟩
  · exact first
  · exact others composition composed next member site more

/-- What follows from a property holds of all bodies that are rendered when the property does. -/
theorem imp {other : Context → Body → Prop} (holds : body.Throughout property context)
    (follows : ∀ context body, property context body → other context body) :
    body.Throughout other context :=
  fun site reached => follows _ _ (holds site reached)

end Body.Throughout

/-- Whether a helper function comes with every registry. -/
def HelperFunction.isBuiltin : HelperFunction → Bool
  | .builtin _ => true
  | _ => false

/-- Whether a helper function comes with every registry and renders its bodies at once. -/
def HelperFunction.isPlain : HelperFunction → Bool
  | .builtin which => which != .defer
  | _ => false

/-- A plain helper function is any that comes with every registry but for the deferring one. -/
theorem HelperFunction.isPlain_iff {function : HelperFunction} :
    function.isPlain = true ↔ ∃ which, function = .builtin which ∧ which ≠ .defer := by
  cases function <;> simp [isPlain]

/-- A registered helper that comes with every registry and is asynchronous is the deferring one. -/
theorem HelperRegistry.get_defer {environment : Environment} {name : String}
    (checked : (environment.helpers.get name).toOption.any
      (fun helper => helper.function.isBuiltin && helper.function.isAsync) = true) :
    ∃ helper, environment.helpers.get name = .ok helper ∧ helper.function = .builtin .defer := by
  cases got : environment.helpers.get name with
  | error fault => simp [got, Except.toOption] at checked
  | ok helper =>
    refine ⟨helper, rfl, ?_⟩
    rw [got] at checked
    have both : (helper.function.isBuiltin && helper.function.isAsync) = true := checked
    cases function : helper.function with
    | builtin which =>
      rw [function] at both
      cases which <;> first | rfl | cases both
    | scripted style script | inert value =>
      rw [function] at both
      cases both

/-- The ready-made forms of bodies: text, references, sequences, sections, embedded templates, no
body at all, and calls of helpers that are admitted. -/
def Body.IsReadyMade (admitted : HelperFunction → Bool) (context : Context) : Body → Prop
  | .text _ | .reference .. | .sequence _ | .each .. | .embed .. | .absent => True
  | .call name _ _ => ∀ environment helper, context.environment = some environment →
    environment.helpers.get name = .ok helper → admitted helper.function = true
  | _ => False

/-- A call is ready-made where its helper is admitted. -/
theorem Body.isReadyMade_call {admitted : HelperFunction → Bool} {environment : Environment}
    {name : String} {bodies : List (String × Body)} {given : List (String × Value)}
    (checked : (environment.helpers.get name).toOption.all
      (fun helper => admitted helper.function) = true) (context : Context)
    (known : context.environment = some environment) :
    (Body.call name bodies given).IsReadyMade admitted context := by
  intro other helper knownOther got
  obtain rfl := Option.some.inj (known.symm.trans knownOther)
  rw [got] at checked
  exact checked

/-- The ready-made forms of bodies that are rendered at once. -/
abbrev Body.IsPlain (context : Context) (body : Body) : Prop :=
  body.IsReadyMade HelperFunction.isPlain context

/-- The ready-made forms of bodies, whether they are rendered at once or later. -/
abbrev Body.IsStandard (context : Context) (body : Body) : Prop :=
  body.IsReadyMade HelperFunction.isBuiltin context

/-- Plain forms are standard ones. -/
theorem Body.IsPlain.isStandard (context : Context) (body : Body) (plain : body.IsPlain context) :
    body.IsStandard context := by
  cases body with
  | call name bodies given =>
    intro environment helper known got
    obtain ⟨which, builtin, _⟩ := HelperFunction.isPlain_iff.mp (plain environment helper known got)
    rw [builtin]
    rfl
  | _ => exact plain

/-- A plain body renders nothing later. -/
theorem Body.IsPlain.not_later {context : Context} {body : Body} {sites : List Site}
    (plain : body.IsPlain context) : body.composition context ≠ some (.later sites) := by
  intro composed
  rcases Body.composed_later composed with calls | scripted
  · obtain ⟨name, bodies, given, environment, helper, _, rfl, known, got, _, defers, _⟩ := calls
    obtain ⟨which, builtin, synchronous⟩ :=
      HelperFunction.isPlain_iff.mp (plain environment helper known got)
    exact synchronous (HelperFunction.builtin.inj (builtin.symm.trans defers))
  · obtain ⟨style, name, script, bodies, rfl, _⟩ := scripted
    exact plain

/-- A body that is made of something but renders nothing later is plain. -/
theorem Body.isPlain_of_composition {context : Context} {body : Body} {composition : Composition}
    (composed : body.composition context = some composition)
    (now : ∀ sites, composition ≠ .later sites) : body.IsPlain context := by
  cases body with
  | text | reference | sequence | each | embed | absent => trivial
  | call name bodies given =>
    obtain ⟨environment, helper, parameters, which, known, got, _, builtin, called⟩ :=
      Body.call_composed composed
    intro other found knownOther gotOther
    obtain rfl : environment = other := Option.some.inj (known.symm.trans knownOther)
    obtain rfl : helper = found := Except.ok.inj (got.symm.trans gotOther)
    refine HelperFunction.isPlain_iff.mpr ⟨which, builtin, ?_⟩
    rintro rfl
    exact now _ (Option.some.inj called).symm
  | deferred style name script =>
    obtain ⟨bodies, _, listed⟩ := Option.bind_eq_some_iff.mp composed
    exact absurd (Option.some.inj listed).symm (now _)
  | callback script | function name script | inert value => cases composed

/-! ## Bodies that are built of forms -/

/-- The forms of bodies that ask for nothing. -/
def Body.IsSimple : Body → Prop
  | .text _ | .reference .. | .sequence _ | .each .. | .embed .. | .absent => True
  | _ => False

/-- Simple forms are ready-made, whatever is admitted. -/
theorem Body.IsSimple.isReadyMade {admitted : HelperFunction → Bool} {body : Body}
    (simple : body.IsSimple) (context : Context) : body.IsReadyMade admitted context := by
  cases body with
  | text | reference | sequence | each | embed | absent => trivial
  | _ => exact absurd simple not_false

/-- A body is built of simple forms, and of calls and scripts that have a property wherever an
environment is known. -/
inductive Body.IsBuilt (environment : Environment) (property : Context → Body → Prop) : Body → Prop
  | text (content : String) : IsBuilt environment property (.text content)
  | reference (path : String) (escape : Option Bool) :
    IsBuilt environment property (.reference path escape)
  | sequence {bodies : List Body} (built : ∀ body ∈ bodies, IsBuilt environment property body) :
    IsBuilt environment property (.sequence bodies)
  | each (path : String) {block otherwise : Body} (builtBlock : IsBuilt environment property block)
    (builtOther : IsBuilt environment property otherwise) :
    IsBuilt environment property (.each path block otherwise)
  | embed (name : String) (values : List (String × Value)) :
    IsBuilt environment property (.embed name values)
  | call {name : String} {bodies : List (String × Body)} {given : List (String × Value)}
    (holds : ∀ context, context.environment = some environment →
      property context (.call name bodies given))
    (built : ∀ entry ∈ bodies, IsBuilt environment property entry.2) :
    IsBuilt environment property (.call name bodies given)
  | deferred {style : AsyncStyle} {name : String} {script : Script} {bodies : List Body}
    (holds : ∀ context, context.environment = some environment →
      property context (.deferred style name script))
    (rendered : scriptBodies script = some bodies)
    (built : ∀ body ∈ bodies, IsBuilt environment property body) :
    IsBuilt environment property (.deferred style name script)
  | absent : IsBuilt environment property .absent

/-- The body of a registered template is one of those that the registry holds. -/
theorem TemplateRegistry.mem_of_get {registry : TemplateRegistry} {name : String} {body : Body}
    (got : registry.get name = .ok body) : body ∈ registry.bodies.values := by
  rw [TemplateRegistry.get] at got
  cases found : registry.bodies.get? name with
  | none =>
    rw [found] at got
    cases got
  | some template =>
    rw [found] at got
    cases got
    exact Table.mem_values_of_get? found

/-- A registered helper is one of those that the registry holds. -/
theorem HelperRegistry.mem_of_get {registry : HelperRegistry} {name : String} {helper : Helper}
    (got : registry.get name = .ok helper) : helper ∈ registry.helpers.values := by
  rw [HelperRegistry.get] at got
  cases resolved : registry.resolve name with
  | error fault =>
    rw [resolved] at got
    cases got
  | ok id =>
    simp only [resolved, bind, Except.bind] at got
    cases found : registry.helpers.get? id with
    | none =>
      rw [found] at got
      cases got
    | some held =>
      rw [found] at got
      cases got
      exact Table.mem_values_of_get? found

namespace Body.IsBuilt

variable {environment : Environment} {property : Context → Body → Prop} {context : Context}
  {body : Body}

/-- What is built of forms that have a property has it, when simple forms do. -/
theorem holds (built : body.IsBuilt environment property)
    (simple : ∀ context body, Body.IsSimple body → property context body)
    (known : context.environment = some environment) : property context body := by
  cases built with
  | text | reference | sequence | each | embed | absent => exact simple _ _ trivial
  | call holds built => exact holds context known
  | deferred holds rendered built => exact holds context known

/-- What is rendered by a body that is built of forms is so built as well, where the same is known,
when all registered templates are so built. -/
theorem site {composition : Composition} {site : Site} (built : body.IsBuilt environment property)
    (known : context.environment = some environment)
    (registered : ∀ name body, environment.templates.get name = .ok body →
      body.IsBuilt environment property)
    (composed : body.composition context = some composition)
    (member : site ∈ composition.sites) :
    site.1.environment = some environment ∧ site.2.IsBuilt environment property := by
  cases built with
  | text content | absent =>
    cases composed
    cases member
  | reference path escape =>
    obtain ⟨_, _, rfl⟩ := Body.reference_composed composed
    cases member
  | sequence built =>
    cases composed
    obtain ⟨body, inside, rfl⟩ := List.mem_map.mp member
    exact ⟨known, built body inside⟩
  | each path builtBlock builtOther =>
    obtain ⟨_, _, rfl⟩ := Body.each_composed composed
    obtain ⟨same, chosen⟩ := sectionSites_cases member
    refine ⟨same.trans known, ?_⟩
    rcases chosen with chosen | chosen
    · exact chosen ▸ builtBlock
    · exact chosen ▸ builtOther
  | embed name values =>
    obtain ⟨other, template, knownOther, got, rfl⟩ := Body.embed_composed composed
    obtain rfl := Option.some.inj (known.symm.trans knownOther)
    obtain rfl := List.mem_singleton.mp member
    have same := embedded_environment context name values
    exact ⟨same.trans known, registered name template got⟩
  | call holds built =>
    obtain ⟨_, _, _, _, _, _, _, _, composed⟩ := Body.call_composed composed
    obtain ⟨name, rfl⟩ := callSites_cases composed member
    refine ⟨known, ?_⟩
    rcases bodyNamed_cases _ name with absent | ⟨entry, inside, same⟩
    · exact absent ▸ .absent
    · exact same ▸ built entry inside
  | deferred holds rendered built =>
    rw [Body.composition_deferred rendered] at composed
    cases composed
    obtain ⟨body, inside, rfl⟩ := List.mem_map.mp member
    exact ⟨known, built body inside⟩

/-- All that is rendered by a body that is built of forms which have a property has it. -/
theorem throughout (built : body.IsBuilt environment property)
    (simple : ∀ context body, Body.IsSimple body → property context body)
    (known : context.environment = some environment)
    (registered : ∀ name body, environment.templates.get name = .ok body →
      body.IsBuilt environment property) : body.Throughout property context := by
  intro site reached
  have kept : site.1.environment = some environment ∧ site.2.IsBuilt environment property := by
    induction reached with
    | refl => exact ⟨known, built⟩
    | tail _ last ih =>
      obtain ⟨composition, composed, member⟩ := last
      exact ih.2.site ih.1 registered composed member
  exact kept.2.holds simple kept.1

end Body.IsBuilt

end TemplateStream
