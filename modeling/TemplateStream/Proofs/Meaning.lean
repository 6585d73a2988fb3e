import TemplateStream.Pass.Rendering
import TemplateStream.Proofs.Steps

/-!
# The meaning of bodies

A ready-made body means a list of texts in a context. What it means is composed of what the
bodies mean that it is made of: which ones these are, and in which contexts, is its composition.
A body that is rendered asynchronously means what it would mean if it were rendered at once, and
starts with the full depth of nesting again.
-/

namespace TemplateStream

/-- A body and the context in which it is rendered. -/
abbrev Site := Context × Body

/-- What a body is made of in a context. -/
inductive Composition where
  /-- Texts that are written. -/
  | texts (texts : List String)
  /-- Bodies that are rendered in order. -/
  | parts (sites : List Site)
  /-- A body that is rendered under a further tap. -/
  | tapped (transform : String → String) (site : Site)
  /-- Bodies that are rendered in order, but asynchronously. -/
  | later (sites : List Site)

/-- The bodies that another is made of. -/
def Composition.sites : Composition → List Site
  | .texts _ => []
  | .parts inner | .later inner => inner
  | .tapped _ site => [site]

/-- The texts of a reference: none for null, else the text of the value, escaped if told so. -/
def referenceTexts (value : Value) (escapes : Bool) : List String :=
  match value with
  | .null => []
  | value => [Body.referenceText value escapes]

/-- What a section renders: its block once per item of a list, each pushed with its index and
the length; the other body for what is empty or false; the block once with a mapping pushed, and
with nothing pushed for any other value. -/
def sectionSites (context : Context) (value : Value) (block otherwise : Body) : List Site :=
  match value.items? with
  | some [] => [(context, otherwise)]
  | some items => items.zipIdx.map fun entry =>
    (context.push entry.1 (some entry.2) (some items.length), block)
  | none =>
    if !value.isTruthy then [(context, otherwise)]
    else match value with
      | .mapping _ => [(context.push value, block)]
      | _ => [(context, block)]

/-- The context of an embedded template, under the values that it was given. -/
def Context.embedded (context : Context) (name : String) (values : List (String × Value)) :
    Context :=
  (if values.isEmpty then context else context.push (.ofFields values)).forTemplate name

/-- Whether a context is at the last item of an iterated list. -/
def Context.atLast (context : Context) : Bool :=
  context.position.any fun position => position.index == position.length - 1

/-- What a call of a helper is made of, given its resolved parameters. -/
def HelperFunction.composition (context : Context) (bodies : List (String × Body))
    (parameters : Table Value) : HelperFunction → Option Composition
  | .builtin .upper => some (.tapped Text.upper (context, bodyNamed bodies "block"))
  | .builtin .lower => some (.tapped Text.lower (context, bodyNamed bodies "block"))
  | .builtin .eq =>
    let parameter (key : String) : Value := (parameters.get? key).getD .null
    let selected := if (parameter "key").same (parameter "value") then "block" else "else"
    some (.parts (if bodies.isEmpty then [] else [(context, bodyNamed bodies selected)]))
  | .builtin .sep =>
    some (.parts (if context.atLast then [] else [(context, bodyNamed bodies "block")]))
  | .builtin .defer => some (.later [(context, bodyNamed bodies "block")])
  | _ => none

/-- The body that does the same as a statement that writes or renders. -/
def Statement.body? : Statement → Option Body
  | .write .null => some .absent
  | .write value => some (.text value.toText)
  | .get name .null => some (.reference name (some false))
  | .render inner none => some inner
  | _ => none

/-- The bodies that a script renders which only writes, renders and pauses. -/
def scriptBodies : Script → Option (List Body)
  | [] | .answer .chunk :: _ | .answer (.value _) :: _ => some []
  | .sleep _ :: rest | .gate _ :: rest => scriptBodies rest
  | statement :: rest => do
    let body ← statement.body?
    let others ← scriptBodies rest
    some (body :: others)

/-- What a section renders has the environment of the section. -/
theorem sectionSites_cases {context : Context} {value : Value} {block otherwise : Body}
    {site : Site} (member : site ∈ sectionSites context value block otherwise) :
    site.1.environment = context.environment ∧ (site.2 = block ∨ site.2 = otherwise) := by
  simp only [sectionSites] at member
  split at member
  · obtain rfl := List.mem_singleton.mp member
    exact ⟨rfl, .inr rfl⟩
  · obtain ⟨entry, _, rfl⟩ := List.mem_map.mp member
    exact ⟨rfl, .inl rfl⟩
  · split at member
    · obtain rfl := List.mem_singleton.mp member
      exact ⟨rfl, .inr rfl⟩
    · split at member <;>
      · obtain rfl := List.mem_singleton.mp member
        exact ⟨rfl, .inl rfl⟩

/-- An embedded template has the environment of the body that embeds it. -/
theorem embedded_environment (context : Context) (name : String)
    (values : List (String × Value)) :
    (context.embedded name values).environment = context.environment := by
  simp only [Context.embedded, Context.forTemplate]
  split <;> split <;> rfl

/-- What a call renders are its own bodies, in its own context. -/
theorem callSites_cases {context : Context} {bodies : List (String × Body)}
    {parameters : Table Value} {which : Builtin} {composition : Composition} {site : Site}
    (composed : (HelperFunction.builtin which).composition context bodies parameters =
      some composition) (member : site ∈ composition.sites) :
    ∃ name, site = (context, bodyNamed bodies name) := by
  cases which with
  | upper | lower | defer =>
    cases composed
    exact ⟨_, List.mem_singleton.mp member⟩
  | eq =>
    cases composed
    simp only [Composition.sites] at member
    split at member
    · cases member
    · exact ⟨_, List.mem_singleton.mp member⟩
  | sep =>
    cases composed
    simp only [Composition.sites] at member
    split at member
    · cases member
    · exact ⟨_, List.mem_singleton.mp member⟩

/-- A body of a call is one of those given to it, or none at all. -/
theorem bodyNamed_cases (bodies : List (String × Body)) (name : String) :
    bodyNamed bodies name = .absent ∨ ∃ entry ∈ bodies, bodyNamed bodies name = entry.2 := by
  rw [bodyNamed]
  cases found : bodies.lookup name with
  | none => exact .inl rfl
  | some body =>
    obtain ⟨front, back, same, _⟩ := List.lookup_eq_some_iff.mp found
    exact .inr ⟨(name, body), by simp [same], rfl⟩

namespace Body

/-- What a body is made of in a context, when it is a ready-made one and nothing is missing. -/
def composition (context : Context) : Body → Option Composition
  | .text content => some (.texts [content])
  | .reference path escape => do
    let value ← (context.get path).toOption
    let escapes := escape.getD ((context.environment.map Environment.escapes).getD true)
    some (.texts (referenceTexts value escapes))
  | .sequence bodies => some (.parts (bodies.map fun body => (context, body)))
  | .each path block otherwise => do
    let value ← (context.get path).toOption
    some (.parts (sectionSites context value block otherwise))
  | .embed name values => do
    let environment ← context.environment
    let body ← (environment.templates.get name).toOption
    some (.parts [(context.embedded name values, body)])
  | .call name bodies given => do
    let environment ← context.environment
    let helper ← (environment.helpers.get name).toOption
    let parameters ← (Parameter.resolve helper (.ofList given) (some context)).toOption
    helper.function.composition context bodies parameters
  | .deferred _ _ script => do
    let bodies ← scriptBodies script
    some (.later (bodies.map fun body => (context, body)))
  | .absent => some (.texts [])
  | _ => none

section composition

variable {context : Context}

/-- A reference is made of the texts of the value at its path. -/
theorem composition_reference {path : String} {value : Value} (got : context.get path = .ok value)
    (escape : Option Bool) :
    (Body.reference path escape).composition context =
      some (.texts (referenceTexts value
        (escape.getD ((context.environment.map Environment.escapes).getD true)))) := by
  simp [composition, got, Except.toOption]

/-- A section is made of what the value at its path selects. -/
theorem composition_each {path : String} {value : Value} (got : context.get path = .ok value)
    (block otherwise : Body) :
    (Body.each path block otherwise).composition context =
      some (.parts (sectionSites context value block otherwise)) := by
  simp [composition, got, Except.toOption]

/-- An embedded template is made of the registered body, under the values given to it. -/
theorem composition_embed {name : String} {environment : Environment} {body : Body}
    (known : context.environment = some environment)
    (got : environment.templates.get name = .ok body) (values : List (String × Value)) :
    (Body.embed name values).composition context =
      some (.parts [(context.embedded name values, body)]) := by
  simp [composition, known, got, Except.toOption]

/-- A call is made of what its helper makes of the resolved parameters. -/
theorem composition_call {name : String} {environment : Environment} {helper : Helper}
    {given : List (String × Value)} {parameters : Table Value}
    (known : context.environment = some environment)
    (got : environment.helpers.get name = .ok helper)
    (resolved : Parameter.resolve helper (.ofList given) (some context) = .ok parameters)
    (bodies : List (String × Body)) :
    (Body.call name bodies given).composition context =
      helper.function.composition context bodies parameters := by
  simp [composition, known, got, resolved, Except.toOption]

/-- A script that renders bodies asynchronously is made of them. -/
theorem composition_deferred {style : AsyncStyle} {name : String} {script : Script}
    {bodies : List Body} (rendered : scriptBodies script = some bodies) :
    (Body.deferred style name script).composition context =
      some (.later (bodies.map fun body => (context, body))) := by
  simp [composition, rendered]

/-- A reference is made of something only when there is a value at its path. -/
theorem reference_composed {path : String} {escape : Option Bool} {composition : Composition}
    (composed : (Body.reference path escape).composition context = some composition) :
    ∃ value, context.get path = .ok value ∧ composition = .texts (referenceTexts value
      (escape.getD ((context.environment.map Environment.escapes).getD true))) := by
  obtain ⟨value, found, same⟩ := Option.bind_eq_some_iff.mp composed
  exact ⟨value, ok_of_toOption found, (Option.some.inj same).symm⟩

/-- A section is made of something only when there is a value at its path. -/
theorem each_composed {path : String} {block otherwise : Body} {composition : Composition}
    (composed : (Body.each path block otherwise).composition context = some composition) :
    ∃ value, context.get path = .ok value ∧
      composition = .parts (sectionSites context value block otherwise) := by
  obtain ⟨value, found, same⟩ := Option.bind_eq_some_iff.mp composed
  exact ⟨value, ok_of_toOption found, (Option.some.inj same).symm⟩

/-- An embedded template is made of something only when it is registered. -/
theorem embed_composed {name : String} {values : List (String × Value)} {composition : Composition}
    (composed : (Body.embed name values).composition context = some composition) :
    ∃ environment body, context.environment = some environment ∧
      environment.templates.get name = .ok body ∧
      composition = .parts [(context.embedded name values, body)] := by
  obtain ⟨environment, known, composed⟩ := Option.bind_eq_some_iff.mp composed
  obtain ⟨body, found, same⟩ := Option.bind_eq_some_iff.mp composed
  exact ⟨environment, body, known, ok_of_toOption found, (Option.some.inj same).symm⟩

/-- A call is made of something only when its helper is known, its parameters resolve, and the
helper comes with every registry. -/
theorem call_composed {name : String} {bodies : List (String × Body)}
    {given : List (String × Value)} {composition : Composition}
    (composed : (Body.call name bodies given).composition context = some composition) :
    ∃ environment helper parameters which, context.environment = some environment ∧
      environment.helpers.get name = .ok helper ∧
      Parameter.resolve helper (.ofList given) (some context) = .ok parameters ∧
      helper.function = .builtin which ∧
      (HelperFunction.builtin which).composition context bodies parameters =
        some composition := by
  obtain ⟨environment, known, composed⟩ := Option.bind_eq_some_iff.mp composed
  obtain ⟨helper, found, composed⟩ := Option.bind_eq_some_iff.mp composed
  obtain ⟨parameters, resolved, called⟩ := Option.bind_eq_some_iff.mp composed
  cases function : helper.function with
  | builtin which =>
    rw [function] at called
    exact ⟨environment, helper, parameters, which, known, ok_of_toOption found,
      ok_of_toOption resolved, function, called⟩
  | scripted style script | inert value =>
    rw [function] at called
    cases called

/-- What is made of bodies that are rendered later is a call of the deferring helper, or a script
that runs asynchronously. -/
theorem composed_later {body : Body} {sites : List Site}
    (composed : body.composition context = some (.later sites)) :
    (∃ name bodies given environment helper parameters, body = .call name bodies given ∧
      context.environment = some environment ∧ environment.helpers.get name = .ok helper ∧
      Parameter.resolve helper (.ofList given) (some context) = .ok parameters ∧
      helper.function = .builtin .defer ∧ sites = [(context, bodyNamed bodies "block")]) ∨
    ∃ style name script bodies, body = .deferred style name script ∧
      scriptBodies script = some bodies ∧ sites = bodies.map fun body => (context, body) := by
  cases body with
  | text content | absent | sequence bodies => cases composed
  | reference path escape =>
    obtain ⟨_, _, other⟩ := reference_composed composed
    cases other
  | each path block otherwise =>
    obtain ⟨_, _, other⟩ := each_composed composed
    cases other
  | embed name values =>
    obtain ⟨_, _, _, _, other⟩ := embed_composed composed
    cases other
  | call name bodies given =>
    obtain ⟨environment, helper, parameters, which, known, got, resolved, builtin, called⟩ :=
      call_composed composed
    cases which with
    | upper | lower | eq | sep => cases called
    | defer =>
      cases called
      exact .inl ⟨name, bodies, given, environment, helper, parameters, rfl, known, got, resolved,
        builtin, rfl⟩
  | deferred style name script =>
    obtain ⟨bodies, rendered, listed⟩ := Option.bind_eq_some_iff.mp composed
    cases listed
    exact .inr ⟨style, name, script, bodies, rfl, rendered, rfl⟩
  | callback script | function name script | inert value => cases composed

end composition

end Body

/-- The texts of several bodies one after the other, given the texts of each. -/
def joined (meaning : Context → Body → Option (List String)) : List Site → Option (List String)
  | [] => some []
  | site :: rest => do
    let first ← meaning site.1 site.2
    let others ← joined meaning rest
    some (first ++ others)

/-- The meaning of what is composed, given the meanings of what is rendered at once and of what
is rendered later. -/
def Composition.meaning (inner later : Context → Body → Option (List String)) :
    Composition → Option (List String)
  | .texts content => some content
  | .parts sites => joined inner sites
  | .tapped transform site => (inner site.1 site.2).map (List.map transform)
  | .later sites => joined later sites

namespace Body

/-- The meaning of a body in a context, if it is found in a number of steps and bodies are
nested to at most a depth. -/
def meaningTo : Nat → Nat → Context → Body → Option (List String)
  | 0, _ => fun _ _ => none
  | _, 0 => fun _ _ => none
  | steps + 1, depth + 1 => fun context body =>
    (body.composition context).bind
      (Composition.meaning (meaningTo steps depth) (meaningTo steps nestingLimit))

/-- A body means texts in a context. -/
def Means (context : Context) (body : Body) (texts : List String) : Prop :=
  ∃ steps depth, meaningTo steps depth context body = some texts

end Body

section joined

variable {meaning more : Context → Body → Option (List String)} {sites : List Site}
  {texts : List String}

/-- The texts of the first of several bodies stand in front of those of the others. -/
theorem joined_cons {site : Site} (found : joined meaning (site :: sites) = some texts) :
    ∃ first others, meaning site.1 site.2 = some first ∧
      joined meaning sites = some others ∧ texts = first ++ others := by
  simp only [joined, Option.bind_eq_bind, Option.bind_eq_some_iff] at found
  obtain ⟨first, foundFirst, others, foundOthers, same⟩ := found
  exact ⟨first, others, foundFirst, foundOthers, (Option.some.inj same).symm⟩

/-- Several bodies keep their meaning when each of them does. -/
theorem joined_mono (found : joined meaning sites = some texts)
    (mono : ∀ site ∈ sites, ∀ texts, meaning site.1 site.2 = some texts →
      more site.1 site.2 = some texts) : joined more sites = some texts := by
  induction sites generalizing texts with
  | nil => exact found
  | cons site rest ih =>
    obtain ⟨first, others, foundFirst, foundOthers, rfl⟩ := joined_cons found
    have front := mono site List.mem_cons_self first foundFirst
    have back := ih foundOthers fun other member =>
      mono other (List.mem_cons_of_mem _ member)
    simp [joined, front, back]

end joined

namespace Body

variable {steps depth : Nat} {context : Context} {body : Body} {texts : List String}

/-- A body means what its composition does. -/
theorem meaningTo_eq {composition : Composition}
    (composed : body.composition context = some composition) :
    meaningTo (steps + 1) (depth + 1) context body =
      composition.meaning (meaningTo steps depth) (meaningTo steps nestingLimit) := by
  simp only [meaningTo, composed, Option.bind_some]

/-- A body with a meaning has a composition that has it. -/
theorem meaningTo_succ (found : meaningTo steps depth context body = some texts) :
    ∃ before above composition, steps = before + 1 ∧ depth = above + 1 ∧
      body.composition context = some composition ∧
      composition.meaning (meaningTo before above) (meaningTo before nestingLimit) =
        some texts := by
  cases steps with
  | zero => cases found
  | succ before =>
    cases depth with
    | zero => cases found
    | succ above =>
      obtain ⟨composition, composed, meaning⟩ := Option.bind_eq_some_iff.mp found
      exact ⟨before, above, composition, rfl, rfl, composed, meaning⟩

/-- A meaning that is found stays the same when more steps or more nesting is allowed. -/
theorem meaningTo_mono (found : meaningTo steps depth context body = some texts)
    {more deeper : Nat} (enough : steps ≤ more) (deep : depth ≤ deeper) :
    meaningTo more deeper context body = some texts := by
  induction steps generalizing depth context body texts more deeper with
  | zero => cases found
  | succ before ih =>
    obtain ⟨_, above, composition, same, rfl, composed, meaning⟩ := meaningTo_succ found
    obtain rfl := Nat.succ.inj same
    obtain ⟨more, rfl⟩ : ∃ less, more = less + 1 := ⟨more - 1, by omega⟩
    obtain ⟨deeper, rfl⟩ : ∃ less, deeper = less + 1 := ⟨deeper - 1, by omega⟩
    have inner (site : Site) (texts : List String)
        (held : meaningTo before above site.1 site.2 = some texts) :
        meaningTo more deeper site.1 site.2 = some texts :=
      ih held (Nat.le_of_succ_le_succ enough) (Nat.le_of_succ_le_succ deep)
    have later (site : Site) (texts : List String)
        (held : meaningTo before nestingLimit site.1 site.2 = some texts) :
        meaningTo more nestingLimit site.1 site.2 = some texts :=
      ih held (Nat.le_of_succ_le_succ enough) (Nat.le_refl _)
    rw [meaningTo_eq composed]
    cases composition with
    | texts content => exact meaning
    | parts sites => exact joined_mono meaning fun site _ => inner site
    | tapped transform site =>
      obtain ⟨content, held, mapped⟩ := Option.map_eq_some_iff.mp meaning
      exact Option.map_eq_some_iff.mpr ⟨content, inner site content held, mapped⟩
    | later sites => exact joined_mono meaning fun site _ => later site

/-- A body means at most one list of texts in a context. -/
theorem Means.unique {others : List String} (first : Means context body texts)
    (second : Means context body others) : texts = others := by
  obtain ⟨steps, depth, found⟩ := first
  obtain ⟨more, deeper, foundOther⟩ := second
  have one := meaningTo_mono found (Nat.le_max_left steps more) (Nat.le_max_left depth deeper)
  have two := meaningTo_mono foundOther (Nat.le_max_right steps more)
    (Nat.le_max_right depth deeper)
  exact Option.some.inj (one.symm.trans two)

end Body

end TemplateStream
