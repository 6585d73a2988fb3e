import TemplateStream.Pass.Agenda
import TemplateStream.Proofs.Forms

/-!
# Wrapping bodies

Any of the bodies inside another may be wrapped so that they are rendered later: as the block of a
call that renders it after a delay, or into a body that a script renders asynchronously, pauses
and all. The bodies inside registered templates may be wrapped as well. A wrapped body means what
the original means, provided that the parameters of the delays are valid and that no delay is
endless.
-/

namespace TemplateStream

/-- A body is another in which bodies were wrapped, given what is known where it is rendered. The
bodies to wrap may stand anywhere, and what wraps them may be wrapped in turn. -/
inductive Wraps (environment : Option Environment) : Body → Body → Prop
  | text (content : String) : Wraps environment (.text content) (.text content)
  | reference (path : String) (escape : Option Bool) :
    Wraps environment (.reference path escape) (.reference path escape)
  | absent : Wraps environment .absent .absent
  | embed (name : String) (values : List (String × Value)) :
    Wraps environment (.embed name values) (.embed name values)
  | sequence {pairs : List (Body × Body)}
    (wraps : ∀ pair ∈ pairs, Wraps environment pair.1 pair.2) :
    Wraps environment (.sequence (pairs.map Prod.fst)) (.sequence (pairs.map Prod.snd))
  | each (path : String) {block wrapped otherwise other : Body}
    (wraps : Wraps environment block wrapped) (wrapsOther : Wraps environment otherwise other) :
    Wraps environment (.each path block otherwise) (.each path wrapped other)
  | call (name : String) {entries : List (String × Body × Body)} (given : List (String × Value))
    (wraps : ∀ entry ∈ entries, Wraps environment entry.2.1 entry.2.2) :
    Wraps environment (.call name (entries.map fun entry => (entry.1, entry.2.1)) given)
      (.call name (entries.map fun entry => (entry.1, entry.2.2)) given)
  /-- A body becomes the block of a call that renders it after a delay. -/
  | delayed {name : String} {known : Environment} {helper : Helper} {body wrapped : Body}
    (given : List (String × Value)) (here : environment = some known)
    (got : known.helpers.get name = .ok helper) (defers : helper.function = .builtin .defer)
    (wraps : Wraps environment body wrapped) :
    Wraps environment body (.call name [("block", wrapped)] given)
  /-- A body is rendered by a script that runs asynchronously. -/
  | deferred (style : AsyncStyle) (name : String) {script : Script} {body wrapped : Body}
    (rendered : scriptBodies script = some [wrapped]) (wraps : Wraps environment body wrapped) :
    Wraps environment body (.deferred style name script)
  /-- The bodies of a sequence are rendered by a script that runs asynchronously. -/
  | scattered (style : AsyncStyle) (name : String) {script : Script} {pairs : List (Body × Body)}
    (rendered : scriptBodies script = some (pairs.map Prod.snd))
    (wraps : ∀ pair ∈ pairs, Wraps environment pair.1 pair.2) :
    Wraps environment (.sequence (pairs.map Prod.fst)) (.deferred style name script)

/-- An environment is another in whose templates bodies were wrapped. -/
structure Environment.Wraps (environment other : Environment) : Prop where
  helpers : other.helpers = environment.helpers
  escapes : other.escapes = environment.escapes
  templates : ∀ name body, environment.templates.get name = .ok body →
    ∃ wrapped, other.templates.get name = .ok wrapped ∧
      TemplateStream.Wraps (some environment) body wrapped

/-- A context that is the same but for what is known there. -/
def Context.under (context : Context) (environment : Option Environment) : Context :=
  { context with environment := environment }

/-- If a call is one that renders its block after a delay, its parameters are valid and the delay
comes to an end. -/
def Body.DelaysValidly (context : Context) : Body → Prop
  | .call name _ given => ∀ environment helper, context.environment = some environment →
    environment.helpers.get name = .ok helper → helper.function = .builtin .defer →
    ∃ parameters, Parameter.resolve helper (.ofList given) (some context) = .ok parameters ∧
      delayOf parameters ≠ endlessDelay
  | _ => True

/-- A call of a helper that is no asynchronous one delays nothing. -/
theorem Body.delaysValidly_immediate {environment : Environment} {name : String}
    {bodies : List (String × Body)} {given : List (String × Value)}
    (checked : (environment.helpers.get name).toOption.all
      (fun helper => !helper.function.isAsync) = true) (context : Context)
    (known : context.environment = some environment) :
    (Body.call name bodies given).DelaysValidly context := by
  intro other helper knownOther got defers
  obtain rfl := Option.some.inj (known.symm.trans knownOther)
  rw [got] at checked
  simp [Except.toOption, defers, HelperFunction.isAsync] at checked

/-- A call without parameters delays validly when its helper has defaults for all of them, and no
endless delay among these. -/
theorem Body.delaysValidly_bare {environment : Environment} {name : String}
    {bodies : List (String × Body)}
    (checked : (environment.helpers.get name).toOption.all
      (fun helper => (Parameter.resolve helper {} none).toOption.any
        fun parameters => delayOf parameters != endlessDelay) = true)
    (context : Context) (known : context.environment = some environment) :
    (Body.call name bodies []).DelaysValidly context := by
  intro other helper knownOther got _
  obtain rfl := Option.some.inj (known.symm.trans knownOther)
  rw [got] at checked
  replace checked : (Parameter.resolve helper {} none).toOption.any
      (fun parameters => delayOf parameters != endlessDelay) = true := checked
  have same : Parameter.resolve helper (.ofList []) (some context) =
      Parameter.resolve helper {} none := rfl
  rw [same]
  cases resolved : Parameter.resolve helper {} none with
  | ok parameters =>
    rw [resolved] at checked
    exact ⟨parameters, rfl, bne_iff_ne.mp checked⟩
  | error fault => simp [Except.toOption, resolved] at checked

section under

variable {context : Context} {environment : Option Environment}

/-- Parameters are resolved without what is known. -/
theorem resolve_under (environment : Option Environment) (helper : Helper) (given : Table Value) :
    Parameter.resolve helper given (some (context.under environment)) =
      Parameter.resolve helper given (some context) := rfl

/-- Embedding a template does not depend on what is known. -/
theorem embedded_under (name : String) (values : List (String × Value)) :
    (context.under environment).embedded name values =
      (context.embedded name values).under environment := by
  simp only [Context.embedded, Context.forTemplate, Context.under]
  split <;> split <;> rfl

end under

/-- Bodies of which one is the other in which bodies were wrapped, and the context in which the
first is rendered. -/
abbrev Pairing := Context × Body × Body

/-- The site of the first body. -/
def Pairing.site (pairing : Pairing) : Site := (pairing.1, pairing.2.1)

/-- The site of the second body, where something else is known. -/
def Pairing.wrapped (other : Option Environment) (pairing : Pairing) : Site :=
  (pairing.1.under other, pairing.2.2)

/-- Two bodies are made of the same but for bodies that were wrapped. -/
inductive Composition.Wraps (environment other : Option Environment) :
    Composition → Composition → Prop
  | texts (content : List String) : Wraps environment other (.texts content) (.texts content)
  | parts (pairings : List Pairing)
    (wraps : ∀ pairing ∈ pairings, pairing.1.environment = environment ∧
      TemplateStream.Wraps environment pairing.2.1 pairing.2.2) :
    Wraps environment other (.parts (pairings.map Pairing.site))
      (.parts (pairings.map (Pairing.wrapped other)))
  | tapped (transform : String → String) (pairing : Pairing)
    (known : pairing.1.environment = environment)
    (wraps : TemplateStream.Wraps environment pairing.2.1 pairing.2.2) :
    Wraps environment other (.tapped transform pairing.site)
      (.tapped transform (pairing.wrapped other))
  | later (pairings : List Pairing)
    (wraps : ∀ pairing ∈ pairings, pairing.1.environment = environment ∧
      TemplateStream.Wraps environment pairing.2.1 pairing.2.2) :
    Wraps environment other (.later (pairings.map Pairing.site))
      (.later (pairings.map (Pairing.wrapped other)))

section recompose

variable {environment other : Option Environment} {context : Context}

/-- One body is made of one other, and the wrapped body of the wrapped other. -/
theorem Composition.Wraps.single (context : Context) {body wrapped : Body}
    (known : context.environment = environment)
    (wraps : TemplateStream.Wraps environment body wrapped) :
    Composition.Wraps environment other (.parts [(context, body)])
      (.parts [(context.under other, wrapped)]) :=
  .parts [(context, body, wrapped)] fun pairing member => by
    rw [List.mem_singleton.mp member]
    exact ⟨known, wraps⟩

/-- A body may be made of nothing. -/
theorem Composition.Wraps.none : Composition.Wraps environment other (.parts []) (.parts []) :=
  .parts [] fun _ member => absurd member List.not_mem_nil

/-- A section is made of the same, whatever is wrapped in its bodies. -/
theorem sectionSites_wraps (value : Value) {block wrapped otherwise instead : Body}
    (known : context.environment = environment) (wraps : Wraps environment block wrapped)
    (wrapsOther : Wraps environment otherwise instead) :
    Composition.Wraps environment other (.parts (sectionSites context value block otherwise))
      (.parts (sectionSites (context.under other) value wrapped instead)) := by
  simp only [sectionSites]
  split
  · exact .single context known wrapsOther
  · rename_i items _ _
    let pairing (entry : Value × Nat) : Pairing :=
      (context.push entry.1 (some entry.2) (some items.length), block, wrapped)
    have paired : Composition.Wraps environment other
        (.parts ((items.zipIdx.map pairing).map Pairing.site))
        (.parts ((items.zipIdx.map pairing).map (Pairing.wrapped other))) :=
      .parts _ fun pairing member => by
        obtain ⟨entry, _, rfl⟩ := List.mem_map.mp member
        exact ⟨known, wraps⟩
    rw [List.map_map, List.map_map] at paired
    exact paired
  · split
    · exact .single context known wrapsOther
    · split
      · exact .single (context.push _) known wraps
      · exact .single context known wraps

/-- The bodies of a call under the same name are wrapped as the bodies are. -/
theorem bodyNamed_wraps {entries : List (String × Body × Body)}
    (wraps : ∀ entry ∈ entries, Wraps environment entry.2.1 entry.2.2) (name : String) :
    Wraps environment (bodyNamed (entries.map fun entry => (entry.1, entry.2.1)) name)
      (bodyNamed (entries.map fun entry => (entry.1, entry.2.2)) name) := by
  induction entries with
  | nil => exact .absent
  | cons entry rest ih =>
    have others := ih fun entry member => wraps entry (List.mem_cons_of_mem _ member)
    simp only [bodyNamed, List.map_cons, List.lookup_cons] at others ⊢
    split
    · exact wraps entry List.mem_cons_self
    · exact others

/-- A call is made of the same, whatever is wrapped in its bodies. -/
theorem callComposition_wraps (other : Option Environment)
    {entries : List (String × Body × Body)} {which : Builtin} {parameters : Table Value}
    {composition : Composition}
    (known : context.environment = environment)
    (wraps : ∀ entry ∈ entries, Wraps environment entry.2.1 entry.2.2)
    (composed : (HelperFunction.builtin which).composition context
      (entries.map fun entry => (entry.1, entry.2.1)) parameters = some composition) :
    ∃ wrapped, (HelperFunction.builtin which).composition (context.under other)
        (entries.map fun entry => (entry.1, entry.2.2)) parameters = some wrapped ∧
      Composition.Wraps environment other composition wrapped := by
  have named := bodyNamed_wraps wraps
  cases which with
  | upper | lower =>
    cases composed
    exact ⟨_, rfl, .tapped _ (context, _, _) known (named "block")⟩
  | eq =>
    cases composed
    refine ⟨_, rfl, ?_⟩
    cases entries with
    | nil => exact .none
    | cons entry rest => exact .single context known (named _)
  | sep =>
    cases composed
    refine ⟨_, rfl, ?_⟩
    rw [show (context.under other).atLast = context.atLast from rfl]
    split
    · exact .none
    · exact .single context known (named "block")
  | defer =>
    cases composed
    refine ⟨_, rfl, .later [(context, _, _)] fun pairing member => ?_⟩
    rw [List.mem_singleton.mp member]
    exact ⟨known, named "block"⟩

variable (related : Option.Rel Environment.Wraps environment other)
include related

/-- Whether to escape does not depend on what is wrapped in templates. -/
theorem escapes_related :
    other.map Environment.escapes = environment.map Environment.escapes := by
  cases related with
  | none => rfl
  | some wraps => rw [Option.map_some, Option.map_some, wraps.escapes]

/-- A reference is made of the same, whatever is wrapped elsewhere. -/
theorem reference_wraps {path : String} {escape : Option Bool} {composition : Composition}
    (known : context.environment = environment)
    (composed : (Body.reference path escape).composition context = some composition) :
    ∃ wrapped, (Body.reference path escape).composition (context.under other) = some wrapped ∧
      Composition.Wraps environment other composition wrapped := by
  obtain ⟨value, got, rfl⟩ := Body.reference_composed composed
  have gotUnder : (context.under other).get path = .ok value := got
  refine ⟨_, Body.composition_reference gotUnder escape, ?_⟩
  have escapes : (context.under other).environment.map Environment.escapes =
      context.environment.map Environment.escapes := by
    rw [known]
    exact escapes_related related
  rw [escapes]
  exact .texts _

/-- An embedded template is made of the registered one, in which bodies may be wrapped. -/
theorem embed_wraps {name : String} {values : List (String × Value)} {composition : Composition}
    (known : context.environment = environment)
    (composed : (Body.embed name values).composition context = some composition) :
    ∃ wrapped, (Body.embed name values).composition (context.under other) = some wrapped ∧
      Composition.Wraps environment other composition wrapped := by
  obtain ⟨here, body, found, got, rfl⟩ := Body.embed_composed composed
  rw [known] at found
  cases related with
  | none => cases found
  | @some _ there wraps =>
    cases found
    obtain ⟨wrapped, gotWrapped, wrapsBody⟩ := wraps.templates name body got
    refine ⟨_, Body.composition_embed rfl gotWrapped values, ?_⟩
    rw [embedded_under]
    exact .single _ ((embedded_environment context name values).trans known) wrapsBody

/-- A call is made of the same, whatever is wrapped in its bodies and in templates. -/
theorem call_wraps {name : String} {entries : List (String × Body × Body)}
    {given : List (String × Value)} {composition : Composition}
    (known : context.environment = environment)
    (wraps : ∀ entry ∈ entries, Wraps environment entry.2.1 entry.2.2)
    (composed : (Body.call name (entries.map fun entry => (entry.1, entry.2.1)) given).composition
      context = some composition) :
    ∃ wrapped, (Body.call name (entries.map fun entry => (entry.1, entry.2.2)) given).composition
        (context.under other) = some wrapped ∧
      Composition.Wraps environment other composition wrapped := by
  obtain ⟨here, helper, parameters, which, found, got, resolved, builtin, called⟩ :=
    Body.call_composed composed
  rw [known] at found
  obtain ⟨wrapped, recomposed, wrapsBodies⟩ := callComposition_wraps other known wraps called
  refine ⟨wrapped, ?_, wrapsBodies⟩
  cases related with
  | none => cases found
  | @some _ there wrapsThere =>
    cases found
    have gotThere : there.helpers.get name = .ok helper := by
      rw [wrapsThere.helpers]
      exact got
    have resolvedThere := (resolve_under (some there) helper _).trans resolved
    rw [Body.composition_call rfl gotThere resolvedThere, builtin]
    exact recomposed

end recompose

/-- The bodies of a sequence and the wrapped ones. -/
def sequencePairings (context : Context) (pairs : List (Body × Body)) : List Pairing :=
  pairs.map fun pair => (context, pair)

/-- The sites of the bodies of a sequence. -/
theorem map_site_sequencePairings (context : Context) (pairs : List (Body × Body)) :
    (sequencePairings context pairs).map Pairing.site =
      (pairs.map Prod.fst).map fun body => (context, body) := by
  rw [sequencePairings, List.map_map, List.map_map]
  rfl

/-- The sites of the wrapped bodies of a sequence. -/
theorem map_wrapped_sequencePairings (other : Option Environment) (context : Context)
    (pairs : List (Body × Body)) :
    (sequencePairings context pairs).map (Pairing.wrapped other) =
      (pairs.map Prod.snd).map fun body => (context.under other, body) := by
  rw [sequencePairings, List.map_map, List.map_map]
  rfl

section means

open Body

variable {environment other : Option Environment} {steps depth : Nat} {texts : List String}

/-- Bodies mean the same one after the other when each of them means the same as another. -/
theorem joined_pairings {pairings : List Pairing}
    (each : ∀ pairing ∈ pairings, ∀ texts,
      meaningTo steps depth pairing.1 pairing.2.1 = some texts →
      ∃ more, meaningTo more depth (pairing.1.under other) pairing.2.2 = some texts)
    (means : joined (meaningTo steps depth) (pairings.map Pairing.site) = some texts) :
    ∃ more, joined (meaningTo more depth) (pairings.map (Pairing.wrapped other)) =
      some texts := by
  induction pairings generalizing texts with
  | nil => exact ⟨0, means⟩
  | cons pairing rest ih =>
    obtain ⟨first, others, meant, meantOthers, rfl⟩ := joined_cons means
    obtain ⟨more, front⟩ := each pairing List.mem_cons_self first meant
    obtain ⟨most, back⟩ := ih
      (fun pairing member => each pairing (List.mem_cons_of_mem _ member)) meantOthers
    have front := meaningTo_mono front (Nat.le_max_left more most) (Nat.le_refl depth)
    have back := joined_mono back fun site _ texts found =>
      meaningTo_mono found (Nat.le_max_right more most) (Nat.le_refl depth)
    refine ⟨max more most, ?_⟩
    simp only [List.map_cons, joined, back, Pairing.wrapped, front, Option.bind_eq_bind,
      Option.bind_some]

/-- What is composed of wrapped bodies means the same when these do. -/
theorem Composition.Wraps.means {composition wrapped : Composition}
    (wraps : Composition.Wraps environment other composition wrapped)
    (deep : depth ≤ nestingLimit)
    (inner : ∀ {depth : Nat} {pairing : Pairing} {texts : List String},
      pairing.1.environment = environment →
      TemplateStream.Wraps environment pairing.2.1 pairing.2.2 →
      pairing.wrapped other ∈ wrapped.sites → depth ≤ nestingLimit →
      meaningTo steps depth pairing.1 pairing.2.1 = some texts →
      ∃ more, meaningTo more depth (pairing.1.under other) pairing.2.2 = some texts)
    (means : composition.meaning (meaningTo steps depth) (meaningTo steps nestingLimit) =
      some texts) :
    ∃ more, wrapped.meaning (meaningTo more depth) (meaningTo more nestingLimit) =
      some texts := by
  cases wraps with
  | texts content => exact ⟨0, means⟩
  | parts pairings wraps =>
    refine joined_pairings (fun pairing member texts meant => ?_) means
    exact inner (wraps pairing member).1 (wraps pairing member).2 (List.mem_map_of_mem member)
      deep meant
  | later pairings wraps =>
    refine joined_pairings (fun pairing member texts meant => ?_) means
    exact inner (wraps pairing member).1 (wraps pairing member).2 (List.mem_map_of_mem member)
      (Nat.le_refl _) meant
  | tapped transform pairing known wraps =>
    obtain ⟨content, meant, rfl⟩ := Option.map_eq_some_iff.mp means
    obtain ⟨more, found⟩ := inner known wraps (List.mem_singleton_self _) deep meant
    refine ⟨more, ?_⟩
    simp only [Composition.meaning, Pairing.wrapped, found, Option.map_some]

/-- A body means the same when what it is made of does, for which the bodies that it is made of
mean the same when bodies were wrapped in them. -/
theorem means_of_composition {context : Context} {body wrapped : Body}
    {composition recomposed : Composition}
    (inner : ∀ {depth : Nat} {context : Context} {body wrapped : Body} {texts : List String},
      context.environment = environment → Wraps environment body wrapped →
      wrapped.Throughout Body.DelaysValidly (context.under other) → depth ≤ nestingLimit →
      meaningTo steps depth context body = some texts →
      ∃ more, meaningTo more depth (context.under other) wrapped = some texts)
    (timely : wrapped.Throughout Body.DelaysValidly (context.under other))
    (deep : depth + 1 ≤ nestingLimit)
    (composed : body.composition context = some composition)
    (composedAgain : wrapped.composition (context.under other) = some recomposed)
    (wraps : Composition.Wraps environment other composition recomposed)
    (means : meaningTo (steps + 1) (depth + 1) context body = some texts) :
    ∃ more, meaningTo more (depth + 1) (context.under other) wrapped = some texts := by
  rw [meaningTo_eq composed] at means
  have recomposedMeans := wraps.means (Nat.le_of_succ_le deep)
    (fun known wraps member deep meant =>
      inner known wraps (timely.site composedAgain member) deep meant) means
  obtain ⟨more, found⟩ := recomposedMeans
  exact ⟨more + 1, by rw [meaningTo_eq composedAgain]; exact found⟩

/-- A body that is rendered later, at full depth, means what it means where it is rendered. -/
theorem means_of_later {context : Context} {body inner : Body}
    (composed : body.composition context = some (.later [(context, inner)]))
    (deep : depth + 1 ≤ nestingLimit)
    (means : meaningTo steps (depth + 1) context inner = some texts) :
    meaningTo (steps + 1) (depth + 1) context body = some texts := by
  have found := meaningTo_mono means (Nat.le_refl steps) deep
  rw [meaningTo_eq composed]
  simp only [Composition.meaning, joined, found, Option.bind_eq_bind, Option.bind_some,
    List.append_nil]

/-- A call that renders its block later is made of it when its delay is valid. -/
theorem delayed_composition (related : Option.Rel Environment.Wraps environment other)
    {context : Context} {name : String} {here : Environment} {helper : Helper} {wrapped : Body}
    {given : List (String × Value)} (known : environment = some here)
    (got : here.helpers.get name = .ok helper) (defers : helper.function = .builtin .defer)
    (timely : (Body.call name [("block", wrapped)] given).Throughout Body.DelaysValidly
      (context.under other)) :
    (Body.call name [("block", wrapped)] given).composition (context.under other) =
      some (.later [(context.under other, wrapped)]) := by
  subst known
  cases related with
  | @some _ there wraps =>
    have gotThere : there.helpers.get name = .ok helper := by
      rw [wraps.helpers]
      exact got
    obtain ⟨parameters, resolved, _⟩ := timely _ .refl there helper rfl gotThere defers
    rw [Body.composition_call rfl gotThere resolved, defers]
    simp [HelperFunction.composition, bodyNamed]

/-- A body means the same as before when bodies in it are wrapped, if all delays are valid. Within
the induction on the steps of the meaning there is one on the wrapping, because what is wrapped
around a body costs steps only of the wrapped one. -/
theorem Wraps.means (related : Option.Rel Environment.Wraps environment other) {context : Context}
    {body wrapped : Body} (known : context.environment = environment)
    (wraps : Wraps environment body wrapped)
    (timely : wrapped.Throughout Body.DelaysValidly (context.under other))
    (deep : depth ≤ nestingLimit) (means : meaningTo steps depth context body = some texts) :
    ∃ more, meaningTo more depth (context.under other) wrapped = some texts := by
  induction steps generalizing depth context body wrapped texts with
  | zero => cases means
  | succ steps outer =>
    obtain ⟨_, above, composition, same, rfl, composed, -⟩ := meaningTo_succ means
    have whole {body wrapped : Body} {composition recomposed : Composition} {texts : List String}
        (timely : wrapped.Throughout Body.DelaysValidly (context.under other))
        (composed : body.composition context = some composition)
        (composedAgain : wrapped.composition (context.under other) = some recomposed)
        (wraps : Composition.Wraps environment other composition recomposed)
        (means : meaningTo (steps + 1) (above + 1) context body = some texts) :
        ∃ more, meaningTo more (above + 1) (context.under other) wrapped = some texts :=
      means_of_composition
        (fun known wraps timely deep means => outer known wraps timely deep means)
        timely deep composed composedAgain wraps means
    induction wraps generalizing composition texts with
    | text content =>
      cases composed
      exact whole timely rfl rfl (.texts _) means
    | absent =>
      cases composed
      exact whole timely rfl rfl (.texts _) means
    | reference path escape =>
      obtain ⟨recomposed, composedAgain, wraps⟩ := reference_wraps related known composed
      exact whole timely composed composedAgain wraps means
    | embed name values =>
      obtain ⟨recomposed, composedAgain, wraps⟩ := embed_wraps related known composed
      exact whole timely composed composedAgain wraps means
    | @sequence pairs wraps ih =>
      refine whole timely rfl rfl ?_ means
      rw [← map_site_sequencePairings, ← map_wrapped_sequencePairings]
      refine .parts _ fun pairing member => ?_
      obtain ⟨pair, inside, rfl⟩ := List.mem_map.mp member
      exact ⟨known, wraps pair inside⟩
    | each path wraps wrapsOther ih ihOther =>
      obtain ⟨value, got, rfl⟩ := Body.each_composed composed
      have gotUnder : (context.under other).get path = .ok value := got
      exact whole timely composed (Body.composition_each gotUnder _ _)
        (sectionSites_wraps value known wraps wrapsOther) means
    | call name given wraps ih =>
      obtain ⟨recomposed, composedAgain, wraps⟩ := call_wraps related known wraps composed
      exact whole timely composed composedAgain wraps means
    | delayed given here got defers wraps ih =>
      have later := delayed_composition related here got defers timely
      have timelyInner := timely.site later (List.mem_singleton_self _)
      obtain ⟨more, found⟩ := ih timelyInner composition means composed
      exact ⟨more + 1, means_of_later later deep found⟩
    | @deferred style name script body wrapped rendered wraps ih =>
      have later : (Body.deferred style name script).composition (context.under other) =
          some (.later [(context.under other, wrapped)]) := Body.composition_deferred rendered
      have timelyInner := timely.site later (List.mem_singleton_self _)
      obtain ⟨more, found⟩ := ih timelyInner composition means composed
      exact ⟨more + 1, means_of_later later deep found⟩
    | @scattered style name script pairs rendered wraps ih =>
      have later : (Body.deferred style name script).composition (context.under other) =
          some (.later ((sequencePairings context pairs).map (Pairing.wrapped other))) := by
        rw [map_wrapped_sequencePairings]
        exact Body.composition_deferred rendered
      have sequenced : (Body.sequence (pairs.map Prod.fst)).composition context =
          some (.parts ((sequencePairings context pairs).map Pairing.site)) := by
        rw [map_site_sequencePairings]
        rfl
      rw [meaningTo_eq sequenced] at means
      obtain ⟨more, found⟩ := joined_pairings (fun pairing member texts meant => by
        have inside := timely.site later (List.mem_map_of_mem member)
        obtain ⟨pair, listed, rfl⟩ := List.mem_map.mp member
        exact outer known (wraps pair listed) inside (Nat.le_of_succ_le deep) meant) means
      refine ⟨more + 1, ?_⟩
      rw [meaningTo_eq later]
      exact joined_mono found fun site _ texts meant =>
        meaningTo_mono meant (Nat.le_refl _) (Nat.le_of_succ_le deep)

end means

end TemplateStream
