import TemplateStream.Proofs.Completed

/-!
# What references show is escaped

A template of ready-made forms whose calls only select bodies writes passages: the literal text of
its text bodies, and the text of values that its references show. Where references are escaped and
show no markup, whatever can open or close a tag or an attribute value is part of literal text, no
matter which values there are and how deep in others hostile text is hidden.
-/

namespace TemplateStream

open Relation

/-- Whether a character can open or close a tag, or an attribute value in one. -/
def Text.isMark (c : Char) : Bool := c == '<' || c == '>' || c == '"' || c == '\''

/-- What stands for a character in escaped text has no mark. -/
theorem Text.mark_notMem_escapedChar {mark : Char} (marks : Text.isMark mark = true) (c : Char) :
    mark ∉ (Text.escapedChar c).toList := by
  have named : mark = '<' ∨ mark = '>' ∨ mark = '"' ∨ mark = '\'' := by
    simpa [Text.isMark, or_assoc] using marks
  unfold Text.escapedChar
  split_ifs with ampersand less greater double single
  · rcases named with rfl | rfl | rfl | rfl <;> decide
  · rcases named with rfl | rfl | rfl | rfl <;> decide
  · rcases named with rfl | rfl | rfl | rfl <;> decide
  · rcases named with rfl | rfl | rfl | rfl <;> decide
  · rcases named with rfl | rfl | rfl | rfl <;> decide
  · intro member
    rw [String.toList_singleton, List.mem_singleton] at member
    subst member
    rcases named with rfl | rfl | rfl | rfl
    · exact less rfl
    · exact greater rfl
    · exact double rfl
    · exact single rfl

/-- Escaped text has no marks. -/
theorem Text.mark_notMem_escaped {mark : Char} (marks : Text.isMark mark = true) (text : String) :
    mark ∉ (Text.escaped text).toList := by
  rw [Text.escaped, String.toList_join, List.mem_flatMap]
  rintro ⟨_, written, member⟩
  obtain ⟨c, _, rfl⟩ := List.mem_map.mp written
  exact Text.mark_notMem_escapedChar marks c member

/-! ## Passages -/

/-- A passage of a document: the literal text of a template, or a value that a reference shows. -/
inductive Passage where
  | literal (content : String)
  | shown (value : Value)

namespace Passage

/-- The text of a passage: literal text as it stands, and the text of a value escaped. -/
def text : Passage → String
  | .literal content => content
  | .shown value => Text.escaped value.toText

/-- The texts of passages one after the other. -/
def joined (passages : List Passage) : String := String.join (passages.map text)

/-- A passage comes from a body: it is the content of a text, or the value of a reference, that is
rendered when the body is. -/
def IsOf (site : Site) : Passage → Prop
  | .literal content => ∃ context, ReflTransGen Involves site (context, .text content)
  | .shown value => ∃ context path escape,
      ReflTransGen Involves site (context, .reference path escape) ∧
        context.get path = .ok value

/-- A character between two parts of the text of passages stands in a literal passage. -/
def Literally (passages : List Passage) (front : List Char) (c : Char) (back : List Char) : Prop :=
  ∃ before content after inner outer, passages = before ++ .literal content :: after ∧
    content.toList = inner ++ c :: outer ∧ front = (joined before).toList ++ inner ∧
    back = outer ++ (joined after).toList

variable {site inner : Site} {passage : Passage} {passages : List Passage} {front back : List Char}
  {mark : Char}

/-- A passage of a body comes from those that render the body, too. -/
theorem IsOf.within (passed : passage.IsOf inner) (involved : Involves site inner) :
    passage.IsOf site := by
  cases passage with
  | literal content =>
    obtain ⟨context, reached⟩ := passed
    exact ⟨context, .head involved reached⟩
  | shown value =>
    obtain ⟨context, path, escape, reached, got⟩ := passed
    exact ⟨context, path, escape, .head involved reached, got⟩

theorem joined_cons (passage : Passage) (passages : List Passage) :
    (joined (passage :: passages)).toList = passage.text.toList ++ (joined passages).toList := by
  rw [joined, List.map_cons, String.join_cons, String.toList_append, joined]

/-- A passage in front moves a character of the others back. -/
theorem Literally.behind (stands : Literally passages front mark back) (passage : Passage) :
    Literally (passage :: passages) (passage.text.toList ++ front) mark back := by
  obtain ⟨before, content, after, inner, outer, rfl, split, rfl, rfl⟩ := stands
  refine ⟨passage :: before, content, after, inner, outer, rfl, split, ?_, rfl⟩
  rw [joined_cons, List.append_assoc]

/-- Every mark in the text of passages stands in a literal one. -/
theorem literally_of_mark (marks : Text.isMark mark = true)
    (split : (joined passages).toList = front ++ mark :: back) :
    Literally passages front mark back := by
  induction passages generalizing front with
  | nil =>
    have none : ([] : List Char) = front ++ mark :: back := split
    simp at none
  | cons passage rest ih =>
    rw [joined_cons] at split
    rcases List.append_eq_append_iff.mp split with ⟨middle, rfl, others⟩ | ⟨held, first, others⟩
    · exact (ih others).behind passage
    · cases held with
      | nil =>
        -- The mark is the first character after the first passage.
        rw [List.nil_append] at others
        have stands : Literally rest [] mark back := ih others.symm
        rw [List.append_nil] at first
        have moved := stands.behind passage
        rwa [List.append_nil, first] at moved
      | cons c held =>
        obtain ⟨rfl, rfl⟩ := List.cons.inj others
        cases passage with
        | literal content => exact ⟨[], content, rest, front, held, rfl, first, rfl, rfl⟩
        | shown value =>
          have member : mark ∈ (Text.escaped value.toText).toList := by
            have shown : (Text.escaped value.toText).toList = front ++ mark :: held := first
            rw [shown]
            exact List.mem_append_right front List.mem_cons_self
          exact absurd member (Text.mark_notMem_escaped marks _)

end Passage

/-! ## What holds throughout bodies of a form -/

namespace Body.Throughout

variable {property : Context → Body → Prop} {context : Context}

/-- A text, a reference and no body at all render nothing else. -/
theorem leaf {body : Body} (holds : property context body)
    (form : (∃ content, body = .text content) ∨ (∃ path escape, body = .reference path escape) ∨
      body = .absent) : body.Throughout property context := by
  refine .of_sites holds fun composition composed site member => ?_
  rcases form with ⟨content, rfl⟩ | ⟨path, escape, rfl⟩ | rfl
  · cases composed
    cases member
  · obtain ⟨_, _, rfl⟩ := Body.reference_composed composed
    cases member
  · cases composed
    cases member

/-- What holds throughout each of some bodies holds throughout their sequence. -/
theorem sequence {bodies : List Body} (holds : property context (.sequence bodies))
    (each : ∀ body ∈ bodies, body.Throughout property context) :
    (Body.sequence bodies).Throughout property context := by
  refine .of_sites holds fun composition composed site member => ?_
  cases composed
  obtain ⟨body, inside, rfl⟩ := List.mem_map.mp member
  exact each body inside

/-- What holds throughout all that a section selects holds throughout the section. -/
theorem each {path : String} {block otherwise : Body} {value : Value}
    (holds : property context (.each path block otherwise)) (got : context.get path = .ok value)
    (selected : ∀ site ∈ sectionSites context value block otherwise,
      site.2.Throughout property site.1) :
    (Body.each path block otherwise).Throughout property context := by
  refine .of_sites holds fun composition composed site member => ?_
  rw [Body.composition_each got] at composed
  cases composed
  exact selected site member

/-- What holds throughout the bodies of a call holds throughout the call. -/
theorem call {name : String} {bodies : List (String × Body)} {given : List (String × Value)}
    (holds : property context (.call name bodies given))
    (absent : property context .absent)
    (each : ∀ entry ∈ bodies, entry.2.Throughout property context) :
    (Body.call name bodies given).Throughout property context := by
  refine .of_sites holds fun composition composed site member => ?_
  obtain ⟨_, _, _, _, _, _, _, _, called⟩ := Body.call_composed composed
  obtain ⟨selected, rfl⟩ := callSites_cases called member
  rcases bodyNamed_cases bodies selected with none | ⟨entry, inside, same⟩
  · exact none ▸ leaf absent (.inr (.inr rfl))
  · exact same ▸ each entry inside

end Body.Throughout

/-! ## Templates whose references are escaped -/

/-- Whether a helper function only selects the body that is rendered. -/
def HelperFunction.selects : HelperFunction → Bool
  | .builtin .eq | .builtin .sep => true
  | _ => false

/-- The ready-made forms of bodies whose calls only select bodies. -/
abbrev Body.IsSelecting (context : Context) (body : Body) : Prop :=
  body.IsReadyMade HelperFunction.selects context

/-- A reference is not told to show its value as it stands, and the value is no markup. -/
def Body.ShowsEscaped (context : Context) : Body → Prop
  | .reference path escape =>
    escape ≠ some false ∧ ∀ content, context.get path ≠ .ok (.markup content)
  | _ => True

/-- Whether references are escaped that are not told otherwise. -/
def Context.escapes (context : Context) : Bool :=
  (context.environment.map Environment.escapes).getD true

/-- A helper function that selects bodies renders them at once. -/
theorem HelperFunction.isPlain_of_selects {function : HelperFunction}
    (selects : function.selects = true) : function.isPlain = true := by
  cases function with
  | builtin which => cases which <;> first | rfl | cases selects
  | scripted style script | inert value => cases selects

/-- An escaped reference to a value that is no markup has its text escaped. -/
theorem referenceTexts_shown {value : Value} (present : value ≠ .null)
    (unmarked : ∀ content, value ≠ .markup content) :
    referenceTexts value true = [Text.escaped value.toText] := by
  cases value with
  | null => exact absurd rfl present
  | markup content => exact absurd rfl (unmarked content)
  | _ => simp only [referenceTexts, Body.referenceText, if_true]

namespace Body

variable {context : Context} {body : Body} {composition : Composition} {steps depth : Nat}
  {texts : List String}

theorem IsSelecting.isPlain (context : Context) (body : Body)
    (selecting : body.IsSelecting context) : body.IsPlain context := by
  cases body with
  | call name bodies given =>
    exact fun environment helper known got =>
      HelperFunction.isPlain_of_selects (selecting environment helper known got)
  | _ => exact selecting

/-- A form whose calls only select bodies puts no tap on. -/
theorem IsSelecting.untapped {transform : String → String} {site : Site}
    (selecting : body.IsSelecting context) :
    body.composition context ≠ some (.tapped transform site) := by
  intro composed
  cases body with
  | text content | sequence bodies | absent => cases composed
  | reference path escape =>
    obtain ⟨_, _, other⟩ := reference_composed composed
    cases other
  | each path block otherwise =>
    obtain ⟨_, _, other⟩ := each_composed composed
    cases other
  | embed name values =>
    obtain ⟨_, _, _, _, other⟩ := embed_composed composed
    cases other
  | call name bodies given =>
    obtain ⟨environment, helper, _, which, known, got, _, builtin, called⟩ := call_composed composed
    have selects := selecting environment helper known got
    rw [builtin] at selects
    cases which with
    | eq | sep => cases called
    | upper | lower | defer => cases selects
  | callback script | function name script | deferred style name script | inert value =>
    exact selecting

/-- What a body renders has the environment of the body. -/
theorem composition_environment {site : Site}
    (composed : body.composition context = some composition)
    (member : site ∈ composition.sites) : site.1.environment = context.environment := by
  cases body with
  | text content | absent =>
    cases composed
    cases member
  | reference path escape =>
    obtain ⟨_, _, rfl⟩ := reference_composed composed
    cases member
  | sequence bodies =>
    cases composed
    obtain ⟨_, _, rfl⟩ := List.mem_map.mp member
    rfl
  | each path block otherwise =>
    obtain ⟨_, _, rfl⟩ := each_composed composed
    exact (sectionSites_cases member).1
  | embed name values =>
    obtain ⟨_, _, _, _, rfl⟩ := embed_composed composed
    rw [List.mem_singleton.mp member]
    exact embedded_environment context name values
  | call name bodies given =>
    obtain ⟨_, _, _, _, _, _, _, _, called⟩ := call_composed composed
    obtain ⟨_, rfl⟩ := callSites_cases called member
    rfl
  | deferred style name script =>
    obtain ⟨_, _, listed⟩ := Option.bind_eq_some_iff.mp composed
    cases listed
    obtain ⟨_, _, rfl⟩ := List.mem_map.mp member
    rfl
  | callback script | function name script | inert value => cases composed

/-- Texts are those of passages of a body. -/
def Passes (site : Site) (texts : List String) : Prop :=
  ∃ passages : List Passage, texts = passages.map Passage.text ∧
    ∀ passage ∈ passages, passage.IsOf site

/-- Nothing is no passage at all. -/
theorem Passes.nil (site : Site) : Passes site [] := ⟨[], rfl, nofun⟩

/-- One passage is a text. -/
theorem Passes.single {site : Site} {passage : Passage} (passed : passage.IsOf site) :
    Passes site [passage.text] :=
  ⟨[passage], rfl, List.forall_mem_singleton.mpr passed⟩

/-- What a body renders in turn passes in turn. -/
theorem Passes.joined {site : Site} {sites : List Site}
    {meaning : Context → Body → Option (List String)}
    (each : ∀ inner ∈ sites, ∀ texts, meaning inner.1 inner.2 = some texts → Passes site texts)
    (found : joined meaning sites = some texts) : Passes site texts := by
  induction sites generalizing texts with
  | nil =>
    cases found
    exact .nil site
  | cons first rest ih =>
    obtain ⟨front, back, foundFirst, foundRest, rfl⟩ := joined_cons found
    obtain ⟨early, rfl, passedEarly⟩ := each first List.mem_cons_self front foundFirst
    obtain ⟨late, rfl, passedLate⟩ :=
      ih (fun inner member => each inner (List.mem_cons_of_mem _ member)) foundRest
    refine ⟨early ++ late, (List.map_append).symm, fun passage member => ?_⟩
    exact (List.mem_append.mp member).elim (passedEarly passage) (passedLate passage)

/-- The texts that a body writes itself are literal, or show an escaped value. -/
theorem passes_of_texts {content : List String} (escaped : body.ShowsEscaped context)
    (escapes : context.escapes = true) (selecting : body.IsSelecting context)
    (composed : body.composition context = some (.texts content)) :
    Passes (context, body) content := by
  cases body with
  | text literal =>
    cases composed
    have passed : (Passage.literal literal).IsOf (context, .text literal) := ⟨context, .refl⟩
    exact .single passed
  | reference path escape =>
    obtain ⟨value, got, same⟩ := reference_composed composed
    obtain ⟨unforced, unmarked⟩ := escaped
    have told : escape.getD ((context.environment.map Environment.escapes).getD true) = true := by
      cases escape with
      | none => exact escapes
      | some choice =>
        cases choice with
        | true => rfl
        | false => exact absurd rfl unforced
    rw [told] at same
    obtain rfl : content = referenceTexts value true := Composition.texts.inj same
    by_cases absent : value = .null
    · rw [absent]
      exact .nil _
    · have passed : (Passage.shown value).IsOf (context, .reference path escape) :=
        ⟨context, path, escape, .refl, got⟩
      have plain (content : String) : value ≠ .markup content :=
        fun marked => unmarked content (marked ▸ got)
      rw [referenceTexts_shown absent plain]
      exact .single passed
  | absent =>
    cases composed
    exact .nil _
  | sequence bodies => cases composed
  | each path block otherwise =>
    obtain ⟨_, _, other⟩ := each_composed composed
    cases other
  | embed name values =>
    obtain ⟨_, _, _, _, other⟩ := embed_composed composed
    cases other
  | call name bodies given =>
    obtain ⟨_, _, _, which, _, _, _, _, called⟩ := call_composed composed
    cases which <;> cases called
  | callback script | function name script | deferred style name script | inert value =>
    exact absurd selecting not_false

/-- What a body means are passages of it. -/
theorem passes_of_meaning (forms : body.Throughout IsSelecting context)
    (escaped : body.Throughout ShowsEscaped context) (escapes : context.escapes = true)
    (meant : meaningTo steps depth context body = some texts) : Passes (context, body) texts := by
  -- The induction is on the steps in which the meaning is found: each body that is rendered has
  -- its own in one step less, and the same environment.
  induction steps generalizing depth context body texts with
  | zero => cases meant
  | succ before ih =>
    obtain ⟨_, above, composition, same, rfl, composed, meaning⟩ := meaningTo_succ meant
    obtain rfl := Nat.succ.inj same
    cases composition with
    | texts content =>
      cases meaning
      exact passes_of_texts escaped.self escapes forms.self composed
    | parts sites =>
      refine Passes.joined (fun inner member texts found => ?_) meaning
      have surrounded : inner.1.escapes = true := by
        rw [Context.escapes, composition_environment composed member]
        exact escapes
      obtain ⟨passages, rfl, passed⟩ :=
        ih (forms.site composed member) (escaped.site composed member) surrounded found
      have involved : Involves (context, body) inner := ⟨_, composed, member⟩
      exact ⟨passages, rfl, fun passage within => (passed passage within).within involved⟩
    | tapped transform site => exact absurd composed forms.self.untapped
    | later sites => exact absurd composed (IsSelecting.isPlain _ _ forms.self).not_later

end Body

/-- A template of ready-made forms whose calls only select bodies, where references are escaped and
show no markup, writes passages of its own: literal text as it stands and values escaped. On a chunk
without taps they are what is appended to its record, and as a document they are the whole text.
Every mark in them stands in literal text. -/
theorem references_escaped {body : Body} {context : Context}
    (forms : body.Throughout Body.IsSelecting context)
    (escaped : body.Throughout Body.ShowsEscaped context) (escapes : context.escapes = true) :
    (∀ {chunk next : Chunk} {pass after : Pass} {handle : Handle},
      pass.handles[chunk.number]? = some handle → handle.taps.frames = [] →
      body.render chunk context pass = (.ok next, after) → after.recoveries = pass.recoveries →
      next = chunk ∧ ∃ passages : List Passage,
        (∀ passage ∈ passages, passage.IsOf (context, body)) ∧
        after = pass.wrote handle (passages.map Passage.text) pass.memory ∧
        ∀ front mark back, Text.isMark mark = true →
          (Passage.joined passages).toList = front ++ mark :: back →
          Passage.Literally passages front mark back) ∧
    ∀ {looping : Bool} {text : String} {final : Pass},
      Pass.document body context (Pass.start .accepting looping) = (.ok text, final) →
      final.recoveries = [] →
      ∃ passages : List Passage, (∀ passage ∈ passages, passage.IsOf (context, body)) ∧
        text = Passage.joined passages ∧
        ∀ front mark back, Text.isMark mark = true → text.toList = front ++ mark :: back →
          Passage.Literally passages front mark back := by
  have plain := forms.imp Body.IsSelecting.isPlain
  constructor
  · intro chunk next pass after handle found untapped rendered unrecovered
    obtain ⟨same, texts, meant, held, fragments, memory, foundHeld, _, applied, wrote⟩ :=
      renderTo_wrote Body.nestingLimit plain rendered unrecovered
    obtain rfl : handle = held := Option.some.inj (found.symm.trans foundHeld)
    obtain ⟨passages, rfl, passed⟩ := Body.passes_of_meaning forms escaped escapes meant
    have unchanged : handle.taps.applyEach (passages.map Passage.text) pass.memory =
        (.ok (passages.map Passage.text), pass.memory) := by
      rw [TapStack.applyEach, show handle.taps.apply = ({} : TapStack).apply by
        funext text
        rw [TapStack.apply, untapped]
        rfl]
      exact TapStack.applyEach_empty _
    cases unchanged.symm.trans applied
    exact ⟨same, passages, passed, wrote, fun _ _ _ marks => Passage.literally_of_mark marks⟩
  · intro looping text final came unrecovered
    have standard := plain.imp Body.IsPlain.isStandard
    obtain ⟨steps, texts, meant, rfl⟩ := document_tells standard came unrecovered
    obtain ⟨passages, rfl, passed⟩ := Body.passes_of_meaning forms escaped escapes meant
    exact ⟨passages, passed, rfl, fun _ _ _ marks => Passage.literally_of_mark marks⟩

/-- Hostile text, a list that hides markup and hostile text, and a mapping with a hostile key. -/
def hostileItems : List Value :=
  [.text "<b>", .list [.markup "<u>", .text "it's"], .mapping [(.text "<k>", .int 5)]]

/-- The helpers that come with every registry. -/
def hostileEnvironment : Environment where
  helpers := .builtin

/-- A context of hostile items, over front matter with quotes. -/
def hostileContextIn (environment : Environment) : Context :=
  .ofValue (.mapping [(.text "items", .list hostileItems)])
    [(.text "author", .text "a \"b\"")] (some environment)

/-- The same context, with those helpers. -/
def hostileContext : Context := hostileContextIn hostileEnvironment

/-- A page that shows the items with separators, and the author since one is the number that true
counts as. -/
def hostilePage : Body :=
  .sequence [
    .text "<p title=\"'\">",
    .each "items" (.sequence [
      .reference "." none, .call "sep" [("block", .text ", ")] []]) .absent,
    .call "eq" [("block", .reference "author" (some true))]
      [("key", .int 1), ("value", .bool true)],
    .text "</p>"]

/-- The calls of the page select bodies, and its references show no markup. -/
theorem hostilePage_escaped :
    hostilePage.Throughout
      (fun context body => body.IsSelecting context ∧ body.ShowsEscaped context)
      hostileContext := by
  have items (environment : Environment) :
      (hostileContextIn environment).get "items" = .ok (.list hostileItems) := rfl
  have author (environment : Environment) :
      (hostileContextIn environment).get "author" = .ok (.text "a \"b\"") := rfl
  have selecting {context : Context} {name : String} {bodies : List (String × Body)}
      {given : List (String × Value)} (known : context.environment = some hostileEnvironment)
      (checked : (hostileEnvironment.helpers.get name).toOption.all
        (fun helper => helper.function.selects) = true) :
      (Body.call name bodies given).IsSelecting context :=
    Body.isReadyMade_call checked context known
  refine .sequence ⟨trivial, trivial⟩ ?_
  simp only [List.forall_mem_cons]
  refine ⟨?_, ?_, ?_, ?_, by simp⟩
  · exact .leaf ⟨trivial, trivial⟩ (.inl ⟨_, rfl⟩)
  · refine .each ⟨trivial, trivial⟩ (items _) fun site member => ?_
    obtain ⟨⟨item, index⟩, listed, rfl⟩ := List.mem_map.mp member
    have unmarked (content : String) : item ≠ .markup content := by
      have inside : item ∈ hostileItems := (List.mem_zipIdx listed).2.2 ▸ List.getElem_mem _
      simp only [hostileItems, List.mem_cons, List.not_mem_nil, or_false] at inside
      intro same
      rcases inside with rfl | rfl | rfl <;> cases same
    refine .sequence ⟨trivial, trivial⟩ ?_
    simp only [List.forall_mem_cons]
    refine ⟨.leaf ⟨trivial, by decide, fun content got => ?_⟩ (.inr (.inl ⟨_, _, rfl⟩)),
      .call ⟨selecting rfl (by decide +kernel), trivial⟩ ⟨trivial, trivial⟩ ?_, by simp⟩
    · have current : (hostileContext.push item (some index) (some hostileItems.length)).get "." =
          .ok item := rfl
      exact unmarked content (Except.ok.inj (current.symm.trans got))
    · simp only [List.forall_mem_cons]
      exact ⟨.leaf ⟨trivial, trivial⟩ (.inl ⟨_, rfl⟩), by simp⟩
  · refine .call ⟨selecting rfl (by decide +kernel), trivial⟩ ⟨trivial, trivial⟩ ?_
    simp only [List.forall_mem_cons]
    refine ⟨.leaf ⟨trivial, by decide, fun content got => ?_⟩ (.inr (.inl ⟨_, _, rfl⟩)), by simp⟩
    rw [hostileContext, author] at got
    cases got
  · exact .leaf ⟨trivial, trivial⟩ (.inl ⟨_, rfl⟩)

/-- The document of the page. -/
def hostileDocument : Except Fault String × Pass :=
  Pass.document hostilePage hostileContext (.start .accepting false)

/-- The text of the page, in which only literal text has marks. -/
def hostileText : String :=
  "<p title=\"'\">&lt;b&gt;, [&#x27;&lt;u&gt;&#x27;, &quot;it&#x27;s&quot;], " ++
    "\x7b&#x27;&lt;k&gt;&#x27;: 5\x7da &quot;b&quot;</p>"

/-- The page is made of passages, and every mark in it stands in a literal one. -/
theorem references_escaped_hostilePage :
    hostilePage.Throughout Body.IsSelecting hostileContext ∧
      hostilePage.Throughout Body.ShowsEscaped hostileContext ∧ hostileContext.escapes = true ∧
      hostileDocument = (.ok hostileText, hostileDocument.2) ∧ hostileDocument.2.recoveries = [] ∧
      ∃ passages : List Passage,
        (∀ passage ∈ passages, passage.IsOf (hostileContext, hostilePage)) ∧
        hostileText = Passage.joined passages ∧
        ∀ front mark back, Text.isMark mark = true → hostileText.toList = front ++ mark :: back →
          Passage.Literally passages front mark back := by
  have forms := hostilePage_escaped.imp fun _ _ both => both.1
  have escaped := hostilePage_escaped.imp fun _ _ both => both.2
  have succeeded : hostileDocument.1.toOption = some hostileText := by decide +kernel
  have came : hostileDocument = (.ok hostileText, hostileDocument.2) := ran_ok succeeded
  have none : hostileDocument.2.recoveries.isEmpty = true := by decide +kernel
  have unrecovered : hostileDocument.2.recoveries = [] := List.isEmpty_iff.mp none
  exact ⟨forms, escaped, rfl, came, unrecovered,
    (references_escaped forms escaped rfl).2 came unrecovered⟩

end TemplateStream
