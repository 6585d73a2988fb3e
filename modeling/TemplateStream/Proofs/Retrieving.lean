import TemplateStream.Proofs.Fetching
import TemplateStream.Proofs.Meaning
import TemplateStream.Proofs.Rejecting
import TemplateStream.Proofs.Scoping
import TemplateStream.Session.Rendering

/-!
# Templates under their names

A template has its body under its name less the blanks around it, but its page under the path of its
name as it was given, and is sought by exactly the name that is asked for. So a template whose name
has no blanks around it is found under that name, with the values of its page. A padded name finds
nothing, and what it registered is rendered under the shorter name without any value of its page:
the parts of the two names are not made of the same characters, so one page lies aside of the other
or under it.
-/

namespace TemplateStream

open Value

/-! ## Names less their blanks -/

namespace Text

/-- A text is what is left of it without its blanks, with blanks around. -/
theorem strip_between (text : String) : ∃ front back,
    text.toList = front ++ ((strip text).toList ++ back) ∧
      ∀ c ∈ front ++ back, isBlank c = true := by
  refine ⟨text.toList.takeWhile isBlank, (text.toList.dropWhile isBlank).rtakeWhile isBlank, ?_, ?_⟩
  · rw [strip, String.toList_ofList]
    show _ = _ ++ ((text.toList.dropWhile isBlank).rdropWhile isBlank ++ _)
    rw [List.rdropWhile_append_rtakeWhile, List.takeWhile_append_dropWhile]
  · intro c member
    rcases List.mem_append.mp member with member | member
    · exact List.mem_takeWhile_imp member
    · exact List.mem_rtakeWhile_imp member

/-- The parts have all characters but the separators. -/
theorem splitChars_flatten (separator : Char) (chars : List Char) :
    (splitChars separator chars).flatten = chars.filter (· != separator) := by
  induction chars with
  | nil => rfl
  | cons c chars ih =>
    have ⟨part, parts, split⟩ := exists_splitChars separator chars
    rw [split] at ih
    rw [splitChars, split]
    dsimp only
    by_cases same : c = separator
    · rw [if_pos same, List.filter_cons_of_neg (by simpa using same), ← ih]
      rfl
    · rw [if_neg same, List.filter_cons_of_pos (by simpa using same), ← ih]
      rfl

end Text

open Text

section paths

variable {c : Char} {name : String} {part : String} {path other rest : List String}
  {content value : Value} {entries : List (Value × Value)}

/-- A blank does not separate the parts of a name. -/
theorem unseparated_of_blank (blank : isBlank c = true) : separatesPages c = false := by
  by_contra separates
  rw [Bool.not_eq_false, separatesPages, Bool.or_eq_true, Bool.or_eq_true, beq_iff_eq, beq_iff_eq,
    beq_iff_eq] at separates
  rcases separates with (rfl | rfl) | rfl
  all_goals exact absurd blank (by decide)

/-- The parts of the name of a page have all its characters but those that separate them. -/
theorem pagePath_flatMap (name : String) :
    (pagePath name).flatMap String.toList = name.toList.filter fun c => !separatesPages c := by
  have parts : (pagePath name).flatMap String.toList =
      (splitChars '/' (name.toList.map fun c => if separatesPages c then '/' else c)).flatten := by
    rw [pagePath, List.flatMap_map]
    simp only [String.toList_ofList]
    rw [List.flatMap_id', List.flatten_filter_not_isEmpty]
  rw [parts, splitChars_flatten, List.filter_map]
  have kept (c : Char) : ((if separatesPages c then '/' else c) != '/') = !separatesPages c := by
    by_cases separates : separatesPages c = true
    · simp [separates]
    · have apart : c ≠ '/' := fun same => separates (same ▸ rfl)
      simp [separates, apart]
  have same : ((· != '/') ∘ fun c => if separatesPages c then '/' else c) =
      fun c => !separatesPages c := funext kept
  rw [same]
  refine (List.map_congr_left fun c member => ?_).trans (List.map_id _)
  have inside := List.of_mem_filter member
  rw [Bool.not_eq_true'] at inside
  simp [inside]

/-- The path of a name starts that of the name less its blanks only if there are none, as blanks are
characters of a part. -/
theorem strip_of_pagePath_start (inside : pagePath name <+: pagePath (strip name)) :
    strip name = name := by
  obtain ⟨front, back, split, blank⟩ := strip_between name
  have kept : (front ++ back).filter (fun c => !separatesPages c) = front ++ back :=
    List.filter_eq_self.mpr fun c member => by simp [unseparated_of_blank (blank c member)]
  obtain ⟨more, longer⟩ := inside
  have lengths := congrArg (fun path => (path.flatMap String.toList).length) longer
  rw [List.flatMap_append, List.length_append, pagePath_flatMap, pagePath_flatMap, split,
    List.filter_append, List.filter_append, List.length_append, List.length_append] at lengths
  have around := congrArg List.length kept
  rw [List.filter_append, List.length_append, List.length_append] at around
  have nothing : front.length = 0 ∧ back.length = 0 := by omega
  rw [List.length_eq_zero_iff.mp nothing.1, List.length_eq_zero_iff.mp nothing.2,
    List.nil_append, List.append_nil] at split
  exact String.toList_inj.mp split.symm

/-- What lies under a path that does not run through the path of a nested value is nothing, or the
value with the rest of its path around. -/
theorem valueAt?_nested_apart (apart : ¬path <+: other) (content : Value) :
    valueAt? other (nested path content) = none ∨ ∃ part rest,
      valueAt? other (nested path content) = some (nested (part :: rest) content) := by
  induction path generalizing other with
  | nil => exact absurd List.nil_prefix apart
  | cons part path ih =>
    cases other with
    | nil => exact .inr ⟨part, path, rfl⟩
    | cons first other =>
      rw [nested, valueAt?_mapping, lookup_cons]
      by_cases same : part = first
      · subst same
        rw [if_pos (same_self part)]
        exact ih fun inside => apart (List.cons_prefix_cons.mpr ⟨rfl, inside⟩)
      · have differs : ¬(Value.text part).same (.text first) = true := by
          simpa [same_text, text?] using same
        rw [if_neg differs]
        exact .inl rfl

/-- A value is smaller than the entries it lies in. -/
theorem sizeOf_lookup {key : Value} (found : lookup key entries = some value) :
    sizeOf value < sizeOf entries := by
  induction entries with
  | nil => cases found
  | cons entry entries ih =>
    rw [lookup_cons] at found
    split at found
    · cases found
      cases entry
      simp only [List.cons.sizeOf_spec, Prod.mk.sizeOf_spec]
      omega
    · have smaller := ih found
      simp only [List.cons.sizeOf_spec]
      omega

/-- A value is no larger than it is under a path. -/
theorem sizeOf_nested (path : List String) (content : Value) :
    sizeOf content ≤ sizeOf (nested path content) := by
  induction path with
  | nil => exact Nat.le_refl _
  | cons part path ih =>
    simp only [nested, Value.mapping.sizeOf_spec, List.cons.sizeOf_spec, Prod.mk.sizeOf_spec]
    omega

end paths

/-- The only page gives none of its values to a name whose path does not run through its own. -/
theorem DataStore.HoldsPage.withholds {store after : DataStore} {name other : String}
    {entries : List (Value × Value)} (holds : store.HoldsPage name entries after)
    (apart : ¬pagePath name <+: pagePath other) {key content : Value}
    (held : lookup key entries = some content) :
    lookup key (after.pageData other) ≠ some content := by
  rw [holds.pageData, entriesAt]
  rcases valueAt?_nested_apart apart (.mapping entries) with nothing | ⟨part, rest, around⟩
  · rw [nothing]
    intro found
    cases found
  · rw [around]
    show lookup key [(.text part, nested rest (.mapping entries))] ≠ some content
    intro found
    rw [lookup_cons] at found
    split at found
    · -- The value would be around the mapping that it lies in.
      have same : nested rest (.mapping entries) = content := Option.some.inj found
      have inner := sizeOf_lookup held
      have outer := sizeOf_nested rest (.mapping entries)
      rw [same, Value.mapping.sizeOf_spec] at outer
      omega
    · cases found

/-! ## The values of a template -/

/-- Without a value of its own, a template has those of its page under keys without dots, except for
the names of the two spaces. -/
theorem Renderer.contextFor_get (renderer : Renderer) (name : String) {key : String}
    (undotted : '.' ∉ key.toList) (data : key ≠ dataSpace) (page : key ≠ pageSpace)
    (default : Value) : (renderer.contextFor name .null).get key default =
      .ok ((lookup (.text key) (renderer.data.pageData name)).getD default) := by
  have laid : (renderer.contextFor name .null).start key = lookup (.text key)
      (insertEntry (.text pageSpace) (.mapping renderer.data.pages)
        (insertEntry (.text dataSpace) (.ofTable renderer.data.data)
          (renderer.data.pageData name))) := rfl
  have named : key ≠ "." := fun same => undotted (same ▸ List.mem_singleton_self '.')
  rw [Context.get_eq named (split_absent undotted), laid, lookup_insertEntry_other _ _ page.symm,
    lookup_insertEntry_other _ _ data.symm]
  rfl

/-! ## Templates that are found -/

/-- A name that has a template has no blanks around it. -/
theorem TemplateRegistry.strip_of_get? {registry : TemplateRegistry} {name : String} {body : Body}
    (found : registry.bodies.get? name = some body) : strip name = name :=
  registry.trimmed name (List.contains_iff_mem.mp (Table.contains_iff.mpr ⟨body, found⟩))

namespace Session

variable {session after : Session} {name source : String} {body : Body} {fault : Fault}

/-- Under a name the body is found, to be rendered as a document and to be embedded in another. -/
structure Finds (session : Session) (name : String) (body : Body) : Prop where
  rendered : resolve (.named name) session = (.ok (name, body), session)
  embedded (render : RenderBody) (chunk : Chunk) (context : Context)
    (values : List (String × Value))
    (known : context.environment = some session.renderer.environment) :
    (Body.embed name values).write render chunk context =
      render body chunk (context.embedded name values)

/-- What a template has under a key when it is rendered without a value: the content, if it comes
whatever the default is. -/
def Yields (session : Session) (template key : String) (content : Value) : Prop :=
  ∃ context, contextOf template (.value .null) session = (.ok context, session) ∧
    ∀ default, context.get key default = .ok content

/-- A body is found under the names that it is registered under. -/
theorem finds_iff :
    session.Finds name body ↔ session.renderer.templates.bodies.get? name = some body := by
  constructor
  · intro finds
    have rendered := finds.rendered
    rw [resolve, bind_step, get_step] at rendered
    dsimp only at rendered
    unfold TemplateRegistry.get at rendered
    cases held : session.renderer.templates.bodies.get? name with
    | none =>
      rw [held] at rendered
      cases rendered
    | some other =>
      rw [held] at rendered
      cases rendered
      rfl
  · intro held
    have got : session.renderer.templates.get name = .ok body := by
      rw [TemplateRegistry.get, held]
    constructor
    · rw [resolve, bind_step, get_step]
      dsimp only
      rw [got]
      rfl
    · intro render chunk context values known
      funext pass
      rw [Body.write, known]
      dsimp only
      rw [bind_step, liftExcept_step]
      have same : session.renderer.environment.templates.get name = .ok body := got
      rw [same]
      rfl

/-- The values that come without default are those of the page. -/
theorem yields_iff {key : String} (undotted : '.' ∉ key.toList) (data : key ≠ dataSpace)
    (page : key ≠ pageSpace) {content : Value} : session.Yields name key content ↔
      lookup (.text key) (session.renderer.data.pageData name) = some content := by
  have gets := session.renderer.contextFor_get name undotted data page
  constructor
  · rintro ⟨context, made, comes⟩
    have same : session.renderer.contextFor name .null = context := by
      cases made
      rfl
    subst same
    cases held : lookup (.text key) (session.renderer.data.pageData name) with
    | none =>
      have each (default : Value) : default = content := by
        have came := (gets default).symm.trans (comes default)
        rw [held] at came
        exact Except.ok.inj came
      exact (Context.not_every_default each).elim
    | some value =>
      have came := (gets .null).symm.trans (comes .null)
      rw [held] at came
      exact congrArg some (Except.ok.inj came)
  · intro held
    refine ⟨_, rfl, fun default => ?_⟩
    rw [gets, held]
    rfl

/-- A template with a page is registered where there are no other pages only if its source can be
read, and the page is the only one then. -/
theorem addTemplate_alone (bare : session.renderer.data.pages = [])
    (added : addTemplate name body (some source) session = (.ok (), after)) :
    ∃ entries text,
      FrontMatter.read source name session.renderer.data.load = .ok (entries, text) ∧
      session.renderer.data.HoldsPage name entries after.renderer.data ∧
      after.renderer.templates = (session.enlisted name body).renderer.templates := by
  have filled : isBlankText name = false := by
    by_contra blank
    rw [Bool.not_eq_false] at blank
    rw [addTemplate_blank blank] at added
    cases added
  rw [addTemplate_named filled] at added
  dsimp only at added
  cases reads : FrontMatter.read source name session.renderer.data.load with
  | error fault =>
    rw [DataStore.addPage_unread reads] at added
    cases added
  | ok parts =>
    have named : pagePath name ≠ [] := by
      intro empty
      rw [DataStore.addPage_error_iff.mpr (.pathless reads empty)] at added
      cases added
    obtain ⟨data, stored, holds⟩ := DataStore.addPage_alone bare named reads
    rw [stored] at added
    cases added
    exact ⟨parts.1, parts.2, rfl, holds, rfl⟩

/-- Where there are no other pages, a template that is registered with a page is found under its
name less the blanks around it, and what is found under other names stays. Under the name as it was
given something is found exactly if there are no blanks around it, and exactly then the template
has, when it is rendered without a value, the values of its page under all keys without dots that
are not the names of the two spaces, at any time at which the pages are still those. -/
theorem template_found_unless_padded (bare : session.renderer.data.pages = [])
    (added : addTemplate name body (some source) session = (.ok (), after)) :
    after.Finds (strip name) body ∧
      (∀ other found, other ≠ strip name → (after.Finds other found ↔ session.Finds other found)) ∧
      ((∃ found, after.Finds name found) ↔ strip name = name) ∧
      ∃ entries text,
        FrontMatter.read source name session.renderer.data.load = .ok (entries, text) ∧
        ∀ key content, lookup (.text key) entries = some content → '.' ∉ key.toList →
          key ≠ dataSpace → key ≠ pageSpace →
          ∀ later : Session, later.renderer.data.pages = after.renderer.data.pages →
            (later.Yields (strip name) key content ↔ strip name = name) := by
  obtain ⟨entries, text, reads, holds, templates⟩ := addTemplate_alone bare added
  have finds (other : String) (found : Body) : after.Finds other found ↔
      (if other = strip name then some body else session.renderer.templates.bodies.get? other) =
        some found := by
    rw [finds_iff, templates, enlisted_get?]
  have own : after.Finds (strip name) body := (finds _ _).mpr (if_pos rfl)
  refine ⟨own, fun other found apart => ?_, ?_, entries, text, reads, ?_⟩
  · rw [finds, if_neg apart, finds_iff]
  · constructor
    · rintro ⟨found, held⟩
      exact TemplateRegistry.strip_of_get? (finds_iff.mp held)
    · intro same
      exact ⟨body, same ▸ own⟩
  · intro key content held undotted data page later same
    have kept : later.renderer.data.pageData (strip name) =
        after.renderer.data.pageData (strip name) := by
      rw [DataStore.pageData_eq, DataStore.pageData_eq, same]
    rw [yields_iff undotted data page, kept]
    constructor
    · intro found
      by_contra padded
      exact holds.withholds (fun inside => padded (strip_of_pagePath_start inside)) held found
    · intro same
      rw [same, holds.own, held]

/-- A title in front of a padded template is lost, and in front of one that is not it is found. -/
theorem template_found_unless_padded_title :
    let titled := "---\ntitle: T\n---\n"
    let padded := addTemplate " a " (.reference "title" none) (some titled) default
    let plain := addTemplate "a" (.reference "title" none) (some titled) default
    (¬∃ found, padded.2.Finds " a " found) ∧ padded.2.Finds "a" (.reference "title" none) ∧
      plain.2.Finds "a" (.reference "title" none) ∧
      ∃ content, content.text? = some "T" ∧ plain.2.Yields "a" "title" content ∧
        ¬padded.2.Yields "a" "title" content := by
  intro titled padded plain
  have bare : (default : Session).renderer.data.pages = [] := rfl
  have paddedAdded : padded = (.ok (), padded.2) := ran_ok (by decide +kernel)
  have plainAdded : plain = (.ok (), plain.2) := ran_ok (by decide +kernel)
  have ⟨shorter, _, under, entries, rest, reads, values⟩ :=
    template_found_unless_padded bare paddedAdded
  have ⟨found, _, _, entriesToo, restToo, readsToo, valuesToo⟩ :=
    template_found_unless_padded bare plainAdded
  have stripPadded : strip " a " = "a" := by decide +kernel
  have stripPlain : strip "a" = "a" := by decide +kernel
  rw [stripPadded] at shorter under values
  rw [stripPlain] at found valuesToo
  have undotted : '.' ∉ "title".toList := by decide
  have data : "title" ≠ dataSpace := by decide
  have page : "title" ≠ pageSpace := by decide
  have split : FrontMatter.split? titled = some ("title: T", "") := by decide +kernel
  have given : (Format.Yaml.read "title: T").toOption.bind FrontMatter.entriesOf? = some entries :=
    FrontMatter.entries_of_read split reads
  have givenToo := FrontMatter.entries_of_read split readsToo
  have title : (((Format.Yaml.read "title: T").toOption.bind FrontMatter.entriesOf?).bind
      (lookup (.text "title"))).bind text? = some "T" := by decide +kernel
  rw [given, Option.bind_some] at title
  obtain ⟨content, held, written⟩ := Option.bind_eq_some_iff.mp title
  have heldToo := held
  rw [Option.some.inj (given.symm.trans givenToo)] at heldToo
  have differ : "a" ≠ " a " := by decide
  refine ⟨fun held => differ (under.mp held), shorter, found, content, written, ?_, ?_⟩
  · exact (valuesToo _ content heldToo undotted data page _ rfl).mpr rfl
  · exact fun yields => differ ((values _ content held undotted data page _ rfl).mp yields)

end Session

end TemplateStream
