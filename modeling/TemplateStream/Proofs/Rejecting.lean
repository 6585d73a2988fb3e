import TemplateStream.Proofs.Fencing
import TemplateStream.Proofs.Suffixes
import TemplateStream.Session

/-!
# Templates that are refused

A template is registered in two steps: its body under its name, then the values in front of it as
those of its page. Each step refuses before it changes anything, the second one also where it makes
levels on its way, since only a value that was there before can bar the way. But the second step
takes nothing back of the first: a template whose page is refused has replaced the body that was
registered under its name.
-/

namespace TemplateStream

open Value

/-- A sequence fails exactly when its first step does, or the rest does that goes on from it. -/
theorem sequenced_error_iff {α β : Type} {first : Except Fault α} {rest : α → Except Fault β}
    {fault : Fault} : first >>= rest = .error fault ↔
      first = .error fault ∨ ∃ value, first = .ok value ∧ rest value = .error fault := by
  cases first with
  | error other =>
    constructor
    · intro failed
      cases failed
      exact .inl rfl
    · rintro (failed | ⟨value, done, -⟩)
      · cases failed
        rfl
      · cases done
  | ok value =>
    constructor
    · exact fun failed => .inr ⟨value, rfl, failed⟩
    · rintro (failed | ⟨_, done, failed⟩)
      · cases failed
      · cases done
        exact failed

/-! ## Placing values in place -/

section places

variable {content target : Value} {path rest : List String} {part : String} {fault : Fault}
  {key value : Value} {entries : List (Value × Value)}

/-- Giving a key the value that it has changes nothing. -/
theorem insertEntry_lookup (found : lookup key entries = some value) :
    insertEntry key value entries = entries := by
  induction entries with
  | nil => cases found
  | cons entry rest ih =>
    rw [lookup_cons] at found
    rw [insertEntry]
    split
    · rename_i same
      rw [if_pos same] at found
      rw [← Option.some.inj found]
    · rename_i apart
      rw [if_neg apart] at found
      rw [ih found]

/-- The fault of a value that is no mapping, under which a value is to be put: that it takes no
entries, or none at a text if the text is the last part of the path. -/
def barred (target : Value) : List String → Fault
  | [] => match target with
    | .list _ => .data .listAssignment
    | target => .data (.noAssignment target.typeName)
  | _ :: _ => .data (.noEntries target.typeName)

/-- What is no mapping bars the way. -/
theorem placeAt_scalar (scalar : target.entries? = none) (content : Value) (part : String)
    (rest : List String) : placeAt content (part :: rest) target = .error (barred target rest) := by
  cases target with
  | mapping entries => cases scalar
  | _ => cases rest <;> rfl

/-- Nothing bars the way where nothing is. -/
theorem placeAt_empty (content : Value) (path : List String) :
    ∃ after, placeAt content path (.mapping []) = .ok after := by
  cases path with
  | nil => exact ⟨content, rfl⟩
  | cons part rest => exact ⟨_, placeAt_bare (List.cons_ne_nil part rest) content⟩

/-- In a mapping the way is barred exactly if it is within what the first part leads to. -/
theorem placeAt_mapping_error_iff :
    placeAt content (part :: rest) (.mapping entries) = .error fault ↔ ∃ inner,
      lookup (.text part) entries = some inner ∧ placeAt content rest inner = .error fault := by
  rw [placeAt_mapping]
  cases lookup (.text part) entries with
  | none =>
    have ⟨after, placed⟩ := placeAt_empty content rest
    rw [Option.getD_none, placed]
    exact iff_of_false nofun nofun
  | some held =>
    rw [Option.getD_some]
    constructor
    · intro fails
      cases placed : placeAt content rest held with
      | ok after =>
        rw [placed] at fails
        cases fails
      | error other =>
        rw [placed] at fails
        cases fails
        exact ⟨held, rfl, placed⟩
    · rintro ⟨inner, same, fails⟩
      cases same
      rw [fails]
      rfl

/-- A value cannot be put under a path exactly if some front of the path leads to a value that is no
mapping, which bars the way. -/
theorem placeAt_error_iff : placeAt content path target = .error fault ↔
    ∃ front part rest blocker, path = front ++ part :: rest ∧
      valueAt? front target = some blocker ∧ blocker.entries? = none ∧
      fault = barred blocker rest := by
  induction path generalizing target with
  | nil =>
    refine iff_of_false nofun ?_
    rintro ⟨front, part, rest, blocker, split, -⟩
    exact List.append_ne_nil_of_right_ne_nil front (List.cons_ne_nil part rest) split.symm
  | cons part path ih =>
    cases entered : target.entries? with
    | none =>
      rw [placeAt_scalar entered]
      constructor
      · intro fails
        exact ⟨[], part, path, target, rfl, rfl, entered, (Except.error.inj fails).symm⟩
      · rintro ⟨front, first, rest, blocker, split, found, -, rfl⟩
        cases front with
        | nil =>
          cases split
          cases found
          rfl
        | cons other front =>
          -- Nothing lies under a part in what is no mapping.
          have none : target.field? other = none := by rw [field?, entered]; rfl
          rw [valueAt?, none] at found
          cases found
    | some entries =>
      have whole : target = .mapping entries := by
        cases target with
        | mapping entries =>
          cases entered
          rfl
        | _ => cases entered
      rw [whole, placeAt_mapping_error_iff]
      constructor
      · rintro ⟨inner, held, fails⟩
        obtain ⟨front, first, rest, blocker, rfl, found, scalar, same⟩ := ih.mp fails
        refine ⟨part :: front, first, rest, blocker, rfl, ?_, scalar, same⟩
        rw [valueAt?_mapping, held]
        exact found
      · rintro ⟨front, first, rest, blocker, split, found, scalar, same⟩
        cases front with
        | nil =>
          cases found
          cases scalar
        | cons other front =>
          cases split
          rw [valueAt?_mapping] at found
          obtain ⟨inner, held, found⟩ := Option.bind_eq_some_iff.mp found
          exact ⟨inner, held, ih.mpr ⟨front, first, rest, blocker, rfl, found, scalar, same⟩⟩

/-- A value put under a path of keys in place: what comes of it, and what the whole is then. A
mapping that is missing on the way is made when it is come to, and stays when the way is barred
later. -/
def placeInPlace (content : Value) : List String → Value → Except Fault Unit × Value
  | [], _ => (.ok (), content)
  | part :: rest, .mapping entries =>
    let (result, inner) :=
      placeInPlace content rest ((lookup (.text part) entries).getD (.mapping []))
    (result, .mapping (insertEntry (.text part) inner entries))
  | _ :: rest, target => (.error (barred target rest), target)

/-- In place as well a value is put under its path, or nothing is changed. -/
theorem placeInPlace_eq (content : Value) (path : List String) (target : Value) :
    placeInPlace content path target = match placeAt content path target with
      | .ok after => (.ok (), after)
      | .error fault => (.error fault, target) := by
  induction path generalizing target with
  | nil => rfl
  | cons part path ih =>
    cases target with
    | mapping entries =>
      rw [placeInPlace, ih, placeAt_mapping]
      cases held : lookup (.text part) entries with
      | none =>
        -- A level that is made here is empty, so that nothing bars the way below it.
        have ⟨after, placed⟩ := placeAt_empty content path
        rw [Option.getD_none, placed]
        rfl
      | some inner =>
        rw [Option.getD_some]
        cases placeAt content path inner with
        | ok after => rfl
        | error fault =>
          have same := insertEntry_lookup held
          exact congrArg (fun entries => (Except.error fault, mapping entries)) same
    | _ =>
      rw [placeAt_scalar rfl]
      rfl

end places

/-! ## Pages that are refused -/

namespace FrontMatter

variable {source page : String} {load : String → Except Fault Value} {fault : Fault}

/-- The source of a page cannot be read exactly if its document cannot, or gives no entries. -/
theorem read_error_iff : read source page load = .error fault ↔
    ∃ document body, split? source = some (document, body) ∧
      (load document = .error fault ∨
        ∃ value, load document = .ok value ∧ entriesOf? value = none ∧
          fault = .data (.frontMatterShape page)) := by
  cases split : split? source with
  | none =>
    rw [read, split]
    constructor
    · intro fails
      cases fails
    · rintro ⟨document, body, same, -⟩
      cases same
  | some parts =>
    have shape {value : Value} : (entriesOf? value).elim (.error (.data (.frontMatterShape page)))
        (fun entries => .ok (entries, parts.2)) = Except.error fault ↔
        entriesOf? value = none ∧ fault = .data (.frontMatterShape page) := by
      cases entriesOf? value with
      | some entries =>
        constructor
        · intro fails
          cases fails
        · rintro ⟨same, -⟩
          cases same
      | none =>
        rw [Option.elim, Except.error.injEq, eq_comm]
        exact (and_iff_right rfl).symm
    rw [read_of_split split]
    refine sequenced_error_iff.trans ⟨fun fails => ⟨parts.1, parts.2, rfl, ?_⟩, ?_⟩
    · rcases fails with fails | ⟨value, loads, refused⟩
      · exact .inl fails
      · exact .inr ⟨value, loads, shape.mp refused⟩
    · rintro ⟨document, body, same, fails | ⟨value, loads, refused⟩⟩
      · cases same
        exact .inl fails
      · cases same
        exact .inr ⟨value, loads, shape.mpr refused⟩

end FrontMatter

namespace DataStore

variable {store after : DataStore} {source name : String} {entries : List (Value × Value)}
  {fault : Fault}

/-- Why a page is refused: its document cannot be read, or gives no entries, or its name has no
path, or the path leads through a value that is no mapping. -/
inductive RefusesPage (store : DataStore) (source name : String) : Fault → Prop where
  | unreadable {document body : String} {fault : Fault}
      (split : FrontMatter.split? source = some (document, body))
      (fails : store.load document = .error fault) : RefusesPage store source name fault
  | shapeless {document body : String} {value : Value}
      (split : FrontMatter.split? source = some (document, body))
      (loads : store.load document = .ok value)
      (given : FrontMatter.entriesOf? value = none) :
      RefusesPage store source name (.data (.frontMatterShape name))
  | pathless {entries : List (Value × Value)} {body : String}
      (reads : FrontMatter.read source name store.load = .ok (entries, body))
      (empty : pagePath name = []) :
      RefusesPage store source name (.data (.pageName name))
  | barred {entries : List (Value × Value)} {body part : String} {front rest : List String}
      {blocker : Value} (reads : FrontMatter.read source name store.load = .ok (entries, body))
      (path : pagePath name = front ++ part :: rest)
      (found : valueAt? front (.mapping store.pages) = some blocker)
      (scalar : blocker.entries? = none) :
      RefusesPage store source name (barred blocker rest)

/-- The values of a page cannot be stored exactly if its name has no path or the path is barred. -/
theorem insertPage_error_iff : store.insertPage name entries = .error fault ↔
    (pagePath name = [] ∧ fault = .data (.pageName name)) ∨
      placeAt (.mapping entries) (pagePath name) (.mapping store.pages) = .error fault := by
  unfold insertPage
  split
  · rename_i empty
    rw [Except.error.injEq, empty, eq_comm]
    exact ⟨fun same => .inl ⟨rfl, same⟩, fun refused => refused.elim And.right nofun⟩
  · rename_i named
    refine sequenced_error_iff.trans ⟨fun refused => ?_, fun refused => ?_⟩
    · rcases refused with fails | ⟨value, -, fails⟩
      · exact .inr fails
      · cases value <;> cases fails
    · exact refused.elim (fun empty => absurd empty.1 named) .inl

/-- A page is refused exactly for one of these reasons. -/
theorem addPage_error_iff :
    store.addPage source name = .error fault ↔ store.RefusesPage source name fault := by
  have stages : store.addPage source name = .error fault ↔
      FrontMatter.read source name store.load = .error fault ∨ ∃ parts,
        FrontMatter.read source name store.load = .ok parts ∧
          store.insertPage name parts.1 = .error fault := by
    refine sequenced_error_iff.trans (or_congr_right (exists_congr fun parts =>
      and_congr_right fun _ => sequenced_error_iff.trans ?_))
    exact ⟨fun fails => fails.elim id nofun, .inl⟩
  rw [stages]
  constructor
  · rintro (fails | ⟨parts, reads, fails⟩)
    · obtain ⟨document, body, split, fails | ⟨value, loads, given, rfl⟩⟩ :=
        FrontMatter.read_error_iff.mp fails
      · exact .unreadable split fails
      · exact .shapeless split loads given
    · rcases insertPage_error_iff.mp fails with ⟨empty, rfl⟩ | fails
      · exact .pathless reads empty
      · obtain ⟨front, part, rest, blocker, path, found, scalar, rfl⟩ := placeAt_error_iff.mp fails
        exact .barred reads path found scalar
  · intro refuses
    cases refuses with
    | unreadable split fails =>
      exact .inl (FrontMatter.read_error_iff.mpr ⟨_, _, split, .inl fails⟩)
    | shapeless split loads given =>
      exact .inl (FrontMatter.read_error_iff.mpr ⟨_, _, split, .inr ⟨_, loads, given, rfl⟩⟩)
    | pathless reads empty =>
      exact .inr ⟨_, reads, insertPage_error_iff.mpr (.inl ⟨empty, rfl⟩)⟩
    | barred reads path found scalar =>
      exact .inr ⟨_, reads, insertPage_error_iff.mpr
        (.inr (placeAt_error_iff.mpr ⟨_, _, _, _, path, found, scalar, rfl⟩))⟩

/-- Stores the values of a page in place. -/
def insertPageInPlace (store : DataStore) (name : String) (entries : List (Value × Value)) :
    Except Fault Unit × DataStore :=
  match pagePath name with
  | [] => (.error (.data (.pageName name)), store)
  | path =>
    let (result, pages) := placeInPlace (.mapping entries) path (.mapping store.pages)
    (result, { store with pages := pages.entries?.getD store.pages })

/-- In place as well the values of a page are stored, or nothing is changed. -/
theorem insertPageInPlace_eq (store : DataStore) (name : String)
    (entries : List (Value × Value)) :
    store.insertPageInPlace name entries = match store.insertPage name entries with
      | .ok after => (.ok (), after)
      | .error fault => (.error fault, store) := by
  unfold insertPageInPlace insertPage
  cases pagePath name with
  | nil => rfl
  | cons part rest =>
    dsimp only
    rw [placeInPlace_eq]
    cases placeAt (.mapping entries) (part :: rest) (.mapping store.pages) with
    | error fault => rfl
    | ok value => cases value <;> rfl

end DataStore

/-! ## Templates that are refused -/

/-- The blanks of a text are all of it exactly if nothing is left without them. -/
theorem Text.strip_isEmpty (text : String) : (strip text).isEmpty = isBlankText text := by
  rw [Bool.eq_iff_iff, String.isEmpty_iff, isBlankText, List.all_eq_true]
  constructor
  · exact blank_of_strip
  · intro blank
    rw [strip, trimChars, List.dropWhile_eq_nil_iff.mpr blank]
    rfl

namespace Session

variable {session after : Session} {name : String} {body : Body} {fault : Fault}

/-- A session in which a body is registered as the template of a name. -/
def enlisted (session : Session) (name : String) (body : Body) : Session :=
  { session with renderer := { session.renderer with
    templates := session.renderer.templates.enlist name body } }

/-- Registers a template like `addTemplate`, but stores the values of its page in place, so that
what was made of them stays when it fails. -/
def addTemplateInPlace (name : String) (body : Body) (source : Option String) : SessionM Unit := do
  let templates ← liftExcept ((← get).renderer.templates.register name body)
  update fun renderer => { renderer with templates }
  match source with
  | none => pure ()
  | some source =>
    let (entries, _) ← liftExcept (FrontMatter.read source name (← get).renderer.data.load)
    let (result, data) := (← get).renderer.data.insertPageInPlace name entries
    update fun renderer => { renderer with data }
    liftExcept result

/-- A name that is blank is refused before anything is done. -/
theorem addTemplate_blank (blank : Text.isBlankText name = true) (body : Body)
    (source : Option String) (session : Session) :
    addTemplate name body source session = (.error (.registry .blankTemplate), session) := by
  have refused : session.renderer.templates.register name body =
      .error (.registry .blankTemplate) := by
    rw [TemplateRegistry.register, Text.strip_isEmpty, blank]
    rfl
  unfold addTemplate
  rw [bind_step, get_step]
  dsimp only
  rw [bind_step, liftExcept_step, refused]

/-- Any other name has its body registered, and then its page stored or refused. -/
theorem addTemplate_named (filled : Text.isBlankText name = false) (body : Body)
    (source : Option String) (session : Session) :
    addTemplate name body source session = match source with
      | none => (.ok (), session.enlisted name body)
      | some source => match session.renderer.data.addPage source name with
        | .ok (data, _) => (.ok (), { session.enlisted name body with
            renderer := { (session.enlisted name body).renderer with data } })
        | .error fault => (.error fault, session.enlisted name body) := by
  have registered : session.renderer.templates.register name body =
      .ok (session.enlisted name body).renderer.templates := by
    rw [TemplateRegistry.register, Text.strip_isEmpty, filled]
    rfl
  unfold addTemplate
  rw [bind_step, get_step]
  dsimp only
  rw [bind_step, liftExcept_step, registered]
  dsimp only
  rw [bind_step, update, modify_step]
  cases source with
  | none => rfl
  | some source =>
    dsimp only
    rw [bind_step, get_step]
    dsimp only
    rw [bind_step, liftExcept_step]
    cases session.renderer.data.addPage source name with
    | error fault => rfl
    | ok page => rfl

/-- It makes no difference whether the values of the page are stored in place. -/
theorem addTemplateInPlace_eq (name : String) (body : Body) (source : Option String) :
    addTemplateInPlace name body source = addTemplate name body source := by
  funext session
  unfold addTemplateInPlace addTemplate
  rw [bind_step, bind_step, get_step]
  dsimp only
  rw [bind_step, bind_step, liftExcept_step]
  cases session.renderer.templates.register name body with
  | error fault => rfl
  | ok templates =>
    dsimp only
    rw [bind_step, bind_step, update, modify_step]
    cases source with
    | none => rfl
    | some source =>
      dsimp only
      simp only [bind_step, get_step, liftExcept_step]
      cases read : FrontMatter.read source name session.renderer.data.load with
      | error fault => rw [DataStore.addPage_unread read]
      | ok parts =>
        rw [DataStore.addPage_of_read read]
        dsimp only
        rw [DataStore.insertPageInPlace_eq]
        cases session.renderer.data.insertPage name parts.1 with
        | error fault => rfl
        | ok data => rfl

/-- A body that is registered is found under its name less the blanks, and what is registered under
other names stays. -/
theorem enlisted_get? (session : Session) (name : String) (body : Body) (other : String) :
    (session.enlisted name body).renderer.templates.bodies.get? other =
      if other = Text.strip name then some body
      else session.renderer.templates.bodies.get? other :=
  Table.get?_insert _ _ _ _

/-- A template is refused exactly if its name is blank, with nothing done, or if the page of its
source is, with its body registered all the same. Either way no data is changed, neither of files
nor of pages, and this also where pages are stored in place; nor is a template of another name. But
the body that was registered under the name is replaced, unless the name is blank. -/
theorem refused_template_leaves_pages (name : String) (body : Body) (source : Option String)
    (session : Session) :
    addTemplateInPlace name body source = addTemplate name body source ∧
      ∀ fault after,
        (addTemplate name body source session = (.error fault, after) ↔
          (Text.isBlankText name = true ∧ fault = .registry .blankTemplate ∧ after = session) ∨
          (Text.isBlankText name = false ∧
            (∃ text, source = some text ∧ session.renderer.data.RefusesPage text name fault) ∧
            after = session.enlisted name body)) ∧
        (addTemplate name body source session = (.error fault, after) →
          after.renderer.data = session.renderer.data ∧
          (∀ other, other ≠ Text.strip name → after.renderer.templates.bodies.get? other =
            session.renderer.templates.bodies.get? other) ∧
          (Text.isBlankText name = false →
            after.renderer.templates.bodies.get? (Text.strip name) = some body)) := by
  refine ⟨addTemplateInPlace_eq name body source, fun fault after => ?_⟩
  have outcome : addTemplate name body source session = (.error fault, after) ↔
      (Text.isBlankText name = true ∧ fault = .registry .blankTemplate ∧ after = session) ∨
      (Text.isBlankText name = false ∧
        (∃ text, source = some text ∧ session.renderer.data.RefusesPage text name fault) ∧
        after = session.enlisted name body) := by
    cases blank : Text.isBlankText name with
    | true =>
      rw [addTemplate_blank blank]
      constructor
      · intro failed
        cases failed
        exact .inl ⟨rfl, rfl, rfl⟩
      · rintro (⟨-, rfl, rfl⟩ | ⟨filled, -⟩)
        · rfl
        · cases filled
    | false =>
      rw [addTemplate_named blank]
      constructor
      · intro failed
        cases source with
        | none => cases failed
        | some text =>
          dsimp only at failed
          cases added : session.renderer.data.addPage text name with
          | ok page =>
            rw [added] at failed
            cases failed
          | error other =>
            rw [added] at failed
            cases failed
            exact .inr ⟨rfl, ⟨text, rfl, DataStore.addPage_error_iff.mp added⟩, rfl⟩
      · rintro (⟨filled, -⟩ | ⟨-, ⟨text, rfl, refuses⟩, rfl⟩)
        · cases filled
        · dsimp only
          rw [DataStore.addPage_error_iff.mpr refuses]
  refine ⟨outcome, fun failed => ?_⟩
  rcases outcome.mp failed with ⟨blank, -, rfl⟩ | ⟨filled, -, rfl⟩
  · refine ⟨rfl, fun _ _ => rfl, fun filled => ?_⟩
    rw [blank] at filled
    cases filled
  · refine ⟨rfl, fun other apart => ?_, fun _ => ?_⟩
    · rw [enlisted_get?, if_neg apart]
    · rw [enlisted_get?, if_pos rfl]

/-- A name without a path is refused for a page, and its body is registered. -/
theorem refused_template_leaves_pages_dots :
    let first : Session := (default : Session).enlisted ".." (.text "old")
    addTemplate ".." (.text "new") (some "plain") first =
        (.error (.data (.pageName "..")), first.enlisted ".." (.text "new")) ∧
      (first.enlisted ".." (.text "new")).renderer.data = first.renderer.data ∧
      (first.enlisted ".." (.text "new")).renderer.templates.bodies.get? ".." =
        some (.text "new") := by
  intro first
  have filled : Text.isBlankText ".." = false := by decide +kernel
  have strip : Text.strip ".." = ".." := by decide +kernel
  have reads : FrontMatter.read "plain" ".." first.renderer.data.load = .ok ([], "plain") := by
    have none : FrontMatter.split? "plain" = none := by decide +kernel
    rw [FrontMatter.read, none]
  obtain ⟨_, decides⟩ := refused_template_leaves_pages ".." (.text "new") (some "plain") first
  obtain ⟨outcome, leaves⟩ :=
    decides (.data (.pageName "..")) (first.enlisted ".." (.text "new"))
  have failed := outcome.mpr
    (.inr ⟨filled, ⟨"plain", rfl, .pathless reads (by decide +kernel)⟩, rfl⟩)
  obtain ⟨data, _, replaced⟩ := leaves failed
  exact ⟨failed, data, strip ▸ replaced filled⟩

end Session

end TemplateStream
