import Mathlib.Data.List.Induction
import TemplateStream.Data.Store
import TemplateStream.Proofs.Dictionaries

/-!
# The data of pages

The values of all pages lie in one tree, along the parts of their names. So pages whose names extend
each other share it: what is registered under a name replaces all that lay under that name, also
other pages, and adds an entry to the values of the pages above. Of all pages that were registered
the latest whose path overlaps with the path of a name decides what the data of that name is.
-/

namespace TemplateStream

/-! ## Entries under a key -/

namespace Value

/-- A value equals a text when it is that text, be it markup or not. -/
theorem same_text (value : Value) (key : String) :
    value.same (.text key) = (value.text? == some key) := by
  cases value with
  | float value =>
    simp only [same, text?, sameQuantity, quantity?]
    cases Decimal.quantity? value <;> rfl
  | _ => rfl

/-- A text equals itself. -/
theorem same_self (key : String) : same (.text key) (.text key) = true := by
  simp [same_text, text?]

variable {key other : String} {value content : Value} {entries : List (Value × Value)}

/-- A key that was given a value has that value. -/
theorem lookup_insertEntry_self (key : String) (value : Value) (entries : List (Value × Value)) :
    lookup (.text key) (insertEntry (.text key) value entries) = some value := by
  induction entries with
  | nil => rw [insertEntry, lookup_cons, if_pos (same_self key)]
  | cons entry rest ih =>
    rw [insertEntry]
    split
    · rename_i found
      rw [lookup_cons, if_pos found]
    · rename_i apart
      rw [lookup_cons, if_neg apart, ih]

/-- Other keys keep their values. -/
theorem lookup_insertEntry_other (value : Value) (entries : List (Value × Value))
    (differ : key ≠ other) :
    lookup (.text other) (insertEntry (.text key) value entries) =
      lookup (.text other) entries := by
  have apart {found : Value} (same : found.same (.text key) = true) :
      ¬found.same (.text other) = true := by
    rw [same_text, beq_iff_eq] at same ⊢
    rw [same]
    exact fun both => differ (Option.some.inj both)
  induction entries with
  | nil => rw [insertEntry, lookup_cons, if_neg (apart (same_self key))]
  | cons entry rest ih =>
    rw [insertEntry]
    split
    · rename_i found
      rw [lookup_cons, lookup_cons, if_neg (apart found), if_neg (apart found)]
    · rw [lookup_cons, lookup_cons, ih]

end Value

open Value

/-! ## Values under a path -/

/-- The entries of the mapping under a path of keys inside a value, none when there is no such
mapping. -/
def entriesAt (path : List String) (value : Value) : List (Value × Value) :=
  ((valueAt? path value).bind Value.entries?).getD []

section paths

variable {part : String} {path other rest : List String} {content target after : Value}
  {entries : List (Value × Value)}

/-- What lies in a mapping under a path lies in the value of the path's first part. -/
theorem valueAt?_mapping (part : String) (rest : List String) (entries : List (Value × Value)) :
    valueAt? (part :: rest) (.mapping entries) =
      (lookup (.text part) entries).bind (valueAt? rest) := rfl

/-- A mapping that is missing on the way counts as empty. -/
theorem entriesAt_mapping (part : String) (rest : List String) (entries : List (Value × Value)) :
    entriesAt (part :: rest) (.mapping entries) =
      entriesAt rest ((lookup (.text part) entries).getD (.mapping [])) := by
  rw [entriesAt, valueAt?_mapping]
  cases lookup (.text part) entries with
  | some value => rfl
  | none => cases rest <;> rfl

/-- In a mapping a value is put under the rest of a path, into what the first part leads to. -/
theorem placeAt_mapping (content : Value) (part : String) (rest : List String)
    (entries : List (Value × Value)) :
    placeAt content (part :: rest) (.mapping entries) =
      (placeAt content rest ((lookup (.text part) entries).getD (.mapping []))).map fun inner =>
        .mapping (insertEntry (.text part) inner entries) := by
  cases rest with
  | nil => rfl
  | cons next rest =>
    rw [placeAt]
    swap
    · exact List.cons_ne_nil next rest
    cases placeAt content (next :: rest) ((lookup (.text part) entries).getD (.mapping [])) <;> rfl

/-- A value is put under a path in a mapping only, by changing what lies there under the path's
first part. -/
theorem placeAt_cons (placed : placeAt content (part :: rest) target = .ok after) :
    ∃ entries inner, target = .mapping entries ∧
      placeAt content rest ((lookup (.text part) entries).getD (.mapping [])) = .ok inner ∧
      after = .mapping (insertEntry (.text part) inner entries) := by
  cases target with
  | mapping entries =>
    rw [placeAt_mapping] at placed
    cases inside : placeAt content rest ((lookup (.text part) entries).getD (.mapping [])) with
    | error fault =>
      rw [inside] at placed
      cases placed
    | ok inner =>
      rw [inside] at placed
      cases placed
      exact ⟨entries, inner, rfl, inside, rfl⟩
  | _ => cases rest <;> cases placed

/-- Under the path of a value lies what the value holds. -/
theorem placeAt_below (placed : placeAt content path target = .ok after) (rest : List String) :
    valueAt? (path ++ rest) after = valueAt? rest content := by
  induction path generalizing target after with
  | nil =>
    cases placed
    rfl
  | cons part path ih =>
    obtain ⟨entries, inner, rfl, inside, rfl⟩ := placeAt_cons placed
    rw [List.cons_append, valueAt?_mapping, lookup_insertEntry_self]
    exact ih inside

/-- The mappings above the path of a value keep their entries but the one that leads to it. -/
theorem placeAt_above (placed : placeAt content (path ++ part :: rest) target = .ok after) :
    ∃ inner, valueAt? rest inner = some content ∧
      entriesAt path after = insertEntry (.text part) inner (entriesAt path target) := by
  induction path generalizing target after with
  | nil =>
    obtain ⟨entries, inner, rfl, inside, rfl⟩ := placeAt_cons placed
    have within := placeAt_below inside []
    rw [List.append_nil] at within
    exact ⟨inner, within, rfl⟩
  | cons first path ih =>
    obtain ⟨entries, middle, rfl, inside, rfl⟩ := placeAt_cons placed
    obtain ⟨inner, within, above⟩ := ih inside
    refine ⟨inner, within, ?_⟩
    rw [entriesAt_mapping, lookup_insertEntry_self, entriesAt_mapping]
    exact above

/-- What does not lie along the path of a value stays as it is. -/
theorem placeAt_apart (placed : placeAt content path target = .ok after)
    (above : ¬other <+: path) (below : ¬path <+: other) :
    valueAt? other after = valueAt? other target := by
  induction path generalizing other target after with
  | nil => exact (below List.nil_prefix).elim
  | cons part path ih =>
    obtain ⟨entries, inner, rfl, inside, rfl⟩ := placeAt_cons placed
    cases other with
    | nil => exact (above List.nil_prefix).elim
    | cons first other =>
      rw [valueAt?_mapping, valueAt?_mapping]
      by_cases same : part = first
      · subst same
        rw [List.cons_prefix_cons] at above below
        have stays := ih inside (fun shorter => above ⟨rfl, shorter⟩) fun longer =>
          below ⟨rfl, longer⟩
        rw [lookup_insertEntry_self, Option.bind_some, stays]
        -- A mapping that was missing on the way was put there empty, so nothing lay in it.
        cases lookup (.text part) entries with
        | some value => rfl
        | none =>
          cases other with
          | nil => exact (above ⟨rfl, List.nil_prefix⟩).elim
          | cons => rfl
      · rw [lookup_insertEntry_other inner entries same]

end paths

/-! ## Registered pages -/

/-- A page that was registered: the path of its name, and the values in front of its source. -/
structure Page where
  path : List String
  entries : List (Value × Value)

/-- Whether one of two paths extends the other. -/
def Page.Overlaps (page : Page) (path : List String) : Prop :=
  page.path <+: path ∨ path <+: page.path

namespace DataStore

variable {origin store after : DataStore} {pages later : List Page} {page : Page}
  {path rest : List String} {part source name body : String} {entries : List (Value × Value)}
  {load : String → Except Fault Value}

/-- A store in which pages were registered in order, each of them with success. -/
inductive Registers (origin : DataStore) : List Page → DataStore → Prop where
  | none : origin.Registers [] origin
  | adds {pages : List Page} {store after : DataStore} {source name body : String}
      {entries : List (Value × Value)} (registered : origin.Registers pages store)
      (added : store.addPage source name = .ok (after, entries, body)) :
      origin.Registers (pages ++ [⟨pagePath name, entries⟩]) after

/-- The values of a page lie under the path of its name. -/
theorem pageData_eq (store : DataStore) (name : String) :
    store.pageData name = entriesAt (pagePath name) (.mapping store.pages) := rfl

/-- The values of a page are stored by putting them under the path of its name, which is not empty,
and nothing else of the store changes. -/
theorem insertPage_ok (inserted : store.insertPage name entries = .ok after) :
    placeAt (.mapping entries) (pagePath name) (.mapping store.pages) =
      .ok (.mapping after.pages) ∧ after = { store with pages := after.pages } := by
  unfold insertPage at inserted
  split at inserted
  · cases inserted
  · rename_i named
    cases placed : placeAt (.mapping entries) (pagePath name) (.mapping store.pages) with
    | error fault =>
      rw [placed] at inserted
      cases inserted
    | ok value =>
      rw [placed] at inserted
      obtain ⟨part, rest, split⟩ := List.exists_cons_of_ne_nil named
      rw [split] at placed
      obtain ⟨_, inner, _, _, rfl⟩ := placeAt_cons placed
      cases inserted
      exact ⟨rfl, rfl⟩

/-- A source that cannot be read is not stored. -/
theorem addPage_unread {fault : Fault} (fails : FrontMatter.read source name load = .error fault) :
    store.addPage source name load = .error fault := by
  rw [addPage, fails]
  rfl

/-- What a source gives is stored as the values of the page. -/
theorem addPage_of_read {parts : List (Value × Value) × String}
    (reads : FrontMatter.read source name load = .ok parts) : store.addPage source name load =
      (store.insertPage name parts.1).map fun after => (after, parts.1, parts.2) := by
  rw [addPage, reads]
  show (do pure (← store.insertPage name parts.1, parts.1, parts.2)) = _
  cases store.insertPage name parts.1 <;> rfl

/-- A page that is registered was read of its source, and its values were stored. -/
theorem addPage_ok (added : store.addPage source name load = .ok (after, entries, body)) :
    FrontMatter.read source name load = .ok (entries, body) ∧
      store.insertPage name entries = .ok after := by
  cases reads : FrontMatter.read source name load with
  | error fault =>
    rw [addPage_unread reads] at added
    cases added
  | ok parts =>
    rw [addPage_of_read reads] at added
    cases inserted : store.insertPage name parts.1 with
    | error fault =>
      rw [inserted] at added
      cases added
    | ok placed =>
      rw [inserted] at added
      cases added
      exact ⟨rfl, inserted⟩

/-- A page that is registered has a name with a path, and its values are put there. -/
theorem addPage_places (added : store.addPage source name = .ok (after, entries, body)) :
    placeAt (.mapping entries) (pagePath name) (.mapping store.pages) =
      .ok (.mapping after.pages) :=
  (insertPage_ok (addPage_ok added).2).1

/-- The last of some pages was registered behind the others. -/
theorem Registers.last (registered : origin.Registers (pages ++ [page]) after) :
    ∃ store, origin.Registers pages store ∧
      placeAt (.mapping page.entries) page.path (.mapping store.pages) =
        .ok (.mapping after.pages) := by
  generalize whole : pages ++ [page] = all at registered
  cases registered with
  | none => cases List.append_ne_nil_of_right_ne_nil pages (List.cons_ne_nil page []) whole
  | adds registered added =>
    obtain ⟨rfl, last⟩ := List.append_inj' whole rfl
    cases last
    exact ⟨_, registered, addPage_places added⟩

/-- Pages that do not overlap with a path change nothing under it. -/
theorem Registers.apart (registered : origin.Registers (pages ++ later) after)
    (apart : ∀ page ∈ later, ¬page.Overlaps path) :
    ∃ store, origin.Registers pages store ∧
      valueAt? path (.mapping after.pages) = valueAt? path (.mapping store.pages) := by
  -- The pages are taken off from the end, since the store is known after the last of them.
  induction later using List.reverseRecOn generalizing after with
  | nil => exact ⟨after, (List.append_nil pages) ▸ registered, rfl⟩
  | append_singleton later page ih =>
    rw [← List.append_assoc] at registered
    obtain ⟨middle, before, placed⟩ := registered.last
    obtain ⟨store, registered, same⟩ :=
      ih before fun other member => apart other (List.mem_append_left _ member)
    have differs := apart page (List.mem_append_right _ List.mem_cons_self)
    have stays := placeAt_apart placed (fun above => differs (.inr above)) fun below =>
      differs (.inl below)
    exact ⟨store, registered, stays.trans same⟩

/-- What a store becomes when a page is registered, with the values and the body of its source. -/
def paged (store : DataStore) (source name : String) :
    DataStore × List (Value × Value) × String :=
  (store.addPage source name).toOption.getD (store, [], source)

/-- A page that can be registered is one more page. -/
theorem Registers.more (registered : origin.Registers pages store) (source name : String)
    (added : (store.addPage source name).toOption.isSome = true) :
    origin.Registers (pages ++ [⟨pagePath name, (store.paged source name).2.1⟩])
      (store.paged source name).1 := by
  have result : store.addPage source name = .ok (store.paged source name) := by
    cases result : store.addPage source name with
    | error fault =>
      rw [result] at added
      cases added
    | ok value => rw [paged, result, Except.toOption, Option.getD_some]
  exact registered.adds result

end DataStore

open DataStore

/-- The latest page whose path overlaps with that of a name decides what the data of the name is. If
the name lies at or under that page, its data is what the values of the page hold there: just these
values under the page's own name. If the name lies above that page, its data is what it was, with an
entry that leads to the values of the page. Without such a page there is no data. -/
theorem pages_overlap (origin : DataStore) {pages : List Page} {store : DataStore}
    (registered : origin.clear.Registers pages store) (name : String) :
    ((∀ page ∈ pages, ¬page.Overlaps (pagePath name)) → store.pageData name = []) ∧
      ∀ earlier page later, pages = earlier ++ page :: later →
        (∀ other ∈ later, ¬other.Overlaps (pagePath name)) →
        (page.path = pagePath name → store.pageData name = page.entries) ∧
        (∀ rest, pagePath name = page.path ++ rest →
          store.pageData name = entriesAt rest (.mapping page.entries)) ∧
        ∀ part rest, page.path = pagePath name ++ part :: rest →
          ∃ before inner, origin.clear.Registers earlier before ∧
            valueAt? rest inner = some (.mapping page.entries) ∧
            store.pageData name = insertEntry (.text part) inner (before.pageData name) := by
  constructor
  · intro apart
    have behindNone : origin.clear.Registers ([] ++ pages) store := registered
    obtain ⟨first, begun, same⟩ := behindNone.apart apart
    generalize empty : ([] : List Page) = none at begun
    cases begun with
    | none =>
      rw [pageData_eq, entriesAt, same]
      cases pagePath name <;> rfl
    | adds => cases List.append_ne_nil_of_right_ne_nil _ (List.cons_ne_nil _ []) empty.symm
  · rintro earlier page later rfl apart
    rw [List.append_cons] at registered
    obtain ⟨middle, latest, same⟩ := registered.apart apart
    obtain ⟨before, begun, placed⟩ := latest.last
    have data : store.pageData name = entriesAt (pagePath name) (.mapping middle.pages) := by
      rw [pageData_eq, entriesAt, same, entriesAt]
    have below (rest : List String) (split : pagePath name = page.path ++ rest) :
        store.pageData name = entriesAt rest (.mapping page.entries) := by
      rw [data, split, entriesAt, placeAt_below placed, entriesAt]
    refine ⟨fun own => ?_, below, fun part rest split => ?_⟩
    · rw [below [] (by rw [own, List.append_nil])]
      rfl
    · rw [split] at placed
      obtain ⟨inner, within, above⟩ := placeAt_above placed
      exact ⟨before, inner, begun, within, data.trans above⟩

/-- A page under another is gone when that other is registered again, whose data is its own then;
before that, the page above had an entry for it. -/
theorem pages_overlap_docs :
    let docs := "---\ntitle: Docs\n---\n"
    let intro := "---\ntitle: Intro\n---\n"
    let first := ({} : DataStore).clear.paged docs "docs"
    let second := first.1.paged intro "docs/intro"
    let third := second.1.paged docs "docs"
    let pages : List Page :=
      [⟨["docs"], first.2.1⟩, ⟨["docs", "intro"], second.2.1⟩, ⟨["docs"], third.2.1⟩]
    ({} : DataStore).clear.Registers pages third.1 ∧ third.1.pageData "docs/intro" = [] ∧
      third.1.pageData "docs" = third.2.1 ∧ third.2.1.length = 1 ∧
      (second.1.pageData "docs").length = 2 ∧ (second.1.pageData "docs/intro").length = 1 := by
  intro docs intro first second third pages
  have one : ({} : DataStore).clear.Registers [⟨["docs"], first.2.1⟩] first.1 :=
    Registers.none.more docs "docs" (by decide +kernel)
  have two : ({} : DataStore).clear.Registers [⟨["docs"], first.2.1⟩,
      ⟨["docs", "intro"], second.2.1⟩] second.1 := one.more intro "docs/intro" (by decide +kernel)
  have three : ({} : DataStore).clear.Registers pages third.1 :=
    two.more docs "docs" (by decide +kernel)
  obtain ⟨_, decides⟩ := pages_overlap {} three "docs/intro"
  obtain ⟨_, below, _⟩ := decides [_, _] _ [] rfl nofun
  obtain ⟨_, decidesAbove⟩ := pages_overlap {} three "docs"
  obtain ⟨own, _⟩ := decidesAbove [_, _] _ [] rfl nofun
  refine ⟨three, (below ["intro"] (by decide +kernel)).trans ?_, own (by decide +kernel),
    by decide +kernel, by decide +kernel, by decide +kernel⟩
  exact List.isEmpty_iff.mp (by decide +kernel)

end TemplateStream
