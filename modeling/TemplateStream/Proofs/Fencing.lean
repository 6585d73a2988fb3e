import TemplateStream.Proofs.Pages

/-!
# Documents between fences

A document ends at the first line that is a fence, except that its own first line is never taken
for one: a break has to stand in front of the closing fence, and the break behind the opening fence
is spent. So every block of at least one line is split off exactly, whatever fences follow in the
body, and a block without lines is not: its closing fence counts as the first line of a document
that ends at some later fence, or as part of a source without a document.
-/

namespace TemplateStream

/-! ## Fences and lines -/

namespace FrontMatter

/-- A fence: three dashes and any padding behind them. -/
def IsFence (line : List Char) : Prop :=
  ∃ padding, line = '-' :: '-' :: '-' :: padding ∧ ∀ c ∈ padding, isPadding c = true

/-- A break: a line feed, in front of which a carriage return may stand. -/
def IsBreak (chars : List Char) : Prop := chars = ['\n'] ∨ chars = ['\r', '\n']

/-- A line without anything that belongs to a break. -/
def IsUnbroken (line : List Char) : Prop := '\n' ∉ line ∧ '\r' ∉ line

/-- A source that begins with a fence which a break ends, and what follows the break. -/
def Opens (source rest : List Char) : Prop :=
  ∃ fence ending, IsFence fence ∧ IsBreak ending ∧ source = fence ++ (ending ++ rest)

/-- A text that begins with a fence which a break or the end of the text ends, and what follows. -/
inductive Closes : List Char → List Char → Prop where
  | line {fence ending rest : List Char} (dashes : IsFence fence) (breaks : IsBreak ending) :
      Closes (fence ++ (ending ++ rest)) rest
  | last {fence : List Char} (dashes : IsFence fence) : Closes fence []

/-- A text that has a closing fence on some line behind its first. -/
def ClosesLater (text : List Char) : Prop :=
  ∃ before ending rest body, IsBreak ending ∧ Closes rest body ∧ text = before ++ (ending ++ rest)

/-- Lines, each of them ended by a line feed. -/
def ended (lines : List String) : String := String.join (lines.map (· ++ "\n"))

variable {c : Char} {chars rest body text line fence ending : List Char}

/-- What begins with a break does not begin with padding. -/
theorem IsBreak.unpadded (breaks : IsBreak ending) (rest : List Char) :
    ∀ c, (ending ++ rest).head? = some c → isPadding c = false := by
  intro c first
  rcases breaks with rfl | rfl
  · cases first
    rfl
  · cases first
    rfl

/-- A fence is unbroken. -/
theorem IsFence.unbroken (dashes : IsFence fence) : IsUnbroken fence := by
  obtain ⟨padding, rfl, padded⟩ := dashes
  have feed : '\n' ∉ padding := fun member => nomatch padded '\n' member
  have carriage : '\r' ∉ padding := fun member => nomatch padded '\r' member
  exact ⟨by simp [feed], by simp [carriage]⟩

theorem afterBreak?_eq_some_iff :
    afterBreak? chars = some rest ↔ ∃ ending, IsBreak ending ∧ chars = ending ++ rest := by
  constructor
  · intro follows
    unfold afterBreak? at follows
    split at follows
    · cases follows
      exact ⟨['\n'], .inl rfl, rfl⟩
    · cases follows
      exact ⟨['\r', '\n'], .inr rfl, rfl⟩
    · cases follows
  · rintro ⟨ending, rfl | rfl, rfl⟩
    · rfl
    · rfl

/-- What follows dashes and padding follows a fence. -/
theorem fence_of_afterDashes? (follows : afterDashes? chars = some rest) :
    ∃ fence, IsFence fence ∧ chars = fence ++ rest := by
  unfold afterDashes? at follows
  split at follows
  · rename_i behind
    cases follows
    have padded : ∀ c ∈ behind.takeWhile isPadding, isPadding c = true :=
      List.all_eq_true.mp List.all_takeWhile
    have whole : behind = behind.takeWhile isPadding ++ behind.dropWhile isPadding :=
      List.takeWhile_append_dropWhile.symm
    exact ⟨_, ⟨_, rfl, padded⟩, congrArg (fun rest => '-' :: '-' :: '-' :: rest) whole⟩
  · cases follows

/-- What follows a fence and is not padding follows the dashes and the padding. -/
theorem afterDashes?_fence (dashes : IsFence fence)
    (unpadded : ∀ c, rest.head? = some c → isPadding c = false) :
    afterDashes? (fence ++ rest) = some rest := by
  obtain ⟨padding, rfl, padded⟩ := dashes
  show some ((padding ++ rest).dropWhile isPadding) = some rest
  rw [List.dropWhile_append_of_pos padded]
  cases rest with
  | nil => rfl
  | cons c rest =>
    have apart : ¬isPadding c = true := by simp [unpadded c rfl]
    rw [List.dropWhile_cons_of_neg apart]

theorem afterOpening?_eq_some_iff : afterOpening? chars = some rest ↔ Opens chars rest := by
  rw [afterOpening?, Option.bind_eq_some_iff]
  constructor
  · rintro ⟨behind, dashed, broken⟩
    obtain ⟨fence, dashes, rfl⟩ := fence_of_afterDashes? dashed
    obtain ⟨ending, breaks, rfl⟩ := afterBreak?_eq_some_iff.mp broken
    exact ⟨fence, ending, dashes, breaks, rfl⟩
  · rintro ⟨fence, ending, dashes, breaks, rfl⟩
    exact ⟨_, afterDashes?_fence dashes (breaks.unpadded rest),
      afterBreak?_eq_some_iff.mpr ⟨ending, breaks, rfl⟩⟩

theorem afterClosing?_eq_some_iff : afterClosing? chars = some body ↔
    ∃ ending rest, IsBreak ending ∧ Closes rest body ∧ chars = ending ++ rest := by
  have steps : afterClosing? chars = (afterBreak? chars).bind fun line =>
      (afterDashes? line).bind fun rest => if rest.isEmpty then some [] else afterBreak? rest := rfl
  rw [steps, Option.bind_eq_some_iff]
  constructor
  · rintro ⟨line, broken, closed⟩
    obtain ⟨ending, breaks, rfl⟩ := afterBreak?_eq_some_iff.mp broken
    obtain ⟨behind, dashed, ends⟩ := Option.bind_eq_some_iff.mp closed
    obtain ⟨fence, dashes, rfl⟩ := fence_of_afterDashes? dashed
    refine ⟨ending, _, breaks, ?_, rfl⟩
    cases behind with
    | nil =>
      cases ends
      rw [List.append_nil]
      exact .last dashes
    | cons c behind =>
      obtain ⟨last, breaksToo, split⟩ := afterBreak?_eq_some_iff.mp ends
      rw [split]
      exact .line dashes breaksToo
  · rintro ⟨ending, rest, breaks, closes, rfl⟩
    refine ⟨rest, afterBreak?_eq_some_iff.mpr ⟨ending, breaks, rfl⟩, ?_⟩
    rw [Option.bind_eq_some_iff]
    cases closes with
    | @line fence last _ dashes breaksToo =>
      refine ⟨last ++ body, afterDashes?_fence dashes (breaksToo.unpadded body), ?_⟩
      have filled : (last ++ body).isEmpty = false := by
        rcases breaksToo with rfl | rfl
        · rfl
        · rfl
      rw [if_neg (by simp [filled])]
      exact afterBreak?_eq_some_iff.mpr ⟨last, breaksToo, rfl⟩
    | last dashes =>
      refine ⟨[], ?_, rfl⟩
      have unpadded : ∀ c, ([] : List Char).head? = some c → isPadding c = false := nofun
      simpa using afterDashes?_fence dashes unpadded

/-! ## The first closing fence -/

/-- No closing fence is sought where there is no break. -/
theorem afterClosing?_of_unbroken (feed : c ≠ '\n') (carriage : c ≠ '\r') :
    afterClosing? (c :: rest) = none := by
  rw [Option.eq_none_iff_forall_ne_some]
  intro body closes
  obtain ⟨ending, behind, breaks, -, same⟩ := afterClosing?_eq_some_iff.mp closes
  rcases breaks with rfl | rfl
  · exact feed (List.cons.inj same).1
  · exact carriage (List.cons.inj same).1

/-- A text is split exactly if it has a closing fence behind its first line. -/
theorem splitAtClosing?_eq_none_iff : splitAtClosing? text = none ↔ ¬ClosesLater text := by
  induction text with
  | nil =>
    refine iff_of_true rfl ?_
    rintro ⟨before, ending, rest, body, rfl | rfl, -, same⟩
    · simp at same
    · simp at same
  | cons c text ih =>
    rw [splitAtClosing?]
    cases closes : afterClosing? (c :: text) with
    | some body =>
      obtain ⟨ending, rest, breaks, closes, same⟩ := afterClosing?_eq_some_iff.mp closes
      have later : ClosesLater (c :: text) := ⟨[], ending, rest, body, breaks, closes, same⟩
      exact iff_of_false nofun fun apart => apart later
    | none =>
      dsimp only
      rw [Option.map_eq_none_iff, ih]
      refine not_congr ⟨?_, ?_⟩
      · rintro ⟨before, ending, rest, body, breaks, closesToo, rfl⟩
        exact ⟨c :: before, ending, rest, body, breaks, closesToo, rfl⟩
      · rintro ⟨before, ending, rest, body, breaks, closesToo, same⟩
        cases before with
        | nil =>
          have here := afterClosing?_eq_some_iff.mpr ⟨ending, rest, breaks, closesToo, same⟩
          rw [closes] at here
          cases here
        | cons d before =>
          exact ⟨before, ending, rest, body, breaks, closesToo, (List.cons.inj same).2⟩

/-- An unbroken line belongs to the document whole, with the line feed behind it unless a closing
fence follows that. -/
theorem splitAtClosing?_line (unbroken : IsUnbroken line) (rest : List Char) :
    splitAtClosing? (line ++ '\n' :: rest) = match afterClosing? ('\n' :: rest) with
      | some body => some (line, body)
      | none => (splitAtClosing? rest).map fun (document, body) =>
          (line ++ '\n' :: document, body) := by
  induction line with
  | nil => rfl
  | cons c line ih =>
    have feed : c ≠ '\n' := fun same => unbroken.1 (same ▸ List.mem_cons_self)
    have carriage : c ≠ '\r' := fun same => unbroken.2 (same ▸ List.mem_cons_self)
    have later := ih ⟨fun member => unbroken.1 (List.mem_cons_of_mem c member),
      fun member => unbroken.2 (List.mem_cons_of_mem c member)⟩
    rw [List.cons_append, splitAtClosing?, afterClosing?_of_unbroken feed carriage]
    dsimp only
    rw [later]
    cases afterClosing? ('\n' :: rest) with
    | some body => rfl
    | none => cases splitAtClosing? rest <;> rfl

/-- A line that is no fence closes nothing. -/
theorem afterClosing?_of_line (unbroken : IsUnbroken line) (plain : ¬IsFence line)
    (rest : List Char) : afterClosing? ('\n' :: (line ++ '\n' :: rest)) = none := by
  rw [Option.eq_none_iff_forall_ne_some]
  intro body closes
  obtain ⟨ending, behind, breaks, closes, same⟩ := afterClosing?_eq_some_iff.mp closes
  have begins : line ++ '\n' :: rest = behind := by
    rcases breaks with rfl | rfl
    · exact (List.cons.inj same).2
    · exact absurd (List.cons.inj same).1 (by decide)
  -- Both the line and the fence are what stands before the first break, so they are the same.
  let inLine : Char → Bool := fun c => c != '\n' && c != '\r'
  have whole {front : List Char} (unbroken : IsUnbroken front) {c : Char} (ends : inLine c = false)
      (others : List Char) : (front ++ c :: others).takeWhile inLine = front := by
    have inside : ∀ d ∈ front, inLine d = true := by
      intro d member
      have feed : d ≠ '\n' := fun equal => unbroken.1 (equal ▸ member)
      have carriage : d ≠ '\r' := fun equal => unbroken.2 (equal ▸ member)
      simp [inLine, feed, carriage]
    rw [List.takeWhile_append_of_pos inside, List.takeWhile_cons_of_neg (by simp [ends]),
      List.append_nil]
  have lineFront := whole unbroken (c := '\n') rfl rest
  rw [begins] at lineFront
  cases closes with
  | @line fence last _ dashes breaksToo =>
    have fenceFront : (fence ++ (last ++ body)).takeWhile inLine = fence := by
      rcases breaksToo with rfl | rfl
      · exact whole dashes.unbroken rfl body
      · exact whole dashes.unbroken rfl ('\n' :: body)
    have same : line = fence := lineFront.symm.trans fenceFront
    exact plain (same ▸ dashes)
  | last dashes =>
    exact dashes.unbroken.1 (begins ▸ by simp)

/-- Lines up to the first fence behind the first of them are split from what follows that fence. -/
theorem splitAtClosing?_lines {first closing : List Char} {others : List (List Char)}
    (unbroken : ∀ line ∈ first :: others, IsUnbroken line)
    (plain : ∀ line ∈ others, ¬IsFence line) (dashes : IsFence closing) (body : List Char) :
    splitAtClosing? ((first :: others).flatMap (· ++ ['\n']) ++ (closing ++ '\n' :: body)) =
      some (List.intercalate ['\n'] (first :: others), body) := by
  induction others generalizing first with
  | nil =>
    have closes : afterClosing? ('\n' :: (closing ++ '\n' :: body)) = some body :=
      afterClosing?_eq_some_iff.mpr ⟨['\n'], _, .inl rfl, .line dashes (.inl rfl), rfl⟩
    have step := splitAtClosing?_line (unbroken first List.mem_cons_self) (closing ++ '\n' :: body)
    rw [closes] at step
    simpa using step
  | cons next others ih =>
    have later := ih (fun line member => unbroken line (List.mem_cons_of_mem first member))
      fun line member => plain line (List.mem_cons_of_mem next member)
    have goesOn : afterClosing? ('\n' :: ((next :: others).flatMap (· ++ ['\n']) ++
        (closing ++ '\n' :: body))) = none := by
      have line := afterClosing?_of_line
        (unbroken next (List.mem_cons_of_mem first List.mem_cons_self))
        (plain next List.mem_cons_self)
        (others.flatMap (· ++ ['\n']) ++ (closing ++ '\n' :: body))
      simpa using line
    have step := splitAtClosing?_line (unbroken first List.mem_cons_self)
      ((next :: others).flatMap (· ++ ['\n']) ++ (closing ++ '\n' :: body))
    rw [goesOn, later] at step
    rw [List.intercalate_cons_cons, List.flatMap_cons]
    simpa using step

/-- So are those of a text. -/
theorem split?_lines {opening first closing : String} {others : List String}
    (opens : IsFence opening.toList) (closes : IsFence closing.toList)
    (unbroken : ∀ line ∈ first :: others, IsUnbroken line.toList)
    (plain : ∀ line ∈ others, ¬IsFence line.toList) (body : String) :
    split? (ended (opening :: first :: others ++ [closing]) ++ body) =
      some ("\n".intercalate (first :: others), body) := by
  have characters : (ended (opening :: first :: others ++ [closing]) ++ body).toList =
      opening.toList ++ (['\n'] ++ (((first :: others).map String.toList).flatMap (· ++ ['\n']) ++
        (closing.toList ++ '\n' :: body.toList))) := by
    simp [ended, String.toList_join, List.flatMap_map]
  have begins := afterOpening?_eq_some_iff.mpr ⟨_, _, opens, .inl rfl, characters⟩
  have characterLines : ∀ line ∈ first.toList :: others.map String.toList, IsUnbroken line := by
    simpa using unbroken
  have lines := splitAtClosing?_lines characterLines (by simpa using plain) closes body.toList
  have steps : split? (ended (opening :: first :: others ++ [closing]) ++ body) =
      (afterOpening? (ended (opening :: first :: others ++ [closing]) ++ body).toList).bind
        fun rest => (splitAtClosing? rest).bind fun (document, body) =>
          some (String.ofList document, String.ofList body) := rfl
  rw [steps, begins, Option.bind_some, List.map_cons, lines, Option.bind_some]
  dsimp only
  have document : String.ofList (List.intercalate ['\n']
      (first.toList :: others.map String.toList)) = "\n".intercalate (first :: others) := by
    rw [← String.toList_inj, String.toList_intercalate, String.toList_ofList, List.map_cons]
    rfl
  rw [document, String.ofList_toList]

/-- A source without a fence at its front, or without a later one that closes, is not split. -/
theorem split?_eq_none_iff {source : String} :
    split? source = none ↔ ∀ rest, Opens source.toList rest → ¬ClosesLater rest := by
  have steps : split? source = (afterOpening? source.toList).bind fun rest =>
      (splitAtClosing? rest).bind fun (document, body) =>
        some (String.ofList document, String.ofList body) := rfl
  rw [steps, Option.bind_eq_none_iff]
  refine forall_congr' fun rest => ?_
  rw [afterOpening?_eq_some_iff, ← splitAtClosing?_eq_none_iff]
  refine imp_congr_right fun _ => ?_
  cases splitAtClosing? rest with
  | none => exact iff_of_true rfl rfl
  | some parts => exact iff_of_false nofun nofun

/-- The entries that a document gives: those of a mapping, none if it holds nothing. -/
def entriesOf? : Value → Option (List (Value × Value))
  | .null => some []
  | .mapping entries => some entries
  | _ => none

/-- The source of a page is read as what its document gives, which has to be entries. -/
theorem read_of_split {source document body : String}
    (split : split? source = some (document, body)) (page : String)
    (load : String → Except Fault Value) :
    read source page load = (load document).bind fun value =>
      (entriesOf? value).elim (.error (.data (.frontMatterShape page))) fun entries =>
        .ok (entries, body) := by
  rw [read, split]
  dsimp only
  cases load document with
  | error fault => rfl
  | ok value => cases value <;> rfl

/-- What was read of a source is what its document gives, whatever page it is for. -/
theorem entries_of_read {source document body page rest : String}
    {load : String → Except Fault Value} {entries : List (Value × Value)}
    (split : split? source = some (document, body))
    (reads : read source page load = .ok (entries, rest)) :
    (load document).toOption.bind entriesOf? = some entries := by
  rw [read_of_split split] at reads
  cases loads : load document with
  | error fault =>
    rw [loads] at reads
    cases reads
  | ok value =>
    rw [loads, Except.bind] at reads
    show entriesOf? value = some entries
    cases given : entriesOf? value with
    | none =>
      rw [given] at reads
      cases reads
    | some others =>
      rw [given] at reads
      cases reads
      rfl

end FrontMatter

/-! ## The page that a source becomes -/

open Value

/-- A value under a path of keys, with nothing beside it. -/
def nested : List String → Value → Value
  | [], content => content
  | part :: rest, content => .mapping [(.text part, nested rest content)]

section

variable {part : String} {path rest : List String} {content : Value}

/-- Under its path lies the value. -/
theorem valueAt?_nested (path : List String) (content : Value) :
    valueAt? path (nested path content) = some content := by
  induction path with
  | nil => rfl
  | cons part path ih =>
    rw [nested, valueAt?_mapping, lookup_cons, if_pos (same_self part)]
    exact ih

/-- Where nothing is, there is nothing but the value once it is put there. -/
theorem placeAt_bare (named : path ≠ []) (content : Value) :
    placeAt content path (.mapping []) = .ok (nested path content) := by
  induction path with
  | nil => exact absurd rfl named
  | cons part path ih =>
    cases path with
    | nil => rfl
    | cons next rest =>
      have inner := ih (List.cons_ne_nil next rest)
      show (do
        let placed ← placeAt content (next :: rest) (.mapping [])
        pure (.mapping (insertEntry (.text part) placed [])) : Except Fault Value) = _
      rw [inner]
      rfl

end

namespace DataStore

variable {store after : DataStore} {source name body : String} {entries : List (Value × Value)}
  {load : String → Except Fault Value}

/-- A store whose only page has these values, and which is otherwise as before. -/
structure HoldsPage (store : DataStore) (name : String) (entries : List (Value × Value))
    (after : DataStore) : Prop where
  pages : Value.mapping after.pages = nested (pagePath name) (.mapping entries)
  others : after = { store with pages := after.pages }

/-- The values of the only page are the data of every name that lies at, above or under it. -/
theorem HoldsPage.pageData (holds : store.HoldsPage name entries after) (other : String) :
    after.pageData other =
      entriesAt (pagePath other) (nested (pagePath name) (.mapping entries)) := by
  rw [pageData_eq, holds.pages]

/-- They are the data of its name. -/
theorem HoldsPage.own (holds : store.HoldsPage name entries after) :
    after.pageData name = entries := by
  rw [holds.pageData, entriesAt, valueAt?_nested]
  rfl

/-- If there are no other pages, the page is the only one then. -/
theorem addPage_alone (bare : store.pages = []) (named : pagePath name ≠ [])
    (reads : FrontMatter.read source name load = .ok (entries, body)) :
    ∃ after, store.addPage source name load = .ok (after, entries, body) ∧
      store.HoldsPage name entries after := by
  obtain ⟨part, rest, split⟩ := List.exists_cons_of_ne_nil named
  have placed := placeAt_bare named (.mapping entries)
  have inserted : store.insertPage name entries =
      .ok { store with pages := [(.text part, nested rest (.mapping entries))] } := by
    unfold insertPage
    rw [split] at placed ⊢
    dsimp only
    rw [bare, placed]
    rfl
  have pages :
      nested (part :: rest) (.mapping entries) = nested (pagePath name) (.mapping entries) :=
    congrArg (nested · (.mapping entries)) split.symm
  refine ⟨{ store with pages := [(.text part, nested rest (.mapping entries))] }, ?_, ⟨pages, rfl⟩⟩
  rw [addPage_of_read reads, inserted]
  rfl

/-- A page that is added where there is none has these values and this body. -/
def Adds (store : DataStore) (source name : String) (load : String → Except Fault Value)
    (entries : List (Value × Value)) (body : String) : Prop :=
  ∃ after, store.addPage source name load = .ok (after, entries, body) ∧
    store.HoldsPage name entries after ∧ after.pageData name = entries

open FrontMatter

/-- A source of lines between two fences, of which none but the first may be a fence itself, and a
body: where there are no other pages, whatever reads documents is given the lines and decides. Its
fault is passed on; what is neither null nor a mapping is refused; else the entries are those of the
page, and the body comes back as it is. The fence behind a block without lines is its first line. A
source that does not begin with a fence, or has no later fence behind a line of its document, comes
back whole, and the page is empty. -/
theorem front_matter_split_unless_empty (load : String → Except Fault Value)
    (bare : store.pages = []) (named : pagePath name ≠ []) :
    (∀ (opening first closing : String) (others : List String) (body : String),
      IsFence opening.toList → IsFence closing.toList →
      (∀ line ∈ first :: others, IsUnbroken line.toList) →
      (∀ line ∈ others, ¬IsFence line.toList) →
      let source := ended (opening :: first :: others ++ [closing]) ++ body
      let document := "\n".intercalate (first :: others)
      (∀ fault, load document = .error fault → store.addPage source name load = .error fault) ∧
        ∀ value, load document = .ok value →
          (∀ entries, entriesOf? value = some entries → store.Adds source name load entries body) ∧
          (store.addPage source name load = .error (.data (.frontMatterShape name)) ↔
            entriesOf? value = none)) ∧
    ∀ source : String, (∀ rest, Opens source.toList rest → ¬ClosesLater rest) →
      store.Adds source name load [] source := by
  have adds {source body : String} {entries : List (Value × Value)}
      (reads : FrontMatter.read source name load = .ok (entries, body)) :
      store.Adds source name load entries body := by
    obtain ⟨after, added, holds⟩ := addPage_alone bare named reads
    exact ⟨after, added, holds, holds.own⟩
  constructor
  · intro opening first closing others body opens closes unbroken plain source document
    have reads := read_of_split (split?_lines opens closes unbroken plain body) name load
    constructor
    · intro fault fails
      rw [fails] at reads
      exact addPage_unread reads
    · intro value loads
      rw [loads] at reads
      cases given : entriesOf? value with
      | some entries =>
        have added := adds (reads.trans (by rw [Except.bind, given, Option.elim]))
        refine ⟨fun _ same => Option.some.inj same ▸ added, iff_of_false ?_ nofun⟩
        obtain ⟨after, succeeds, -⟩ := added
        rw [succeeds]
        nofun
      | none =>
        have refused : store.addPage source name load = .error (.data (.frontMatterShape name)) :=
          addPage_unread (reads.trans (by rw [Except.bind, given, Option.elim]))
        exact ⟨nofun, iff_of_true refused rfl⟩
  · intro source apart
    have whole := split?_eq_none_iff.mpr apart
    refine adds ?_
    rw [FrontMatter.read, whole]

/-- A block of one line is split from a body with a further fence, and a block without lines is
not. -/
theorem front_matter_split_unless_empty_home :
    let load : String → Except Fault Value :=
      fun document => .ok (.mapping [(.text "document", .text document)])
    ({} : DataStore).Adds "---\nlead\n---\nbody\n---\n" "docs/home" load
        [(.text "document", .text "lead")] "body\n---\n" ∧
      ({} : DataStore).Adds "---\n---\nbody" "docs/home" load [] "---\n---\nbody" := by
  intro load
  have named : pagePath "docs/home" ≠ [] := by decide
  have bare : ({} : DataStore).pages = [] := rfl
  have ⟨fenced, whole⟩ := front_matter_split_unless_empty load bare named
  have dashes : FrontMatter.IsFence "---".toList := ⟨[], rfl, nofun⟩
  have ⟨_, decides⟩ := fenced "---" "lead" "---" [] "body\n---\n" dashes dashes
    (by simp [FrontMatter.IsUnbroken]) nofun
  have none : FrontMatter.split? "---\n---\nbody" = none := by decide
  exact ⟨(decides _ rfl).1 _ rfl, whole _ (FrontMatter.split?_eq_none_iff.mp none)⟩

end DataStore

end TemplateStream
