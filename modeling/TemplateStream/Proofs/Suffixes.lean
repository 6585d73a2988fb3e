import TemplateStream.Proofs.Lowering
import TemplateStream.Proofs.Steps
import TemplateStream.Proofs.Tables
import TemplateStream.Session.DataFiles

/-!
# Which files have a reader

A walk through a directory and the loading of a single file look for a reader by the suffix of the
file, but cut its dot and its blanks in different orders. They look under the same key unless a
blank stands right behind the dot and something else further on; then the walk keeps the blank that
the loading drops, and one of them can find a reader where the other finds none.
-/

namespace TemplateStream

namespace Text

/-- A text that does not start with a character has nothing of it cut at its front. -/
theorem dropLeading_other {c : Char} {text : String} (other : ∀ rest, text.toList ≠ c :: rest) :
    dropLeading c text = text := by
  rw [dropLeading]
  cases chars : text.toList with
  | nil => exact String.toList_inj.mp (by rw [List.dropWhile_nil, String.toList_ofList, chars])
  | cons d rest =>
    have apart : d ≠ c := by
      rintro rfl
      exact other rest chars
    rw [List.dropWhile_cons_of_neg (by simpa using apart), ← chars, String.ofList_toList]

/-- A text without the character has nothing cut. -/
theorem dropLeading_absent {c : Char} {text : String} (absent : c ∉ text.toList) :
    dropLeading c text = text :=
  dropLeading_other fun _ starts => absent (starts ▸ List.mem_cons_self)

/-- A dot at the front of a text without further dots is cut. -/
theorem dropLeading_dot {chars : List Char} (absent : '.' ∉ chars) :
    dropLeading '.' (String.ofList ('.' :: chars)) = String.ofList chars := by
  have same := @dropLeading_absent '.' (String.ofList chars) (by simpa using absent)
  rw [dropLeading, String.toList_ofList] at same
  rw [dropLeading, String.toList_ofList, List.dropWhile_cons_of_pos (by decide), same]

/-- A text less its blanks has only characters of the text. -/
theorem mem_strip {c : Char} {text : String} (member : c ∈ (strip text).toList) :
    c ∈ text.toList := by
  rw [strip, String.toList_ofList] at member
  have inside : c ∈ text.toList.dropWhile isBlank :=
    (List.rdropWhile_prefix isBlank _).mem member
  exact (List.dropWhile_suffix isBlank).mem inside

/-- What is left when characters are dropped at the front does not start with one of them. -/
theorem test_of_dropWhile {test : Char → Bool} {c : Char} {chars rest : List Char}
    (left : chars.dropWhile test = c :: rest) : test c = false := by
  have first := List.head?_dropWhile_not test chars
  rw [left] at first
  simpa using first

/-- A text less its blanks does not start with one. -/
theorem strip_head {c : Char} {rest : List Char} {text : String}
    (starts : (strip text).toList = c :: rest) : isBlank c = false := by
  rw [strip, String.toList_ofList] at starts
  have front : c :: rest <+: text.toList.dropWhile isBlank :=
    starts ▸ List.rdropWhile_prefix isBlank _
  obtain ⟨more, same⟩ := front
  exact test_of_dropWhile same.symm

/-- A text of which nothing is left without its blanks is blank. -/
theorem blank_of_strip {text : String} (empty : strip text = "") :
    ∀ c ∈ text.toList, isBlank c = true := by
  have nothing : (text.toList.dropWhile isBlank).rdropWhile isBlank = [] := by
    have lists := congrArg String.toList empty
    rwa [strip, String.toList_ofList] at lists
  have all := List.rdropWhile_eq_nil_iff.mp nothing
  apply List.dropWhile_eq_nil_iff.mp
  by_contra left
  have first := List.head_dropWhile_not isBlank left
  rw [all _ (List.head_mem left)] at first
  cases first

/-- The lower case of a text that is not empty is not empty. -/
theorem lower_ne_empty {text : String} (filled : text ≠ "") : lower text ≠ "" := by
  intro empty
  have lists := congrArg String.toList empty
  rw [lower, String.toList_ofList] at lists
  cases chars : text.toList with
  | nil => exact filled (String.toList_inj.mp chars)
  | cons c rest =>
    rw [chars, lowerAfter_cons] at lists
    have nothing : lowerBetween [] c rest = [] := (List.append_eq_nil_iff.mp lists).1
    have lowers := lowerBetween_lowers [] c rest
    rw [nothing] at lowers
    cases lowers

/-- Blanks behind a character that is not blank are cut without it. -/
theorem rdropWhile_cons {c : Char} (filled : isBlank c = false) (chars : List Char) :
    (c :: chars).rdropWhile isBlank = c :: chars.rdropWhile isBlank := by
  induction chars using List.reverseRecOn with
  | nil => rw [List.rdropWhile_singleton, filled]; rfl
  | append_singleton front last ih =>
    rw [← List.cons_append]
    by_cases blank : isBlank last = true
    · rw [List.rdropWhile_concat_pos _ _ _ blank, List.rdropWhile_concat_pos _ _ _ blank, ih]
    · rw [List.rdropWhile_concat_neg _ _ _ blank, List.rdropWhile_concat_neg _ _ _ blank]
      rfl

end Text

open Text

namespace Path

/-- The key under which a walk looks for a reader of a file. -/
def walkKey (path : Path) : String := foldExtension path.suffix

/-- The key under which the loading of a file looks for its reader. -/
def loadKey (path : Path) : String := foldExtension (DataFile.mk path).extension

/-- The suffix of a path has a blank right behind its dot and something else further on. -/
def Padded (path : Path) : Prop :=
  ∃ c rest, path.suffix = String.ofList ('.' :: c :: rest) ∧ isBlank c = true ∧
    ∃ d ∈ rest, isBlank d = false

/-- A suffix is empty, or it is a dot with characters other than dots behind it. -/
theorem suffix_cases (path : Path) :
    path.suffix = "" ∨
      ∃ chars, path.suffix = String.ofList ('.' :: chars) ∧ '.' ∉ chars := by
  unfold suffix splitName
  dsimp only
  split
  · exact .inl rfl
  · right
    refine ⟨_, rfl, fun member => ?_⟩
    have kept := List.mem_takeWhile_imp (List.mem_reverse.mp member)
    simp at kept

variable {path : Path} {chars : List Char}

/-- No dots stand behind the dot of a suffix. -/
theorem dotless (path : Path) (dotted : path.suffix = String.ofList ('.' :: chars)) :
    '.' ∉ chars := by
  cases path.suffix_cases with
  | inl empty =>
    have lists := congrArg String.toList (empty.symm.trans dotted)
    rw [String.toList_ofList] at lists
    simp at lists
  | inr some =>
    have ⟨others, ending, absent⟩ := some
    have lists := congrArg String.toList (ending.symm.trans dotted)
    rw [String.toList_ofList, String.toList_ofList] at lists
    exact (List.cons.inj lists).2 ▸ absent

/-- A walk looks for the characters behind the dot less the blanks at their end. -/
theorem walkKey_of_suffix (dotted : path.suffix = String.ofList ('.' :: chars))
    (absent : '.' ∉ chars) :
    path.walkKey = lower (String.ofList (chars.rdropWhile isBlank)) := by
  have stripped : strip path.suffix = String.ofList ('.' :: chars.rdropWhile isBlank) := by
    rw [dotted, strip, String.toList_ofList]
    show String.ofList ((('.' :: chars).dropWhile isBlank).rdropWhile isBlank) = _
    rw [List.dropWhile_cons_of_neg (by decide), rdropWhile_cons (by decide)]
  have kept : '.' ∉ chars.rdropWhile isBlank := fun member =>
    absent ((List.rdropWhile_prefix isBlank chars).mem member)
  rw [walkKey, foldExtension, stripped, dropLeading_dot kept]

/-- The loading of a file looks for the characters behind the dot less the blanks around them. -/
theorem loadKey_of_suffix (dotted : path.suffix = String.ofList ('.' :: chars))
    (absent : '.' ∉ chars) :
    path.loadKey = lower (strip (String.ofList chars)) := by
  have clear : '.' ∉ (strip (String.ofList chars)).toList := by
    intro member
    have inside := mem_strip member
    rw [String.toList_ofList] at inside
    exact absent inside
  -- The extension of the file is in lower case when it is folded, which takes that once more.
  rw [loadKey, DataFile.extension, dotted, dropLeading_dot absent, foldExtension, strip_lower,
    dropLeading_absent (lower_dots clear), lower_lower]

/-- Characters that do not begin with a blank before something else have the same left when the
blanks at the front are cut as well. -/
theorem strip_of_unpadded (fine : ∀ c rest, chars = c :: rest → isBlank c = true →
    ∀ d ∈ rest, isBlank d = true) :
    strip (String.ofList chars) = String.ofList (chars.rdropWhile isBlank) := by
  rw [strip, String.toList_ofList]
  show String.ofList ((chars.dropWhile isBlank).rdropWhile isBlank) = _
  cases chars with
  | nil => rfl
  | cons c rest =>
    by_cases blank : isBlank c = true
    · have all : ∀ d ∈ c :: rest, isBlank d = true := by
        intro d member
        cases member with
        | head => exact blank
        | tail _ later => exact fine c rest rfl blank d later
      rw [List.dropWhile_eq_nil_iff.mpr all, List.rdropWhile_eq_nil_iff.mpr all]
      rfl
    · rw [List.dropWhile_cons_of_neg blank]

/-- The key of a walk begins with the blank of a padded suffix. -/
theorem walkKey_starts {c : Char} {rest : List Char} (absent : '.' ∉ c :: rest)
    (dotted : path.suffix = String.ofList ('.' :: c :: rest)) (blank : isBlank c = true)
    (filled : ∃ d ∈ rest, isBlank d = false) : ∃ more, path.walkKey.toList = c :: more := by
  have ⟨d, inside, visible⟩ := filled
  have nonempty : (c :: rest).rdropWhile isBlank ≠ [] := by
    intro empty
    have all := List.rdropWhile_eq_nil_iff.mp empty d (List.mem_cons_of_mem _ inside)
    rw [visible] at all
    cases all
  rw [walkKey_of_suffix dotted absent, lower, String.toList_ofList, String.toList_ofList]
  cases kept : (c :: rest).rdropWhile isBlank with
  | nil => exact absurd kept nonempty
  | cons first more =>
    have front : first :: more <+: c :: rest := kept ▸ List.rdropWhile_prefix isBlank _
    have same : first = c := (List.cons_prefix_cons.mp front).1
    rw [lowerAfter_cons, same, lowerBetween_blank blank]
    exact ⟨_, rfl⟩

/-- Both look under the same key unless the suffix is padded. -/
theorem walkKey_eq_loadKey (path : Path) : path.walkKey = path.loadKey ↔ ¬path.Padded := by
  constructor
  · rintro same ⟨c, rest, dotted, blank, filled⟩
    have absent := path.dotless dotted
    have ⟨more, starts⟩ := walkKey_starts absent dotted blank filled
    rw [same, loadKey_of_suffix dotted absent, ← strip_lower] at starts
    rw [strip_head starts] at blank
    cases blank
  · intro unpadded
    cases path.suffix_cases with
    | inl empty =>
      rw [walkKey, loadKey, DataFile.extension, empty]
      decide
    | inr some =>
      have ⟨chars, dotted, absent⟩ := some
      rw [walkKey_of_suffix dotted absent, loadKey_of_suffix dotted absent, strip_of_unpadded]
      intro c rest begins blank d inside
      by_contra visible
      exact unpadded ⟨c, rest, begins ▸ dotted, blank, d, inside, by simpa using visible⟩

/-- The suffix of a padded path has characters that can be looked for. -/
theorem Padded.keys_ne_empty (padded : path.Padded) : path.walkKey ≠ "" ∧ path.loadKey ≠ "" := by
  have ⟨c, rest, dotted, blank, d, inside, visible⟩ := padded
  have absent := path.dotless dotted
  have ⟨more, starts⟩ := walkKey_starts absent dotted blank ⟨d, inside, visible⟩
  constructor
  · intro empty
    rw [empty] at starts
    simp at starts
  · rw [loadKey_of_suffix dotted absent]
    apply lower_ne_empty
    intro empty
    have all := blank_of_strip empty d
    rw [String.toList_ofList, visible] at all
    cases all (List.mem_cons_of_mem _ inside)

end Path

namespace Session

/-- A walk passes over a file: whatever is done about the files that are loaded, it goes on with
the next file as if there were none. -/
def Skips (session : Session) (path : Path) : Prop :=
  ∀ (notice : FileNotice) (rest : List Path),
    loadFiles notice (path :: rest) session = loadFiles notice rest session

/-- The loading of a file fails for want of a reader, and changes nothing. -/
def Refuses (session : Session) (path : Path) : Prop :=
  ∀ notice : FileNotice, loadFile notice path session =
    (.error (.data (.unsupported path.loadKey (some path.text))), session)

/-- The readers of a session. -/
def readers (session : Session) : Table DataReader :=
  session.renderer.data.extensions.readers

variable {session : Session} {path : Path}

/-- A file that has no reader is not loaded. -/
theorem loadFile_of_missing (missing : session.readers.get? path.loadKey = none)
    (notice : FileNotice) : loadFile notice path session =
      (.error (.data (.unsupported path.loadKey (some path.text))), session) := by
  have unresolved : session.renderer.data.extensions.resolve (DataFile.mk path).extension
      (some path.text) = .error (.data (.unsupported path.loadKey (some path.text))) := by
    unfold ExtensionTable.resolve
    exact missing ▸ rfl
  rw [loadFile, bind_step, get_step]
  dsimp only
  rw [bind_step, liftExcept_step, unresolved]

/-- A file that has a reader is read, and that is remembered even if it fails. -/
theorem loadFile_of_reader {reader : DataReader}
    (found : session.readers.get? path.loadKey = some reader) :
    ∃ result, (loadFile (fun _ _ _ => pure ()) path session).2.history =
      session.history ++ [.read ⟨path⟩ result] := by
  have resolved : session.renderer.data.extensions.resolve (DataFile.mk path).extension
      (some path.text) = .ok reader := by
    unfold ExtensionTable.resolve
    exact found ▸ rfl
  let load := session.renderer.data.load
  refine ⟨reader.read session.files ⟨path⟩ load, ?_⟩
  rw [loadFile, bind_step, get_step]
  dsimp only
  rw [bind_step, liftExcept_step, resolved]
  dsimp only
  rw [happen, bind_step, modify_step]
  dsimp only
  rw [bind_step, liftExcept_step]
  cases (do splitStorageKey (← reader.read session.files ⟨path⟩ load) (DataFile.mk path).name :
    Except Fault (String × Value)) <;> rfl

/-- A walk loads a file if there is a reader under the key of a walk, and else goes on. -/
theorem loadFiles_cons (notice : FileNotice) (path : Path) (rest : List Path)
    (session : Session) : loadFiles notice (path :: rest) session =
      if session.readers.contains path.walkKey then
        (do
          let key ← loadFile notice path
          pure (key :: (← loadFiles notice rest))) session
      else loadFiles notice rest session := by
  rw [loadFiles, bind_step, get_step]
  show (if session.readers.contains path.walkKey = true then _ else _ : SessionM _) session = _
  split <;> rfl

/-- A walk passes over the files that have no reader under the key of a walk. -/
theorem skips_iff : session.Skips path ↔ session.readers.contains path.walkKey = false := by
  constructor
  · intro skips
    by_contra present
    rw [Bool.not_eq_false] at present
    have same := skips (fun _ _ _ => pure ()) []
    rw [loadFiles_cons, if_pos present, bind_step] at same
    cases found : session.readers.get? path.loadKey with
    | none =>
      rw [loadFile_of_missing found] at same
      cases same
    | some reader =>
      have ⟨result, grown⟩ := loadFile_of_reader found
      have history := congrArg (fun ran => ran.2.history) same
      cases ran : loadFile (fun _ _ _ => pure ()) path session with
      | mk outcome after =>
        rw [ran] at history grown
        have equal : session.history ++ [.read ⟨path⟩ result] = session.history := by
          cases outcome <;> exact grown.symm.trans history
        simp at equal
  · intro absent notice rest
    rw [loadFiles_cons, absent]
    rfl

/-- The files that cannot be loaded are those that have no reader under the key of the loading. -/
theorem refuses_iff : session.Refuses path ↔ session.readers.contains path.loadKey = false := by
  rw [Table.not_contains_iff]
  constructor
  · intro refuses
    cases found : session.readers.get? path.loadKey with
    | none => rfl
    | some reader =>
      have ⟨result, grown⟩ := loadFile_of_reader found
      rw [refuses] at grown
      simp at grown
  · exact loadFile_of_missing

end Session

namespace ExtensionTable

/-- A reader that is registered alone is found under the form of its extension only. -/
theorem ofList_single {extension : String} (filled : foldExtension extension ≠ "") :
    ∃ table, ofList [(extension, .text)] = .ok table ∧
      ∀ key, table.readers.contains key = true ↔ key = foldExtension extension := by
  refine ⟨⟨Table.insert {} (foldExtension extension) .text⟩, ?_, fun key => ?_⟩
  · have normal : normalizeExtension extension = .ok (foldExtension extension) := by
      unfold normalizeExtension
      dsimp only
      rw [if_neg (by simpa using filled)]
    show (register {} extension .text >>= pure) = _
    rw [bind_pure, register, normal]
    rfl
  · rw [Table.contains_iff, Table.get?_insert]
    by_cases same : key = foldExtension extension <;> simp [same]

end ExtensionTable

open Session

/-- A walk passes over exactly the files that cannot be loaded, whatever readers there are, unless
the suffix of the file has a blank right behind its dot and something else further on. For each
such file there is a reader that the walk finds and the loading does not, so that the walk fails,
and one that the loading finds and the walk does not. -/
theorem support_agrees_unless_padded (path : Path) :
    (¬path.Padded → ∀ session : Session, session.Skips path ↔ session.Refuses path) ∧
    (path.Padded →
      (∃ table, ExtensionTable.ofList [(path.suffix, .text)] = .ok table ∧
        ∀ session : Session, session.renderer.data.extensions = table →
          ¬session.Skips path ∧ session.Refuses path) ∧
      (∃ table, ExtensionTable.ofList [((DataFile.mk path).extension, .text)] = .ok table ∧
        ∀ session : Session, session.renderer.data.extensions = table →
          session.Skips path ∧ ¬session.Refuses path)) := by
  constructor
  · intro unpadded session
    rw [skips_iff, refuses_iff, path.walkKey_eq_loadKey.mpr unpadded]
  · intro padded
    have apart : path.walkKey ≠ path.loadKey := fun same =>
      path.walkKey_eq_loadKey.mp same padded
    have ⟨walked, loaded⟩ := padded.keys_ne_empty
    -- One reader is enough: it is registered under the key of one of the two, not of the other.
    constructor
    · have ⟨table, registered, only⟩ := ExtensionTable.ofList_single walked
      refine ⟨table, registered, fun session equipped => ?_⟩
      rw [skips_iff, refuses_iff, readers, equipped, Bool.not_eq_false, ← Bool.not_eq_true, only,
        only]
      exact ⟨rfl, fun same => apart same.symm⟩
    · have ⟨table, registered, only⟩ := ExtensionTable.ofList_single loaded
      refine ⟨table, registered, fun session equipped => ?_⟩
      rw [skips_iff, refuses_iff, readers, equipped, Bool.not_eq_false, ← Bool.not_eq_true, only,
        only]
      exact ⟨apart, rfl⟩

/-- A suffix without blanks, and one with a blank behind its dot. -/
theorem support_agrees_unless_padded_json :
    (∀ session : Session, session.Skips (.ofText "a.json") ↔ session.Refuses (.ofText "a.json")) ∧
    ∃ table, ExtensionTable.ofList [(" json", .text)] = .ok table ∧
      ∀ session : Session, session.renderer.data.extensions = table →
        session.Skips (.ofText "a. json") ∧ ¬session.Refuses (.ofText "a. json") := by
  have unpadded : ¬(Path.ofText "a.json").Padded :=
    (Path.walkKey_eq_loadKey _).mp (by decide +kernel)
  have padded : (Path.ofText "a. json").Padded :=
    ⟨' ', ['j', 's', 'o', 'n'], by decide +kernel, by decide, 'j', by decide, by decide⟩
  have extension : (DataFile.mk (.ofText "a. json")).extension = " json" := by decide +kernel
  have ⟨_, loaded⟩ := (support_agrees_unless_padded (.ofText "a. json")).2 padded
  rw [extension] at loaded
  exact ⟨(support_agrees_unless_padded (.ofText "a.json")).1 unpadded, loaded⟩

end TemplateStream
