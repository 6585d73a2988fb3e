import TemplateStream.Proofs.Registering
import TemplateStream.Proofs.Resolving
import TemplateStream.Proofs.Suffixes

/-!
# The keys of extensions

A reader is registered under the folded form of an extension, and what is asked for is folded in the
same way. Folding cuts blanks before dots, so that a blank behind the dots stays at the front of the
key. Keys without such a blank are folded already: each of them finds the reader that was registered
for it last, however the extension was spelled then. A key with a blank at its front is listed, but
asked for by itself it is folded to another key.
-/

namespace TemplateStream

namespace Text

/-- A text that starts with a blank. -/
def Indented (text : String) : Prop :=
  ∃ c rest, text.toList = c :: rest ∧ isBlank c = true

/-- Where nothing is cut behind some characters, nothing is cut behind the last of them. -/
theorem rdropWhile_of_suffix {test : Char → Bool} {chars ending : List Char}
    (suffix : ending <:+ chars) (whole : chars.rdropWhile test = chars) :
    ending.rdropWhile test = ending := by
  rw [List.rdropWhile_eq_self_iff] at whole ⊢
  intro filled
  obtain ⟨front, rfl⟩ := suffix
  have last := whole (List.append_ne_nil_of_right_ne_nil front filled)
  rwa [List.getLast_append_of_ne_nil _ filled] at last

end Text

open Text

/-! ## Folded extensions -/

/-- What folding leaves of an extension. -/
structure Folded (key : String) : Prop where
  lowered : ∀ c ∈ key.toList, Lowered c
  undotted : ∀ rest, key.toList ≠ '.' :: rest
  closed : key.toList.rdropWhile isBlank = key.toList

/-- An extension is in lower case when it is folded, without dots in front or blanks behind. -/
theorem foldExtension_folded (extension : String) : Folded (foldExtension extension) := by
  have cut : (dropLeading '.' (strip extension)).toList =
      (strip extension).toList.dropWhile (· == '.') := by rw [dropLeading, String.toList_ofList]
  have folded : (foldExtension extension).toList =
      lowerAfter [] ((strip extension).toList.dropWhile (· == '.')) := by
    rw [foldExtension, lower, String.toList_ofList, cut]
  refine { lowered := ?lowered, undotted := ?undotted, closed := ?closed }
  case lowered =>
    intro d member
    rw [folded] at member
    obtain ⟨c, _, image, lowers, inside⟩ := mem_lowerAfter member
    exact lowers.lowered inside
  case undotted =>
    intro rest starts
    rw [folded] at starts
    cases chars : (strip extension).toList.dropWhile (· == '.') with
    | nil =>
      rw [chars] at starts
      cases starts
    | cons c more =>
      have first := test_of_dropWhile chars
      rw [chars, lowerAfter_cons] at starts
      have lowers := lowerBetween_lowers [] c more
      cases image : lowerBetween [] c more with
      | nil =>
        rw [image] at lowers
        cases lowers
      | cons d others =>
        rw [image] at lowers starts
        have dot : d = '.' := (List.cons.inj starts).1
        have same : '.' = c :=
          CharSet.Caseless.source dot_caseless lowers (dot ▸ List.mem_cons_self) (by decide)
        rw [← same] at first
        exact Bool.noConfusion first
  case closed =>
    have stripped : (strip extension).toList.rdropWhile isBlank = (strip extension).toList := by
      rw [strip, String.toList_ofList]
      exact List.rdropWhile_idempotent isBlank _
    rw [folded, rdropWhile_lowerAfter,
      rdropWhile_of_suffix (List.dropWhile_suffix (· == '.')) stripped]

namespace Folded

variable {key : String}

/-- What is folded already only has blanks cut at its front, and then dots. -/
theorem fold_eq (folded : Folded key) : foldExtension key = dropLeading '.' (strip key) := by
  have inside : ∀ c ∈ (dropLeading '.' (strip key)).toList, Lowered c := by
    intro c member
    rw [dropLeading, String.toList_ofList] at member
    exact folded.lowered c (mem_strip ((List.dropWhile_suffix (· == '.')).mem member))
  rw [foldExtension, lower, lowerAfter_lowered inside, String.ofList_toList]

/-- Folding changes nothing more unless a blank is left at the front. -/
theorem fold_eq_self_iff (folded : Folded key) : foldExtension key = key ↔ ¬Indented key := by
  rw [folded.fold_eq]
  constructor
  · rintro same ⟨c, rest, starts, blank⟩
    have shorter : (dropLeading '.' (strip key)).toList.length ≤ rest.length := by
      have cutDots : (dropLeading '.' (strip key)).toList.length ≤ (strip key).toList.length := by
        rw [dropLeading, String.toList_ofList]
        exact (List.dropWhile_suffix (· == '.')).length_le
      have cutBlanks : (strip key).toList.length ≤ (key.toList.dropWhile isBlank).length := by
        rw [strip, String.toList_ofList]
        exact (List.rdropWhile_prefix isBlank _).length_le
      rw [starts, List.dropWhile_cons_of_pos blank] at cutBlanks
      exact cutDots.trans (cutBlanks.trans (List.dropWhile_suffix isBlank).length_le)
    rw [same, starts, List.length_cons] at shorter
    omega
  · intro flush
    have front : key.toList.dropWhile isBlank = key.toList := by
      cases starts : key.toList with
      | nil => rfl
      | cons c rest =>
        exact List.dropWhile_cons_of_neg fun blank => flush ⟨c, rest, starts, blank⟩
    have stripped : strip key = key := by
      rw [strip, trimChars, front]
      show String.ofList (key.toList.rdropWhile isBlank) = key
      rw [folded.closed, String.ofList_toList]
    rw [stripped, dropLeading_other folded.undotted]

end Folded

/-! ## Registrations -/

/-- The entry that a registration makes. -/
def keyedEntry (entry : String × DataReader) : String × DataReader :=
  (foldExtension entry.1, entry.2)

/-- The last of several registrations under a key is that of a reader. -/
def LastReader (readers : List (String × DataReader)) (key : String) (reader : DataReader) : Prop :=
  ∃ earlier extension later, readers = earlier ++ (extension, reader) :: later ∧
    foldExtension extension = key ∧ ∀ other ∈ later, foldExtension other.1 ≠ key

/-- A table answers for registrations: what is asked for is found under its folded form, with the
reader that was registered for it last. -/
structure ExtensionTable.Answers (table : ExtensionTable) (readers : List (String × DataReader)) :
    Prop where
  sorted : table.extensions.Pairwise (· < ·)
  listed : ∀ key, key ∈ table.extensions ↔ ∃ entry ∈ readers, foldExtension entry.1 = key
  found : ∀ extension, foldExtension extension ∈ table.extensions →
    table.contains extension = true ∧
    ∃ reader, LastReader readers (foldExtension extension) reader ∧
      ∀ path, table.resolve extension path = .ok reader
  missing : ∀ extension, foldExtension extension ∉ table.extensions →
    table.contains extension = false ∧ ∀ path, table.resolve extension path =
      .error (.data (.unsupported (foldExtension extension) path))

/-- An extension is normal when something is left of it, which is its normal form. -/
theorem normalizeExtension_ok_iff {extension key : String} :
    normalizeExtension extension = .ok key ↔ foldExtension extension ≠ "" ∧
      foldExtension extension = key := by
  unfold normalizeExtension
  generalize foldExtension extension = form
  dsimp only
  by_cases empty : form = ""
  · rw [if_pos (by simpa using empty)]
    exact iff_of_false nofun fun filled => filled.1 empty
  · rw [if_neg (by simpa using empty), Except.ok.injEq]
    exact (and_iff_right empty).symm

namespace ExtensionTable

variable {table after : ExtensionTable} {extension key : String} {reader : DataReader}
  {readers : List (String × DataReader)}

/-- A registration is the entry of a reader that can be called under a key that is not empty. -/
theorem register_ok_iff : table.register extension reader = .ok after ↔
    reader.isCallable = true ∧ foldExtension extension ≠ "" ∧
      ⟨table.readers.insert (foldExtension extension) reader⟩ = after := by
  rw [register, guarded_ok_iff, sequenced_ok_iff, Bool.not_eq_false']
  simp only [normalizeExtension_ok_iff]
  refine and_congr_right fun _ => ?_
  constructor
  · rintro ⟨key, ⟨filled, form⟩, made⟩
    rw [form]
    exact ⟨form ▸ filled, Except.ok.inj made⟩
  · rintro ⟨filled, made⟩
    exact ⟨_, ⟨filled, rfl⟩, congrArg Except.ok made⟩

/-- Registrations enter the readers in order, each of which can be entered alone. -/
theorem foldlM_register (ran : readers.foldlM
      (fun table (entry : String × DataReader) => table.register entry.1 entry.2) table =
        .ok after) :
    after.readers = table.readers.insertAll (readers.map keyedEntry) ∧
      ∀ entry ∈ readers, entry.2.isCallable = true ∧ foldExtension entry.1 ≠ "" := by
  induction readers generalizing table with
  | nil =>
    cases ran
    exact ⟨rfl, List.forall_mem_nil _⟩
  | cons entry rest ih =>
    rw [List.foldlM_cons, sequenced_ok_iff] at ran
    obtain ⟨middle, registered, ran⟩ := ran
    obtain ⟨callable, filled, made⟩ := register_ok_iff.mp registered
    obtain ⟨entered, others⟩ := ih ran
    refine ⟨?_, List.forall_mem_cons.mpr ⟨⟨callable, filled⟩, others⟩⟩
    rw [entered, ← made, List.map_cons, Table.insertAll, Table.insertAll, List.foldl_cons,
      keyedEntry]

/-- The readers of a table of registrations. -/
theorem ofList_readers (registered : ofList readers = .ok table) :
    table.readers = Table.insertAll ∅ (readers.map keyedEntry) :=
  (foldlM_register registered).1

/-- What is under a key is the reader that was registered last. -/
theorem get?_eq_some_iff (registered : ofList readers = .ok table) :
    table.readers.get? key = some reader ↔ LastReader readers key reader := by
  rw [ofList_readers registered]
  constructor
  · intro found
    rw [Table.get?_insertAll, Table.get?_empty, Option.or_none, List.lookup_eq_some_iff] at found
    obtain ⟨newer, older, split, apart⟩ := found
    have ordered : readers.map keyedEntry = older.reverse ++ (key, reader) :: newer.reverse := by
      have reversed := congrArg List.reverse split
      rwa [List.reverse_reverse, List.reverse_append, List.reverse_cons, List.append_assoc,
        List.singleton_append] at reversed
    obtain ⟨earlier, others, rfl, _, behind⟩ := List.map_eq_append_iff.mp ordered
    obtain ⟨entry, later, rfl, entered, rest⟩ := List.map_eq_cons_iff.mp behind
    obtain ⟨form, rfl⟩ := Prod.mk.inj entered
    refine ⟨earlier, entry.1, later, rfl, form, fun other member same => ?_⟩
    have inside : keyedEntry other ∈ newer :=
      List.mem_reverse.mp (rest ▸ List.mem_map_of_mem member)
    exact bne_iff_ne.mp (apart _ inside) same.symm
  · rintro ⟨earlier, extension, later, rfl, rfl, others⟩
    rw [List.map_append, List.map_cons]
    refine Table.get?_insertAll_last _ fun other member => ?_
    obtain ⟨entry, inside, rfl⟩ := List.mem_map.mp member
    exact others entry inside

/-- A key is listed when there is a reader under it. -/
theorem mem_extensions :
    key ∈ table.extensions ↔ ∃ reader, table.readers.get? key = some reader := by
  rw [extensions, sortedNames, List.mem_mergeSort, ← Table.contains_iff, Table.contains,
    List.contains_iff_mem]

/-- A key is listed when an extension was registered under it. -/
theorem mem_extensions_iff (registered : ofList readers = .ok table) :
    key ∈ table.extensions ↔ ∃ entry ∈ readers, foldExtension entry.1 = key := by
  rw [mem_extensions, ofList_readers registered]
  simp only [Table.get?_insertAll, Table.get?_empty, Option.or_none]
  rw [← Option.isSome_iff_exists, List.lookup_isSome_iff]
  constructor
  · rintro ⟨_, member, same⟩
    obtain ⟨entry, inside, rfl⟩ := List.mem_map.mp (List.mem_reverse.mp member)
    exact ⟨entry, inside, (eq_of_beq same).symm⟩
  · rintro ⟨entry, inside, rfl⟩
    exact ⟨keyedEntry entry, List.mem_reverse.mpr (List.mem_map_of_mem inside), beq_self_eq_true _⟩

/-- A table that was made by registrations answers for them. -/
theorem ofList_answers (registered : ofList readers = .ok table) : table.Answers readers where
  sorted := Parameter.sortedNames_strict table.readers.nodup
  listed key := mem_extensions_iff registered
  found extension listed := by
    obtain ⟨reader, there⟩ := mem_extensions.mp listed
    refine ⟨Table.contains_iff.mpr ⟨reader, there⟩, reader, (get?_eq_some_iff registered).mp there,
      fun path => ?_⟩
    rw [resolve, there]
  missing extension unlisted := by
    have absent : table.readers.get? (foldExtension extension) = none := by
      rw [mem_extensions] at unlisted
      exact Option.eq_none_iff_forall_ne_some.mpr fun reader there => unlisted ⟨reader, there⟩
    refine ⟨Table.not_contains_iff.mpr absent, fun path => ?_⟩
    rw [resolve, absent]

/-- An extension that was registered among others can be registered alone. -/
theorem ofList_alone {entry : String × DataReader} (registered : ofList readers = .ok table)
    (member : entry ∈ readers) : ∃ alone, ofList [entry] = .ok alone ∧
      ∀ key, key ∈ alone.extensions ↔ key = foldExtension entry.1 := by
  obtain ⟨callable, filled⟩ := (foldlM_register registered).2 entry member
  have entered : register {} entry.1 entry.2 =
      .ok ⟨Table.insert ∅ (foldExtension entry.1) entry.2⟩ :=
    register_ok_iff.mpr ⟨callable, filled, rfl⟩
  have alone : ofList [entry] = .ok ⟨Table.insert ∅ (foldExtension entry.1) entry.2⟩ := by
    show (register {} entry.1 entry.2 >>= pure) = _
    rw [bind_pure, entered]
  refine ⟨_, alone, fun key => ?_⟩
  rw [mem_extensions_iff alone]
  simp [eq_comm]

/-- Extensions are listed by their keys in strictly ascending order, and what is asked for has the
reader that was registered last under its key, if its key is listed. A listed key that starts with
no blank is its own key, so that asked for by itself it has the reader that was registered for it
last. One that starts with a blank is not, and where it was registered alone it has no reader. -/
theorem keys_stable_unless_indented (registered : ofList readers = .ok table) :
    table.Answers readers ∧
      (∀ key ∈ table.extensions, ¬Indented key → table.contains key = true ∧
        ∃ reader, LastReader readers key reader ∧ ∀ path, table.resolve key path = .ok reader) ∧
      ∀ entry ∈ readers, Indented (foldExtension entry.1) →
        foldExtension (foldExtension entry.1) ≠ foldExtension entry.1 ∧
        ∃ alone, ofList [entry] = .ok alone ∧ foldExtension entry.1 ∈ alone.extensions ∧
          alone.contains (foldExtension entry.1) = false := by
  have answers := ofList_answers registered
  refine ⟨answers, fun key member flush => ?_, fun entry member indented => ?_⟩
  · obtain ⟨entry, _, rfl⟩ := (answers.listed key).mp member
    have same := (foldExtension_folded entry.1).fold_eq_self_iff.mpr flush
    have there := answers.found (foldExtension entry.1)
    rw [same] at there
    exact there member
  · have apart : foldExtension (foldExtension entry.1) ≠ foldExtension entry.1 := fun same =>
      (foldExtension_folded entry.1).fold_eq_self_iff.mp same indented
    obtain ⟨alone, registeredAlone, only⟩ := ofList_alone registered member
    refine ⟨apart, alone, registeredAlone, (only _).mpr rfl, ?_⟩
    exact ((ofList_answers registeredAlone).missing _ fun listed => apart ((only _).mp listed)).1

/-- Two spellings of one extension, and one with a blank behind the dot. -/
def spelledReaders : List (String × DataReader) :=
  [(".CSV", .text), (" json", .json), ("csv ", .size), (". json", .text)]

/-- The later spelling decides, and the extension with the blank is listed but not found. -/
theorem keys_stable_unless_indented_spelled :
    ∃ table, ofList spelledReaders = .ok table ∧ "csv" ∈ table.extensions ∧
      (∀ path, table.resolve "csv" path = .ok .size) ∧
      ∃ alone, ofList [(". json", .text)] = .ok alone ∧ " json" ∈ alone.extensions ∧
        alone.contains " json" = false := by
  have made : (ofList spelledReaders).toOption.isSome = true := by decide +kernel
  obtain ⟨table, found⟩ := Option.isSome_iff_exists.mp made
  have registered : ofList spelledReaders = .ok table := ok_of_toOption found
  obtain ⟨answers, stable, unstable⟩ := keys_stable_unless_indented registered
  have csv : foldExtension "csv " = "csv" := by decide +kernel
  have json : foldExtension ". json" = " json" := by decide +kernel
  have listed : "csv" ∈ table.extensions :=
    (answers.listed "csv").mpr ⟨("csv ", .size), by simp [spelledReaders], csv⟩
  refine ⟨table, registered, listed, ?_, ?_⟩
  · have flush : ¬Indented "csv" :=
      (foldExtension_folded "csv ").fold_eq_self_iff.mp (by decide +kernel)
    obtain ⟨_, reader, last, resolves⟩ := stable "csv" listed flush
    have size : LastReader spelledReaders "csv" .size :=
      ⟨[(".CSV", .text), (" json", .json)], "csv ", [(". json", .text)], rfl, csv, by
        rw [List.forall_mem_singleton, json]
        decide⟩
    have same := ((get?_eq_some_iff registered).mpr last).symm.trans
      ((get?_eq_some_iff registered).mpr size)
    rwa [Option.some.inj same] at resolves
  · have indented : Indented " json" := ⟨' ', ['j', 's', 'o', 'n'], rfl, by decide⟩
    have alone := unstable (". json", .text) (by simp [spelledReaders]) (json ▸ indented)
    rw [json] at alone
    exact alone.2

end ExtensionTable

end TemplateStream
