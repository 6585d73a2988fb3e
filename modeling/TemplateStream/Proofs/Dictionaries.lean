import TemplateStream.Proofs.Keys

/-!
# Entries of mappings

The entries of a mapping have keys of which no two are equal, and stay so when a value is given to
a key. Entries that are laid over others override these in place and follow them otherwise. Laying
layers over each other is associative, order of the entries included, and a key can be erased before
or after. What a key has among layers is what it has in the last one that it is in.
-/

namespace TemplateStream.Value

/-- Entries whose keys can be keys. -/
def Keyed (entries : List (Value × Value)) : Prop := ∀ entry ∈ entries, entry.1.unkeyed? = none

/-- Entries of a mapping: their keys can be keys, and no two of them are equal. -/
structure IsDictionary (entries : List (Value × Value)) : Prop where
  keyed : Keyed entries
  distinct : entries.Pairwise fun first second => same first.1 second.1 = false

instance (entries : List (Value × Value)) : Decidable (Keyed entries) :=
  inferInstanceAs (Decidable (∀ entry ∈ entries, entry.1.unkeyed? = none))

instance (entries : List (Value × Value)) : Decidable (IsDictionary entries) :=
  decidable_of_iff
    (Keyed entries ∧ entries.Pairwise fun first second => same first.1 second.1 = false)
    ⟨fun both => ⟨both.1, both.2⟩, fun dictionary => ⟨dictionary.keyed, dictionary.distinct⟩⟩

section laws

variable {key other value content : Value} {entries layer call : List (Value × Value)}

/-- What is among entries after a value was given to a key is under that key or was there. -/
theorem mem_insertEntry {entry : Value × Value}
    (member : entry ∈ insertEntry key value entries) :
    entry.1 = key ∨ ∃ former ∈ entries, former.1 = entry.1 := by
  induction entries with
  | nil =>
    rw [insertEntry, List.mem_singleton] at member
    exact .inl (congrArg Prod.fst member)
  | cons first rest ih =>
    rw [insertEntry] at member
    split at member
    · rcases List.mem_cons.mp member with rfl | inside
      · exact .inr ⟨first, List.mem_cons_self, rfl⟩
      · exact .inr ⟨entry, List.mem_cons_of_mem _ inside, rfl⟩
    · rcases List.mem_cons.mp member with rfl | inside
      · exact .inr ⟨entry, List.mem_cons_self, rfl⟩
      · refine (ih inside).imp_right ?_
        rintro ⟨former, there, same⟩
        exact ⟨former, List.mem_cons_of_mem _ there, same⟩

theorem Keyed.insertEntry (keyed : Keyed entries) (own : key.unkeyed? = none) :
    Keyed (insertEntry key value entries) := by
  intro entry member
  rcases mem_insertEntry member with same | ⟨former, there, same⟩
  · rw [same]
    exact own
  · rw [← same]
    exact keyed former there

/-- Entries stay those of a mapping when a value is given to a key. -/
theorem IsDictionary.insertEntry (dictionary : IsDictionary entries)
    (own : key.unkeyed? = none) : IsDictionary (insertEntry key value entries) where
  keyed := dictionary.keyed.insertEntry own
  distinct := by
    have distinct := dictionary.distinct
    clear dictionary
    induction entries with
    | nil => exact List.pairwise_singleton _ _
    | cons first rest ih =>
      obtain ⟨others, later⟩ := List.pairwise_cons.mp distinct
      rw [Value.insertEntry]
      split
      · exact List.pairwise_cons.mpr ⟨others, later⟩
      · rename_i apart
        refine List.pairwise_cons.mpr ⟨fun entry member => ?_, ih later⟩
        rcases mem_insertEntry member with same | ⟨former, there, same⟩
        · rw [same]
          exact eq_false_of_ne_true apart
        · rw [← same]
          exact others former there

/-- Entries that are laid over others are keys like these. -/
theorem Keyed.mergeEntries (keyed : Keyed entries) (atop : Keyed layer) :
    Keyed (mergeEntries entries layer) := by
  induction layer generalizing entries with
  | nil => exact keyed
  | cons first rest ih =>
    obtain ⟨own, later⟩ := List.forall_mem_cons.mp atop
    exact ih (keyed.insertEntry own) later

/-- Of two values that are given to equal keys the later one counts. -/
theorem insertEntry_again (keyed : Keyed entries) (own : other.unkeyed? = none)
    (equal : same other key = true) :
    insertEntry key value (insertEntry other content entries) =
      insertEntry other value entries := by
  induction entries with
  | nil => simp only [insertEntry, if_pos equal]
  | cons first rest ih =>
    obtain ⟨firstKeyed, later⟩ := List.forall_mem_cons.mp keyed
    have alike : same first.1 other = same first.1 key := same_congr firstKeyed own equal
    by_cases found : same first.1 other = true
    · rw [insertEntry, if_pos found, insertEntry, if_pos (alike ▸ found), insertEntry,
        if_pos found]
    · have elsewhere : ¬same first.1 key = true := alike ▸ found
      rw [insertEntry, if_neg found, insertEntry, if_neg elsewhere, ih later, insertEntry,
        if_neg found]

/-- A value for a key that is there may be given before or after one for another key. -/
theorem insertEntry_swap (keyed : Keyed entries)
    (otherKeyed : other.unkeyed? = none) (apart : same other key = false)
    (present : ∃ entry ∈ entries, same entry.1 key = true) :
    insertEntry key value (insertEntry other content entries) =
      insertEntry other content (insertEntry key value entries) := by
  induction entries with
  | nil =>
    obtain ⟨entry, member, _⟩ := present
    cases member
  | cons first rest ih =>
    obtain ⟨firstKeyed, later⟩ := List.forall_mem_cons.mp keyed
    by_cases found : same first.1 key = true
    · have elsewhere : ¬same first.1 other = true := by
        intro both
        have equal : same other first.1 = true := by
          rw [same_comm otherKeyed firstKeyed]
          exact both
        rw [same_congr otherKeyed firstKeyed found] at equal
        rw [apart] at equal
        cases equal
      simp only [insertEntry, if_neg elsewhere, if_pos found]
    · by_cases taken : same first.1 other = true
      · simp only [insertEntry, if_pos taken, if_neg found]
      · obtain ⟨entry, member, equal⟩ := present
        have inside : ∃ entry ∈ rest, same entry.1 key = true := by
          rcases List.mem_cons.mp member with rfl | inside
          · exact absurd equal found
          · exact ⟨entry, inside, equal⟩
        simp only [insertEntry, if_neg taken, if_neg found, ih later inside]

/-- A key that was given a value is there. -/
theorem exists_insertEntry (keyed : Keyed entries) (own : other.unkeyed? = none)
    (equal : same other key = true) :
    ∃ entry ∈ insertEntry other value entries, same entry.1 key = true := by
  induction entries with
  | nil => exact ⟨(other, value), List.mem_singleton_self _, equal⟩
  | cons first rest ih =>
    obtain ⟨firstKeyed, later⟩ := List.forall_mem_cons.mp keyed
    rw [insertEntry]
    split
    · rename_i found
      refine ⟨(first.1, value), List.mem_cons_self, ?_⟩
      rw [← same_congr firstKeyed own equal]
      exact found
    · obtain ⟨entry, member, there⟩ := ih later
      exact ⟨entry, List.mem_cons_of_mem _ member, there⟩

/-- A key that is there stays there. -/
theorem exists_insertEntry_of_exists (present : ∃ entry ∈ entries, same entry.1 key = true) :
    ∃ entry ∈ insertEntry other value entries, same entry.1 key = true := by
  obtain ⟨entry, member, equal⟩ := present
  induction entries with
  | nil => cases member
  | cons first rest ih =>
    rw [insertEntry]
    split
    · rcases List.mem_cons.mp member with rfl | inside
      · exact ⟨(entry.1, value), List.mem_cons_self, equal⟩
      · exact ⟨entry, List.mem_cons_of_mem _ inside, equal⟩
    · rcases List.mem_cons.mp member with rfl | inside
      · exact ⟨entry, List.mem_cons_self, equal⟩
      · obtain ⟨found, there, same⟩ := ih inside
        exact ⟨found, List.mem_cons_of_mem _ there, same⟩

/-- A value for a key that is there may be given before or after others are laid over the
entries. -/
theorem insertEntry_mergeEntries (keyed : Keyed entries) (atop : Keyed layer)
    (apart : ∀ entry ∈ layer, same entry.1 key = false)
    (present : ∃ entry ∈ entries, same entry.1 key = true) :
    insertEntry key value (mergeEntries entries layer) =
      mergeEntries (insertEntry key value entries) layer := by
  induction layer generalizing entries with
  | nil => rfl
  | cons first rest ih =>
    obtain ⟨firstKeyed, later⟩ := List.forall_mem_cons.mp atop
    obtain ⟨differs, others⟩ := List.forall_mem_cons.mp apart
    have swapped := @insertEntry_swap key first.1 value first.2 entries keyed firstKeyed differs
      present
    show insertEntry key value (mergeEntries (insertEntry first.1 first.2 entries) rest) =
      mergeEntries (insertEntry first.1 first.2 (insertEntry key value entries)) rest
    rw [ih (keyed.insertEntry firstKeyed) later others (exists_insertEntry_of_exists present),
      swapped]

/-- A value that is given to a key of a layer may be given after the layer was laid over others. -/
theorem mergeEntries_insertEntry (keyed : Keyed entries) (atop : IsDictionary layer) :
    mergeEntries entries (insertEntry key value layer) =
      insertEntry key value (mergeEntries entries layer) := by
  obtain ⟨atopKeyed, distinct⟩ := atop
  induction layer generalizing entries with
  | nil => rfl
  | cons first rest ih =>
    obtain ⟨firstKeyed, later⟩ := List.forall_mem_cons.mp atopKeyed
    obtain ⟨others, distinctRest⟩ := List.pairwise_cons.mp distinct
    have unfolded (content : Value) (behind : List (Value × Value)) :
        mergeEntries entries ((first.1, content) :: behind) =
          mergeEntries (insertEntry first.1 content entries) behind := rfl
    rw [insertEntry]
    split
    · rename_i equal
      have apart : ∀ entry ∈ rest, same entry.1 key = false := by
        intro entry member
        rw [← same_congr (later entry member) firstKeyed equal,
          same_comm (later entry member) firstKeyed]
        exact others entry member
      rw [unfolded, unfolded first.2,
        insertEntry_mergeEntries (keyed.insertEntry firstKeyed) later apart
          (exists_insertEntry keyed firstKeyed equal),
        insertEntry_again keyed firstKeyed equal]
    · rw [unfolded, unfolded first.2]
      exact ih (keyed.insertEntry firstKeyed) later distinctRest

/-- Laying layers over each other first comes to the same. -/
theorem mergeEntries_assoc (keyed : Keyed entries) (middle : IsDictionary layer)
    (atop : Keyed call) :
    mergeEntries entries (mergeEntries layer call) =
      mergeEntries (mergeEntries entries layer) call := by
  induction call generalizing layer with
  | nil => rfl
  | cons first rest ih =>
    obtain ⟨own, later⟩ := List.forall_mem_cons.mp atop
    show mergeEntries entries (mergeEntries (insertEntry first.1 first.2 layer) rest) =
      mergeEntries (insertEntry first.1 first.2 (mergeEntries entries layer)) rest
    rw [ih (middle.insertEntry own) later, mergeEntries_insertEntry keyed middle]

end laws

/-! ## Erased keys -/

section erased

variable {gone key value : Value} {entries layer call : List (Value × Value)}

theorem eraseEntry_cons (gone : Value) (first : Value × Value) (rest : List (Value × Value)) :
    eraseEntry gone (first :: rest) =
      if same first.1 gone then eraseEntry gone rest else first :: eraseEntry gone rest := by
  rw [eraseEntry, List.filter_cons]
  cases same first.1 gone <;> rfl

theorem Keyed.eraseEntry (keyed : Keyed entries) : Keyed (eraseEntry gone entries) :=
  fun entry member => keyed entry ((List.mem_filter.mp member).1)

theorem IsDictionary.eraseEntry (dictionary : IsDictionary entries) :
    IsDictionary (eraseEntry gone entries) where
  keyed := dictionary.keyed.eraseEntry
  distinct := dictionary.distinct.filter _

/-- What is given to a key is erased with it, and stays when another key is erased. -/
theorem eraseEntry_insertEntry (goneKeyed : gone.unkeyed? = none) (keyed : Keyed entries)
    (own : key.unkeyed? = none) :
    eraseEntry gone (insertEntry key value entries) =
      if same key gone then eraseEntry gone entries
      else insertEntry key value (eraseEntry gone entries) := by
  induction entries with
  | nil =>
    rw [insertEntry, eraseEntry_cons]
    rfl
  | cons first rest ih =>
    obtain ⟨firstKeyed, later⟩ := List.forall_mem_cons.mp keyed
    by_cases equal : same first.1 key = true
    · have alike : same first.1 gone = same key gone := by
        rw [same_comm firstKeyed goneKeyed, same_comm own goneKeyed]
        exact same_congr goneKeyed firstKeyed equal
      rw [insertEntry, if_pos equal, eraseEntry_cons, eraseEntry_cons, alike]
      split
      · rfl
      · rw [insertEntry, if_pos equal]
    · rw [insertEntry, if_neg equal, eraseEntry_cons, eraseEntry_cons, ih later]
      by_cases goes : same first.1 gone = true
      · rw [if_pos goes, if_pos goes]
      · rw [if_neg goes, if_neg goes, insertEntry, if_neg equal]
        split <;> rfl

/-- A key is erased from entries that were laid over others as it is from both of them. -/
theorem eraseEntry_mergeEntries (goneKeyed : gone.unkeyed? = none) (keyed : Keyed entries)
    (atop : Keyed layer) :
    eraseEntry gone (mergeEntries entries layer) =
      mergeEntries (eraseEntry gone entries) (eraseEntry gone layer) := by
  induction layer generalizing entries with
  | nil => rfl
  | cons first rest ih =>
    obtain ⟨own, later⟩ := List.forall_mem_cons.mp atop
    show eraseEntry gone (mergeEntries (insertEntry first.1 first.2 entries) rest) = _
    rw [ih (keyed.insertEntry own) later, eraseEntry_insertEntry goneKeyed keyed own,
      eraseEntry_cons]
    split <;> rfl

/-! ## Layers of entries -/

variable {layers : List (List (Value × Value))}

theorem keyed_foldr (keyed : ∀ layer ∈ layers, Keyed layer) (atop : Keyed call) :
    Keyed (layers.foldr mergeEntries call) := by
  induction layers with
  | nil => exact atop
  | cons first rest ih =>
    obtain ⟨own, later⟩ := List.forall_mem_cons.mp keyed
    exact own.mergeEntries (ih later)

/-- Layers that are laid over each other from the last one on come to the same as when each is laid
over what comes of those before it. -/
theorem mergeEntries_foldr (keyed : Keyed entries) (all : ∀ layer ∈ layers, IsDictionary layer)
    (atop : Keyed call) :
    mergeEntries entries (layers.foldr mergeEntries call) =
      (layers ++ [call]).foldl mergeEntries entries := by
  induction layers generalizing entries with
  | nil => rfl
  | cons first rest ih =>
    obtain ⟨own, later⟩ := List.forall_mem_cons.mp all
    have rest_keyed : Keyed (rest.foldr mergeEntries call) :=
      keyed_foldr (fun layer member => (later layer member).keyed) atop
    show mergeEntries entries (mergeEntries first (rest.foldr mergeEntries call)) =
      (rest ++ [call]).foldl mergeEntries (mergeEntries entries first)
    rw [mergeEntries_assoc keyed own rest_keyed, ih (keyed.mergeEntries own.keyed) later]

/-- A key is erased from layers that are laid over each other as it is from each of them. -/
theorem eraseEntry_foldr (goneKeyed : gone.unkeyed? = none) (keyed : ∀ layer ∈ layers, Keyed layer)
    (atop : Keyed call) :
    eraseEntry gone (layers.foldr mergeEntries call) =
      (layers.map (eraseEntry gone)).foldr mergeEntries (eraseEntry gone call) := by
  induction layers with
  | nil => rfl
  | cons first rest ih =>
    obtain ⟨own, later⟩ := List.forall_mem_cons.mp keyed
    show eraseEntry gone (mergeEntries first (rest.foldr mergeEntries call)) = _
    rw [eraseEntry_mergeEntries goneKeyed own (keyed_foldr later atop), ih later]
    rfl

end erased

/-! ## What entries have for a key -/

section lookups

variable {gone key other value : Value} {entries layer : List (Value × Value)}

/-- The first entry with an equal key gives the value. -/
theorem lookup_cons (key : Value) (first : Value × Value) (rest : List (Value × Value)) :
    lookup key (first :: rest) =
      if same first.1 key then some first.2 else lookup key rest := by
  rw [lookup, List.find?_cons]
  cases same first.1 key <;> rfl

/-- A key has the value that it was given, and every other one what it had. -/
theorem lookup_insertEntry (keyed : Keyed entries) (own : other.unkeyed? = none)
    (looked : key.unkeyed? = none) :
    lookup key (insertEntry other value entries) =
      if same other key then some value else lookup key entries := by
  induction entries with
  | nil => exact lookup_cons key (other, value) []
  | cons first rest ih =>
    obtain ⟨firstKeyed, later⟩ := List.forall_mem_cons.mp keyed
    by_cases found : same first.1 other = true
    · have alike : same first.1 key = same other key := by
        rw [same_comm firstKeyed looked, same_comm own looked]
        exact same_congr looked firstKeyed found
      rw [insertEntry, if_pos found, lookup_cons, lookup_cons, alike]
      split <;> rfl
    · rw [insertEntry, if_neg found, lookup_cons, lookup_cons, ih later]
      by_cases here : same first.1 key = true
      · have apart : ¬same other key = true := by
          intro equal
          rw [same_congr firstKeyed own equal] at found
          exact found here
        rw [if_pos here, if_pos here, if_neg apart]
      · rw [if_neg here, if_neg here]

/-- A key that is apart from those of entries has no value there. -/
theorem lookup_eq_none (apart : ∀ entry ∈ entries, same entry.1 key = false) :
    lookup key entries = none := by
  rw [lookup, Option.map_eq_none_iff, List.find?_eq_none]
  intro entry member
  rw [apart entry member]
  exact Bool.false_ne_true

/-- Of entries that are laid over others those on top count. -/
theorem lookup_mergeEntries (keyed : Keyed entries) (atop : IsDictionary layer)
    (looked : key.unkeyed? = none) :
    lookup key (mergeEntries entries layer) = (lookup key layer).or (lookup key entries) := by
  obtain ⟨atopKeyed, distinct⟩ := atop
  induction layer generalizing entries with
  | nil => rfl
  | cons first rest ih =>
    obtain ⟨own, later⟩ := List.forall_mem_cons.mp atopKeyed
    obtain ⟨others, distinctRest⟩ := List.pairwise_cons.mp distinct
    show lookup key (mergeEntries (insertEntry first.1 first.2 entries) rest) = _
    rw [ih (keyed.insertEntry own) later distinctRest, lookup_insertEntry keyed own looked,
      lookup_cons]
    by_cases here : same first.1 key = true
    · have absent : lookup key rest = none := by
        refine lookup_eq_none fun entry member => ?_
        rw [← same_congr (later entry member) own here, same_comm (later entry member) own]
        exact others entry member
      rw [if_pos here, if_pos here, absent]
      rfl
    · rw [if_neg here, if_neg here]

/-- Erasing a key leaves the others what they had. -/
theorem lookup_eraseEntry (keyed : Keyed entries) (looked : key.unkeyed? = none)
    (goneKeyed : gone.unkeyed? = none) (apart : same key gone = false) :
    lookup key (eraseEntry gone entries) = lookup key entries := by
  induction entries with
  | nil => rfl
  | cons first rest ih =>
    obtain ⟨own, later⟩ := List.forall_mem_cons.mp keyed
    rw [eraseEntry_cons, lookup_cons]
    by_cases goes : same first.1 gone = true
    · have elsewhere : ¬same first.1 key = true := by
        intro here
        rw [same_comm looked goneKeyed, ← same_congr goneKeyed own here,
          same_comm goneKeyed own, goes] at apart
        cases apart
      rw [if_pos goes, if_neg elsewhere, ih later]
    · rw [if_neg goes, lookup_cons, ih later]

end lookups

end TemplateStream.Value
