import TemplateStream.Table

/-!
# Laws of ordered tables

What is under a name after an insertion, several insertions or a selection, for every name. What
was inserted once may be inserted again without a difference, and that holds of the order of the
names as well.
-/

namespace TemplateStream.Table

variable {α : Type} {table other : Table α} {key : String} {value : α}

/-- What is under a key in a list of different keys is one of the entries, and each of the entries
is under its key. -/
theorem lookup_eq_some_iff_mem {κ : Type} [BEq κ] [LawfulBEq κ] {entries : List (κ × α)}
    (nodup : (entries.map Prod.fst).Nodup) {key : κ} :
    entries.lookup key = some value ↔ (key, value) ∈ entries := by
  induction entries with
  | nil => simp
  | cons entry rest ih =>
    obtain ⟨name, held⟩ := entry
    have ⟨fresh, apart⟩ := List.nodup_cons.mp nodup
    rw [List.mem_cons, List.lookup_cons]
    by_cases same : key = name
    · subst same
      have absent : (key, value) ∉ rest := fun found =>
        fresh (List.mem_map.mpr ⟨_, found, rfl⟩)
      simp only [beq_self_eq_true, Option.some.injEq, Prod.mk.injEq, true_and, absent, or_false]
      exact eq_comm
    · simpa [beq_eq_false_iff_ne.mpr same, same] using ih apart

/-- What a table has under a name is one of its entries, and each of its entries is under its
name. -/
theorem get?_eq_some_iff : table.get? key = some value ↔ (key, value) ∈ table.entries :=
  lookup_eq_some_iff_mem table.nodup

/-- What a table has under a name is one of its values. -/
theorem mem_values_of_get? (got : table.get? key = some value) : value ∈ table.values :=
  List.mem_map_of_mem (get?_eq_some_iff.mp got)

/-- A table has a name exactly when it has a value under it. -/
theorem contains_iff : table.contains key = true ↔ ∃ value, table.get? key = some value := by
  rw [← Option.isSome_iff_exists, get?, List.lookup_isSome_iff]
  simp [contains, keys]

/-- A table lacks a name exactly when it has nothing under it. -/
theorem not_contains_iff : table.contains key = false ↔ table.get? key = none := by
  rw [← Bool.not_eq_true, contains_iff, Option.eq_none_iff_forall_ne_some]
  simp

/-- Nothing is under a name in the table without names. -/
@[simp] theorem get?_empty : (∅ : Table α).get? key = none := rfl

/-- The entries after an insertion are the new one and those of the other names. -/
theorem mem_entries_insert {name : String} {held : α} :
    (name, held) ∈ (table.insert key value).entries ↔
      (name = key ∧ held = value) ∨ (name ≠ key ∧ (name, held) ∈ table.entries) := by
  unfold insert
  split
  · rename_i present
    obtain ⟨⟨head, old⟩, inside, rfl⟩ := List.mem_map.mp present
    constructor
    · intro changed
      obtain ⟨entry, member, same⟩ := List.mem_map.mp changed
      split at same
      · cases same
        exact .inl ⟨‹_›, rfl⟩
      · cases same
        exact .inr ⟨‹_›, member⟩
    · rintro (⟨rfl, rfl⟩ | ⟨apart, member⟩)
      · exact List.mem_map.mpr ⟨(name, old), inside, if_pos rfl⟩
      · exact List.mem_map.mpr ⟨(name, held), member, if_neg apart⟩
  · rename_i absent
    rw [List.mem_append, List.mem_singleton, Prod.mk.injEq, or_comm]
    refine or_congr_right ⟨fun member => ⟨?_, member⟩, And.right⟩
    rintro rfl
    exact absent (List.mem_map_of_mem member)

/-- What is in a table after inserting is the new value or was there before. -/
theorem mem_values_insert {held : α} (member : held ∈ (table.insert key value).values) :
    held = value ∨ held ∈ table.values := by
  obtain ⟨⟨name, held⟩, inside, rfl⟩ := List.mem_map.mp member
  rcases mem_entries_insert.mp inside with ⟨_, rfl⟩ | ⟨_, inside⟩
  · exact .inl rfl
  · exact .inr (List.mem_map_of_mem inside)

/-- A value that is apart from the others leaves the values of a table apart. -/
theorem pairwise_insert {apart : α → α → Prop}
    (before : table.values.Pairwise apart)
    (fresh : ∀ other ∈ table.values, apart other value ∧ apart value other) :
    (table.insert key value).values.Pairwise apart := by
  unfold insert
  split
  · have names : table.entries.Pairwise fun entry other => entry.1 ≠ other.1 :=
      List.pairwise_map.mp table.nodup
    have values : table.entries.Pairwise fun entry other => apart entry.2 other.2 :=
      List.pairwise_map.mp before
    refine List.pairwise_map.mpr (List.pairwise_map.mpr ?_)
    refine (names.and values).imp_of_mem fun {entry other} inside insideToo both => ?_
    obtain ⟨name, old⟩ := both
    split
    · rename_i here
      rw [if_neg fun there => name (here.trans there.symm)]
      exact (fresh other.2 (List.mem_map_of_mem insideToo)).2
    · split
      · exact (fresh entry.2 (List.mem_map_of_mem inside)).1
      · exact old
  · rw [values, List.map_append, List.pairwise_append]
    refine ⟨before, List.pairwise_singleton _ _, fun other inside last => ?_⟩
    intro final
    cases List.mem_singleton.mp final
    exact (fresh other inside).1

/-- An insertion changes what is under its name, and nothing else. -/
theorem get?_insert (table : Table α) (key : String) (value : α) (name : String) :
    (table.insert key value).get? name = if name = key then some value else table.get? name := by
  ext held
  rw [get?_eq_some_iff, mem_entries_insert]
  by_cases same : name = key
  · simp [same, eq_comm]
  · simp [same, get?_eq_some_iff]

/-- What is under a name among the selected entries is what was under it, if it is selected. -/
theorem get?_filter (table : Table α) (test : String → α → Bool) (key : String) :
    (table.filter test).get? key = (table.get? key).filter (test key) := by
  ext value
  rw [get?_eq_some_iff, Option.filter_eq_some_iff, get?_eq_some_iff]
  exact List.mem_filter

/-! ## Several insertions -/

/-- A table in which entries were inserted in order. -/
def insertAll (table : Table α) (entries : List (String × α)) : Table α :=
  entries.foldl (fun table entry => table.insert entry.1 entry.2) table

/-- An insertion under a name that is present keeps the names. -/
theorem keys_insert (present : table.contains key = true) (value : α) :
    (table.insert key value).keys = table.keys := by
  have inside : key ∈ table.entries.map Prod.fst := by simpa [contains, keys] using present
  rw [keys, insert, dif_pos inside]
  exact map_fst_replaced key value table.entries

/-- The last of several insertions under a name decides what is there. -/
theorem get?_insertAll (entries : List (String × α)) (table : Table α) (name : String) :
    (table.insertAll entries).get? name =
      (entries.reverse.lookup name).or (table.get? name) := by
  induction entries generalizing table with
  | nil => rfl
  | cons entry rest ih =>
    have later : table.insertAll (entry :: rest) =
        (table.insert entry.1 entry.2).insertAll rest := rfl
    rw [later, ih, get?_insert, List.reverse_cons, List.lookup_append, Option.or_assoc]
    congr 1
    rw [List.lookup_cons]
    by_cases same : name = entry.1
    · simp [same]
    · simp [same, beq_eq_false_iff_ne.mpr same]

/-- Names that nothing is inserted under keep what was there. -/
theorem get?_insertAll_other {entries : List (String × α)} {name : String}
    (others : ∀ entry ∈ entries, entry.1 ≠ name) :
    (table.insertAll entries).get? name = table.get? name := by
  have absent : entries.reverse.lookup name = none := by
    apply List.lookup_eq_none_iff.mpr
    intro entry member
    rw [bne_iff_ne]
    exact (others entry (List.mem_reverse.mp member)).symm
  rw [get?_insertAll, absent, Option.none_or]

/-- Entries are inserted one list after the other. -/
theorem insertAll_append (first second : List (String × α)) (table : Table α) :
    table.insertAll (first ++ second) = (table.insertAll first).insertAll second :=
  List.foldl_append

/-- A value is there as long as nothing else is inserted under its name. -/
theorem get?_insertAll_last (earlier : List (String × α)) {entry : String × α}
    {later : List (String × α)} (others : ∀ other ∈ later, other.1 ≠ entry.1) :
    (table.insertAll (earlier ++ entry :: later)).get? entry.1 = some entry.2 := by
  have last : (table.insertAll earlier).insertAll (entry :: later) =
      ((table.insertAll earlier).insert entry.1 entry.2).insertAll later := rfl
  rw [insertAll_append, last, get?_insertAll_other others, get?_insert, if_pos rfl]

/-- An insertion under a name that is new puts the entry behind the others. -/
theorem entries_insert_new (absent : key ∉ table.entries.map Prod.fst) :
    (table.insert key value).entries = table.entries ++ [(key, value)] :=
  congrArg Table.entries (dif_neg absent)

/-- Of names that are all new, the first is, and then the others still are. -/
theorem fresh_insert {entry : String × α} {entries : List (String × α)}
    (fresh : (table.entries.map Prod.fst ++ (entry :: entries).map Prod.fst).Nodup) :
    entry.1 ∉ table.entries.map Prod.fst ∧
      ((table.insert entry.1 entry.2).entries.map Prod.fst ++ entries.map Prod.fst).Nodup := by
  have absent : entry.1 ∉ table.entries.map Prod.fst := fun present =>
    (List.nodup_append.mp fresh).2.2 _ present _ List.mem_cons_self rfl
  refine ⟨absent, ?_⟩
  rw [entries_insert_new absent, List.map_append, List.append_assoc]
  exact fresh

/-- Insertions under names that are new put the entries behind the others. -/
theorem entries_insertAll {entries : List (String × α)} {table : Table α}
    (fresh : (table.entries.map Prod.fst ++ entries.map Prod.fst).Nodup) :
    (table.insertAll entries).entries = table.entries ++ entries := by
  induction entries generalizing table with
  | nil => exact (List.append_nil _).symm
  | cons entry rest ih =>
    obtain ⟨absent, still⟩ := fresh_insert fresh
    have later : table.insertAll (entry :: rest) =
        (table.insert entry.1 entry.2).insertAll rest := rfl
    rw [later, ih still, entries_insert_new absent, List.append_assoc, List.singleton_append]

/-- Entries of different names are those of the table that they are inserted in, if it was empty. -/
theorem entries_insertAll_empty {entries : List (String × α)}
    (fresh : (entries.map Prod.fst).Nodup) : (insertAll ∅ entries).entries = entries :=
  @entries_insertAll α entries ∅ fresh

/-- Insertions under names that are all present keep the names. -/
theorem keys_insertAll {entries : List (String × α)} {table : Table α}
    (present : ∀ entry ∈ entries, table.contains entry.1 = true) :
    (table.insertAll entries).keys = table.keys := by
  induction entries generalizing table with
  | nil => rfl
  | cons entry rest ih =>
    have same := keys_insert (present entry List.mem_cons_self) entry.2
    have still (name : String) : (table.insert entry.1 entry.2).contains name =
        table.contains name := by rw [contains, same, contains]
    have later : table.insertAll (entry :: rest) =
        (table.insert entry.1 entry.2).insertAll rest := rfl
    rw [later, ih fun other member => ?_, same]
    rw [still]
    exact present other (List.mem_cons_of_mem _ member)

/-- Entries of the same names in the same order, with the same values under them, are the same. -/
theorem entries_ext {entries others : List (String × α)} (nodup : (entries.map Prod.fst).Nodup)
    (keys : entries.map Prod.fst = others.map Prod.fst)
    (values : ∀ name, entries.lookup name = others.lookup name) : entries = others := by
  induction entries generalizing others with
  | nil => exact (List.map_eq_nil_iff.mp keys.symm).symm
  | cons entry rest ih =>
    obtain ⟨other, left, rfl, head, tail⟩ := List.map_eq_cons_iff.mp keys.symm
    obtain ⟨fresh, nodup⟩ := List.nodup_cons.mp nodup
    have same : entry = other := by
      have under := values entry.1
      rw [List.lookup_cons, List.lookup_cons, ← head, beq_self_eq_true] at under
      exact Prod.ext head.symm (Option.some.inj under)
    subst same
    rw [ih nodup tail.symm fun name => ?_]
    by_cases first : name = entry.1
    · have absent (entries : List (String × α)) (gone : entry.1 ∉ entries.map Prod.fst) :
          entries.lookup name = none := by
        refine List.lookup_eq_none_iff.mpr fun found member => ?_
        rw [first, bne_iff_ne]
        rintro same
        exact gone (same ▸ List.mem_map_of_mem member)
      rw [absent rest fresh, absent left (tail ▸ fresh)]
    · have under := values name
      rwa [List.lookup_cons, List.lookup_cons, beq_eq_false_iff_ne.mpr first] at under

/-- Tables with the same names in the same order and the same values under them are the same. -/
theorem eq_of_keys {table other : Table α} (keys : table.keys = other.keys)
    (values : ∀ name, table.get? name = other.get? name) : table = other := by
  obtain ⟨entries, nodup⟩ := table
  obtain ⟨others, nodupToo⟩ := other
  obtain rfl := entries_ext nodup keys values
  rfl

/-- What was inserted may be inserted again: it makes no difference. -/
theorem insertAll_again (entries : List (String × α)) (table : Table α) :
    (table.insertAll entries).insertAll entries = table.insertAll entries := by
  have present : ∀ entry ∈ entries, (table.insertAll entries).contains entry.1 = true := by
    intro entry member
    have found : (entries.reverse.lookup entry.1).isSome = true :=
      List.lookup_isSome_iff.mpr ⟨entry, List.mem_reverse.mpr member, by simp⟩
    obtain ⟨value, found⟩ := Option.isSome_iff_exists.mp found
    rw [contains_iff]
    exact ⟨value, by rw [get?_insertAll, found, Option.some_or]⟩
  refine eq_of_keys (keys_insertAll present) fun name => ?_
  simp only [get?_insertAll]
  cases entries.reverse.lookup name <;> rfl

end TemplateStream.Table
