/-!
# Ordered tables

A table maps names to values and remembers the order in which its names were first inserted.
Inserting under a name that is present replaces the value and keeps the place. No name occurs
twice, and that is part of the type.
-/

namespace TemplateStream

/-- A map from names to values, in the order in which the names were first inserted. -/
structure Table (α : Type) where
  entries : List (String × α)
  nodup : (entries.map Prod.fst).Nodup

namespace Table

variable {α β : Type}

/-- The table without names. -/
def empty : Table α := ⟨[], .nil⟩

instance : EmptyCollection (Table α) := ⟨empty⟩

instance : Inhabited (Table α) := ⟨empty⟩

/-- The names in insertion order. -/
def keys (table : Table α) : List String := table.entries.map Prod.fst

/-- The values in insertion order. -/
def values (table : Table α) : List α := table.entries.map Prod.snd

/-- The value under a name. -/
def get? (table : Table α) (key : String) : Option α := table.entries.lookup key

/-- Whether a name has a value. -/
def contains (table : Table α) (key : String) : Bool := table.keys.contains key

/-- Whether no name has a value. -/
def isEmpty (table : Table α) : Bool := table.entries.isEmpty

/-- The number of names. -/
def size (table : Table α) : Nat := table.entries.length

/-- The entries with the value under a name replaced. -/
def replaced (key : String) (value : α) (entries : List (String × α)) : List (String × α) :=
  entries.map fun entry => if entry.1 = key then (entry.1, value) else entry

/-- Replacing a value keeps the names and their order. -/
theorem map_fst_replaced (key : String) (value : α) (entries : List (String × α)) :
    (replaced key value entries).map Prod.fst = entries.map Prod.fst := by
  induction entries with
  | nil => rfl
  | cons entry rest ih =>
    simp only [replaced, List.map_cons, List.cons.injEq] at ih ⊢
    exact ⟨by split <;> rfl, ih⟩

/-- Gives a name a value: in its place when it is present, at the end otherwise. -/
def insert (table : Table α) (key : String) (value : α) : Table α :=
  if present : key ∈ table.entries.map Prod.fst then
    ⟨replaced key value table.entries, by rw [map_fst_replaced]; exact table.nodup⟩
  else
    ⟨table.entries ++ [(key, value)], by
      rw [List.map_append, List.nodup_append]
      refine ⟨table.nodup, by simp, ?_⟩
      intro left found right last
      simp only [List.map_cons, List.map_nil, List.mem_singleton] at last
      subst last
      exact fun same => present (same ▸ found)⟩

/-- The names after an insertion are the old ones and perhaps the new one. -/
theorem mem_keys_of_insert {table : Table α} {key : String} {value : α} {name : String}
    (member : name ∈ (table.insert key value).keys) : name = key ∨ name ∈ table.keys := by
  unfold insert at member
  split at member
  · rw [keys, map_fst_replaced] at member
    exact .inr member
  · simp only [keys, List.map_append, List.map_cons, List.map_nil, List.mem_append,
      List.mem_singleton] at member
    exact member.symm

/-- The entries that satisfy a test. -/
def filter (table : Table α) (test : String → α → Bool) : Table α where
  entries := table.entries.filter fun entry => test entry.1 entry.2
  nodup := table.nodup.sublist ((List.filter_sublist).map Prod.fst)

/-- The same names with other values. -/
def map (table : Table α) (change : α → β) : Table β where
  entries := table.entries.map fun entry => (entry.1, change entry.2)
  nodup := by simpa [Function.comp_def] using table.nodup

/-- The table of a list of entries, a later entry winning over an earlier one of its name. -/
def ofList (entries : List (String × α)) : Table α :=
  entries.foldl (fun table entry => table.insert entry.1 entry.2) empty

/-- The first table with the entries of the second inserted in order. -/
def merge (table : Table α) (overriding : Table α) : Table α :=
  overriding.entries.foldl (fun merged entry => merged.insert entry.1 entry.2) table

end Table

end TemplateStream
