import Mathlib.Data.List.Perm.Subperm
import TemplateStream.Proofs.Steps
import TemplateStream.RenderTree

/-!
# The order of a document

Records are linked in document order. A list of indices is that order when the links visit it and
end, without a record twice. Putting a record behind another puts its index behind that one in
the list and moves no other, wherever in the arena the new record is kept.
-/

namespace TemplateStream.RenderTree

/-- Something is found at indices within the bounds alone. -/
theorem lt_size_of_found {α : Type} {entries : Array α} {entry : α} {index : Nat}
    (found : entries[index]? = some entry) : index < entries.size :=
  (Array.getElem?_eq_some_iff.mp found).choose

/-- An entry that is changed twice is changed once. -/
theorem modify_modify {α : Type} (entries : Array α) (index : Nat) (first second : α → α) :
    (entries.modify index first).modify index second = entries.modify index (second ∘ first) := by
  apply Array.ext_getElem?
  intro other
  by_cases same : index = other
  · simp [Array.getElem?_modify, same]
  · simp [Array.getElem?_modify, same]

/-- An entry that is changed to what it was is not changed. -/
theorem modify_unchanged {α : Type} {entries : Array α} {index : Nat} {change : α → α}
    (unchanged : ∀ entry ∈ entries[index]?, change entry = entry) :
    entries.modify index change = entries := by
  apply Array.ext_getElem?
  intro other
  by_cases same : index = other
  · subst same
    cases found : entries[index]? with
    | none => simp [Array.getElem?_modify, found]
    | some entry => simp [Array.getElem?_modify, found, unchanged entry found]
  · simp [Array.getElem?_modify, same]

/-- The links from a start visit the records of a list, in order, and end there. -/
def Linked (records : Array Record) : Option Nat → List Nat → Prop
  | start, [] => start = none
  | start, index :: rest =>
    start = some index ∧ ∃ record, records[index]? = some record ∧ Linked records record.next rest

namespace Linked

variable {records changed : Array Record} {start : Option Nat} {order : List Nat}

/-- The links start at the first record that they visit. -/
theorem start_eq (linked : Linked records start order) : start = order.head? := by
  cases order with
  | nil => exact linked
  | cons index rest => exact linked.1

/-- Every index that the links visit is one of a record. -/
theorem found (linked : Linked records start order) {index : Nat} (visited : index ∈ order) :
    ∃ record, records[index]? = some record := by
  induction order generalizing start with
  | nil => cases visited
  | cons first rest ih =>
    obtain ⟨_, record, found, later⟩ := linked
    cases visited with
    | head => exact ⟨record, found⟩
    | tail _ visited => exact ih later visited

/-- The links visit no index outside the arena. -/
theorem subset_range (linked : Linked records start order) :
    order ⊆ List.range records.size := by
  intro index visited
  obtain ⟨record, found⟩ := linked.found visited
  exact List.mem_range.mpr (lt_size_of_found found)

/-- Links that visit no record twice visit at most all records. -/
theorem length_le (linked : Linked records start order) (nodup : order.Nodup) :
    order.length ≤ records.size := by
  simpa using (List.subperm_of_subset nodup linked.subset_range).length_le

/-- The links only depend on where each visited record leads. -/
theorem of_next (linked : Linked records start order)
    (same : ∀ index ∈ order, changed[index]?.map Record.next = records[index]?.map Record.next) :
    Linked changed start order := by
  induction order generalizing start with
  | nil => exact linked
  | cons index rest ih =>
    obtain ⟨started, record, found, later⟩ := linked
    have here := same index List.mem_cons_self
    rw [found] at here
    obtain ⟨after, foundAfter, next⟩ := Option.map_eq_some_iff.mp here
    refine ⟨started, after, foundAfter, ?_⟩
    rw [next]
    exact ih later fun other visited => same other (List.mem_cons_of_mem _ visited)

/-- The links do not depend on what else a record holds. -/
theorem modify (linked : Linked records start order) (index : Nat) (change : Record → Record)
    (same : ∀ record, (change record).next = record.next) :
    Linked (records.modify index change) start order := by
  refine linked.of_next fun other _ => ?_
  rw [Array.getElem?_modify]
  split
  · cases records[other]? with
    | none => rfl
    | some record => exact congrArg some (same record)
  · rfl

/-- A visited record leads to the one after it. -/
theorem next_eq {before after : List Nat} {index : Nat} {record : Record}
    (linked : Linked records start (before ++ index :: after))
    (found : records[index]? = some record) : record.next = after.head? := by
  induction before generalizing start with
  | nil =>
    obtain ⟨_, here, foundHere, later⟩ := linked
    rw [found] at foundHere
    obtain rfl := Option.some.inj foundHere
    exact later.start_eq
  | cons first rest ih =>
    obtain ⟨_, here, _, later⟩ := linked
    exact ih later

end Linked

/-- The order that a list becomes when records are put behind one of them. -/
def insertBehind (anchor : Nat) (added : List Nat) (order : List Nat) : List Nat :=
  order.flatMap fun index => if index = anchor then anchor :: added else [index]

section insertBehind

variable {anchor : Nat} {added order : List Nat}

/-- Nothing is put behind a record that is not there. -/
theorem insertBehind_of_notMem (absent : anchor ∉ order) :
    insertBehind anchor added order = order := by
  induction order with
  | nil => rfl
  | cons index rest ih =>
    rw [List.mem_cons, not_or] at absent
    have tail := ih absent.2
    simp only [insertBehind] at tail ⊢
    rw [List.flatMap_cons, tail, if_neg (Ne.symm absent.1), List.singleton_append]

/-- Records are put directly behind the anchor, and all others keep their places. -/
theorem insertBehind_split {before after : List Nat} (first : anchor ∉ before)
    (last : anchor ∉ after) :
    insertBehind anchor added (before ++ anchor :: after) =
      before ++ anchor :: (added ++ after) := by
  have front : insertBehind anchor added before = before := insertBehind_of_notMem first
  have back : insertBehind anchor added after = after := insertBehind_of_notMem last
  simp only [insertBehind] at front back ⊢
  rw [List.flatMap_append, List.flatMap_cons, front, back, if_pos rfl]
  simp

/-- Records are put behind another in each of two parts. -/
theorem insertBehind_append {before after : List Nat} :
    insertBehind anchor added (before ++ after) =
      insertBehind anchor added before ++ insertBehind anchor added after :=
  List.flatMap_append ..

/-- An order is split at each of its records, which is in neither part. -/
theorem exists_split (nodup : order.Nodup) (inside : anchor ∈ order) :
    ∃ before after, order = before ++ anchor :: after ∧ anchor ∉ before ∧ anchor ∉ after := by
  obtain ⟨before, after, rfl⟩ := List.append_of_mem inside
  rw [List.nodup_append] at nodup
  obtain ⟨_, tail, apart⟩ := nodup
  refine ⟨before, after, rfl, ?_, (List.nodup_cons.mp tail).1⟩
  exact fun found => apart anchor found anchor List.mem_cons_self rfl

/-- The records of the new order are the old ones and the added ones. -/
theorem mem_insertBehind (inside : anchor ∈ order) {index : Nat} :
    index ∈ insertBehind anchor added order ↔ index ∈ order ∨ index ∈ added := by
  simp only [insertBehind, List.mem_flatMap]
  constructor
  · rintro ⟨other, found, member⟩
    split at member
    · rcases List.mem_cons.mp member with rfl | late
      · exact Or.inl inside
      · exact Or.inr late
    · rw [List.mem_singleton.mp member]
      exact Or.inl found
  · rintro (found | late)
    · refine ⟨index, found, ?_⟩
      split
      · next same => rw [same]; exact List.mem_cons_self
      · exact List.mem_singleton_self index
    · refine ⟨anchor, inside, ?_⟩
      rw [if_pos rfl]
      exact List.mem_cons_of_mem _ late

/-- An order grows by the records that are put behind one of it. -/
theorem length_insertBehind (nodup : order.Nodup) (inside : anchor ∈ order) (added : List Nat) :
    (insertBehind anchor added order).length = order.length + added.length := by
  obtain ⟨before, after, rfl, first, last⟩ := exists_split nodup inside
  rw [insertBehind_split first last]
  simp only [List.length_append, List.length_cons]
  omega

/-- Two records put behind an anchor one after the other stand there in the opposite order. -/
theorem insertBehind_twice {first second : Nat} (apart : first ≠ anchor) :
    insertBehind anchor [second] (insertBehind anchor [first] order) =
      insertBehind anchor [second, first] order := by
  induction order with
  | nil => rfl
  | cons index rest ih =>
    simp only [insertBehind] at ih ⊢
    rw [List.flatMap_cons, List.flatMap_append, ih, List.flatMap_cons]
    by_cases same : index = anchor
    · simp [same, apart]
    · simp [same]

/-- A text keeps its place when it is divided among a record and those put behind it. -/
theorem flatMap_insertBehind {before after : Nat → List String}
    (others : ∀ index ∈ order, index ≠ anchor → after index = before index)
    (divided : after anchor ++ added.flatMap after = before anchor) :
    (insertBehind anchor added order).flatMap after = order.flatMap before := by
  rw [insertBehind, List.flatMap_assoc]
  refine List.flatMap_congr fun index member => ?_
  by_cases same : index = anchor
  · rw [if_pos same, List.flatMap_cons, divided, same]
  · rw [if_neg same, List.flatMap_singleton, others index member same]

/-- Putting records behind another keeps the first one. -/
theorem head?_insertBehind : (insertBehind anchor added order).head? = order.head? := by
  cases order with
  | nil => rfl
  | cons index rest =>
    simp only [insertBehind, List.flatMap_cons]
    split
    · next same => rw [same]; rfl
    · rfl

/-- New records put behind another leave no record twice. -/
theorem nodup_insertBehind (nodup : order.Nodup) {fresh : Nat} (new : fresh ∉ order) :
    (insertBehind anchor [fresh] order).Nodup := by
  by_cases inside : anchor ∈ order
  · obtain ⟨before, after, rfl, first, last⟩ := exists_split nodup inside
    rw [insertBehind_split first last]
    simp only [List.singleton_append]
    have moved : (before ++ anchor :: fresh :: after).Perm
        (fresh :: (before ++ anchor :: after)) := by
      have middle : (before ++ [anchor] ++ fresh :: after).Perm
          (fresh :: (before ++ [anchor] ++ after)) := List.perm_middle
      simpa using middle
    exact moved.nodup_iff.mpr (List.nodup_cons.mpr ⟨new, nodup⟩)
  · rw [insertBehind_of_notMem inside]
    exact nodup

end insertBehind

/-- The arena with a new record put behind another. -/
def spliced (records : Array Record) (anchor : Nat) (next : Option Nat) : Array Record :=
  (records.push { next }).modify anchor ({ · with next := some records.size })

/-- Redirecting a visited record to another one that leads on puts that one behind it. -/
theorem Linked.insert {records changed : Array Record} {start : Option Nat}
    {before after : List Nat} {anchor fresh : Nat} {record redirected added : Record}
    (linked : Linked records start (before ++ anchor :: after))
    (found : records[anchor]? = some record)
    (foundAnchor : changed[anchor]? = some redirected) (leads : redirected.next = some fresh)
    (foundFresh : changed[fresh]? = some added) (leadsOn : added.next = record.next)
    (kept : ∀ index ∈ before ++ after, changed[index]? = records[index]?) :
    Linked changed start (before ++ anchor :: fresh :: after) := by
  induction before generalizing start with
  | nil =>
    obtain ⟨started, here, foundHere, later⟩ := linked
    rw [found] at foundHere
    obtain rfl := Option.some.inj foundHere
    refine ⟨started, redirected, foundAnchor, leads, added, foundFresh, ?_⟩
    rw [leadsOn]
    exact later.of_next fun index visited => by rw [kept index visited]
  | cons first rest ih =>
    obtain ⟨started, here, foundHere, later⟩ := linked
    refine ⟨started, here, ?_, ih later fun index visited => kept index (.tail _ visited)⟩
    rw [kept first List.mem_cons_self, foundHere]

section spliced

variable {records : Array Record} {anchor : Nat} {record : Record}

/-- The record that was put behind another. -/
theorem spliced_fresh (inside : anchor < records.size) (next : Option Nat) :
    (spliced records anchor next)[records.size]? = some { next } := by
  rw [spliced, Array.getElem?_modify, if_neg (Nat.ne_of_lt inside), Array.getElem?_push_size]

/-- The record that another was put behind. -/
theorem spliced_anchor (found : records[anchor]? = some record) (next : Option Nat) :
    (spliced records anchor next)[anchor]? =
      some { record with next := some records.size } := by
  have inside : anchor < records.size := lt_size_of_found found
  simp [spliced, Array.getElem?_modify, Array.getElem?_push, Nat.ne_of_lt inside, found]

/-- The old records keep what they hold. -/
theorem spliced_old {index : Nat} (found : records[index]? = some record) (next : Option Nat) :
    ∃ link, (spliced records anchor next)[index]? = some { record with next := link } := by
  have inside : index < records.size := lt_size_of_found found
  by_cases same : anchor = index
  · refine ⟨some records.size, ?_⟩
    simp [spliced, Array.getElem?_modify, Array.getElem?_push, same, Nat.ne_of_lt inside, found]
  · refine ⟨record.next, ?_⟩
    simp [spliced, Array.getElem?_modify, Array.getElem?_push, same, Nat.ne_of_lt inside, found]

/-- All other records stay as they are. -/
theorem spliced_other {index : Nat} (below : index ≠ records.size) (other : index ≠ anchor)
    (next : Option Nat) : (spliced records anchor next)[index]? = records[index]? := by
  simp [spliced, Array.getElem?_modify, Ne.symm other, Array.getElem?_push, below]

/-- Putting a record behind another puts its index behind that one's, if that is visited. -/
theorem Linked.splice {start : Option Nat} {order : List Nat}
    (linked : Linked records start order) (nodup : order.Nodup)
    (found : records[anchor]? = some record) :
    Linked (spliced records anchor record.next) start
      (insertBehind anchor [records.size] order) := by
  have inside : anchor < records.size := lt_size_of_found found
  have kept {index : Nat} (visited : index ∈ order) (other : index ≠ anchor) :
      (spliced records anchor record.next)[index]? = records[index]? := by
    obtain ⟨here, foundHere⟩ := linked.found visited
    have below : index < records.size := lt_size_of_found foundHere
    exact spliced_other (Nat.ne_of_lt below) other _
  by_cases visited : anchor ∈ order
  · obtain ⟨before, after, rfl, first, last⟩ := exists_split nodup visited
    rw [insertBehind_split first last]
    refine linked.insert found (spliced_anchor found _) rfl (spliced_fresh inside _) rfl ?_
    intro index member
    rcases List.mem_append.mp member with early | late
    · exact kept (List.mem_append_left _ early) fun same => first (same ▸ early)
    · exact kept (List.mem_append_right _ (.tail _ late)) fun same => last (same ▸ late)
  · rw [insertBehind_of_notMem visited]
    apply linked.of_next
    intro index member
    rw [kept member fun same => visited (same ▸ member)]

end spliced

/-- Following the links far enough visits the whole order. -/
theorem orderFrom_eq {tree : RenderTree} {start : Option Nat} {order : List Nat} {count : Nat}
    (linked : Linked tree.records start order) (enough : order.length ≤ count) :
    tree.orderFrom count start = order := by
  induction order generalizing start count with
  | nil =>
    obtain rfl : start = none := linked
    cases count <;> rfl
  | cons index rest ih =>
    obtain ⟨rfl, record, found, later⟩ := linked
    cases count with
    | zero => simp at enough
    | succ count =>
      rw [orderFrom, found]
      exact congrArg (index :: ·) (ih later (Nat.le_of_succ_le_succ enough))

/-- A tree whose links visit a list of records without visiting one twice is in that order. -/
theorem documentOrder_eq {tree : RenderTree} {order : List Nat}
    (linked : Linked tree.records (some tree.head) order) (nodup : order.Nodup) :
    tree.documentOrder = order := by
  exact orderFrom_eq linked (linked.length_le nodup)

end TemplateStream.RenderTree
