import Mathlib.Data.List.Infix
import TemplateStream.Proofs.Waiting

/-!
# Places in a document

A place in a document is told by a record and by how many texts were written to it. Records are put
between others but never change their order, texts are only added behind others, and a chunk only
moves to records that stand behind its own. So what stands between two places of a chunk, one
earlier and one later in time, is the same however it came about: all that was written there, be it
through the chunk or through branches that were forked from it meanwhile and written to at any time
since.
-/

namespace TemplateStream

open RenderTree Relation

/-! ## Two elements in order -/

section pairs

variable {order : List Nat} {first second third : Nat}

/-- One element stands before another when it is in front of it. -/
theorem pair_sublist_iff :
    [first, second].Sublist order ↔
      ∃ front back, order = front ++ second :: back ∧ first ∈ front := by
  constructor
  · intro pair
    obtain ⟨left, right, rfl, inLeft, inRight⟩ :=
      List.append_sublist_iff.mp (show ([first] ++ [second]).Sublist order from pair)
    obtain ⟨between, back, rfl⟩ := List.append_of_mem (List.singleton_sublist.mp inRight)
    refine ⟨left ++ between, back, by rw [List.append_assoc], ?_⟩
    exact List.mem_append_left _ (List.singleton_sublist.mp inLeft)
  · rintro ⟨front, back, rfl, member⟩
    exact (List.singleton_sublist.mpr member).append
      (List.singleton_sublist.mpr (List.mem_cons_self (l := back)))

/-- In a list without repetitions, what stands before an element stands before those behind it. -/
theorem pair_sublist_trans (nodup : order.Nodup) (early : [first, second].Sublist order)
    (late : [second, third].Sublist order) : [first, third].Sublist order := by
  obtain ⟨front, back, rfl, inFront⟩ := pair_sublist_iff.mp early
  obtain ⟨longer, last, split, inLonger⟩ := pair_sublist_iff.mp late
  obtain ⟨start, middle, rfl⟩ := List.append_of_mem inLonger
  have once : second ∉ front ∧ second ∉ back := by
    obtain ⟨_, tail, apart⟩ := List.nodup_append.mp nodup
    exact ⟨fun member => apart second member second List.mem_cons_self rfl,
      (List.nodup_cons.mp tail).1⟩
  have aligned : front ++ second :: back = start ++ second :: (middle ++ third :: last) := by
    rw [split, List.append_assoc, List.cons_append]
  obtain ⟨rfl, -, -⟩ := (List.append_cons_inj_of_notMem once.1 once.2).mp aligned
  exact pair_sublist_iff.mpr ⟨_, last, split, List.mem_append_left _ inFront⟩

end pairs

/-- A place in a document: so many texts into a record. -/
structure Spot where
  record : Nat
  texts : Nat

namespace Snapshot

/-- The records of a document in order. -/
def order (snapshot : Snapshot) : List Nat := snapshot.pass.tree.documentOrder

/-- The texts of a document. -/
def content (snapshot : Snapshot) : List String := snapshot.order.flatMap snapshot.written

/-- Where a chunk writes next. -/
def place (snapshot : Snapshot) (chunk : Chunk) : Spot where
  record := snapshot.pass.recordOf chunk
  texts := (snapshot.written (snapshot.pass.recordOf chunk)).length

/-- The texts of a document that stand before a place. -/
def ahead (snapshot : Snapshot) (place : Spot) : List String :=
  (snapshot.order.takeWhile (· != place.record)).flatMap snapshot.written ++
    (snapshot.written place.record).take place.texts

/-- The texts of a document between two places of a chunk. -/
def between (last : Snapshot) (chunk : Chunk) (early late : Snapshot) : List String :=
  (last.ahead (late.place chunk)).drop (last.ahead (early.place chunk)).length

/-- Records keep their order and texts their places, and each chunk stays at its record or has moved
to one behind it. -/
structure Onward (before after : Snapshot) : Prop where
  order : before.order.Sublist after.order
  written : ∀ index, before.written index <+: after.written index
  handles : ∀ (number : Nat) (handle : Handle), before.pass.handles[number]? = some handle →
    ∃ held : Handle, after.pass.handles[number]? = some held ∧
      (held.record = handle.record ∨ [handle.record, held.record].Sublist after.order)

end Snapshot

/-! ## What goes on -/

namespace RenderTree

variable {tree : RenderTree} {written : Journal}

/-- The order of a whole tree is without repetitions. -/
theorem Whole.nodup (whole : Whole tree written) : tree.documentOrder.Nodup :=
  whole.exact.order.nodup_iff.mpr List.nodup_range

/-- Each record of a whole tree is in the order. -/
theorem Whole.mem_order (whole : Whole tree written) {index : Nat}
    (inside : index < tree.records.size) : index ∈ tree.documentOrder :=
  whole.exact.order.mem_iff.mpr (List.mem_range.mpr inside)

end RenderTree

namespace Pass

variable {pass after : Pass} {target : Option Chunk} {written : Journal}

/-- An operation keeps the order of the records, and each chunk stays at its record or moves to one
behind it. -/
theorem Effect.onward (effect : pass.Effect target after) (whole : Whole pass.tree written)
    (owned : pass.Owned) :
    pass.tree.documentOrder.Sublist after.tree.documentOrder ∧
      ∀ (number : Nat) (handle : Handle), pass.handles[number]? = some handle →
        ∃ held : Handle, after.handles[number]? = some held ∧
          (held.record = handle.record ∨
            [handle.record, held.record].Sublist after.tree.documentOrder) := by
  -- all operations but a fork leave the order of the records and the records of the handles
  have stays {other : Pass} (order : other.tree.documentOrder = pass.tree.documentOrder)
      (handles : ∀ (number : Nat) (handle : Handle), pass.handles[number]? = some handle →
        ∃ held : Handle, other.handles[number]? = some held ∧ held.record = handle.record) :
      pass.tree.documentOrder.Sublist other.tree.documentOrder ∧
        ∀ (number : Nat) (handle : Handle), pass.handles[number]? = some handle →
          ∃ held : Handle, other.handles[number]? = some held ∧
            (held.record = handle.record ∨
              [handle.record, held.record].Sublist other.tree.documentOrder) := by
    refine ⟨order ▸ List.Sublist.refl _, fun number handle found => ?_⟩
    obtain ⟨held, lookup, record⟩ := handles number handle found
    exact ⟨held, lookup, .inl record⟩
  have retaps {chunk : Chunk} {handle : Handle} (found : pass.handles[chunk.number]? = some handle)
      (change : Handle → Handle) (record : ∀ handle, (change handle).record = handle.record)
      (number : Nat) (handle : Handle) (lookup : pass.handles[number]? = some handle) :
      ∃ held : Handle, (pass.changed chunk change).handles[number]? = some held ∧
        held.record = handle.record := by
    by_cases same : number = chunk.number
    · subst same
      exact ⟨_, changed_self lookup change, record handle⟩
    · exact ⟨handle, (changed_other same change).trans lookup, rfl⟩
  cases effect with
  | nothing untouched =>
    refine stays (by rw [untouched.tree]) fun number handle found => ⟨handle, ?_, rfl⟩
    rw [untouched.handles]
    exact found
  | rooted untaken =>
    refine stays rfl fun number handle found => ⟨handle, ?_, rfl⟩
    have inside : number < pass.handles.size := lt_size_of_found found
    rw [Array.getElem?_push_lt inside, ← Array.getElem?_eq_getElem inside, found]
  | wrote writable text memory =>
    exact stays (whole.received_order writable.record [text]) fun _ handle found =>
      ⟨handle, found, rfl⟩
  | tapped writable tap memory => exact stays rfl (retaps writable.found _ fun _ => rfl)
  | untapped writable popped => exact stays rfl (retaps writable.found _ fun _ => rfl)
  | completed writable untapped completes =>
    exact stays (whole.completed_order writable.record completes)
      (retaps writable.found _ fun _ => rfl)
  | @forked chunk handle tree writable forks =>
    have order : (pass.forked chunk handle tree).tree.documentOrder =
        insertBehind handle.record [pass.tree.records.size + 1, pass.tree.records.size]
          pass.tree.documentOrder := whole.forked_order writable.record forks
    obtain ⟨front, back, split, first, last⟩ :=
      exists_split whole.nodup (whole.mem_order (owned.inside writable.found))
    rw [split, insertBehind_split first last] at order
    rw [order, split]
    refine ⟨.append (.refl _) (.cons_cons _ (List.sublist_append_right _ _)), ?_⟩
    intro number other found
    by_cases same : number = chunk.number
    · subst same
      obtain rfl : handle = other := Option.some.inj (writable.found.symm.trans found)
      refine ⟨_, forked_self found tree, .inr ?_⟩
      refine List.sublist_append_of_sublist_right (.cons_cons _ ?_)
      exact List.singleton_sublist.mpr (by simp)
    · have inside : number < pass.handles.size := lt_size_of_found found
      exact ⟨other, (forked_other same inside tree).trans found, .inl rfl⟩

end Pass

/-- What is entered in a journal is put behind what is there. -/
theorem RenderTree.Journal.prefix_enter (written : Journal) (entry : Option (Nat × String))
    (index : Nat) : written index <+: written.enter entry index := by
  cases entry with
  | none => exact List.prefix_rfl
  | some entry =>
    by_cases same : index = entry.1
    · rw [same, enter, Function.update_self]
      exact List.prefix_append _ _
    · rw [enter, Function.update_of_ne same]

namespace Snapshot

variable {before middle after last : Snapshot} {chunk : Chunk} {handle : Handle}

/-- A snapshot of a pass that is kept, and whose tree is whole with what was written. -/
structure Sound (snapshot : Snapshot) : Prop where
  kept : snapshot.pass.Kept
  whole : Whole snapshot.pass.tree snapshot.written

theorem Onward.refl (snapshot : Snapshot) : snapshot.Onward snapshot where
  order := .refl _
  written _ := List.prefix_rfl
  handles _ handle found := ⟨handle, found, .inl rfl⟩

/-- Going on twice is going on. -/
theorem Onward.trans (early : before.Onward middle) (late : middle.Onward after)
    (nodup : after.order.Nodup) : before.Onward after where
  order := early.order.trans late.order
  written index := (early.written index).trans (late.written index)
  handles number handle found := by
    obtain ⟨held, foundHeld, first⟩ := early.handles number handle found
    obtain ⟨left, foundLeft, second⟩ := late.handles number held foundHeld
    refine ⟨left, foundLeft, ?_⟩
    rcases first with same | pair
    · rw [← same]
      exact second
    · have kept := pair.trans late.order
      rcases second with same | further
      · exact .inr (same ▸ kept)
      · exact .inr (pair_sublist_trans nodup kept further)

/-- What a sound snapshot goes on to is sound, and has gone on. -/
theorem Sound.goes (sound : before.Sound) (goes : before.Goes after) :
    after.Sound ∧ before.Onward after := by
  cases goes with
  | performs pass written operation =>
    obtain ⟨order, handles⟩ := (sound.kept.owned.effect sound.whole operation).onward sound.whole
      sound.kept.owned
    exact ⟨⟨sound.kept.goes (.performs pass operation),
        Operation.whole_durable.operation sound.whole operation⟩,
      ⟨order, written.prefix_enter _, handles⟩⟩
  | aside written untouched =>
    refine ⟨⟨sound.kept.goes (.aside untouched), ?_⟩, ⟨?_, fun _ => List.prefix_rfl, ?_⟩⟩
    · exact untouched.tree ▸ sound.whole
    · rw [order, order, untouched.tree]
    · exact fun _ handle found => ⟨handle, untouched.handles ▸ found, .inl rfl⟩

/-- Whatever a sound snapshot becomes is sound, and has gone on. -/
theorem Sound.reaches (sound : before.Sound) (reached : before.Reaches after) :
    after.Sound ∧ before.Onward after := by
  induction reached with
  | refl => exact ⟨sound, .refl before⟩
  | tail _ last ih =>
    obtain ⟨middle, early⟩ := ih
    obtain ⟨later, late⟩ := middle.goes last
    exact ⟨later, early.trans late later.whole.nodup⟩

/-- A pass with a new tree is sound. -/
theorem sound_start (looping : Bool) :
    Sound ⟨Pass.start .accepting looping, fun _ => []⟩ where
  kept := Pass.kept_start looping
  whole := fresh_whole

/-! ## What stands before a place -/

/-- The records before one that is in the order. -/
theorem takeWhile_split {front back : List Nat} {index : Nat}
    (nodup : (front ++ index :: back).Nodup) :
    (front ++ index :: back).takeWhile (· != index) = front := by
  have apart := (List.nodup_append.mp nodup).2.2
  have before : ∀ other ∈ front, (other != index) = true := fun other member =>
    bne_iff_ne.mpr (apart other member index List.mem_cons_self)
  rw [List.takeWhile_append_of_pos before, List.takeWhile_cons_of_neg (by simp), List.append_nil]

/-- Of two places, the one that comes first has less before it. -/
theorem ahead_prefix (nodup : last.order.Nodup) {early late : Spot}
    (first : early.record = late.record ∧ early.texts ≤ late.texts ∨
      [early.record, late.record].Sublist last.order) :
    last.ahead early <+: last.ahead late := by
  rcases first with ⟨same, fewer⟩ | pair
  · rw [ahead, ahead, same]
    exact (List.prefix_append_right_inj _).mpr (List.take_prefix_take_left fewer)
  · obtain ⟨longer, back, split, member⟩ := pair_sublist_iff.mp pair
    obtain ⟨front, between, rfl⟩ := List.append_of_mem member
    have later : last.order.takeWhile (· != late.record) = front ++ early.record :: between := by
      rw [split] at nodup ⊢
      exact takeWhile_split nodup
    have earlier : last.order.takeWhile (· != early.record) = front := by
      rw [split, List.append_assoc, List.cons_append] at nodup ⊢
      exact takeWhile_split nodup
    rw [ahead, ahead, earlier, later, List.flatMap_append, List.flatMap_cons, List.append_assoc,
      List.append_assoc]
    exact (List.prefix_append_right_inj _).mpr
      ((List.take_prefix _ _).trans (List.prefix_append _ _))

/-- What stands before a place is a front of the document. -/
theorem ahead_prefix_content (nodup : last.order.Nodup) {spot : Spot}
    (inside : spot.record ∈ last.order) : last.ahead spot <+: last.content := by
  obtain ⟨front, back, split⟩ := List.append_of_mem inside
  have before : last.order.takeWhile (· != spot.record) = front := by
    rw [split] at nodup ⊢
    exact takeWhile_split nodup
  rw [ahead, before, content, split, List.flatMap_append, List.flatMap_cons]
  exact (List.prefix_append_right_inj _).mpr
    ((List.take_prefix _ _).trans (List.prefix_append _ _))

/-- A chunk's place only moves on: seen from any later moment, more stands before it than before. -/
theorem Sound.ahead_mono (sound : before.Sound) (reached : before.Reaches middle)
    (later : middle.Reaches last) (found : before.pass.handles[chunk.number]? = some handle) :
    last.ahead (before.place chunk) <+: last.ahead (middle.place chunk) := by
  obtain ⟨between, early⟩ := sound.reaches reached
  obtain ⟨final, late⟩ := between.reaches later
  obtain ⟨held, lookup, moved⟩ := early.handles chunk.number handle found
  refine ahead_prefix final.whole.nodup ?_
  simp only [place, Pass.recordOf_eq found, Pass.recordOf_eq lookup]
  rcases moved with same | pair
  · refine .inl ⟨same.symm, ?_⟩
    rw [same]
    exact (early.written handle.record).length_le
  · exact .inr (pair.trans late.order)

/-- What stands before a chunk's place is a front of the document at any later moment. -/
theorem Sound.ahead_content (sound : before.Sound) (later : before.Reaches last)
    (found : before.pass.handles[chunk.number]? = some handle) :
    last.ahead (before.place chunk) <+: last.content := by
  obtain ⟨final, onward⟩ := sound.reaches later
  refine ahead_prefix_content final.whole.nodup (onward.order.subset ?_)
  rw [place, Pass.recordOf_eq found]
  exact sound.whole.mem_order (sound.kept.owned.inside found)

/-- What stands between two places follows what stands before the first of them. -/
theorem ahead_between {early late : Snapshot}
    (first : last.ahead (early.place chunk) <+: last.ahead (late.place chunk)) :
    last.ahead (early.place chunk) ++ last.between chunk early late =
      last.ahead (late.place chunk) := by
  obtain ⟨rest, whole⟩ := first
  rw [Snapshot.between, ← whole, List.drop_left]

/-- What stands between two places is cut in two by a place between them. -/
theorem between_append {early late : Snapshot}
    (first : last.ahead (early.place chunk) <+: last.ahead (middle.place chunk))
    (second : last.ahead (middle.place chunk) <+: last.ahead (late.place chunk)) :
    last.between chunk early late =
      last.between chunk early middle ++ last.between chunk middle late := by
  have whole := ahead_between (first.trans second)
  rw [← ahead_between second, ← ahead_between first, List.append_assoc] at whole
  exact List.append_cancel_left whole

end Snapshot

end TemplateStream
