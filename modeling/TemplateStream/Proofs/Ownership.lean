import TemplateStream.Proofs.Effects

/-!
# Handle ownership

Handles move to a new record with each branch that is forked off them, yet no two of them ever
write into the same record, and a handle is complete exactly when its record is. This holds after
every operation, also after those that fail. An operation on one chunk therefore leaves all others
as they are, but for the records that flow out, and the tree never refuses an operation on an open
chunk.
-/

namespace TemplateStream

open RenderTree Relation

namespace Pass

variable {pass middle after : Pass} {target : Option Chunk} {written : Journal}

section lookup

variable {chunk : Chunk} {handle held : Handle} {number : Nat}

/-- A handle after that of a chunk was changed is another one, or is the changed one. -/
theorem changed_cases {change : Handle → Handle}
    (found : pass.handles[chunk.number]? = some handle)
    (lookup : (pass.changed chunk change).handles[number]? = some held) :
    number = chunk.number ∧ held = change handle ∨
      number ≠ chunk.number ∧ pass.handles[number]? = some held := by
  by_cases same : number = chunk.number
  · subst same
    rw [changed_self found] at lookup
    exact .inl ⟨rfl, (Option.some.inj lookup).symm⟩
  · rw [changed_other same] at lookup
    exact .inr ⟨same, lookup⟩

/-- A handle after a branch was forked is that of the branch, that of the chunk, or another one. -/
theorem forked_cases {tree : RenderTree} (found : pass.handles[chunk.number]? = some handle)
    (lookup : (pass.forked chunk handle tree).handles[number]? = some held) :
    number = chunk.number ∧ held = { handle with record := pass.tree.records.size } ∨
      number = pass.handles.size ∧
        held = { record := pass.tree.records.size + 1, taps := handle.taps.inherit } ∨
      number ≠ chunk.number ∧ number < pass.handles.size ∧ pass.handles[number]? = some held := by
  by_cases same : number = chunk.number
  · subst same
    rw [forked_self found] at lookup
    exact .inl ⟨rfl, (Option.some.inj lookup).symm⟩
  · by_cases old : number < pass.handles.size
    · rw [forked_other same old] at lookup
      exact .inr (.inr ⟨same, old, lookup⟩)
    · have inside : number < (pass.forked chunk handle tree).handles.size := lt_size_of_found lookup
      have last : number = pass.handles.size := by
        simp only [forked, changed, Array.size_modify, Array.size_push] at inside
        omega
      subst last
      rw [forked_branch found] at lookup
      exact .inr (.inl ⟨rfl, (Option.some.inj lookup).symm⟩)

end lookup

namespace Owned

/-- Handles that keep their records own them, as long as no record is completed. -/
theorem of_same_records (owned : pass.Owned) (alike : Alike pass.tree after.tree)
    (rootTaken : after.rootTaken = pass.rootTaken)
    (untaken : pass.rootTaken = false → after.handles = #[] ∧ after.tree = .new .accepting)
    (kept : ∀ {number : Nat} {handle : Handle}, pass.handles[number]? = some handle →
      ∃ held, after.handles[number]? = some held ∧ held.record = handle.record)
    (old : ∀ {number : Nat} {held : Handle}, after.handles[number]? = some held →
      ∃ handle, pass.handles[number]? = some handle ∧ held.record = handle.record ∧
        held.complete = handle.complete ∧ (held.complete = true → held.taps = handle.taps)) :
    after.Owned where
  inside found := by
    obtain ⟨handle, before, record, _⟩ := old found
    rw [record, alike.size]
    exact owned.inside before
  apart found foundOther same := by
    obtain ⟨handle, before, record, _⟩ := old found
    obtain ⟨other, beforeOther, recordOther, _⟩ := old foundOther
    exact owned.apart before beforeOther (record.symm.trans (same.trans recordOther))
  complete found := by
    obtain ⟨handle, before, record, complete, _⟩ := old found
    rw [record, complete, alike.complete]
    exact owned.complete before
  untapped found completed := by
    obtain ⟨handle, before, _, complete, taps⟩ := old found
    rw [taps completed]
    exact owned.untapped before (complete ▸ completed)
  held taken index isOpen := by
    rw [isOpen_eq, alike.size, alike.complete, ← isOpen_eq] at isOpen
    obtain ⟨number, handle, before, record⟩ := owned.held (rootTaken ▸ taken) isOpen
    obtain ⟨held, found, same⟩ := kept before
    exact ⟨number, held, found, same.trans record⟩
  untaken none := untaken (rootTaken ▸ none)

/-- A pass in which a chunk can be written to has taken its root. -/
theorem taken_of_found (owned : pass.Owned) {number : Nat} {handle : Handle}
    (found : pass.handles[number]? = some handle) : pass.rootTaken = true := by
  cases taken : pass.rootTaken with
  | true => rfl
  | false =>
    rw [(owned.untaken taken).1] at found
    cases found

/-- A pass in which there is a chunk is none whose root is still to be taken. -/
theorem not_untaken (owned : pass.Owned) {number : Nat} {handle : Handle}
    (found : pass.handles[number]? = some handle) : pass.rootTaken ≠ false :=
  Bool.ne_false_iff.mpr (owned.taken_of_found found)

/-- What touches neither the tree nor a handle leaves the handles their records. -/
theorem of_untouched (owned : pass.Owned) (untouched : pass.Untouched after) : after.Owned := by
  obtain ⟨tree, handles, rootTaken⟩ := untouched
  refine owned.of_same_records ⟨by rw [tree], fun _ => by rw [tree]⟩ rootTaken ?_ ?_ ?_
  · intro none
    rw [handles, tree]
    exact owned.untaken none
  · intro number handle found
    exact ⟨handle, by rw [handles, found], rfl⟩
  · intro number held found
    rw [handles] at found
    exact ⟨held, found, rfl, rfl, fun _ => rfl⟩

/-- The root owns the first record when it is taken. -/
theorem rooted (owned : pass.Owned) (untaken : pass.rootTaken = false) :
    Pass.Owned { pass with
      rootTaken := true
      handles := pass.handles.push { record := pass.tree.head } } := by
  obtain ⟨none, new⟩ := owned.untaken untaken
  have only {number : Nat} {held : Handle}
      (found : (pass.handles.push { record := pass.tree.head })[number]? = some held) :
      number = 0 ∧ held = { record := 0 } := by
    rw [none, new, Array.getElem?_push] at found
    split at found
    · rename_i zero
      exact ⟨zero, (Option.some.inj found).symm⟩
    · simp at found
  have first : pass.tree.records[0]? = some ({} : Record) := by rw [new]; rfl
  exact {
    inside := fun found => by
      rw [(only found).2, new]
      exact Nat.zero_lt_one
    apart := fun found foundOther _ => by rw [(only found).1, (only foundOther).1]
    complete := fun found => by
      rw [(only found).2]
      exact isComplete_of_found first
    untapped := fun found complete => by
      rw [(only found).2] at complete
      cases complete
    held := fun _ index isOpen => by
      refine ⟨0, { record := 0 }, by rw [none, new]; rfl, ?_⟩
      rw [isOpen_eq, Bool.and_eq_true, decide_eq_true_eq, new] at isOpen
      exact (Nat.lt_one_iff.mp isOpen.1).symm
    untaken := fun taken => by cases taken }

/-- Changing only the taps of an open handle leaves the handles their records. -/
theorem retapped (owned : pass.Owned) {chunk : Chunk} {handle : Handle}
    (writable : pass.Writable chunk handle) {change : Handle → Handle}
    (record : (change handle).record = handle.record)
    (complete : (change handle).complete = handle.complete) :
    (pass.changed chunk change).Owned := by
  refine owned.of_same_records ⟨rfl, fun _ => rfl⟩ rfl
    (fun none => absurd none (owned.not_untaken writable.found)) ?_ ?_
  · intro number other found
    by_cases same : number = chunk.number
    · subst same
      obtain rfl : handle = other := Option.some.inj (writable.found.symm.trans found)
      exact ⟨change handle, changed_self found change, record⟩
    · exact ⟨other, by rw [changed_other same, found], rfl⟩
  · intro number held lookup
    rcases changed_cases writable.found lookup with ⟨rfl, rfl⟩ | ⟨_, found⟩
    · refine ⟨handle, writable.found, record, complete, fun completed => ?_⟩
      rw [complete, writable.isOpen] at completed
      cases completed
    · exact ⟨held, found, rfl, rfl, fun _ => rfl⟩

/-- Writing leaves the handles their records. -/
theorem wrote (owned : pass.Owned) (whole : Whole pass.tree written) {chunk : Chunk}
    {handle : Handle} (writable : pass.Writable chunk handle) (texts : List String)
    (memory : TapMemory) : (pass.wrote handle texts memory).Owned := by
  refine owned.of_same_records (whole.receives writable.record texts) rfl
    (fun none => absurd none (owned.not_untaken writable.found)) ?_ ?_
  · exact fun found => ⟨_, found, rfl⟩
  · exact fun found => ⟨_, found, rfl, rfl, fun _ => rfl⟩

/-- Once a branch was forked off a chunk, every open record is that of a handle: that of the chunk
is complete now, and both new records belong to a handle. -/
theorem forked_held (owned : pass.Owned) {chunk : Chunk} {handle : Handle} {tree : RenderTree}
    (writable : pass.Writable chunk handle) (size : tree.records.size = pass.tree.records.size + 2)
    (complete : ∀ other, tree.isComplete other =
      (pass.tree.isComplete other || other == handle.record))
    (taken : pass.rootTaken = true) {index : Nat} (isOpen : tree.isOpen index = true) :
    ∃ number : Nat, ∃ held : Handle,
      (pass.forked chunk handle tree).handles[number]? = some held ∧ held.record = index := by
  rw [isOpen_eq, Bool.and_eq_true, decide_eq_true_eq, size, complete, Bool.not_eq_true',
    Bool.or_eq_false_iff, beq_eq_false_iff_ne] at isOpen
  obtain ⟨inside, incomplete, different⟩ := isOpen
  by_cases old : index < pass.tree.records.size
  · have openBefore : pass.tree.isOpen index = true := by
      rw [isOpen_eq, incomplete, decide_eq_true old]
      rfl
    obtain ⟨number, held, found, rfl⟩ := owned.held taken openBefore
    have apart : number ≠ chunk.number := by
      rintro rfl
      obtain rfl : handle = held := Option.some.inj (writable.found.symm.trans found)
      exact different rfl
    have older : number < pass.handles.size := lt_size_of_found found
    exact ⟨number, held, (forked_other apart older tree).trans found, rfl⟩
  · by_cases continued : index = pass.tree.records.size
    · exact ⟨_, _, forked_self writable.found tree, continued.symm⟩
    · exact ⟨_, _, forked_branch writable.found tree, by simp only; omega⟩

/-- A chunk that a branch was forked off owns the continuation, and the branch a record of its
own. -/
theorem forked (owned : pass.Owned) (whole : Whole pass.tree written) {chunk : Chunk}
    {handle : Handle} {tree : RenderTree} (writable : pass.Writable chunk handle)
    (forks : RenderTree.fork handle.record pass.tree =
      (.ok (pass.tree.records.size + 1, pass.tree.records.size), tree)) :
    (pass.forked chunk handle tree).Owned := by
  obtain ⟨same, forksToo, size, complete⟩ := whole.forks writable.record
  obtain rfl : tree = same := congrArg Prod.snd (forks.symm.trans forksToo)
  have below := owned.inside writable.found
  have new {index : Nat} (above : pass.tree.records.size ≤ index) :
      tree.isComplete index = false := by
    rw [complete, isComplete_of_size_le above, Bool.false_or, beq_eq_false_iff_ne]
    omega
  exact {
    inside := fun {number held} lookup => by
      show held.record < tree.records.size
      rw [size]
      rcases forked_cases writable.found lookup with ⟨_, rfl⟩ | ⟨_, rfl⟩ | ⟨_, _, found⟩
      · exact Nat.lt_add_of_pos_right Nat.zero_lt_two
      · exact Nat.lt_succ_self _
      · exact Nat.lt_add_right 2 (owned.inside found)
    apart := fun {number other held heldOther} lookup lookupOther same => by
      rcases forked_cases writable.found lookup with ⟨rfl, rfl⟩ | ⟨rfl, rfl⟩ | ⟨_, _, found⟩ <;>
      rcases forked_cases writable.found lookupOther with
        ⟨rfl, rfl⟩ | ⟨rfl, rfl⟩ | ⟨_, _, foundOther⟩
      case inl.inl | inr.inl.inr.inl => rfl
      case inl.inr.inl | inr.inl.inl => simp at same
      case inl.inr.inr | inr.inl.inr.inr =>
        have := owned.inside foundOther
        simp only at same
        omega
      case inr.inr.inl | inr.inr.inr.inl =>
        have := owned.inside found
        simp only at same
        omega
      case inr.inr.inr.inr => exact owned.apart found foundOther same
    complete := fun {number held} lookup => by
      show tree.isComplete held.record = held.complete
      rcases forked_cases writable.found lookup with ⟨_, rfl⟩ | ⟨_, rfl⟩ | ⟨apart, _, found⟩
      · rw [new (Nat.le_refl _)]
        exact writable.isOpen.symm
      · exact new (Nat.le_succ _)
      · have different : held.record ≠ handle.record := fun same =>
          apart (owned.apart found writable.found same)
        rw [complete, beq_false_of_ne different, Bool.or_false]
        exact owned.complete found
    untapped := fun {number held} lookup completed => by
      rcases forked_cases writable.found lookup with ⟨_, rfl⟩ | ⟨_, rfl⟩ | ⟨_, _, found⟩
      · exact absurd (writable.isOpen.symm.trans completed) Bool.false_ne_true
      · cases completed
      · exact owned.untapped found completed
    held := fun taken _ isOpen => owned.forked_held writable size complete taken isOpen
    untaken := fun none => absurd none (owned.not_untaken writable.found) }

/-- A completed chunk still owns its record, which is complete. -/
theorem completed (owned : pass.Owned) (whole : Whole pass.tree written) {chunk : Chunk}
    {handle : Handle} {tree : RenderTree} (writable : pass.Writable chunk handle)
    (untapped : handle.taps.depth = 0)
    (completes : RenderTree.complete handle.record pass.tree = (.ok (), tree)) :
    (pass.completed chunk tree).Owned := by
  obtain ⟨same, completesToo, size, complete⟩ := whole.completes writable.record
  obtain rfl : tree = same := congrArg Prod.snd (completes.symm.trans completesToo)
  have below := owned.inside writable.found
  have cases_of {number : Nat} {held : Handle}
      (lookup : (pass.completed chunk tree).handles[number]? = some held) :
      number = chunk.number ∧ held = { handle with complete := true } ∨
        number ≠ chunk.number ∧ pass.handles[number]? = some held := by
    have changed : (pass.changed chunk ({ · with complete := true })).handles[number]? =
      some held := lookup
    exact changed_cases writable.found changed
  exact {
    inside := fun {number held} lookup => by
      show held.record < tree.records.size
      rw [size]
      rcases cases_of lookup with ⟨_, rfl⟩ | ⟨_, found⟩
      · exact below
      · exact owned.inside found
    apart := fun {number other held heldOther} lookup lookupOther same => by
      rcases cases_of lookup with ⟨rfl, rfl⟩ | ⟨_, found⟩ <;>
      rcases cases_of lookupOther with ⟨rfl, rfl⟩ | ⟨_, foundOther⟩
      · rfl
      · exact owned.apart writable.found foundOther same
      · exact owned.apart found writable.found same
      · exact owned.apart found foundOther same
    complete := fun {number held} lookup => by
      show tree.isComplete held.record = held.complete
      rw [complete]
      rcases cases_of lookup with ⟨_, rfl⟩ | ⟨apart, found⟩
      · simp
      · have different : held.record ≠ handle.record := fun same =>
          apart (owned.apart found writable.found same)
        rw [beq_false_of_ne different, Bool.or_false]
        exact owned.complete found
    untapped := fun {number held} lookup completed => by
      rcases cases_of lookup with ⟨_, rfl⟩ | ⟨_, found⟩
      · exact untapped
      · exact owned.untapped found completed
    held := fun taken index isOpen => by
      have opened : tree.isOpen index = true := isOpen
      rw [isOpen_eq, size, complete, Bool.not_or, ← Bool.and_assoc, ← isOpen_eq,
        Bool.and_eq_true, Bool.not_eq_true', beq_eq_false_iff_ne] at opened
      obtain ⟨number, held, found, rfl⟩ := owned.held taken opened.1
      have apart : number ≠ chunk.number := by
        rintro rfl
        obtain rfl : handle = held := Option.some.inj (writable.found.symm.trans found)
        exact opened.2 rfl
      exact ⟨number, held, (changed_other apart _).trans found, rfl⟩
    untaken := fun none => absurd none (owned.not_untaken writable.found) }

end Owned

/-! ## What operations leave alone -/

end Pass

/-- The oldest taps of a handle are inherited, and these are the given ones. -/
def Handle.Inherits (handle : Handle) (frames : List Tap) : Prop :=
  ∃ own, handle.taps.frames = own ++ frames ∧ handle.taps.inherited = frames.length

namespace Pass

variable {pass middle after : Pass} {target : Option Chunk} {written : Journal}

/-- The handles of a pass stayed at their records or moved to new ones. -/
structure Moves (pass after : Pass) : Prop where
  grows : pass.tree.records.size ≤ after.tree.records.size
  taken : pass.rootTaken = true → after.rootTaken = true
  moves : ∀ {number : Nat} {held : Handle}, pass.rootTaken = true →
    after.handles[number]? = some held →
    (∃ handle, pass.handles[number]? = some handle ∧ handle.record = held.record) ∨
      pass.tree.records.size ≤ held.record

/-- Handles that stay where they are move nowhere else. -/
theorem Moves.refl (pass : Pass) : pass.Moves pass :=
  ⟨Nat.le_refl _, id, fun _ lookup => .inl ⟨_, lookup, rfl⟩⟩

/-- Handles that move twice are at new records, unless they stayed both times. -/
theorem Moves.trans (early : pass.Moves middle) (late : middle.Moves after) :
    pass.Moves after where
  grows := early.grows.trans late.grows
  taken := late.taken ∘ early.taken
  moves taken lookup := by
    rcases late.moves (early.taken taken) lookup with ⟨between, found, record⟩ | new
    · rw [← record]
      exact early.moves taken found
    · exact .inr (early.grows.trans new)

namespace Effect

/-- An operation leaves the handles their records. -/
theorem owned (effect : pass.Effect target after) (owned : pass.Owned)
    (whole : Whole pass.tree written) : after.Owned := by
  cases effect with
  | nothing untouched => exact owned.of_untouched untouched
  | rooted untaken => exact owned.rooted untaken
  | wrote writable text memory => exact owned.wrote whole writable [text] memory
  | tapped writable tap memory =>
    have remembered : Pass.Owned { pass with memory } := owned.of_untouched ⟨rfl, rfl, rfl⟩
    exact remembered.retapped ⟨writable.found, writable.isOpen, writable.record⟩ rfl rfl
  | untapped writable popped => exact owned.retapped writable rfl rfl
  | forked writable forks => exact owned.forked whole writable forks
  | completed writable untapped completes => exact owned.completed whole writable untapped completes

/-- An operation on one chunk leaves the handles of all others as they are, and leaves their
records alone. -/
theorem spares (effect : pass.Effect target after) (owned : pass.Owned)
    (whole : Whole pass.tree written) {number : Nat} {handle : Handle}
    (other : target ≠ some ⟨number⟩) (found : pass.handles[number]? = some handle) :
    after.handles[number]? = some handle ∧ Spares pass.tree after.tree handle.record := by
  have apart {chunk : Chunk} {held : Handle} (writable : pass.Writable chunk held)
      (different : some chunk ≠ some (Chunk.mk number)) :
      number ≠ chunk.number ∧ handle.record ≠ held.record := by
    have numbers : number ≠ chunk.number := by
      rintro rfl
      exact different rfl
    exact ⟨numbers, fun same => numbers (owned.apart found writable.found same)⟩
  cases effect with
  | nothing untouched =>
    exact ⟨untouched.handles ▸ found, .of_same (by rw [untouched.tree])⟩
  | rooted untaken =>
    exact absurd untaken (owned.not_untaken found)
  | wrote writable text memory =>
    refine ⟨found, .of_same ?_⟩
    simp [Pass.wrote, received, Array.getElem?_modify, Ne.symm (apart writable other).2]
  | tapped writable tap memory =>
    exact ⟨(changed_other (apart writable other).1 _).trans found, .of_same rfl⟩
  | untapped writable popped =>
    exact ⟨(changed_other (apart writable other).1 _).trans found, .of_same rfl⟩
  | @forked chunk held tree writable forks =>
    obtain ⟨numbers, records⟩ := apart writable other
    have inside : number < pass.handles.size := lt_size_of_found found
    have spared := fork_spares whole.sink (owned.inside found) records
    rw [forks] at spared
    exact ⟨(forked_other numbers inside tree).trans found, spared⟩
  | @completed chunk held tree writable untapped completes =>
    obtain ⟨numbers, records⟩ := apart writable other
    have spared := complete_spares whole.sink records
    rw [completes] at spared
    exact ⟨(changed_other numbers _).trans found, spared⟩

/-- An operation keeps the inherited taps of every handle, as the oldest that it has. -/
theorem inherits (effect : pass.Effect target after) {number : Nat} {handle : Handle}
    {frames : List Tap} (found : pass.handles[number]? = some handle)
    (inherits : handle.Inherits frames) :
    ∃ held, after.handles[number]? = some held ∧ held.Inherits frames := by
  obtain ⟨own, whose, count⟩ := inherits
  have kept (same : after.handles[number]? = pass.handles[number]?) :
      ∃ held, after.handles[number]? = some held ∧ held.Inherits frames :=
    ⟨handle, same.trans found, own, whose, count⟩
  cases effect with
  | nothing untouched => exact kept (by rw [untouched.handles])
  | rooted untaken =>
    have inside : number < pass.handles.size := lt_size_of_found found
    exact kept (by rw [Array.getElem?_push_lt inside, Array.getElem?_eq_getElem inside])
  | wrote writable text memory => exact kept rfl
  | @tapped chunk held writable tap memory =>
    by_cases same : number = chunk.number
    · subst same
      exact ⟨_, changed_self found _, tap :: own, congrArg (tap :: ·) whose, count⟩
    · exact kept (changed_other same _)
  | @untapped chunk held tap taps writable popped =>
    by_cases same : number = chunk.number
    · subst same
      obtain rfl : handle = held := Option.some.inj (found.symm.trans writable.found)
      obtain ⟨first, inherited, most⟩ := TapStack.depth_of_pop popped
      refine ⟨_, changed_self found _, ?_⟩
      cases own with
      | nil =>
        -- the tap that was taken off would be an inherited one
        have longer := congrArg List.length (whose.symm.trans first)
        rw [List.nil_append, List.length_cons] at longer
        omega
      | cons newest rest =>
        have rests : rest ++ frames = taps.frames :=
          (List.cons.inj (whose.symm.trans first)).2
        exact ⟨rest, rests.symm, inherited.trans count⟩
    · exact kept (changed_other same _)
  | @forked chunk held tree writable forks =>
    by_cases same : number = chunk.number
    · subst same
      obtain rfl : handle = held := Option.some.inj (found.symm.trans writable.found)
      exact ⟨_, forked_self found tree, own, whose, count⟩
    · have inside : number < pass.handles.size := lt_size_of_found found
      exact kept (forked_other same inside tree)
  | @completed chunk held tree writable untapped completes =>
    by_cases same : number = chunk.number
    · subst same
      have changed := changed_self found ({ · with complete := true })
      exact ⟨_, changed, own, whose, count⟩
    · exact kept (changed_other same _)

/-- An operation moves a handle to a new record, if to any. -/
theorem moves (effect : pass.Effect target after) (whole : Whole pass.tree written) :
    pass.Moves after := by
  cases effect with
  | nothing untouched =>
    obtain ⟨tree, handles, rootTaken⟩ := untouched
    refine ⟨by rw [tree], fun taken => rootTaken.trans taken, fun _ lookup => .inl ?_⟩
    rw [handles] at lookup
    exact ⟨_, lookup, rfl⟩
  | rooted untaken =>
    exact ⟨Nat.le_refl _, fun _ => rfl, fun taken _ =>
      absurd (untaken.symm.trans taken) Bool.false_ne_true⟩
  | wrote writable text memory =>
    exact ⟨Nat.le_of_eq (whole.receives writable.record [text]).size.symm, id,
      fun _ lookup => .inl ⟨_, lookup, rfl⟩⟩
  | tapped writable tap memory =>
    refine ⟨Nat.le_refl _, id, fun _ lookup => .inl ?_⟩
    rcases changed_cases writable.found lookup with ⟨rfl, rfl⟩ | ⟨_, found⟩
    · exact ⟨_, writable.found, rfl⟩
    · exact ⟨_, found, rfl⟩
  | untapped writable popped =>
    refine ⟨Nat.le_refl _, id, fun _ lookup => .inl ?_⟩
    rcases changed_cases writable.found lookup with ⟨rfl, rfl⟩ | ⟨_, found⟩
    · exact ⟨_, writable.found, rfl⟩
    · exact ⟨_, found, rfl⟩
  | @forked chunk handle tree writable forks =>
    obtain ⟨same, forksToo, size, _⟩ := whole.forks writable.record
    obtain rfl : tree = same := congrArg Prod.snd (forks.symm.trans forksToo)
    refine ⟨?_, id, fun _ lookup => ?_⟩
    · show pass.tree.records.size ≤ tree.records.size
      omega
    · rcases forked_cases writable.found lookup with ⟨_, rfl⟩ | ⟨_, rfl⟩ | ⟨_, _, found⟩
      · exact .inr (Nat.le_refl _)
      · exact .inr (Nat.le_succ _)
      · exact .inl ⟨_, found, rfl⟩
  | @completed chunk handle tree writable untapped completes =>
    obtain ⟨same, completesToo, size, _⟩ := whole.completes writable.record
    obtain rfl : tree = same := congrArg Prod.snd (completes.symm.trans completesToo)
    refine ⟨Nat.le_of_eq size.symm, id, fun _ lookup => .inl ?_⟩
    rcases changed_cases writable.found lookup with ⟨rfl, rfl⟩ | ⟨_, found⟩
    · exact ⟨_, writable.found, rfl⟩
    · exact ⟨_, found, rfl⟩

end Effect

/-- A pass whose tree is whole and in which each handle has a record to itself. -/
structure Kept (pass : Pass) : Prop where
  whole : ∃ written, Whole pass.tree written
  owned : pass.Owned

namespace Kept

/-- What a pass goes on to is kept. -/
theorem goes (kept : pass.Kept) (goes : pass.Goes after) : after.Kept := by
  obtain ⟨written, whole⟩ := kept.whole
  cases goes with
  | performs operation =>
    exact ⟨⟨_, Operation.whole_durable.operation whole operation⟩,
      (kept.owned.effect whole operation).owned kept.owned whole⟩
  | aside untouched =>
    exact ⟨⟨written, untouched.tree ▸ whole⟩, kept.owned.of_untouched untouched⟩

/-- What a pass goes on to is an effect of an operation on it. -/
theorem effect_of_goes (kept : pass.Kept) (goes : pass.Goes after) :
    ∃ target, pass.Effect target after := by
  obtain ⟨written, whole⟩ := kept.whole
  cases goes with
  | performs operation => exact ⟨_, kept.owned.effect whole operation⟩
  | aside untouched => exact ⟨none, .nothing untouched⟩

/-- Whatever a pass becomes is kept. -/
theorem reaches (kept : pass.Kept) (reached : pass.Reaches after) : after.Kept := by
  induction reached with
  | refl => exact kept
  | tail _ last ih => exact ih.goes last

/-- Whatever a pass becomes, its handles inherit what they did. -/
theorem inherits (kept : pass.Kept) (reached : pass.Reaches after) {number : Nat}
    {handle : Handle} {frames : List Tap} (found : pass.handles[number]? = some handle)
    (inherited : handle.Inherits frames) :
    ∃ held, after.handles[number]? = some held ∧ held.Inherits frames := by
  induction reached with
  | refl => exact ⟨handle, found, inherited⟩
  | tail early last ih =>
    obtain ⟨held, lookup, inheritedToo⟩ := ih
    obtain ⟨_, effect⟩ := (kept.reaches early).effect_of_goes last
    exact effect.inherits lookup inheritedToo

/-- Whatever a pass becomes, its handles move to new records, if to any. -/
theorem moves (kept : pass.Kept) (reached : pass.Reaches after) : pass.Moves after := by
  induction reached with
  | refl => exact .refl pass
  | @tail middle after early last ih =>
    have between := kept.reaches early
    obtain ⟨written, whole⟩ := between.whole
    obtain ⟨_, effect⟩ := between.effect_of_goes last
    exact ih.trans (effect.moves whole)

end Kept

/-- A pass with a new tree is kept. -/
theorem kept_start (looping : Bool) : (Pass.start .accepting looping).Kept where
  whole := ⟨_, fresh_whole⟩
  owned := {
    inside := fun found => by simp [Pass.start] at found
    apart := fun found => by simp [Pass.start] at found
    complete := fun found => by simp [Pass.start] at found
    untapped := fun found => by simp [Pass.start] at found
    held := fun taken => by cases taken
    untaken := fun _ => ⟨rfl, rfl⟩ }

end Pass

/-! ## Every reachable state -/

/-- What holds of a pass and its handles whatever was done to them. -/
structure Pass.Orderly (pass : Pass) : Prop where
  owned : pass.Owned
  /-- An operation on one chunk changes no other handle, and no other record but by letting it
  flow out. -/
  spares : ∀ (operation : Operation) (number : Nat) (handle : Handle),
    operation.target ≠ some ⟨number⟩ → pass.handles[number]? = some handle →
    (operation.perform pass).2.handles[number]? = some handle ∧
      Spares pass.tree (operation.perform pass).2.tree handle.record
  /-- The oldest taps of a branch are those that its parent had when it was forked, for ever. -/
  inherits : ∀ (chunk branch : Chunk) (forked : Pass),
    chunk.branch pass = (.ok branch, forked) →
    ∃ parent, pass.handles[chunk.number]? = some parent ∧
      ∀ later, forked.Reaches later → ∃ handle, later.handles[branch.number]? = some handle ∧
        handle.Inherits parent.taps.frames
  /-- The record of a handle is never that of another one, not even later. -/
  unshared : ∀ later, pass.Reaches later → ∀ (number other : Nat) (handle held : Handle),
    number ≠ other → pass.handles[number]? = some handle → later.handles[other]? = some held →
    handle.record ≠ held.record
  /-- The tree refuses no operation on an open chunk. -/
  unrefused : ∀ (number : Nat) (handle : Handle),
    pass.handles[number]? = some handle → handle.complete = false →
    (∀ text, (RenderTree.append handle.record text pass.tree).1 = .ok ()) ∧
      (∃ records, (RenderTree.fork handle.record pass.tree).1 = .ok records) ∧
      (RenderTree.complete handle.record pass.tree).1 = .ok ()

/-- A pass that is kept is orderly. -/
theorem Pass.Kept.orderly {pass : Pass} (kept : pass.Kept) : pass.Orderly := by
  obtain ⟨written, whole⟩ := kept.whole
  refine ⟨kept.owned, ?spares, ?inherits, ?unshared, ?unrefused⟩
  case spares =>
    intro operation number handle other found
    exact (kept.owned.effect whole operation).spares kept.owned whole other found
  case inherits =>
    intro chunk branch forked branched
    obtain ⟨_, _, allowed, _⟩ := bind_ok branched
    obtain ⟨rfl, parent, found, isOpen⟩ := Chunk.ensureOpen_ok allowed
    have writable := kept.owned.writable found isOpen
    obtain ⟨tree, forks, _⟩ := whole.forks writable.record
    have reached : pass.Reaches (chunk.branch pass).2 := reaches_endure.branch chunk pass
    rw [branched] at reached
    rw [Chunk.branch_step found isOpen, forks] at branched
    obtain ⟨same, rfl⟩ := Prod.mk.inj branched
    obtain rfl := Except.ok.inj same
    refine ⟨parent, found, fun later reachedLater => ?_⟩
    exact (kept.reaches reached).inherits reachedLater (forked_branch found tree) ⟨[], rfl, rfl⟩
  case unshared =>
    intro later reached number other handle held different found lookup same
    have taken := kept.owned.taken_of_found found
    rcases (kept.moves reached).moves taken lookup with ⟨before, foundOther, record⟩ | new
    · exact different (kept.owned.apart found foundOther (same.trans record.symm))
    · have inside := kept.owned.inside found
      omega
  case unrefused =>
    intro number handle found isOpen
    have writable : pass.Writable ⟨number⟩ handle := kept.owned.writable found isOpen
    obtain ⟨forked, forks, _⟩ := whole.forks writable.record
    obtain ⟨completed, completes, _⟩ := whole.completes writable.record
    exact ⟨fun text => by rw [append_step writable.record], ⟨_, by rw [forks]⟩,
      by rw [completes]⟩

/-- With a sink that refuses nothing, every run of calls on chunks and of scheduled work, whether
they fail or not, is a chain of operations, and in every state that a chain of operations can
reach each handle has a record to itself, is complete exactly when that is, and is left alone by
operations on others. -/
theorem handles_owned (sink : Sink) (looping : Bool)
    (accepts : ∀ received fragment, sink received fragment = none) :
    (∀ faults pass, (Pass.start sink looping).Runs faults pass →
      (Pass.start sink looping).Reaches pass) ∧
      ∀ pass, (Pass.start sink looping).Reaches pass → pass.Orderly := by
  obtain rfl : sink = .accepting := funext fun received => funext (accepts received)
  exact ⟨fun _ _ ran => ran.reaches, fun _ reached =>
    ((Pass.kept_start looping).reaches reached).orderly⟩

/-- A function that is given a branch writes to it and then fails. -/
def mapThatFails : HandleCall :=
  .map ⟨0⟩ [.chunk (.write ⟨1⟩ (.text "a"))] (.error (.raised .value "boom"))

/-- The branch of a function that failed keeps its record, and the root has moved behind it. -/
theorem handles_owned_mapThatFails :
    let origin := Pass.start .accepting false
    let rooted := ((HandleCall.chunk .root).perform origin).2
    let mapped := (mapThatFails.perform rooted).2
    (∀ received fragment, Sink.accepting received fragment = none) ∧
      (mapThatFails.perform rooted).1.isOk = false ∧
      mapped.handles.map Handle.record = #[1, 2] ∧ mapped.Orderly := by
  intro origin rooted mapped
  have ran : origin.Runs [] mapped := (Pass.Runs.start.calls (.chunk .root)).calls mapThatFails
  have holds := handles_owned .accepting false fun _ _ => rfl
  exact ⟨fun _ _ => rfl, by decide +kernel, by decide +kernel,
    holds.2 mapped (holds.1 [] mapped ran)⟩

end TemplateStream
