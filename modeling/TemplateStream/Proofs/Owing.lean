import TemplateStream.Proofs.Debts

/-!
# Chunks that owe texts

A chunk owes its document the texts that are still to be written through it. What happens to the
debts of records happens to those of the chunks that write into them: operations on a chunk
change what it owes, and what it owes alone.
-/

namespace TemplateStream

open RenderTree

namespace Pass

/-- The record that a chunk writes into. -/
def recordOf (pass : Pass) (chunk : Chunk) : Nat :=
  (pass.handles[chunk.number]?.map Handle.record).getD 0

/-- What chunks owe the document of a pass. -/
structure Owes (pass : Pass) (document : List String) (debts : List (Chunk × List String)) :
    Prop where
  due : Due pass.tree document (debts.map fun debt => (pass.recordOf debt.1, debt.2))
  /-- A chunk that owes something has an open handle. -/
  handled : ∀ debt ∈ debts, ∃ handle,
    pass.handles[debt.1.number]? = some handle ∧ handle.complete = false

/-- A chunk through which texts can be written, and its handle. -/
structure Writable (pass : Pass) (chunk : Chunk) (handle : Handle) : Prop where
  found : pass.handles[chunk.number]? = some handle
  isOpen : handle.complete = false
  record : pass.tree.isOpen handle.record = true

/-- A handle says which record its chunk writes into. -/
theorem recordOf_eq {pass : Pass} {chunk : Chunk} {handle : Handle}
    (found : pass.handles[chunk.number]? = some handle) :
    pass.recordOf chunk = handle.record := by
  rw [recordOf, found, Option.map_some, Option.getD_some]

/-- A pass after texts were written through a chunk. -/
def wrote (pass : Pass) (handle : Handle) (texts : List String) (memory : TapMemory) : Pass :=
  { pass with
    tree := pass.tree.received handle.record texts
    memory }

/-- A pass after a branch was forked off a chunk, given the tree after that. -/
def forked (pass : Pass) (chunk : Chunk) (handle : Handle) (tree : RenderTree) : Pass :=
  { pass with
    tree
    handles := pass.handles.push
      { record := pass.tree.records.size + 1, taps := handle.taps.inherit }
  }.changed chunk ({ · with record := pass.tree.records.size })

/-- A pass after a chunk was completed, given the tree after that. -/
def completed (pass : Pass) (chunk : Chunk) (tree : RenderTree) : Pass :=
  { pass.changed chunk ({ · with complete := true }) with tree }

section lookup

variable {pass : Pass} {chunk : Chunk} {handle : Handle}

/-- The handle of a chunk after it was changed. -/
theorem changed_self (found : pass.handles[chunk.number]? = some handle)
    (change : Handle → Handle) :
    (pass.changed chunk change).handles[chunk.number]? = some (change handle) := by
  simp [changed, Array.getElem?_modify, found]

/-- Changing the handle of a chunk changes no other. -/
theorem changed_other {number : Nat} (apart : number ≠ chunk.number)
    (change : Handle → Handle) :
    (pass.changed chunk change).handles[number]? = pass.handles[number]? := by
  simp [changed, Array.getElem?_modify, Ne.symm apart]

/-- A pass is as it was when the change to a handle is taken back. -/
theorem changed_back (found : pass.handles[chunk.number]? = some handle)
    {change back : Handle → Handle} (restores : back (change handle) = handle) :
    (pass.changed chunk change).changed chunk back = pass := by
  have handles : (pass.handles.modify chunk.number change).modify chunk.number back =
      pass.handles := by
    rw [modify_modify]
    refine modify_unchanged fun held lookup => ?_
    rwa [Option.some.inj (found.symm.trans lookup)] at restores
  rw [changed, changed, handles]

/-- A branch inherits the taps of the chunk that it was forked off. -/
theorem forked_branch (found : pass.handles[chunk.number]? = some handle) (tree : RenderTree) :
    (pass.forked chunk handle tree).handles[(Chunk.mk pass.handles.size).number]? =
      some { record := pass.tree.records.size + 1, taps := handle.taps.inherit } := by
  have inside : chunk.number < pass.handles.size := lt_size_of_found found
  rw [forked, changed_other (Nat.ne_of_gt inside)]
  exact Array.getElem?_push_size

/-- A chunk that a branch was forked off keeps its taps. -/
theorem forked_self (found : pass.handles[chunk.number]? = some handle) (tree : RenderTree) :
    (pass.forked chunk handle tree).handles[chunk.number]? =
      some { handle with record := pass.tree.records.size } := by
  have inside : chunk.number < pass.handles.size := lt_size_of_found found
  rw [forked]
  apply changed_self
  rw [Array.getElem?_push_lt inside, ← Array.getElem?_eq_getElem inside, found]

/-- Forking a branch off a chunk changes the handle of no other chunk. -/
theorem forked_other {number : Nat} (apart : number ≠ chunk.number)
    (old : number < pass.handles.size) (tree : RenderTree) :
    (pass.forked chunk handle tree).handles[number]? = pass.handles[number]? := by
  rw [forked, changed_other apart, Array.getElem?_push_lt old, Array.getElem?_eq_getElem old]

end lookup

namespace Owes

variable {pass after : Pass} {document : List String} {debts others : List (Chunk × List String)}
  {chunk : Chunk} {texts : List String} {handle : Handle}

/-- It does not matter in which order debts are listed. -/
theorem perm (owes : pass.Owes document debts) (reordered : debts.Perm others) :
    pass.Owes document others :=
  ⟨owes.due.perm (reordered.map _),
    fun debt member => owes.handled debt (reordered.mem_iff.mpr member)⟩

/-- What chunks owe depends on the tree and their handles alone, and on no taps. -/
theorem of_agree (owes : pass.Owes document debts) (tree : after.tree = pass.tree)
    (agree : ∀ debt ∈ debts, ∃ old new,
      pass.handles[debt.1.number]? = some old ∧ after.handles[debt.1.number]? = some new ∧
      new.record = old.record ∧ new.complete = old.complete) :
    after.Owes document debts := by
  constructor
  · have same : (debts.map fun debt => (after.recordOf debt.1, debt.2)) =
        debts.map fun debt => (pass.recordOf debt.1, debt.2) := by
      refine List.map_congr_left fun debt member => ?_
      obtain ⟨old, new, foundOld, foundNew, record, _⟩ := agree debt member
      rw [recordOf_eq foundOld, recordOf_eq foundNew, record]
    rw [tree, same]
    exact owes.due
  · intro debt member
    obtain ⟨old, new, foundOld, foundNew, _, complete⟩ := agree debt member
    obtain ⟨handle, found, isOpen⟩ := owes.handled debt member
    rw [foundOld] at found
    obtain rfl := Option.some.inj found
    exact ⟨new, foundNew, complete.trans isOpen⟩

/-- A change to the rest of the pass changes no debts. -/
theorem of_same (owes : pass.Owes document debts) (tree : after.tree = pass.tree)
    (handles : after.handles = pass.handles) : after.Owes document debts := by
  refine owes.of_agree tree fun debt member => ?_
  obtain ⟨handle, found, _⟩ := owes.handled debt member
  exact ⟨handle, handle, found, handles ▸ found, rfl, rfl⟩

/-- A change to the taps of a chunk changes no debts. -/
theorem retapped (owes : pass.Owes document debts) (change : TapStack → TapStack) :
    (pass.changed chunk fun handle => { handle with taps := change handle.taps }).Owes
      document debts := by
  refine owes.of_agree rfl fun debt member => ?_
  obtain ⟨handle, found, _⟩ := owes.handled debt member
  by_cases same : debt.1.number = chunk.number
  · rw [same] at found ⊢
    exact ⟨handle, _, found, changed_self found _, rfl, rfl⟩
  · exact ⟨handle, handle, found, (changed_other same _).trans found, rfl, rfl⟩

/-- A chunk that owes something can be written through. -/
theorem writable (owes : pass.Owes document ((chunk, texts) :: debts)) :
    ∃ handle, pass.Writable chunk handle := by
  obtain ⟨handle, found, isOpen⟩ := owes.handled _ List.mem_cons_self
  obtain ⟨written, plan, out, rest, planned⟩ := owes.due
  have record := planned.writable (pass.recordOf chunk, texts) List.mem_cons_self
  rw [recordOf_eq found] at record
  exact ⟨handle, found, isOpen, record⟩

/-- The other debts are those of other chunks. -/
theorem apart (owes : pass.Owes document ((chunk, texts) :: debts))
    {debt : Chunk × List String} (member : debt ∈ debts) :
    debt.1.number ≠ chunk.number := by
  intro same
  obtain ⟨written, plan, out, rest, planned⟩ := owes.due
  refine planned.apart (List.mem_map_of_mem member) ?_
  rw [recordOf, recordOf, same]

/-- Other chunks keep their records when theirs are looked up in handles that did not change. -/
theorem map_recordOf
    (same : ∀ debt ∈ debts, after.handles[debt.1.number]? = pass.handles[debt.1.number]?) :
    (debts.map fun debt => (after.recordOf debt.1, debt.2)) =
      debts.map fun debt => (pass.recordOf debt.1, debt.2) := by
  refine List.map_congr_left fun debt member => ?_
  rw [recordOf, same debt member, recordOf]

/-- What is written through a chunk pays a part of what it owes. -/
theorem wrote {left : List String} (owes : pass.Owes document ((chunk, texts ++ left) :: debts))
    (found : pass.handles[chunk.number]? = some handle) (memory : TapMemory) :
    (pass.wrote handle texts memory).Owes document ((chunk, left) :: debts) := by
  constructor
  · have due := owes.due
    rw [List.map_cons, recordOf_eq found] at due
    have received := due.receive
    rw [List.map_cons, recordOf_eq (show (pass.wrote handle texts memory).handles[chunk.number]? =
      some handle from found)]
    exact received
  · intro debt member
    rcases List.mem_cons.mp member with rfl | later
    · exact owes.handled (chunk, texts ++ left) List.mem_cons_self
    · exact owes.handled debt (List.mem_cons_of_mem _ later)

/-- Forking a branch divides what its chunk owes between the two. -/
theorem branch {first second : List String}
    (owes : pass.Owes document ((chunk, first ++ second) :: debts))
    (found : pass.handles[chunk.number]? = some handle) :
    ∃ tree, chunk.branch pass = (.ok ⟨pass.handles.size⟩, pass.forked chunk handle tree) ∧
      (pass.forked chunk handle tree).Owes document
        ((⟨pass.handles.size⟩, first) :: (chunk, second) :: debts) := by
  have due := owes.due
  rw [List.map_cons, recordOf_eq found] at due
  obtain ⟨tree, forked, divided⟩ := due.fork
  obtain ⟨held, foundHeld, isOpen⟩ := owes.handled _ List.mem_cons_self
  obtain rfl : handle = held := Option.some.inj (found.symm.trans foundHeld)
  refine ⟨tree, ?_, ?_, ?_⟩
  · rw [Chunk.branch_step found isOpen, forked]
    rfl
  · have old {debt : Chunk × List String} (member : debt ∈ debts) :
        (pass.forked chunk handle tree).handles[debt.1.number]? =
          pass.handles[debt.1.number]? := by
      obtain ⟨other, foundOther, _⟩ := owes.handled debt (List.mem_cons_of_mem _ member)
      exact forked_other (owes.apart member) (lt_size_of_found foundOther) _
    rw [List.map_cons, List.map_cons, recordOf_eq (forked_branch found tree),
      recordOf_eq (forked_self found tree), map_recordOf fun debt member => old member]
    exact divided
  · intro debt member
    rcases List.mem_cons.mp member with rfl | member
    · exact ⟨_, forked_branch found tree, rfl⟩
    rcases List.mem_cons.mp member with rfl | later
    · exact ⟨_, forked_self found tree, isOpen⟩
    · obtain ⟨other, foundOther, openOther⟩ :=
        owes.handled debt (List.mem_cons_of_mem _ later)
      refine ⟨other, ?_, openOther⟩
      rw [forked_other (owes.apart later) (lt_size_of_found foundOther) _]
      exact foundOther

/-- A chunk that owes nothing and has no taps of its own can be completed. -/
theorem complete (owes : pass.Owes document ((chunk, []) :: debts))
    (found : pass.handles[chunk.number]? = some handle) (untapped : handle.taps.depth = 0) :
    ∃ tree, chunk.complete pass = (.ok (), pass.completed chunk tree) ∧
      (pass.completed chunk tree).Owes document debts := by
  have due := owes.due
  rw [List.map_cons, recordOf_eq found] at due
  obtain ⟨tree, completed, paid⟩ := due.complete
  obtain ⟨held, foundHeld, isOpen⟩ := owes.handled _ List.mem_cons_self
  obtain rfl : handle = held := Option.some.inj (found.symm.trans foundHeld)
  have old {debt : Chunk × List String} (member : debt ∈ debts) :
      (pass.completed chunk tree).handles[debt.1.number]? = pass.handles[debt.1.number]? :=
    changed_other (owes.apart member) _
  refine ⟨tree, ?_, ?_, ?_⟩
  · have same : (pass.changed chunk ({ · with complete := true })).tree = pass.tree := rfl
    rw [Chunk.complete_step found isOpen untapped, onTree_step, same, completed]
    rfl
  · rw [map_recordOf fun debt member => old member]
    exact paid
  · intro debt member
    rw [old member]
    exact owes.handled debt (List.mem_cons_of_mem _ member)

/-- The root of a new tree owes the whole document. -/
theorem root {strangers : Array Record} (new : pass.tree = fresh strangers) :
    ({ pass with
        rootTaken := true
        handles := pass.handles.push { record := pass.tree.head } } : Pass).Owes document
      [(⟨pass.handles.size⟩, document)] := by
  have found : (pass.handles.push { record := pass.tree.head })[
      (Chunk.mk pass.handles.size).number]? = some ({ record := pass.tree.head } : Handle) :=
    Array.getElem?_push_size
  constructor
  · rw [List.map_singleton, recordOf_eq found]
    simp only [new]
    exact fresh_due strangers document
  · intro debt member
    rw [List.mem_singleton.mp member]
    exact ⟨_, found, rfl⟩

/-- When no chunk owes anything the whole document has flowed out. -/
theorem settled (owes : pass.Owes document []) :
    pass.tree.finished = true ∧ pass.tree.output = solid document ∧
      pass.tree.delivered = solid document :=
  owes.due.settled

end Owes

/-! ## The root of a new pass -/

/-- A new pass whose root was taken. -/
def opened (looping : Bool) : Pass := (Chunk.root (Pass.start .accepting looping)).2

/-- The root of a new pass is its first chunk. -/
theorem root_opened (looping : Bool) :
    Chunk.root (Pass.start .accepting looping) = (.ok ⟨0⟩, opened looping) := rfl

/-- The root of a new pass owes the whole document. -/
theorem opened_owes (looping : Bool) (document : List String) :
    (opened looping).Owes document [(⟨0⟩, document)] :=
  Owes.root (show (Pass.start .accepting looping).tree = fresh #[] from rfl)

end Pass

end TemplateStream
