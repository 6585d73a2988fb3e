import TemplateStream.Proofs.Ownership

/-!
# Outlines of a document

While a pass is being worked on its document has holes: the places at which open chunks write. An
outline lists the texts that stand in the document and the holes between them. Whatever is filled
into the holes is the document that comes of it when the chunks write just that. An operation on a
chunk changes the outline at the hole of the chunk and nowhere else.
-/

namespace TemplateStream

open RenderTree

/-- Chunks of the same number are the same. -/
theorem Chunk.eq_of_number {first second : Chunk} (same : first.number = second.number) :
    first = second := congrArg Chunk.mk same

/-- A part of an outline: a text, or the hole at which a chunk writes. -/
inductive Segment where
  | text (content : String)
  | hole (chunk : Chunk)

/-- The chunk that writes at a segment. -/
def Segment.hole? : Segment → Option Chunk
  | .text _ => none
  | .hole chunk => some chunk

/-- What a segment holds when the holes are filled. -/
def Segment.filled (fill : Chunk → List String) : Segment → List String
  | .text content => [content]
  | .hole chunk => fill chunk

/-- The texts and holes of a document, in order. -/
abbrev Outline := List Segment

/-- What a segment becomes when outlines are put into the holes. -/
def Segment.expanded (fill : Chunk → Outline) : Segment → Outline
  | .text content => [.text content]
  | .hole chunk => fill chunk

namespace Outline

variable {fill other : Chunk → List String} {outline first second before behind inner : Outline}
  {chunk : Chunk}

/-- The holes of an outline, in order. -/
def holes (outline : Outline) : List Chunk := outline.filterMap Segment.hole?

/-- The document that comes of an outline when its holes are filled. -/
def filled (outline : Outline) (fill : Chunk → List String) : List String :=
  outline.flatMap (Segment.filled fill)

/-- An outline without holes. -/
def ofTexts (texts : List String) : Outline := texts.map Segment.text

@[simp]
theorem holes_append : holes (first ++ second) = holes first ++ holes second :=
  List.filterMap_append

@[simp]
theorem holes_hole : holes (.hole chunk :: behind) = chunk :: holes behind := rfl

@[simp]
theorem holes_nil : holes [] = [] := rfl

@[simp]
theorem holes_ofTexts (texts : List String) : holes (ofTexts texts) = [] := by
  rw [holes, ofTexts, List.filterMap_map]
  exact List.filterMap_eq_nil_iff.mpr fun _ _ => rfl

@[simp]
theorem filled_append : filled (first ++ second) fill = filled first fill ++ filled second fill :=
  List.flatMap_append

@[simp]
theorem filled_hole : filled (.hole chunk :: behind) fill = fill chunk ++ filled behind fill := rfl

@[simp]
theorem filled_nil : filled [] fill = [] := rfl

@[simp]
theorem filled_ofTexts (texts : List String) : filled (ofTexts texts) fill = texts := by
  induction texts with
  | nil => rfl
  | cons text rest ih => exact congrArg (text :: ·) ih

theorem mem_holes : chunk ∈ holes outline ↔ Segment.hole chunk ∈ outline := by
  rw [holes, List.mem_filterMap]
  constructor
  · rintro ⟨segment, member, same⟩
    cases segment with
    | text content => cases same
    | hole other =>
      cases same
      exact member
  · exact fun member => ⟨_, member, rfl⟩

/-- A document depends on what is filled into the holes of its outline alone. -/
theorem filled_congr (same : ∀ chunk ∈ holes outline, fill chunk = other chunk) :
    filled outline fill = filled outline other := by
  refine List.flatMap_congr fun segment member => ?_
  cases segment with
  | text content => rfl
  | hole chunk => exact same chunk (mem_holes.mpr member)

/-- An outline with others put into its holes. -/
def expanded (outline : Outline) (fill : Chunk → Outline) : Outline :=
  outline.flatMap (Segment.expanded fill)

section expanded

variable {fill other : Chunk → Outline}

@[simp]
theorem expanded_append :
    expanded (first ++ second) fill = expanded first fill ++ expanded second fill :=
  List.flatMap_append

@[simp]
theorem expanded_hole :
    expanded (.hole chunk :: behind) fill = fill chunk ++ expanded behind fill := rfl

@[simp]
theorem expanded_nil : expanded [] fill = [] := rfl

@[simp]
theorem expanded_ofTexts (texts : List String) : expanded (ofTexts texts) fill = ofTexts texts := by
  induction texts with
  | nil => rfl
  | cons text rest ih => exact congrArg (.text text :: ·) ih

/-- An outline depends on what is put into its holes alone. -/
theorem expanded_congr (same : ∀ chunk ∈ holes outline, fill chunk = other chunk) :
    expanded outline fill = expanded outline other := by
  refine List.flatMap_congr fun segment member => ?_
  cases segment with
  | text content => rfl
  | hole chunk => exact same chunk (mem_holes.mpr member)

/-- What is put into a hole is nothing to an outline without it. -/
theorem expanded_update_of_notMem (outside : chunk ∉ holes outline) (put : Outline) :
    expanded outline (Function.update fill chunk put) = expanded outline fill := by
  refine expanded_congr fun hole member => Function.update_of_ne ?_ ..
  rintro rfl
  exact outside member

/-- What an outline comes to is put into a hole alike when the outline is put there first. -/
theorem expanded_update_hole {early put late : Outline} (notEarly : chunk ∉ holes early)
    (notLate : chunk ∉ holes late) :
    expanded (early ++ .hole chunk :: late) (Function.update fill chunk (expanded put fill)) =
      expanded (early ++ put ++ late) fill := by
  rw [expanded_append, expanded_hole, Function.update_self, expanded_update_of_notMem notEarly,
    expanded_update_of_notMem notLate, expanded_append, expanded_append, List.append_assoc]

end expanded

/-- What an outline can become: anything can come into the place of each hole, and the texts
between them stay. -/
inductive Becomes : Outline → Outline → Prop where
  | nil : Becomes [] []
  | text (content : String) {rest later : Outline} (becomes : Becomes rest later) :
      Becomes (.text content :: rest) (.text content :: later)
  | hole (chunk : Chunk) (put : Outline) {rest later : Outline} (becomes : Becomes rest later) :
      Becomes (.hole chunk :: rest) (put ++ later)

/-- Outlines that stand side by side become what each of them does. -/
theorem Becomes.append {later late : Outline} (early : first.Becomes later)
    (behind : second.Becomes late) : Becomes (first ++ second) (later ++ late) := by
  induction early with
  | nil => exact behind
  | text content _ ih => exact .text content ih
  | hole chunk put _ ih =>
    rw [List.append_assoc]
    exact .hole chunk put ih

/-- An outline becomes what comes of it when others are put into its holes. -/
theorem becomes_expanded (outline : Outline) (fill : Chunk → Outline) :
    outline.Becomes (expanded outline fill) := by
  induction outline with
  | nil => exact .nil
  | cons segment rest ih =>
    cases segment with
    | text content => exact .text content ih
    | hole chunk => exact .hole chunk (fill chunk) ih

/-- An outline without holes is one of texts. -/
theorem eq_ofTexts (none : holes outline = []) : ∃ texts, outline = ofTexts texts := by
  induction outline with
  | nil => exact ⟨[], rfl⟩
  | cons segment rest ih =>
    cases segment with
    | text content =>
      obtain ⟨texts, rfl⟩ := ih none
      exact ⟨content :: texts, rfl⟩
    | hole chunk => cases none

end Outline

open Outline

namespace Pass

/-- The outline of what a pass has come to: whatever is filled into its holes, the chunks still owe
it to the document, and every open chunk has a hole. -/
structure Outlined (pass : Pass) (outline : Outline) : Prop where
  distinct : (holes outline).Nodup
  owes : ∀ fill, pass.Owes (filled outline fill)
    ((holes outline).map fun chunk => (chunk, fill chunk))
  holed : ∀ {chunk : Chunk} {handle : Handle}, pass.handles[chunk.number]? = some handle →
    handle.complete = false → chunk ∈ holes outline

namespace Outlined

variable {pass after : Pass} {outline before behind : Outline} {chunk : Chunk} {handle : Handle}

/-- Holes are those of open chunks. -/
theorem isOpen (outlined : pass.Outlined outline) (member : chunk ∈ holes outline) :
    ∃ handle, pass.handles[chunk.number]? = some handle ∧ handle.complete = false :=
  (outlined.owes fun _ => []).handled (chunk, []) (List.mem_map_of_mem member)

/-- A change that leaves the tree and what is open alone leaves the outline. -/
theorem of_agree (outlined : pass.Outlined outline) (tree : after.tree = pass.tree)
    (agree : ∀ number : Nat, (after.handles[number]?.map fun handle =>
        (handle.record, handle.complete)) =
      pass.handles[number]?.map fun handle => (handle.record, handle.complete)) :
    after.Outlined outline where
  distinct := outlined.distinct
  owes fill := by
    refine (outlined.owes fill).of_agree tree fun debt member => ?_
    obtain ⟨old, found, _⟩ := (outlined.owes fill).handled debt member
    have same := agree debt.1.number
    rw [found, Option.map_some] at same
    obtain ⟨new, lookup, both⟩ := Option.map_eq_some_iff.mp same
    exact ⟨old, new, found, lookup, congrArg Prod.fst both, congrArg Prod.snd both⟩
  holed {chunk new} lookup isOpen := by
    have same := agree chunk.number
    rw [lookup, Option.map_some] at same
    obtain ⟨old, found, both⟩ := Option.map_eq_some_iff.mp same.symm
    exact outlined.holed found ((congrArg Prod.snd both).trans isOpen)

/-- A change to the rest of the pass leaves the outline. -/
theorem of_same (outlined : pass.Outlined outline) (tree : after.tree = pass.tree)
    (handles : after.handles = pass.handles) : after.Outlined outline :=
  outlined.of_agree tree fun _ => by rw [handles]

/-- A change to the taps of a chunk leaves the outline. -/
theorem retapped (outlined : pass.Outlined outline) (change : TapStack → TapStack) :
    (pass.changed chunk fun handle => { handle with taps := change handle.taps }).Outlined
      outline := by
  refine outlined.of_agree rfl fun number => ?_
  by_cases same : chunk.number = number
  · simp only [changed, Array.getElem?_modify, same, if_true, Option.map_map]
    rfl
  · simp only [changed, Array.getElem?_modify, same, if_false]

/-- What an operation on a chunk does to the debts it does to the hole of the chunk. -/
theorem replace (outlined : pass.Outlined (before ++ .hole chunk :: behind)) (inner : Outline)
    (distinct : (holes (before ++ inner ++ behind)).Nodup)
    (step : ∀ fill document debts, pass.Owes document ((chunk, filled inner fill) :: debts) →
      after.Owes document ((holes inner).map (fun chunk => (chunk, fill chunk)) ++ debts))
    (holed : ∀ {other : Chunk} {held : Handle}, after.handles[other.number]? = some held →
      held.complete = false → other ∈ holes inner ∨ other ≠ chunk ∧
        ∃ handle, pass.handles[other.number]? = some handle ∧ handle.complete = false) :
    after.Outlined (before ++ inner ++ behind) where
  distinct := distinct
  owes fill := by
    have apart := outlined.distinct
    rw [holes_append, holes_hole] at apart
    obtain ⟨_, others, disjoint⟩ := List.nodup_append.mp apart
    -- what the chunk owed before is what is filled into the holes that took its place
    let owed : Chunk → List String := fun other =>
      if other = chunk then filled inner fill else fill other
    have early : ∀ other ∈ holes before, owed other = fill other := fun other member =>
      if_neg (disjoint other member chunk List.mem_cons_self)
    have late : ∀ other ∈ holes behind, owed other = fill other := by
      intro other member
      refine if_neg fun same => ?_
      subst same
      exact (List.nodup_cons.mp others).1 member
    have debts {part : Outline} (same : ∀ other ∈ holes part, owed other = fill other) :
        ((holes part).map fun other => (other, owed other)) =
          (holes part).map fun other => (other, fill other) :=
      List.map_congr_left fun other member => by rw [same other member]
    have owes := outlined.owes owed
    have own : owed chunk = filled inner fill := if_pos rfl
    rw [filled_append, filled_hole, own, filled_congr early, filled_congr late, holes_append,
      holes_hole, List.map_append, List.map_cons, own, debts early, debts late] at owes
    have stepped := step fill _ _ (owes.perm List.perm_middle)
    rw [filled_append, filled_append, holes_append, holes_append, List.map_append, List.map_append,
      List.append_assoc (filled before fill)]
    refine stepped.perm ?_
    rw [← List.append_assoc]
    exact List.perm_append_comm.append_right _
  holed lookup isOpen := by
    rw [holes_append, holes_append]
    rcases holed lookup isOpen with member | ⟨different, handle, found, openBefore⟩
    · exact List.mem_append_left _ (List.mem_append_right _ member)
    · have member := outlined.holed found openBefore
      rw [holes_append, holes_hole] at member
      rcases List.mem_append.mp member with early | late
      · exact List.mem_append_left _ (List.mem_append_left _ early)
      · exact List.mem_append_right _ ((List.mem_cons.mp late).resolve_left different)

/-- A chunk that has a hole writes in front of it. -/
theorem wrote (outlined : pass.Outlined (before ++ .hole chunk :: behind))
    (found : pass.handles[chunk.number]? = some handle) (texts : List String)
    (memory : TapMemory) :
    (pass.wrote handle texts memory).Outlined
      (before ++ (ofTexts texts ++ [.hole chunk]) ++ behind) := by
  have distinct := outlined.distinct
  refine outlined.replace _ (by simpa using distinct) (fun fill document debts owes => ?_)
    fun {other held} lookup isOpen => ?_
  · rw [filled_append, filled_ofTexts, filled_hole, filled_nil, List.append_nil] at owes
    rw [holes_append, holes_ofTexts, List.nil_append, holes_hole, holes_nil]
    exact owes.wrote found memory
  · by_cases same : other = chunk
    · exact .inl (by simp [same])
    · exact .inr ⟨same, held, lookup, isOpen⟩

/-- The hole of a branch is in front of that of its chunk. -/
theorem forked {tree : RenderTree} (outlined : pass.Outlined (before ++ .hole chunk :: behind))
    (found : pass.handles[chunk.number]? = some handle) (isOpen : handle.complete = false)
    (forks : RenderTree.fork handle.record pass.tree =
      (.ok (pass.tree.records.size + 1, pass.tree.records.size), tree)) :
    (pass.forked chunk handle tree).Outlined
      (before ++ [.hole ⟨pass.handles.size⟩, .hole chunk] ++ behind) := by
  have distinct := outlined.distinct
  have new : ∀ other ∈ holes (before ++ .hole chunk :: behind),
      other ≠ ⟨pass.handles.size⟩ := by
    rintro other member rfl
    obtain ⟨held, lookup, _⟩ := outlined.isOpen member
    exact Nat.lt_irrefl _ (lt_size_of_found lookup)
  refine outlined.replace _ ?_ (fun fill document debts owes => ?_)
    fun {other held} lookup isOpenThen => ?_
  · rw [holes_append, holes_append, holes_hole, holes_hole, holes_nil, List.append_assoc]
    refine (List.perm_middle.nodup_iff).mpr (List.nodup_cons.mpr ⟨fun member => ?_, ?_⟩)
    · refine new _ ?_ rfl
      rw [holes_append, holes_hole]
      exact member
    · rw [holes_append, holes_hole] at distinct
      exact distinct
  · rw [filled_hole, filled_hole, filled_nil, List.append_nil] at owes
    obtain ⟨same, branched, divided⟩ := owes.branch found
    have stepped : chunk.branch pass =
        (.ok ⟨pass.handles.size⟩, pass.forked chunk handle tree) := by
      rw [Chunk.branch_step found isOpen, forks]
      rfl
    have equal : pass.forked chunk handle same = pass.forked chunk handle tree :=
      congrArg Prod.snd (branched.symm.trans stepped)
    rw [equal] at divided
    exact divided
  · rcases forked_cases found lookup with ⟨own, _⟩ | ⟨last, _⟩ | ⟨apart, _, old⟩
    · exact .inl (by simp [Chunk.eq_of_number own])
    · exact .inl (by simp [show other = ⟨pass.handles.size⟩ from Chunk.eq_of_number last])
    · exact .inr ⟨fun same => apart (congrArg Chunk.number same), held, old, isOpenThen⟩

/-- A completed chunk has no hole any more. -/
theorem completed {tree : RenderTree}
    (outlined : pass.Outlined (before ++ .hole chunk :: behind))
    (found : pass.handles[chunk.number]? = some handle) (isOpen : handle.complete = false)
    (untapped : handle.taps.depth = 0)
    (completes : RenderTree.complete handle.record pass.tree = (.ok (), tree)) :
    (pass.completed chunk tree).Outlined (before ++ behind) := by
  have distinct := outlined.distinct
  have replaced : (pass.completed chunk tree).Outlined (before ++ [] ++ behind) := by
    refine outlined.replace [] ?_ (fun fill document debts owes => ?_)
      fun {other held} lookup isOpenThen => ?_
    · rw [holes_append, holes_hole] at distinct
      rw [List.append_nil, holes_append]
      exact distinct.sublist ((List.sublist_cons_self _ _).append_left _)
    · obtain ⟨same, completed, paid⟩ := owes.complete found untapped
      have stepped : chunk.complete pass = (.ok (), pass.completed chunk tree) := by
        rw [Chunk.complete_step found isOpen untapped]
        simp only [onTree_step, changed, completes, Pass.completed]
      have equal : pass.completed chunk same = pass.completed chunk tree :=
        congrArg Prod.snd (completed.symm.trans stepped)
      rw [equal] at paid
      exact paid
    · have changed : (pass.changed chunk ({ · with complete := true })).handles[other.number]? =
        some held := lookup
      rcases changed_cases found changed with ⟨_, rfl⟩ | ⟨apart, old⟩
      · cases isOpenThen
      · exact .inr ⟨fun same => apart (congrArg Chunk.number same), held, old, isOpenThen⟩
  rwa [List.append_nil] at replaced

/-- A document without holes has flowed out as it is outlined. -/
theorem settled {texts : List String} (outlined : pass.Outlined (ofTexts texts)) :
    pass.tree.finished = true ∧ pass.tree.output = solid texts := by
  have owes := outlined.owes fun _ => []
  rw [filled_ofTexts, holes_ofTexts] at owes
  exact ⟨owes.settled.1, owes.settled.2.1⟩

end Outlined

/-- The document of a new pass is one hole. -/
theorem opened_outlined (looping : Bool) : (opened looping).Outlined [.hole ⟨0⟩] where
  distinct := List.nodup_singleton _
  owes fill := by
    rw [filled_hole, filled_nil, List.append_nil]
    exact opened_owes looping (fill ⟨0⟩)
  holed {chunk handle} found _ := by
    have inside : chunk.number < 1 := lt_size_of_found found
    obtain ⟨number⟩ := chunk
    obtain rfl : number = 0 := Nat.lt_one_iff.mp inside
    exact List.mem_singleton.mpr rfl

end Pass

end TemplateStream
