import TemplateStream.Proofs.Waiting

/-!
# Delivery to a sink that refuses

A flush hands what a complete record holds to the sink, one fragment after another. When the sink
refuses a fragment the flush ends there: the record keeps all that it holds and the cursor stays
at it, so that the next completion of any record hands it over again from its first fragment. A
sink has therefore received all fragments of the records that have flowed out, in document order,
and before those of a record what it was given of that record at each refusal.
-/

namespace TemplateStream

open RenderTree

namespace Sink

/-- What a sink has received when some records have flowed out and another has been refused since,
if any. -/
inductive Receives (sink : Sink) (written : Journal) :
    List Nat → Option Nat → List String → Prop where
  | start : Receives sink written [] none []
  /-- A record is refused at one of its fragments, be it for the first time or again. -/
  | refuses {out : List Nat} {stuck : Option Nat} {received accepted left : List String}
      {index : Nat} {refused : String} {fault : Fault}
      (receives : Receives sink written out stuck received)
      (same : ∀ other ∈ stuck, other = index)
      (held : solid (written index) = accepted ++ refused :: left)
      (accepts : sink.Accepts received accepted)
      (refuses : sink (received ++ accepted) refused = some fault) :
      Receives sink written out (some index) (received ++ accepted ++ [refused])
  /-- A record is accepted as a whole and flows out. -/
  | flows {out : List Nat} {stuck : Option Nat} {received : List String} {index : Nat}
      (receives : Receives sink written out stuck received)
      (same : ∀ other ∈ stuck, other = index)
      (accepts : sink.Accepts received (solid (written index))) :
      Receives sink written (out ++ [index]) none (received ++ solid (written index))

variable {sink : Sink} {written later : Journal} {out : List Nat} {stuck : Option Nat}
  {received first second : List String}

/-- What was accepted was not refused at any of its fragments. -/
theorem Accepts.not_refused {fragment : String} {fault : Fault} {accepted whole : List String}
    (accepts : sink.Accepts [] whole) (front : accepted ++ [fragment] <+: whole) :
    sink accepted fragment ≠ some fault := by
  obtain ⟨rest, rfl⟩ := front
  have here := (accepts_append.mp (accepts_append.mp accepts).1).2
  rw [List.nil_append] at here
  rw [here.1]
  exact nofun

/-- It only matters what was written to the records that the sink has received of. -/
theorem Receives.congr (receives : sink.Receives written out stuck received)
    (flowed : ∀ index ∈ out, later index = written index)
    (refused : ∀ index ∈ stuck, later index = written index) :
    sink.Receives later out stuck received := by
  induction receives with
  | start => exact .start
  | refuses _ same held accepts refuses ih =>
    have here := refused _ rfl
    refine .refuses (ih flowed fun other member => ?_) same (here ▸ held) accepts refuses
    rw [same other member, here]
  | @flows out stuck received index _ same accepts ih =>
    have here := flowed index (List.mem_append_right _ List.mem_cons_self)
    rw [← here] at accepts ⊢
    refine .flows (ih (fun other member => ?_) fun other member => ?_) same accepts
    · exact flowed other (List.mem_append_left _ member)
    · rw [same other member, here]

/-- What a refused record holds comes next in the document. -/
theorem solid_stuck (written : Journal) (out : List Nat) {index : Nat}
    (same : ∀ other ∈ stuck, other = index) :
    solid ((out ++ stuck.toList).flatMap written) <+:
      solid (out.flatMap written) ++ solid (written index) := by
  cases stuck with
  | none =>
    rw [Option.toList_none, List.append_nil]
    exact List.prefix_append ..
  | some other =>
    rw [same other rfl, List.flatMap_append, solid_append]
    simp

/-- As long as nothing is refused, a sink has received what the records hold that have flowed out.
What it has received by its first refusal is a front of what they and the refused record hold. -/
theorem Receives.once (receives : sink.Receives written out stuck received) :
    (stuck = none ∧ sink.Accepts [] received ∧ received = solid (out.flatMap written)) ∨
      ∃ accepted refused fault, sink.Accepts [] accepted ∧ sink accepted refused = some fault ∧
        accepted ++ [refused] <+: received ∧
        accepted ++ [refused] <+: solid ((out ++ stuck.toList).flatMap written) := by
  have joined (out : List Nat) (index : Nat) : solid ((out ++ [index]).flatMap written) =
      solid (out.flatMap written) ++ solid (written index) := by
    rw [List.flatMap_append, solid_append, List.flatMap_singleton]
  -- A first refusal stays the first, since both what was received and the document only grow.
  induction receives with
  | start => exact .inl ⟨rfl, trivial, rfl⟩
  | @refuses out stuck received accepted left index refused fault _ same held accepts refuses ih =>
    refine .inr ?_
    rcases ih with ⟨_, clean, whole⟩ | ⟨before, fragment, cause, clean, first, given, front⟩
    · have accepted : sink.Accepts [] (received ++ accepted) :=
        accepts_append.mpr ⟨clean, accepts⟩
      refine ⟨_, refused, fault, accepted, refuses, List.prefix_rfl, left, ?_⟩
      rw [Option.toList_some, joined, ← whole, held]
      simp
    · have more := given.trans (List.prefix_append received (accepted ++ [refused]))
      rw [← List.append_assoc] at more
      refine ⟨before, fragment, cause, clean, first, more, front.trans ?_⟩
      rw [Option.toList_some, joined]
      exact solid_stuck written out same
  | @flows out stuck received index _ same accepts ih =>
    rcases ih with ⟨_, clean, whole⟩ | ⟨before, fragment, cause, clean, first, given, front⟩
    · refine .inl ⟨rfl, accepts_append.mpr ⟨clean, accepts⟩, ?_⟩
      rw [joined, whole]
    · have more := given.trans (List.prefix_append _ (solid (written index)))
      refine .inr ⟨before, fragment, cause, clean, first, more, front.trans ?_⟩
      rw [Option.toList_none, List.append_nil, joined]
      exact solid_stuck written out same

/-- Up to and with the first refusal a sink has received a front of what the records hold. -/
theorem Receives.front {accepted : List String} {fragment : String}
    (receives : sink.Receives written out stuck received)
    (given : accepted ++ [fragment] <+: received) (accepts : sink.Accepts [] accepted) :
    accepted ++ [fragment] <+: solid ((out ++ stuck.toList).flatMap written) := by
  rcases receives.once with ⟨unstuck, _, whole⟩ | ⟨before, first, fault, _, refuses, reached, front⟩
  · rw [unstuck, Option.toList_none, List.append_nil, ← whole]
    exact given
  · rcases List.prefix_or_prefix_of_prefix given reached with early | late
    · exact early.trans front
    · rcases List.prefix_concat_iff.mp late with same | within
      · exact same ▸ front
      · exact absurd refuses (accepts.not_refused within)

/-- A record that was refused holds something. -/
theorem Receives.held {index : Nat} (receives : sink.Receives written out (some index) received) :
    ∃ fragment rest, solid (written index) = fragment :: rest := by
  generalize known : some index = stuck at receives
  cases receives with
  | start => cases known
  | flows => cases known
  | @refuses _ _ _ accepted left other refused _ _ _ held =>
    cases known
    cases accepted with
    | nil => exact ⟨_, _, held⟩
    | cons fragment rest => exact ⟨_, _, held⟩

end Sink

namespace RenderTree

variable {tree : RenderTree} {written : Journal} {out rest : List Nat} {index : Nat}
  {record : Record}

/-! ## Handing on -/

/-- A front of the texts that are handed on is handed on itself. -/
theorem solid_front {front texts : List String} (within : front <+: solid texts) :
    solid front = front := by
  refine List.filter_eq_self.mpr fun text member => ?_
  exact (List.mem_filter.mp (within.subset member)).2

/-- A sink is given a fragment that is not empty, whether it refuses it or not. -/
theorem emit_full {fragment : String} (full : fragment.isEmpty = false) (tree : RenderTree) :
    emit fragment tree =
      (match tree.sink tree.delivered fragment with
        | some fault => .error fault
        | none => .ok (), tree.handed [fragment]) := by
  cases refused : tree.sink tree.delivered fragment <;>
    simp [emit, bind_step, handed, solid, full, refused]

/-- A sink is not given an empty fragment. -/
theorem emit_empty {fragment : String} (empty : fragment.isEmpty = true) (tree : RenderTree) :
    emit fragment tree = (.ok (), tree) := by
  simp [emit, empty]

/-- Fragments are handed to a sink up to the first that it refuses. -/
theorem forM_emit_cases (fragments : List String) (tree : RenderTree) :
    (tree.sink.Accepts tree.delivered (solid fragments) ∧
        fragments.forM emit tree = (.ok (), tree.handed fragments)) ∨
      ∃ accepted refused left fault, solid fragments = accepted ++ refused :: left ∧
        tree.sink.Accepts tree.delivered accepted ∧
        tree.sink (tree.delivered ++ accepted) refused = some fault ∧
        fragments.forM emit tree = (.error fault, tree.handed (accepted ++ [refused])) := by
  induction fragments generalizing tree with
  | nil => exact .inl ⟨trivial, by simp [handed]⟩
  | cons fragment rest ih =>
    cases empty : fragment.isEmpty with
    | true =>
      have skips : (fragment :: rest).forM emit tree = rest.forM emit tree := by
        simp only [List.forM, bind_step, emit_empty empty]
      have without : solid (fragment :: rest) = solid rest := by simp [solid, empty]
      have same : tree.handed (fragment :: rest) = tree.handed rest := by simp [handed, without]
      rw [skips, without, same]
      exact ih tree
    | false =>
      have full : solid (fragment :: rest) = fragment :: solid rest := by simp [solid, empty]
      cases refused : tree.sink tree.delivered fragment with
      | some fault =>
        have stops : (fragment :: rest).forM emit tree =
            (.error fault, tree.handed [fragment]) := by
          simp only [List.forM, bind_step, emit_full empty, refused]
        exact .inr ⟨[], fragment, solid rest, fault, full, trivial, by simpa using refused, stops⟩
      | none =>
        have goes : (fragment :: rest).forM emit tree =
            rest.forM emit (tree.handed [fragment]) := by
          simp only [List.forM, bind_step, emit_full empty, refused]
        have given : (tree.handed [fragment]).delivered = tree.delivered ++ [fragment] := by
          simp [handed, solid, empty]
        have joined (texts : List String) :
            (tree.handed [fragment]).handed texts = tree.handed (fragment :: texts) := by
          simp [handed, solid, empty]
        rw [goes, full]
        rcases ih (tree.handed [fragment]) with
          ⟨accepts, taken⟩ | ⟨accepted, other, left, fault, split, accepts, refuses, taken⟩
        · rw [joined] at taken
          rw [given] at accepts
          exact .inl ⟨⟨refused, accepts⟩, taken⟩
        · rw [joined] at taken
          rw [given] at accepts refuses
          refine .inr ⟨fragment :: accepted, other, left, fault, ?_, ⟨refused, accepts⟩, ?_, taken⟩
          · rw [split, List.cons_append]
          · rw [← refuses]
            simp [handed]

/-- A sink has received of the records of a document what they hold, as far as it could. The record
at the cursor is complete only when it has been refused. -/
structure Delivers (tree : RenderTree) (written : Journal) (out rest : List Nat) : Prop
    extends Layout tree written out rest where
  output : tree.output = tree.delivered
  received : tree.sink.Receives written out (tree.cursor.filter tree.isComplete) tree.delivered

/-- A new tree has handed nothing on. -/
theorem new_delivers (sink : Sink) : Delivers (new sink) (fun _ => []) [] [0] where
  linked := ⟨rfl, {}, rfl, rfl⟩
  nodup := by simp
  cursor := rfl
  flowed index member := by cases member
  waiting index member := by
    rw [List.mem_singleton.mp member]
    exact ⟨{}, rfl, rfl, rfl⟩
  blank _ _ := rfl
  output := rfl
  received := .start

/-- Handing fragments on moves no record. -/
theorem Layout.handing (layout : Layout tree written out rest) (fragments : List String) :
    Layout (tree.handed fragments) written out rest where
  linked := layout.linked
  nodup := layout.nodup
  cursor := layout.cursor
  flowed := layout.flowed
  waiting := layout.waiting
  blank := layout.blank

/-- What becomes of a tree when some of the records that wait flow out. -/
structure Proceeds (tree : RenderTree) (written : Journal) (out rest : List Nat)
    (after : RenderTree) : Prop where
  delivers : ∃ moved left, rest = moved ++ left ∧ Delivers after written (out ++ moved) left
  grows : tree.delivered <+: after.delivered
  /-- What a complete record at the cursor holds is handed on from its first fragment. -/
  first : ∀ index ∈ tree.cursor.filter tree.isComplete, ∀ fragment ∈ (solid (written index)).head?,
    tree.delivered ++ [fragment] <+: after.delivered
  sink : after.sink = tree.sink
  alike : Alike tree after

/-- A tree proceeds to itself when there is nothing to hand on. -/
theorem Layout.rests {stuck : Option Nat} (layout : Layout tree written out rest)
    (output : tree.output = tree.delivered)
    (received : tree.sink.Receives written out stuck tree.delivered)
    (front : ∀ other ∈ stuck, other ∈ tree.cursor.filter tree.isComplete)
    (idle : tree.cursor.filter tree.isComplete = none) :
    Proceeds tree written out rest tree := by
  have unstuck : stuck = none := by
    cases stuck with
    | none => rfl
    | some other =>
      have closed := front other rfl
      rw [idle] at closed
      cases closed
  have here : tree.sink.Receives written out (tree.cursor.filter tree.isComplete)
      tree.delivered := by
    rw [idle, ← unstuck]
    exact received
  have delivers : Delivers tree written out rest := ⟨layout, output, here⟩
  exact {
    delivers := ⟨[], rest, rfl, (List.append_nil out).symm ▸ delivers⟩
    grows := List.prefix_rfl
    first := fun index member => by
      rw [idle] at member
      cases member
    sink := rfl
    alike := ⟨rfl, fun _ => rfl⟩ }

/-- A tree proceeds to where the sink refuses what the record at the cursor holds. -/
theorem Layout.balks {stuck : Option Nat} {accepted left : List String} {refused : String}
    {fault : Fault} (layout : Layout tree written out rest)
    (output : tree.output = tree.delivered)
    (received : tree.sink.Receives written out stuck tree.delivered)
    (same : ∀ other ∈ stuck, other = index)
    (here : tree.cursor.filter tree.isComplete = some index)
    (held : solid (written index) = accepted ++ refused :: left)
    (accepts : tree.sink.Accepts tree.delivered accepted)
    (refuses : tree.sink (tree.delivered ++ accepted) refused = some fault) :
    Proceeds tree written out rest (tree.handed (accepted ++ [refused])) := by
  have front : accepted ++ [refused] <+: solid (written index) := ⟨left, by rw [held]; simp⟩
  have given : (tree.handed (accepted ++ [refused])).delivered =
      tree.delivered ++ accepted ++ [refused] := by
    rw [handed, solid_front front, List.append_assoc]
  have both : (tree.handed (accepted ++ [refused])).output =
      (tree.handed (accepted ++ [refused])).delivered :=
    congrArg (· ++ solid (accepted ++ [refused])) output
  have balked := received.refuses same held accepts refuses
  rw [← given, ← here] at balked
  have delivers : Delivers (tree.handed (accepted ++ [refused])) written out rest :=
    ⟨layout.handing _, both, balked⟩
  refine {
    delivers := ⟨[], rest, rfl, (List.append_nil out).symm ▸ delivers⟩
    grows := List.prefix_append ..
    first := fun other member fragment head => ?_
    sink := rfl
    alike := ⟨rfl, fun _ => rfl⟩ }
  obtain rfl : index = other := Option.some.inj (here.symm.trans member)
  rw [given, List.append_assoc, List.prefix_append_right_inj]
  rw [held] at head
  cases accepted with
  | nil => simpa using head.symm
  | cons other accepted => simpa using head.symm

/-- A tree proceeds by letting a record flow out and proceeding from there. -/
theorem Proceeds.behind {after : RenderTree} (cursor : tree.cursor = some index)
    (held : record.fragments = written index)
    (proceeds : Proceeds (tree.drained index record) written (out ++ [index]) rest after) :
    Proceeds tree written out (index :: rest) after := by
  obtain ⟨moved, left, split, delivers⟩ := proceeds.delivers
  refine {
    delivers := ⟨index :: moved, left, by rw [split, List.cons_append], by simpa using delivers⟩
    grows := (List.prefix_append ..).trans proceeds.grows
    first := fun other member fragment head => ?_
    sink := proceeds.sink
    alike := (drained_alike tree index record).trans proceeds.alike }
  rw [cursor, Option.mem_filter_iff] at member
  obtain rfl : index = other := Option.some.inj member.1
  refine List.IsPrefix.trans ?_ proceeds.grows
  change _ <+: tree.delivered ++ solid record.fragments
  rw [held, List.prefix_append_right_inj]
  obtain ⟨rest, whole⟩ := List.head?_eq_some_iff.mp head
  exact ⟨rest, whole.symm⟩

/-- A flush ends at the first refusal. -/
theorem flushUpTo_refused {after : RenderTree} {fault : Fault}
    (refused : record.fragments.forM emit tree = (.error fault, after))
    (cursor : tree.cursor = some index) (found : tree.records[index]? = some record)
    (complete : record.complete = true) (count : Nat) :
    RenderTree.flushUpTo (count + 1) tree = (.error fault, after) := by
  simp only [RenderTree.flushUpTo, bind_step, get_step, cursor, RenderTree.record, found,
    pure_step, complete, if_true, refused]

/-- A flush hands on what the records at the front of the second part hold, up to the first that is
open and up to the first refusal, whatever the sink has refused before. -/
theorem Layout.flushUpTo {count : Nat} {stuck : Option Nat}
    (layout : Layout tree written out rest) (output : tree.output = tree.delivered)
    (received : tree.sink.Receives written out stuck tree.delivered)
    (front : ∀ other ∈ stuck, other ∈ tree.cursor.filter tree.isComplete)
    (enough : rest.length ≤ count) :
    Proceeds tree written out rest (RenderTree.flushUpTo count tree).2 := by
  induction rest generalizing tree out count stuck with
  | nil =>
    rw [flushUpTo_end layout.cursor]
    exact layout.rests output received front (by rw [layout.cursor]; rfl)
  | cons index rest ih =>
    have cursor : tree.cursor = some index := layout.cursor
    obtain ⟨record, found, _⟩ := layout.waiting index List.mem_cons_self
    have held := layout.fragments_eq List.mem_cons_self found
    have complete_eq := isComplete_of_found found
    cases complete : record.complete with
    | false =>
      rw [flushUpTo_open cursor found complete]
      exact layout.rests output received front (by simp [cursor, complete_eq, complete])
    | true =>
      have here : tree.cursor.filter tree.isComplete = some index := by
        simp [cursor, complete_eq, complete]
      have same : ∀ other ∈ stuck, other = index := by
        intro other member
        have stands := front other member
        rw [here] at stands
        exact (Option.some.inj stands).symm
      cases count with
      | zero => simp at enough
      | succ count =>
        rcases forM_emit_cases record.fragments tree with
          ⟨accepts, taken⟩ | ⟨accepted, refused, left, fault, split, accepts, refuses, taken⟩
        · -- The sink takes all that the record holds, and the flush goes on behind it.
          have flows := received.flows same (held ▸ accepts)
          rw [← held] at flows
          have both : (tree.drained index record).output = (tree.drained index record).delivered :=
            congrArg (· ++ solid record.fragments) output
          rw [flushUpTo_succ taken cursor found complete]
          exact .behind cursor held (ih (layout.drain found complete) both flows
            (fun other member => by cases member) (Nat.le_of_succ_le_succ enough))
        · -- The sink refuses a fragment, and the record stays where it is with all that it holds.
          rw [held] at split
          rw [flushUpTo_refused taken cursor found complete]
          exact layout.balks output received same here split accepts refuses

/-! ## Operations on records -/

/-- A complete record stays at the cursor when another is marked. -/
theorem stuck_marked (writable : tree.isOpen index = true) {stuck : Nat}
    (stands : stuck ∈ tree.cursor.filter tree.isComplete) :
    stuck ∈ (tree.marked index).cursor.filter (tree.marked index).isComplete := by
  obtain ⟨cursor, complete⟩ := Option.mem_filter_iff.mp stands
  refine Option.mem_filter_iff.mpr ⟨cursor, ?_⟩
  rw [marked_isComplete writable, complete, Bool.true_or]

namespace Delivers

/-- What is appended to an open record waits in it. -/
theorem receive (delivers : Delivers tree written out rest) (writable : tree.isOpen index = true)
    (texts : List String) :
    Delivers (tree.received index texts)
      (Function.update written index (written index ++ texts)) out rest := by
  have alike := received_alike tree index texts
  have incomplete := isComplete_of_isOpen writable
  have received : tree.sink.Receives (Function.update written index (written index ++ texts)) out
      (tree.cursor.filter tree.isComplete) tree.delivered := by
    refine delivers.received.congr (fun other member => ?_) fun other member => ?_
    · have different : other ≠ index := by
        rintro rfl
        exact delivers.notMem_out incomplete member
      exact Function.update_of_ne different ..
    · have different : other ≠ index := by
        rintro rfl
        have complete := (Option.mem_filter_iff.mp member).2
        rw [incomplete] at complete
        cases complete
      exact Function.update_of_ne different ..
  have same : (tree.received index texts).isComplete = tree.isComplete := funext alike.complete
  exact {
    toLayout := delivers.toLayout.receive writable texts
    output := delivers.output
    received := by
      rw [same]
      exact received }

/-- Completing an open record proceeds from where it is marked. -/
theorem complete (delivers : Delivers tree written out rest) (writable : tree.isOpen index = true) :
    Proceeds (tree.marked index) written out rest (RenderTree.complete index tree).2 := by
  have layout := delivers.toLayout.mark writable
  have flushes : RenderTree.complete index tree =
      RenderTree.flushUpTo (tree.marked index).records.size (tree.marked index) := by
    rw [complete_step writable]
    simp [flush, bind_step]
  rw [flushes]
  exact layout.flushUpTo delivers.output delivers.received
    (fun other => stuck_marked writable) layout.length_le

/-- A new record behind an open one holds nothing, and nothing is handed on. -/
theorem extend (delivers : Delivers tree written out rest)
    (found : tree.records[index]? = some record) (incomplete : record.complete = false) :
    Delivers (tree.extended index record.next) written out
      (insertBehind index [tree.records.size] rest) := by
  have same : (tree.extended index record.next).isComplete = tree.isComplete :=
    funext (extended_isComplete found record.next)
  exact {
    toLayout := delivers.toLayout.extend found incomplete
    output := delivers.output
    received := by
      rw [same]
      exact delivers.received }

end Delivers

/-- A sink has received of all records of a tree what they hold, as far as it could. -/
structure Delivering (sink : Sink) (tree : RenderTree) (written : Journal) : Prop where
  sink : tree.sink = sink
  delivers : ∃ out rest, Delivers tree written out rest ∧
    (out ++ rest).length = tree.records.size

namespace Delivering

variable {sink : Sink}

/-- A tree that proceeds from one whose records are all in the document is one itself. -/
theorem of_proceeds {after : RenderTree} (proceeds : Proceeds tree written out rest after)
    (same : tree.sink = sink) (covers : (out ++ rest).length = tree.records.size) :
    Delivering sink after written := by
  obtain ⟨moved, left, split, delivers⟩ := proceeds.delivers
  refine ⟨proceeds.sink.trans same, out ++ moved, left, delivers, ?_⟩
  rw [proceeds.alike.size, ← covers, split, List.append_assoc]

/-- Appending to any index goes on with the delivery. -/
theorem append (delivering : Delivering sink tree written) (index : Nat) (text : String) :
    Delivering sink (RenderTree.append index text tree).2
      (written.enter (if tree.isOpen index then some (index, text) else none)) := by
  cases writable : tree.isOpen index with
  | false =>
    obtain ⟨fault, refused⟩ := append_refused writable text
    rw [refused]
    exact delivering
  | true =>
    obtain ⟨same, out, rest, delivers, covers⟩ := delivering
    have alike := received_alike tree index [text]
    rw [append_step writable]
    exact ⟨same, out, rest, delivers.receive writable [text], covers.trans alike.size.symm⟩

/-- Completing any index goes on with the delivery. -/
theorem complete (delivering : Delivering sink tree written) (index : Nat) :
    Delivering sink (RenderTree.complete index tree).2 written := by
  cases writable : tree.isOpen index with
  | false =>
    obtain ⟨fault, refused⟩ := complete_refused writable
    rw [refused]
    exact delivering
  | true =>
    obtain ⟨same, out, rest, delivers, covers⟩ := delivering
    have size : (tree.marked index).records.size = tree.records.size := by simp [marked]
    exact .of_proceeds (delivers.complete writable) same (covers.trans size.symm)

/-- Putting a new record behind an open one goes on with the delivery. -/
theorem extend (delivering : Delivering sink tree written)
    (found : tree.records[index]? = some record) (incomplete : record.complete = false) :
    Delivering sink (tree.extended index record.next) written := by
  obtain ⟨same, out, rest, delivers, covers⟩ := delivering
  have waits : index ∈ rest :=
    delivers.mem_rest covers (isOpen_iff.mpr ⟨record, found, incomplete⟩)
  have longer := length_insertBehind (List.nodup_append.mp delivers.nodup).2.1 waits
    [tree.records.size]
  refine ⟨same, out, _, delivers.extend found incomplete, ?_⟩
  rw [List.length_append] at covers
  rw [List.length_append, longer, ← Nat.add_assoc, covers]
  simp [extended, spliced]

/-- Forking any index goes on with the delivery. -/
theorem fork (delivering : Delivering sink tree written) (index : Nat) :
    Delivering sink (RenderTree.fork index tree).2 written := by
  cases writable : tree.isOpen index with
  | false =>
    obtain ⟨fault, refused⟩ := fork_refused writable
    rw [refused]
    exact delivering
  | true =>
    obtain ⟨record, found, incomplete⟩ := isOpen_iff.mp writable
    have foundOnce : (tree.extended index record.next).records[index]? =
        some { record with next := some tree.records.size } := spliced_anchor found _
    have twice := (delivering.extend found incomplete).extend foundOnce incomplete
    have completes := twice.complete index
    rw [fork_step found incomplete]
    -- A refusal during the completion leaves both new records in the document.
    rcases completed : RenderTree.complete index
      ((tree.extended index record.next).extended index (some tree.records.size)) with ⟨_ | _, _⟩
    all_goals
      rw [completed] at completes
      exact completes

end Delivering

/-- The delivery goes on whatever is done to records. -/
theorem delivering_durable (sink : Sink) : Operation.Durable (Delivering sink) where
  append delivering := delivering.append
  complete delivering := delivering.complete
  fork delivering := delivering.fork

/-- A new tree begins the delivery. -/
theorem new_delivering (sink : Sink) : Delivering sink (new sink) fun _ => [] :=
  ⟨rfl, [], [0], new_delivers sink, rfl⟩

end RenderTree

/-! ## Runs -/

/-- What a sink has received of a tree to whose records texts were written. -/
structure Delivery (sink : Sink) (tree : RenderTree) (written : Journal) : Prop where
  /-- Each record is in the document once. -/
  order : tree.documentOrder.Perm (List.range tree.records.size)
  /-- The output has what the sink was given, what it refused included. -/
  output : tree.output = tree.delivered
  /-- The sink has received of the records before the cursor and, if the record at the cursor is
  complete, of that one, which it refused. -/
  received : ∃ out rest, tree.documentOrder = out ++ rest ∧ tree.cursor = rest.head? ∧
    (∀ index ∈ out, tree.isComplete index = true) ∧
    sink.Receives written out (tree.cursor.filter tree.isComplete) tree.delivered
  /-- Up to and with the first refusal, each fragment is received once and in document order. -/
  once : ∀ accepted fragment, accepted ++ [fragment] <+: tree.delivered →
    sink.Accepts [] accepted →
    accepted ++ [fragment] <+: solid (tree.documentOrder.flatMap written)
  /-- Once a record was refused, each record that is completed hands that one over again, from its
  first fragment. -/
  again : ∀ refused ∈ tree.cursor.filter tree.isComplete, ∀ index, tree.isOpen index = true →
    ∃ fragment rest, solid (written refused) = fragment :: rest ∧
      tree.delivered ++ [fragment] <+: (RenderTree.complete index tree).2.delivered

namespace RenderTree.Delivering

variable {sink : Sink} {tree : RenderTree} {written : Journal}

/-- A tree that has gone on with the delivery says what its sink has received. -/
theorem delivery (delivering : Delivering sink tree written) : Delivery sink tree written := by
  obtain ⟨rfl, out, rest, delivers, covers⟩ := delivering
  have ordered : tree.documentOrder = out ++ rest :=
    documentOrder_eq delivers.linked delivers.nodup
  refine {
    order := by
      rw [ordered]
      exact delivers.perm_range covers
    output := delivers.output
    received := ⟨out, rest, ordered, delivers.cursor, fun index member => ?complete,
      delivers.received⟩
    once := fun accepted fragment given accepts =>
      (delivers.received.front given accepts).trans ?once
    again := fun refused member index writable => ?again }
  case complete =>
    obtain ⟨record, found, complete, _⟩ := delivers.flowed index member
    rw [isComplete_of_found found, complete]
  case once =>
    have within : out ++ (tree.cursor.filter tree.isComplete).toList <+: tree.documentOrder := by
      rw [ordered, List.prefix_append_right_inj, delivers.cursor]
      cases rest with
      | nil => exact List.prefix_rfl
      | cons index rest =>
        cases complete : tree.isComplete index with
        | false => simp [Option.filter, complete]
        | true => simp [Option.filter, complete]
    exact (within.flatMap written).filter _
  case again =>
    have received := delivers.received
    rw [member] at received
    obtain ⟨fragment, left, held⟩ := received.held
    have head : fragment ∈ (solid (written refused)).head? := by
      rw [held]
      rfl
    have still := stuck_marked writable member
    exact ⟨fragment, left, held, (delivers.complete writable).first refused still fragment head⟩

end RenderTree.Delivering

/-- After any run of calls and work, any sink has received the fragments of the records that have
flowed out, in document order, and before those of a record, once for each refusal, what it was
given of that record from its first fragment on. Up to and with the first refusal each fragment is
received once. From then on every record that is completed hands the refused one over again, until
the sink accepts it as a whole. -/
theorem delivery_repeats (sink : Sink) (looping : Bool) {faults : List Fault} {pass : Pass}
    (ran : (Pass.start sink looping).Runs faults pass) :
    (∃ written, Snapshot.Reaches ⟨Pass.start sink looping, fun _ => []⟩ ⟨pass, written⟩) ∧
      ∀ written, Snapshot.Reaches ⟨Pass.start sink looping, fun _ => []⟩ ⟨pass, written⟩ →
        Delivery sink pass.tree written :=
  ⟨ran.reaches.writes _, fun _ reached =>
    (reached.keeps (delivering_durable sink) (new_delivering sink)).delivery⟩

/-- A sink that refuses the second fragment that it is given and accepts all others. -/
def refusingSecond : Sink := fun received _ =>
  if received.length = 1 then some (.raised .runtime "full") else none

/-- A branch is ended with two fragments, and then the root is ended behind it. -/
def branchRefused : List HandleCall := [
  .chunk .root,
  .map ⟨0⟩ [] (.ok .nothing),
  .chunk (.write ⟨1⟩ (.text "a")),
  .chunk (.write ⟨1⟩ (.text "b")),
  .chunk (.finish ⟨1⟩ .null),
  .chunk (.finish ⟨0⟩ .null)]

/-- The sink receives both fragments of the branch a second time when the root is ended. -/
theorem delivery_repeats_branchRefused :
    let origin := Pass.start refusingSecond false
    let refused := (performCalls (branchRefused.take 5) origin).2
    let ended := (performCalls branchRefused origin).2
    origin.Runs [] ended ∧ refused.tree.delivered = ["a", "b"] ∧
      ended.tree.delivered = ["a", "b", "a", "b"] ∧ ended.tree.text = "abab" ∧
      ∃ written, Delivery refusingSecond ended.tree written := by
  intro origin refused ended
  have ran : origin.Runs [] ended := Pass.Runs.start.performs branchRefused
  obtain ⟨⟨written, reached⟩, delivery⟩ := delivery_repeats refusingSecond false ran
  exact ⟨ran, by decide +kernel, by decide +kernel, by decide +kernel, written,
    delivery written reached⟩

end TemplateStream
