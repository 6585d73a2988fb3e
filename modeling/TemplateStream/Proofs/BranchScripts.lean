import Mathlib.Logic.Relation
import TemplateStream.Proofs.Owing

/-!
# Scripts of branches

A script says what is done with one branch: it is written to, tapped and untapped, it forks
branches that have scripts of their own, and it is finished. Several branches are open at a time,
and any of them may be acted on next. Whatever the order, the document comes out as if each
branch had been written in full at the moment of its fork.
-/

namespace TemplateStream

open RenderTree

/-- What is done with a branch, up to its end. -/
inductive BranchScript where
  | finish
  | write (value : Value) (rest : BranchScript)
  | tap (apply : String → String) (rest : BranchScript)
  | untap (rest : BranchScript)
  /-- A branch is forked off, with a script of its own. -/
  | map (branch rest : BranchScript)

namespace BranchScript

/-- Whether a script, on a chunk with so many taps of its own, removes only taps of its own and
leaves none at the end, and so do the scripts of its branches. -/
def balanced : Nat → BranchScript → Bool
  | depth, .finish => depth == 0
  | depth, .write _ rest => rest.balanced depth
  | depth, .tap _ rest => rest.balanced (depth + 1)
  | 0, .untap _ => false
  | depth + 1, .untap rest => rest.balanced depth
  | depth, .map branch rest => branch.balanced 0 && rest.balanced depth

/-- The texts that writing a value adds through taps, the newest of which sees the text first.
Null adds nothing. -/
def texts (taps : List (String → String)) : Value → List String
  | .null => []
  | value => [taps.foldl (fun text apply => apply text) value.toText]

/-- The texts of a script, depth first, under the given taps. A branch inherits all taps that are
in force at its fork. -/
def expand : BranchScript → List (String → String) → List String
  | .finish, _ => []
  | .write value rest, taps => texts taps value ++ rest.expand taps
  | .tap apply rest, taps => rest.expand (apply :: taps)
  | .untap rest, taps => rest.expand taps.tail
  | .map branch rest, taps => branch.expand taps ++ rest.expand taps

/-- The number of actions of a script and of the scripts of its branches. -/
def actions : BranchScript → Nat
  | .finish => 1
  | .write _ rest | .tap _ rest | .untap rest => rest.actions + 1
  | .map branch rest => branch.actions + rest.actions + 1

/-- Does the first action of a script on a chunk, and gives the scripts that are left to do. The
function given to a map leaves its branch to be acted on by others. -/
def act (chunk : Chunk) : BranchScript → PassM (List (Chunk × BranchScript))
  | .finish => do
    chunk.finish
    pure []
  | .write value rest => do
    chunk.write value
    pure [(chunk, rest)]
  | .tap apply rest => do
    chunk.tap (some (.total apply))
    pure [(chunk, rest)]
  | .untap rest => do
    chunk.untap
    pure [(chunk, rest)]
  | .map branch rest => do
    let child ← chunk.branch
    pure [(child, branch), (chunk, rest)]

/-- A map whose function answers nothing hands its branch to what that function does. -/
theorem map_eq_branch (chunk : Chunk) (work : Chunk → PassM Unit) :
    (chunk.map fun branch => do
      work branch
      pure .nothing) = (do work (← chunk.branch)) := by
  funext pass
  simp only [Chunk.map, bind_step]
  rcases chunk.branch pass with ⟨fault | branch, forked⟩
  · rfl
  · simp only []
    rcases work branch forked with ⟨fault | _, after⟩ <;> rfl

end BranchScript

/-- A pass, and the scripts that are left to do on its chunks. -/
structure Production where
  pass : Pass
  pending : List (Chunk × BranchScript)

/-- Any of the branches that are left is acted on. -/
inductive Production.Acts : Production → Production → Prop where
  | act {pass after : Pass} {chunk : Chunk} {script : BranchScript}
      {early late left : List (Chunk × BranchScript)}
      (acted : script.act chunk pass = (.ok left, after)) :
      Acts ⟨pass, early ++ (chunk, script) :: late⟩ ⟨after, early ++ left ++ late⟩

namespace Pass

/-- What the taps of a chunk make of texts, the newest first. -/
def tapsOf (pass : Pass) (chunk : Chunk) : List (String → String) :=
  ((pass.handles[chunk.number]?.map fun handle => handle.taps.frames).getD []).map Tap.effect

/-- A handle says what the taps of its chunk do. -/
theorem tapsOf_eq {pass : Pass} {chunk : Chunk} {handle : Handle}
    (found : pass.handles[chunk.number]? = some handle) :
    pass.tapsOf chunk = handle.taps.frames.map Tap.effect := by
  rw [tapsOf, found, Option.map_some, Option.getD_some]

end Pass

/-- What the chunk of a script that is left owes. -/
def BranchScript.owed (pass : Pass) (entry : Chunk × BranchScript) : Chunk × List String :=
  (entry.1, entry.2.expand (pass.tapsOf entry.1))

/-- A script that is left can remove its taps from its chunk. -/
def BranchScript.Ready (pass : Pass) (entry : Chunk × BranchScript) : Prop :=
  ∃ handle, pass.handles[entry.1.number]? = some handle ∧
    (∀ tap ∈ handle.taps.frames, tap.IsTotal) ∧
    handle.taps.inherited ≤ handle.taps.frames.length ∧
    entry.2.balanced handle.taps.depth = true

namespace BranchScript

variable {pass after : Pass} {chunk : Chunk} {handle : Handle} {document : List String}
  {others : List (Chunk × BranchScript)}

/-- The scripts that are left owe what a document lacks, and can remove their taps. -/
structure Owing (document : List String) (pass : Pass) (pending : List (Chunk × BranchScript)) :
    Prop where
  owes : pass.Owes document (pending.map (owed pass))
  ready : ∀ entry ∈ pending, Ready pass entry

/-- It does not matter in which order scripts are listed. -/
theorem Owing.perm {pending : List (Chunk × BranchScript)} (owing : Owing document pass pending)
    (reordered : pending.Perm others) : Owing document pass others :=
  ⟨owing.owes.perm (reordered.map _),
    fun entry member => owing.ready entry (reordered.mem_iff.mpr member)⟩

/-- Scripts owe the same as long as the handles of their chunks stay the same. -/
theorem map_owed
    (same : ∀ entry ∈ others, after.handles[entry.1.number]? = pass.handles[entry.1.number]?) :
    others.map (owed after) = others.map (owed pass) := by
  refine List.map_congr_left fun entry member => ?_
  rw [owed, owed, Pass.tapsOf, Pass.tapsOf, same entry member]

/-- Scripts stay ready as long as the handles of their chunks stay the same. -/
theorem Ready.of_same {entry : Chunk × BranchScript} (ready : Ready pass entry)
    (same : after.handles[entry.1.number]? = pass.handles[entry.1.number]?) :
    Ready after entry := by
  obtain ⟨handle, found, total, own, balanced⟩ := ready
  exact ⟨handle, same ▸ found, total, own, balanced⟩

/-- Scripts that are left on the first chunk and its branches replace the one acted on there. -/
theorem Owing.of_first {left : List (Chunk × BranchScript)} {script : BranchScript}
    (owing : Owing document pass ((chunk, script) :: others))
    (same : ∀ entry ∈ others, after.handles[entry.1.number]? = pass.handles[entry.1.number]?)
    (owes : after.Owes document (left.map (owed after) ++ others.map (owed pass)))
    (ready : ∀ entry ∈ left, Ready after entry) : Owing document after (left ++ others) := by
  constructor
  · rw [List.map_append, map_owed same]
    exact owes
  · intro entry member
    rcases List.mem_append.mp member with new | old
    · exact ready entry new
    · exact (owing.ready entry (List.mem_cons_of_mem _ old)).of_same (same entry old)

/-- The other scripts are left on other chunks. -/
theorem Owing.apart {script : BranchScript}
    (owing : Owing document pass ((chunk, script) :: others)) {entry : Chunk × BranchScript}
    (member : entry ∈ others) : entry.1.number ≠ chunk.number :=
  owing.owes.apart (List.mem_map_of_mem member)

/-- The first script that is left is on a chunk that can be written through. -/
theorem Owing.first {script : BranchScript}
    (owing : Owing document pass ((chunk, script) :: others)) :
    ∃ handle, pass.Writable chunk handle ∧ (∀ tap ∈ handle.taps.frames, tap.IsTotal) ∧
      handle.taps.inherited ≤ handle.taps.frames.length ∧
      script.balanced handle.taps.depth = true := by
  obtain ⟨handle, found, total, own, balanced⟩ := owing.ready _ List.mem_cons_self
  obtain ⟨held, writable⟩ := owing.owes.writable
  obtain rfl : handle = held := Option.some.inj (found.symm.trans writable.found)
  exact ⟨handle, writable, total, own, balanced⟩

/-- The other scripts are left on chunks whose handles an operation on this one keeps. -/
theorem Owing.old {script : BranchScript}
    (owing : Owing document pass ((chunk, script) :: others)) {entry : Chunk × BranchScript}
    (member : entry ∈ others) : entry.1.number < pass.handles.size := by
  obtain ⟨handle, found, _⟩ := owing.ready entry (List.mem_cons_of_mem _ member)
  exact lt_size_of_found found

/-- A write pays the text that it adds. -/
theorem Owing.act_write {value : Value} {rest : BranchScript}
    (owing : Owing document pass ((chunk, .write value rest) :: others)) :
    ∃ after, chunk.write value pass = (.ok (), after) ∧
      Owing document after ([(chunk, rest)] ++ others) := by
  obtain ⟨handle, writable, total, own, balanced⟩ := owing.first
  have owes : pass.Owes document ((chunk, texts (pass.tapsOf chunk) value ++
      rest.expand (pass.tapsOf chunk)) :: others.map (owed pass)) := owing.owes
  have ready {after : Pass} (handles : after.handles = pass.handles) :
      ∀ entry ∈ [(chunk, rest)], Ready after entry := by
    intro entry member
    rw [List.mem_singleton.mp member]
    exact ⟨handle, handles ▸ writable.found, total, own, balanced⟩
  by_cases absent : value = .null
  · subst absent
    exact ⟨pass, Chunk.write_null writable.found writable.isOpen,
      owing.of_first (fun _ _ => rfl) owes (ready rfl)⟩
  · have added : texts (pass.tapsOf chunk) value =
        [(handle.taps.frames.map Tap.effect).foldl (fun text apply => apply text)
          value.toText] := by
      rw [Pass.tapsOf_eq writable.found]
      cases value <;> first | rfl | exact absurd rfl absent
    refine ⟨pass.wrote handle (texts (pass.tapsOf chunk) value) pass.memory, ?_,
      owing.of_first (fun _ _ => rfl) (owes.wrote writable.found _) (ready rfl)⟩
    rw [Chunk.write_step writable.found writable.isOpen absent, TapStack.apply_total total,
      added]
    simp only [Pass.onTree_step, append_step writable.record, Pass.wrote]

/-- A tap that was put on a chunk is in force for what is left to do there. -/
theorem Owing.act_tap {apply : String → String} {rest : BranchScript}
    (owing : Owing document pass ((chunk, .tap apply rest) :: others)) :
    ∃ after, chunk.tap (some (.total apply)) pass = (.ok (), after) ∧
      Owing document after ([(chunk, rest)] ++ others) := by
  obtain ⟨handle, writable, total, own, balanced⟩ := owing.first
  let tap : Tap := .stateless (.ok ∘ apply)
  let change : Handle → Handle := fun handle => { handle with taps := handle.taps.push tap }
  have found := Pass.changed_self writable.found change
  have same : ∀ entry ∈ others,
      (pass.changed chunk change).handles[entry.1.number]? = pass.handles[entry.1.number]? :=
    fun entry member => Pass.changed_other (owing.apart member) change
  have installed : (Transform.total apply).install pass.memory = (.ok tap, pass.memory) := rfl
  refine ⟨pass.changed chunk change, Chunk.tap_step writable.found writable.isOpen installed,
    owing.of_first same ?owes ?ready⟩
  case owes =>
    have owes : pass.Owes document ((chunk, rest.expand (apply :: pass.tapsOf chunk)) ::
        others.map (owed pass)) := owing.owes
    have tapped : (pass.changed chunk change).tapsOf chunk = apply :: pass.tapsOf chunk := by
      rw [Pass.tapsOf_eq found, Pass.tapsOf_eq writable.found]
      rfl
    rw [List.map_singleton, owed, tapped]
    exact owes.retapped fun taps => taps.push tap
  case ready =>
    intro entry member
    rw [List.mem_singleton.mp member]
    refine ⟨_, found, ?_, Nat.le_succ_of_le own, ?_⟩
    · intro other member
      rcases List.mem_cons.mp member with rfl | old
      · exact ⟨apply, rfl⟩
      · exact total other old
    · rw [TapStack.depth_push own]
      exact balanced

/-- A tap that was taken off a chunk is no longer in force there. -/
theorem Owing.act_untap {rest : BranchScript}
    (owing : Owing document pass ((chunk, .untap rest) :: others)) :
    ∃ after, chunk.untap pass = (.ok (), after) ∧
      Owing document after ([(chunk, rest)] ++ others) := by
  obtain ⟨handle, writable, total, own, balanced⟩ := owing.first
  cases depth : handle.taps.depth with
  | zero =>
    rw [depth] at balanced
    cases balanced
  | succ depth =>
    rw [depth] at balanced
    obtain ⟨tap, frames, split, popped, kept, left⟩ := TapStack.pop_of_depth depth
    let change : Handle → Handle := fun other =>
      { other with taps := { handle.taps with frames } }
    have found := Pass.changed_self writable.found change
    have same : ∀ entry ∈ others,
        (pass.changed chunk change).handles[entry.1.number]? =
          pass.handles[entry.1.number]? :=
      fun entry member => Pass.changed_other (owing.apart member) change
    refine ⟨pass.changed chunk change, ?_, owing.of_first same ?owes ?ready⟩
    · rw [Chunk.untap_step writable.found, popped]
    case owes =>
      have owes : pass.Owes document ((chunk, rest.expand (pass.tapsOf chunk).tail) ::
          others.map (owed pass)) := owing.owes
      have untapped : (pass.changed chunk change).tapsOf chunk = (pass.tapsOf chunk).tail := by
        rw [Pass.tapsOf_eq found, Pass.tapsOf_eq writable.found, split]
        rfl
      rw [List.map_singleton, owed, untapped]
      exact owes.retapped fun _ => { handle.taps with frames }
    case ready =>
      intro entry member
      rw [List.mem_singleton.mp member]
      refine ⟨_, found, ?_, kept, ?_⟩
      · exact fun other old => total other (split ▸ List.mem_cons_of_mem _ old)
      · rw [← left] at balanced
        exact balanced

/-- A branch inherits the taps of its chunk, which goes on behind it with the same taps. -/
theorem Owing.act_map {branch rest : BranchScript}
    (owing : Owing document pass ((chunk, .map branch rest) :: others)) :
    ∃ child after, chunk.branch pass = (.ok child, after) ∧
      Owing document after ([(child, branch), (chunk, rest)] ++ others) := by
  obtain ⟨handle, writable, total, own, balanced⟩ := owing.first
  rw [BranchScript.balanced, Bool.and_eq_true] at balanced
  have owes : pass.Owes document ((chunk, branch.expand (pass.tapsOf chunk) ++
      rest.expand (pass.tapsOf chunk)) :: others.map (owed pass)) := owing.owes
  obtain ⟨tree, forked, divided⟩ := owes.branch writable.found
  have foundBranch := Pass.forked_branch writable.found tree
  have foundRest := Pass.forked_self writable.found tree
  have same : ∀ entry ∈ others,
      (pass.forked chunk handle tree).handles[entry.1.number]? =
        pass.handles[entry.1.number]? :=
    fun entry member => Pass.forked_other (owing.apart member) (owing.old member) tree
  refine ⟨_, _, forked, owing.of_first same ?owes ?ready⟩
  case owes =>
    have inherited : (pass.forked chunk handle tree).tapsOf ⟨pass.handles.size⟩ =
        pass.tapsOf chunk := by
      rw [Pass.tapsOf_eq foundBranch, Pass.tapsOf_eq writable.found]
      rfl
    have kept : (pass.forked chunk handle tree).tapsOf chunk = pass.tapsOf chunk := by
      rw [Pass.tapsOf_eq foundRest, Pass.tapsOf_eq writable.found]
    rw [List.map_cons, List.map_singleton, owed, owed, inherited, kept]
    exact divided
  case ready =>
    intro entry member
    rcases List.mem_cons.mp member with rfl | member
    · refine ⟨_, foundBranch, total, Nat.le_refl _, ?_⟩
      rw [TapStack.depth_inherit]
      exact balanced.1
    · rw [List.mem_singleton.mp member]
      exact ⟨_, foundRest, total, own, balanced.2⟩

/-- A chunk without taps of its own that owes nothing can be finished. -/
theorem Owing.act_finish (owing : Owing document pass ((chunk, .finish) :: others)) :
    ∃ after, chunk.finish .null pass = (.ok (), after) ∧ Owing document after ([] ++ others) := by
  obtain ⟨handle, writable, _, _, balanced⟩ := owing.first
  have untapped : handle.taps.depth = 0 := by simpa [BranchScript.balanced] using balanced
  have owes : pass.Owes document ((chunk, []) :: others.map (owed pass)) := owing.owes
  obtain ⟨tree, completed, paid⟩ := owes.complete writable.found untapped
  have same : ∀ entry ∈ others,
      (pass.completed chunk tree).handles[entry.1.number]? = pass.handles[entry.1.number]? :=
    fun entry member => Pass.changed_other (owing.apart member) _
  exact ⟨_, completed, owing.of_first same paid fun entry member => by cases member⟩

/-- Every action succeeds, and what is left to do owes the document what it lacks then. -/
theorem Owing.act {script : BranchScript}
    (owing : Owing document pass ((chunk, script) :: others)) :
    ∃ left after, script.act chunk pass = (.ok left, after) ∧
      Owing document after (left ++ others) := by
  cases script with
  | finish =>
    obtain ⟨after, finished, owing⟩ := owing.act_finish
    exact ⟨[], after, by simp [BranchScript.act, bind_step, finished], owing⟩
  | write value rest =>
    obtain ⟨after, wrote, owing⟩ := owing.act_write
    exact ⟨_, after, by simp [BranchScript.act, bind_step, wrote], owing⟩
  | tap apply rest =>
    obtain ⟨after, tapped, owing⟩ := owing.act_tap
    exact ⟨_, after, by simp [BranchScript.act, bind_step, tapped], owing⟩
  | untap rest =>
    obtain ⟨after, untapped, owing⟩ := owing.act_untap
    exact ⟨_, after, by simp [BranchScript.act, bind_step, untapped], owing⟩
  | map branch rest =>
    obtain ⟨child, after, forked, owing⟩ := owing.act_map
    exact ⟨_, after, by simp [BranchScript.act, bind_step, forked], owing⟩

end BranchScript

namespace Production

/-- What is left to do owes a document what it lacks, in whatever order it is listed. -/
def Owing (document : List String) (production : Production) : Prop :=
  BranchScript.Owing document production.pass production.pending

variable {document : List String} {production next : Production}

/-- Whichever branch is acted on, what is left to do owes the document what it lacks. -/
theorem Owing.acts (owing : production.Owing document) (acts : Acts production next) :
    next.Owing document := by
  obtain ⟨acted⟩ := acts
  rename_i pass after chunk script early late left
  obtain ⟨expected, reached, done, owed⟩ :=
    (BranchScript.Owing.perm owing List.perm_middle).act
  rw [acted] at done
  cases done
  apply BranchScript.Owing.perm owed
  rw [List.append_assoc]
  exact List.perm_append_comm_assoc ..

/-- The number of actions that are left to do, besides so many others. -/
def remainingFrom (others : Nat) (pending : List (Chunk × BranchScript)) : Nat :=
  pending.foldr (fun entry count => entry.2.actions + count) others

/-- The number of actions that are left to do. -/
def remaining (production : Production) : Nat := remainingFrom 0 production.pending

/-- One action more among the others is one more in all. -/
theorem remainingFrom_succ (others : Nat) (pending : List (Chunk × BranchScript)) :
    remainingFrom (others + 1) pending = remainingFrom others pending + 1 := by
  induction pending with
  | nil => rfl
  | cons entry rest ih =>
    rw [remainingFrom, remainingFrom, List.foldr_cons, List.foldr_cons, ← remainingFrom,
      ← remainingFrom, ih, Nat.add_assoc]

/-- Each action is done once, so that no schedule goes on for ever. -/
theorem Acts.remaining (acts : Acts production next) :
    next.remaining + 1 = production.remaining := by
  obtain ⟨acted⟩ := acts
  rename_i pass after chunk script early late left
  have spent (others : Nat) : remainingFrom others left + 1 = script.actions + others := by
    cases script with
    | finish | write value rest | tap apply rest | untap rest =>
      obtain ⟨_, _, _, done⟩ := bind_ok acted
      cases done
      simp only [remainingFrom, List.foldr_cons, List.foldr_nil, BranchScript.actions]
      omega
    | map branch rest =>
      obtain ⟨_, _, _, done⟩ := bind_ok acted
      cases done
      simp only [remainingFrom, List.foldr_cons, List.foldr_nil, BranchScript.actions]
      omega
  have before : Production.remaining ⟨pass, early ++ (chunk, script) :: late⟩ =
      remainingFrom (script.actions + remainingFrom 0 late) early := List.foldr_append
  have behind : Production.remaining ⟨after, early ++ left ++ late⟩ =
      remainingFrom (remainingFrom (remainingFrom 0 late) left) early := by
    rw [Production.remaining, List.append_assoc]
    exact List.foldr_append.trans (congrArg (remainingFrom · early) List.foldr_append)
  rw [before, behind, ← spent, remainingFrom_succ]

/-- However the branches take turns, what is left to do owes the document what it lacks. -/
theorem Owing.reaches (owing : production.Owing document)
    (reaches : Relation.ReflTransGen Acts production next) : next.Owing document := by
  induction reaches with
  | refl => exact owing
  | tail _ acts ih => exact ih.acts acts

/-- At the start the root owes the expansion of its script. -/
theorem owing_start {script : BranchScript} (balanced : script.balanced 0 = true)
    (looping : Bool) :
    ∃ root opened, Chunk.root (Pass.start .accepting looping) = (.ok root, opened) ∧
      Owing (script.expand []) ⟨opened, [(root, script)]⟩ := by
  refine ⟨_, _, Chunk.root_step rfl, ?_, ?_⟩
  · exact Pass.Owes.root (show (Pass.start .accepting looping).tree = fresh #[] from rfl)
  · intro entry member
    rw [List.mem_singleton.mp member]
    have untapped : ∀ tap ∈ ([] : List Tap), tap.IsTotal := by simp
    exact ⟨({ record := 0 } : Handle), rfl, untapped, Nat.le_refl _, balanced⟩

end Production

/-- Document order is independent of the schedule. Whichever of the open branches is acted on at
each moment, no action fails, and when nothing is left to do the tree is finished and the sink
was given the texts of the root script, depth first, but for the empty ones. -/
theorem schedule_independent (sink : Sink) (looping : Bool) (script : BranchScript)
    (accepts : ∀ received fragment, sink received fragment = none)
    (balanced : script.balanced 0 = true) :
    ∃ root opened, Chunk.root (Pass.start sink looping) = (.ok root, opened) ∧
      ∀ later, Relation.ReflTransGen Production.Acts ⟨opened, [(root, script)]⟩ later →
        (∀ entry ∈ later.pending,
          ∃ left after, entry.2.act entry.1 later.pass = (.ok left, after)) ∧
        (later.pending = [] →
          later.pass.tree.finished = true ∧
          later.pass.tree.delivered = solid (script.expand []) ∧
          later.pass.tree.output = solid (script.expand []) ∧
          later.pass.tree.text = String.join (script.expand [])) := by
  obtain rfl : sink = .accepting := funext fun received => funext (accepts received)
  obtain ⟨root, opened, rooted, owing⟩ := Production.owing_start balanced looping
  refine ⟨root, opened, rooted, fun later reaches => ⟨?_, ?_⟩⟩
  · intro entry member
    obtain ⟨early, late, split⟩ := List.append_of_mem member
    have reached : BranchScript.Owing _ later.pass later.pending := owing.reaches reaches
    rw [split] at reached
    obtain ⟨left, after, acted, _⟩ := (reached.perm List.perm_middle).act
    exact ⟨left, after, acted⟩
  · intro done
    have reached : BranchScript.Owing _ later.pass later.pending := owing.reaches reaches
    rw [done] at reached
    obtain ⟨finished, output, delivered⟩ := reached.owes.settled
    refine ⟨finished, delivered, output, ?_⟩
    rw [RenderTree.text, output, join_solid]

/-- A branch that is forked under a tap which its parent removes before the branch is written
to. -/
def tappedBranch : BranchScript :=
  .tap Text.upper (.map (.write (.text "b") .finish) (.untap (.write (.text "c") .finish)))

/-- The branch is written under the tap that was in force at its fork. -/
theorem schedule_independent_tappedBranch :
    (∀ received fragment, Sink.accepting received fragment = none) ∧
      tappedBranch.balanced 0 = true ∧ tappedBranch.expand [] = ["B", "c"] ∧
      ∃ root opened, Chunk.root (Pass.start .accepting false) = (.ok root, opened) ∧
        ∀ later, Relation.ReflTransGen Production.Acts ⟨opened, [(root, tappedBranch)]⟩ later →
          (∀ entry ∈ later.pending,
            ∃ left after, entry.2.act entry.1 later.pass = (.ok left, after)) ∧
          (later.pending = [] →
            later.pass.tree.finished = true ∧
            later.pass.tree.delivered = solid (tappedBranch.expand []) ∧
            later.pass.tree.output = solid (tappedBranch.expand []) ∧
            later.pass.tree.text = String.join (tappedBranch.expand [])) :=
  ⟨fun _ _ => rfl, rfl, by decide +kernel,
    schedule_independent .accepting false tappedBranch (fun _ _ => rfl) rfl⟩

end TemplateStream
