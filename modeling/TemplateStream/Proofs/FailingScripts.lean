import TemplateStream.Proofs.Errands

/-!
# Helpers that fail alone

The calls of a helper fail alone when its script writes, puts taps on and takes its own off, and maps
branches that are ended, until it raises a fault that can be answered for with a placeholder. What
such a script does keeps to its chunk, and leaves no branch open.
-/

namespace TemplateStream

open RenderTree Outline Relation

/-- Scripts that write, put taps on, take their own off again and map branches that are ended. With
a fault they raise it in the end, and without one they end the chunk. The number is that of the taps
that the script has put on so far. -/
inductive Script.Plain : Option Fault → Nat → Script → Prop where
  | raise (fault : Fault) (own : Nat) : Plain (some fault) own [.raise fault]
  | finish (value : Value) : Plain none 0 [.finish value]
  | write {ends : Option Fault} {own : Nat} {rest : Script} (value : Value)
      (goesOn : Plain ends own rest) : Plain ends own (.write value :: rest)
  | tap {ends : Option Fault} {own : Nat} {rest : Script} (transform : String → String)
      (goesOn : Plain ends (own + 1) rest) :
      Plain ends own (.tap (some (.total transform)) :: rest)
  | untap {ends : Option Fault} {own : Nat} {rest : Script} (goesOn : Plain ends own rest) :
      Plain ends (own + 1) (.untap :: rest)
  | map {ends : Option Fault} {own : Nat} {script rest : Script} (inner : Plain none 0 script)
      (goesOn : Plain ends own rest) : Plain ends own (.map script :: rest)

namespace Pass

variable {origin middle after : Pass} {chunk branch : Chunk} {works more : List Work}

/-- What stays at a chunk, or at a branch of it that is new, stays at the chunk. -/
theorem Stays.within (early : origin.Stays chunk works middle)
    (late : middle.Stays branch more after)
    (whose : branch = chunk ∨ origin.handles.size ≤ branch.number)
    (grows : origin.handles.size ≤ middle.handles.size) :
    origin.Stays chunk (works ++ more) after := by
  induction late with
  | start =>
    rw [List.append_nil]
    exact early
  | notes _ recoveries log ih => exact .notes ih recoveries log
  | performs _ operation target who ih =>
    refine .performs ih operation target ?_
    rcases who with rfl | new
    · exact whose
    · exact .inr (grows.trans new)
  | spawns _ work ih =>
    rw [← List.append_assoc]
    exact .spawns ih work

/-- What was done kept to a chunk, and left no new branch open. -/
structure Tidy (origin : Pass) (chunk : Chunk) (after : Pass) : Prop where
  stays : origin.Stays chunk [] after
  reached : origin.Reaches after
  grows : origin.handles.size ≤ after.handles.size
  others : ∀ number < origin.handles.size, number ≠ chunk.number →
    after.handles[number]? = origin.handles[number]?
  ended : ∀ {number : Nat} {handle : Handle}, origin.handles.size ≤ number →
    after.handles[number]? = some handle → handle.complete = true

namespace Tidy

/-- Nothing was done. -/
theorem refl (pass : Pass) (chunk : Chunk) : pass.Tidy chunk pass where
  stays := .start
  reached := .refl
  grows := Nat.le_refl _
  others _ _ _ := rfl
  ended new found := absurd (lt_size_of_found found) (Nat.not_lt.mpr new)

/-- One thing was done after the other. -/
theorem trans (early : origin.Tidy chunk middle) (late : middle.Tidy chunk after)
    (inside : chunk.number < origin.handles.size) : origin.Tidy chunk after where
  stays := early.stays.within late.stays (.inl rfl) early.grows
  reached := early.reached.trans late.reached
  grows := early.grows.trans late.grows
  others number old apart :=
    (late.others number (Nat.lt_of_lt_of_le old early.grows) apart).trans
      (early.others number old apart)
  ended {number handle} new found := by
    by_cases recent : middle.handles.size ≤ number
    · exact late.ended recent found
    · have apart : number ≠ chunk.number := Nat.ne_of_gt (Nat.lt_of_lt_of_le inside new)
      rw [late.others number (not_le.mp recent) apart] at found
      exact early.ended new found

/-- An operation on a chunk that adds no handle keeps to it. -/
theorem operation (operation : Operation) (target : operation.target = some chunk)
    (performed : (operation.perform origin).2 = after)
    (size : after.handles.size = origin.handles.size)
    (others : ∀ number, number ≠ chunk.number → after.handles[number]? = origin.handles[number]?) :
    origin.Tidy chunk after where
  stays := performed ▸ Stays.start.performs operation target (.inl rfl)
  reached := performed ▸ .single (.performs origin operation)
  grows := Nat.le_of_eq size.symm
  others number _ apart := others number apart
  ended new found := by
    have inside := lt_size_of_found found
    omega

/-- A chunk whose branches are ended is minded without errands. -/
theorem minds (tidy : origin.Tidy chunk after) : origin.Minds chunk [] after where
  stays := tidy.stays
  distinct := List.nodup_nil
  new := by simp
  held := by simp
  left {branch taps} new opens := by
    obtain ⟨handle, found, isOpen, _⟩ := opens
    exact absurd (isOpen.symm.trans (tidy.ended new found)) Bool.false_ne_true

end Tidy

/-! ## Operations on open chunks -/

namespace HasOpen

variable {pass : Pass} {taps rest : TapStack} {newest : Tap}

/-- Writing to an open chunk goes well when its taps are harmless. -/
theorem write (opens : pass.HasOpen chunk taps) (kept : pass.Kept) (harmless : taps.Harmless)
    (value : Value) :
    ∃ after, chunk.write value pass = (.ok (), after) ∧ pass.Tidy chunk after ∧
      after.HasOpen chunk taps := by
  obtain ⟨handle, found, isOpen, rfl⟩ := opens
  by_cases absent : value = .null
  · subst absent
    exact ⟨pass, Chunk.write_null found isOpen, .refl pass chunk, handle, found, isOpen, rfl⟩
  · have wrote := (kept.owned.writable found isOpen).write_value harmless absent
    exact ⟨_, wrote, .operation (.write chunk value) rfl (congrArg Prod.snd wrote) rfl
      fun _ _ => rfl, handle, found, isOpen, rfl⟩

/-- Putting a tap on an open chunk goes well. -/
theorem tap (opens : pass.HasOpen chunk taps) (transform : String → String) :
    ∃ after, chunk.tap (some (.total transform)) pass = (.ok (), after) ∧ pass.Tidy chunk after ∧
      after.HasOpen chunk (taps.push (.stateless (.ok ∘ transform))) := by
  obtain ⟨handle, found, isOpen, rfl⟩ := opens
  have installed : (Transform.total transform).install pass.memory =
      (.ok (.stateless (.ok ∘ transform)), pass.memory) := rfl
  have tapped := Chunk.tap_step found isOpen installed
  exact ⟨_, tapped, .operation (.tap chunk _) rfl (congrArg Prod.snd tapped)
    (by simp [changed]) fun _ apart => changed_other apart _, _, changed_self found _, isOpen, rfl⟩

/-- Taking a tap of its own off an open chunk goes well. -/
theorem untap (opens : pass.HasOpen chunk taps) (popped : taps.pop = .ok (newest, rest)) :
    ∃ after, chunk.untap pass = (.ok (), after) ∧ pass.Tidy chunk after ∧
      after.HasOpen chunk rest := by
  obtain ⟨handle, found, isOpen, rfl⟩ := opens
  have untapped := Chunk.untap_step found
  rw [popped] at untapped
  exact ⟨_, untapped, .operation (.untap chunk) rfl (congrArg Prod.snd untapped)
    (by simp [changed]) fun _ apart => changed_other apart _, _, changed_self found _, isOpen, rfl⟩

/-- Completing an open chunk without taps of its own goes well. -/
theorem complete (opens : pass.HasOpen chunk taps) (kept : pass.Kept) (untapped : taps.depth = 0) :
    ∃ after handle, chunk.complete pass = (.ok (), after) ∧ pass.Tidy chunk after ∧
      after.handles[chunk.number]? = some handle ∧ handle.complete = true := by
  obtain ⟨handle, found, isOpen, rfl⟩ := opens
  obtain ⟨_, whole⟩ := kept.whole
  obtain ⟨tree, completes, _⟩ := whole.completes (kept.owned.writable found isOpen).record
  have completed : chunk.complete pass = (.ok (), pass.completed chunk tree) := by
    rw [Chunk.complete_step found isOpen untapped]
    simp only [onTree_step, changed, completes, Pass.completed]
  exact ⟨_, _, completed, .operation (.complete chunk) rfl (congrArg Prod.snd completed)
    (by simp [Pass.completed, changed]) fun _ apart => changed_other apart _,
    changed_self found _, rfl⟩

/-- Ending an open chunk without taps of its own goes well. -/
theorem finish (opens : pass.HasOpen chunk taps) (kept : pass.Kept) (harmless : taps.Harmless)
    (untapped : taps.depth = 0) (value : Value) :
    ∃ after handle, chunk.finish value pass = (.ok (), after) ∧ pass.Tidy chunk after ∧
      after.handles[chunk.number]? = some handle ∧ handle.complete = true := by
  obtain ⟨middle, wrote, tidy, opensThen⟩ := opens.write kept harmless value
  obtain ⟨after, handle, completed, tidyThen, ended⟩ :=
    opensThen.complete (kept.reaches tidy.reached) untapped
  obtain ⟨_, found, isOpen, _⟩ := opens
  have inside := lt_size_of_found found
  refine ⟨after, handle, ?_, tidy.trans tidyThen inside, ended⟩
  by_cases absent : value = .null
  · subst absent
    cases (Chunk.write_null found isOpen).symm.trans wrote
    exact completed
  · rw [Chunk.finish_present absent, bind_step, wrote]
    exact completed

/-- Mapping an open chunk goes well when its branch is ended. -/
theorem map (opens : pass.HasOpen chunk taps) (kept : pass.Kept) (work : Chunk → PassM Outcome)
    (ends : ∀ branch middle, middle.Kept → middle.HasOpen branch taps.inherit →
      ∃ after handle, work branch middle = (.ok .nothing, after) ∧ middle.Tidy branch after ∧
        after.handles[branch.number]? = some handle ∧ handle.complete = true) :
    ∃ after, chunk.map work pass = (.ok (), after) ∧ pass.Tidy chunk after ∧
      after.HasOpen chunk taps := by
  obtain ⟨handle, found, isOpen, rfl⟩ := opens
  obtain ⟨_, whole⟩ := kept.whole
  obtain ⟨tree, forks, _⟩ := whole.forks (kept.owned.writable found isOpen).record
  let branch : Chunk := ⟨pass.handles.size⟩
  let middle := pass.forked chunk handle tree
  have branched : chunk.branch pass = (.ok branch, middle) := by
    rw [Chunk.branch_step found isOpen, forks]
    rfl
  have reached : pass.Reaches middle := (reaches_endure.branch chunk).after branched
  have own : middle.handles[branch.number]? = _ := forked_branch found tree
  obtain ⟨after, last, worked, tidy, ended, complete⟩ :=
    ends branch middle (kept.reaches reached) ⟨_, own, rfl, rfl⟩
  have inside := lt_size_of_found found
  have size : middle.handles.size = pass.handles.size + 1 := by
    simp [middle, forked, changed]
  have old {number : Nat} (there : number < pass.handles.size) :
      after.handles[number]? = middle.handles[number]? :=
    tidy.others number (by omega) (Nat.ne_of_lt there)
  refine ⟨after, ?_, ?_, ?_⟩
  · simp only [Chunk.map, bind_step, branched, worked, pure_step]
  · have forked : pass.Stays chunk [] middle := by
      have stays : pass.Stays chunk [] ((Operation.branch chunk).perform pass).2 :=
        Stays.start.performs (.branch chunk) rfl (.inl rfl)
      rwa [Operation.perform, discard_step, branched] at stays
    exact {
      stays := forked.within tidy.stays (.inr (Nat.le_refl _)) (by omega)
      reached := reached.trans tidy.reached
      grows := Nat.le_trans (by omega) tidy.grows
      others := fun number there apart => (old there).trans (forked_other apart there tree)
      ended := fun {number held} new lookup => by
        by_cases same : number = pass.handles.size
        · subst same
          obtain rfl := Option.some.inj (ended.symm.trans lookup)
          exact complete
        · exact tidy.ended (by omega) lookup }
  · exact ⟨_, (old inside).trans (forked_self found tree), isOpen, rfl⟩

end HasOpen

end Pass

/-! ## Running plain scripts -/

/-- A script on a chunk that has given taps under its own has raised the fault that it was to raise
and left the chunk open, or has ended the chunk. -/
def Script.EndedAs (ends : Option Fault) (chunk : Chunk) (taps : TapStack)
    (ran : Except Fault Outcome × Pass) : Prop :=
  match ends with
  | some fault => ran.1 = .error fault ∧
      ∃ frames, ran.2.HasOpen chunk { taps with frames := frames ++ taps.frames }
  | none => ran.1 = .ok .nothing ∧
      ∃ handle, ran.2.handles[chunk.number]? = some handle ∧ handle.complete = true

section runs

variable {ends : Option Fault} {own : Nat} {script rest : Script} {statement : Statement}
  {render : RenderBody} {scope : Scope} {pass middle : Pass} {taps : TapStack} {frames : List Tap}

/-- A script goes on after a statement that kept to the chunk. -/
theorem Script.EndedAs.goesOn {result : Option Chunk}
    (steps : runScript render scope (statement :: rest) = (do
      discard (statement.run render scope)
      runScript render scope rest))
    (ran : statement.run render scope pass = (.ok result, middle))
    (tidy : pass.Tidy scope.chunk middle) {held : TapStack} (opens : pass.HasOpen scope.chunk held)
    (goesOn : middle.Tidy scope.chunk (runScript render scope rest middle).2 ∧
      Script.EndedAs ends scope.chunk taps (runScript render scope rest middle)) :
    pass.Tidy scope.chunk (runScript render scope (statement :: rest) pass).2 ∧
      Script.EndedAs ends scope.chunk taps (runScript render scope (statement :: rest) pass) := by
  obtain ⟨_, found, _⟩ := opens
  have inside := lt_size_of_found found
  rw [steps, bind_step, discard_step, ran]
  exact ⟨tidy.trans goesOn.1 inside, goesOn.2⟩

/-- A plain script keeps to its chunk, and ends as it is to end. -/
theorem Script.Plain.runs (plain : Script.Plain ends own script) (kept : pass.Kept)
    (opens : pass.HasOpen scope.chunk { taps with frames := frames ++ taps.frames })
    (harmless : TapStack.Harmless { taps with frames := frames ++ taps.frames })
    (inherited : taps.inherited ≤ taps.frames.length) (counted : frames.length = own)
    (untapped : ends = none → taps.depth = 0) :
    pass.Tidy scope.chunk (runScript render scope script pass).2 ∧
      Script.EndedAs ends scope.chunk taps (runScript render scope script pass) := by
  induction plain generalizing scope pass taps frames with
  | raise fault own => exact ⟨.refl pass scope.chunk, rfl, frames, opens⟩
  | finish value =>
    obtain rfl := List.eq_nil_of_length_eq_zero counted
    obtain ⟨after, handle, finished, tidy, ended⟩ := opens.finish kept harmless (untapped rfl) value
    have ran : runScript render scope [.finish value] pass = (.ok .nothing, after) := by
      simp only [runScript, Statement.run, bind_step, discard_step, finished, pure_step]
    rw [ran]
    exact ⟨tidy, rfl, handle, ended⟩
  | write value _ ih =>
    obtain ⟨middle, wrote, tidy, opensThen⟩ := opens.write kept harmless value
    have ran : (Statement.write value).run render scope pass = (.ok (some scope.chunk), middle) := by
      simp only [Statement.run, bind_step, wrote, pure_step]
    exact Script.EndedAs.goesOn rfl ran tidy opens
      (ih (kept.reaches tidy.reached) opensThen harmless inherited counted untapped)
  | tap transform _ ih =>
    obtain ⟨middle, tapped, tidy, opensThen⟩ := opens.tap transform
    let newest : Tap := .stateless (.ok ∘ transform)
    have opensThen : middle.HasOpen scope.chunk
      { taps with frames := (newest :: frames) ++ taps.frames } := opensThen
    have ran : (Statement.tap (some (.total transform))).run render scope pass =
        (.ok (some scope.chunk), middle) := by
      simp only [Statement.run, bind_step, tapped, pure_step]
    exact Script.EndedAs.goesOn rfl ran tidy opens
      (ih (kept.reaches tidy.reached) opensThen (harmless.push transform) inherited
        (congrArg Nat.succ counted) untapped)
  | untap _ ih =>
    obtain ⟨newest, left, rfl⟩ := List.exists_cons_of_length_eq_add_one counted
    obtain ⟨middle, popped, tidy, opensThen⟩ :=
      opens.untap (TapStack.pop_own inherited newest left)
    have ran : Statement.untap.run render scope pass = (.ok (some scope.chunk), middle) := by
      simp only [Statement.run, bind_step, popped, pure_step]
    have safe : TapStack.Harmless { taps with frames := left ++ taps.frames } :=
      ⟨fun tap member => harmless.total tap (List.mem_cons_of_mem _ member),
        inherited.trans (by simp)⟩
    exact Script.EndedAs.goesOn rfl ran tidy opens
      (ih (kept.reaches tidy.reached) opensThen safe inherited (Nat.succ.inj counted) untapped)
  | @map _ _ script _ _ _ inner ih =>
    obtain ⟨middle, mapped, tidy, opensThen⟩ := opens.map kept
      (fun branch => runScript render { scope with chunk := branch } script)
      fun branch between keptThen opensBranch => by
        let base := TapStack.inherit { taps with frames := frames ++ taps.frames }
        have opensOn : between.HasOpen branch { base with frames := [] ++ base.frames } :=
          opensBranch
        let inside : Scope := { scope with chunk := branch }
        obtain ⟨tidy, ran, handle, ended⟩ :=
          @inner inside between base [] keptThen opensOn harmless.inherit harmless.inherit.own rfl
            fun _ => TapStack.depth_inherit
        exact ⟨_, handle, Prod.ext ran rfl, tidy, ended⟩
    have ran : (Statement.map script).run render scope pass = (.ok (some scope.chunk), middle) := by
      simp only [Statement.run, bind_step, mapped, pure_step]
    exact Script.EndedAs.goesOn rfl ran tidy opens
      (ih (kept.reaches tidy.reached) opensThen harmless inherited counted untapped)

/-- A plain script neither pauses nor answers. -/
theorem Script.Plain.runsThrough (plain : Script.Plain ends own script) :
    ∀ statement ∈ script, statement.runsThrough := by
  induction plain with
  | raise fault own => exact List.forall_mem_singleton.mpr rfl
  | finish value => exact List.forall_mem_singleton.mpr rfl
  | write _ _ ih => exact List.forall_mem_cons.mpr ⟨rfl, ih⟩
  | tap _ _ ih => exact List.forall_mem_cons.mpr ⟨rfl, ih⟩
  | untap _ ih => exact List.forall_mem_cons.mpr ⟨rfl, ih⟩
  | map _ _ _ ih => exact List.forall_mem_cons.mpr ⟨rfl, ih⟩

end runs

/-! ## Calls of failing scripts -/

section calls

variable {call : HelperCall} {helper : Helper} {style : Option AsyncStyle} {script : Script}
  {fault : Fault} {context : Context} {parameters : Table Value} {text : String} {looping : Bool}
  {depth : Nat}

end calls

end TemplateStream
