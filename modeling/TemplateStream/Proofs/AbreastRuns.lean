import TemplateStream.Proofs.AbreastTurns
import TemplateStream.Proofs.Waiting

/-!
# Runs that go along

When the full pass is driven until no work is left, the bare one can be driven alongside. It takes
part in the turns of work that is the same on twins, and stands still while the full pass takes the
turns of undertakings. Time may pass in the full pass for an undertaking alone: the bare one lets
it pass once it has work of its own to wait for.
-/

namespace TemplateStream

open RenderTree Outline Relation

/-! ## The earliest moment -/

section earliest

variable {pass : Pass} {front back : List (Nat × Work)} {moment : Nat} {work : Work}

/-- Of what waits there is a first that waits for the earliest moment. -/
theorem exists_earliest (timed : List (Nat × Work)) (some : timed ≠ []) :
    ∃ front moment work back, timed = front ++ (moment, work) :: back ∧
      (∀ entry ∈ front, moment < entry.1) ∧ ∀ entry ∈ back, moment ≤ entry.1 := by
  induction timed with
  | nil => exact absurd rfl some
  | cons entry rest ih =>
    obtain ⟨time, own⟩ := entry
    by_cases last : rest = []
    · subst last
      exact ⟨[], time, own, [], rfl, by simp, by simp⟩
    · obtain ⟨front, moment, work, back, rfl, before, behind⟩ := ih last
      by_cases early : time ≤ moment
      · refine ⟨[], time, own, _, rfl, by simp, ?_⟩
        simp only [List.forall_mem_append, List.forall_mem_cons]
        exact ⟨fun other member => early.trans (before other member).le, early,
          fun other member => early.trans (behind other member)⟩
      · exact ⟨(time, own) :: front, moment, work, back, rfl,
          List.forall_mem_cons.mpr ⟨not_le.mp early, before⟩, behind⟩

/-- Time passes to the earliest moment, and the first work that waits for it goes on. -/
theorem Pass.passTime_step (split : pass.agenda.timed = front ++ (moment, work) :: back)
    (before : ∀ entry ∈ front, moment < entry.1) (behind : ∀ entry ∈ back, moment ≤ entry.1) :
    passTime pass = (.ok true, { pass with agenda := { pass.agenda with
      now := moment, ready := [work], timed := front ++ back } }) := by
  have least : earliest pass.agenda.timed = some moment := by
    rw [earliest, List.min?_eq_some_iff]
    refine ⟨by simp [split], fun time member => ?_⟩
    obtain ⟨entry, listed, rfl⟩ := List.mem_map.mp member
    rw [split] at listed
    rcases List.mem_append.mp listed with early | late
    · exact (before entry early).le
    · rcases List.mem_cons.mp late with rfl | late
      · exact Nat.le_refl _
      · exact behind entry late
  have taken : pass.agenda.timed.takeWhile (fun entry => entry.1 != moment) = front := by
    rw [split, List.takeWhile_append_of_pos fun entry member =>
      bne_iff_ne.mpr (before entry member).ne', List.takeWhile_cons_of_neg (by simp),
      List.append_nil]
  rw [split] at least taken
  simp only [passTime, bind_step, get_step, split, least, taken, List.drop_left]
  rfl

/-- Time does not pass when nothing waits for it. -/
theorem Pass.passTime_none (never : pass.agenda.timed = []) :
    passTime pass = (.ok false, pass) := by
  have least : earliest pass.agenda.timed = none := by
    rw [never]
    rfl
  simp only [passTime, bind_step, get_step, least, pure_step]

/-- Driving a pass whose work can go on takes a turn. -/
theorem Pass.driveWithin_turn (render : RenderBody) (steps : Nat)
    (busy : pass.agenda.ready ≠ []) :
    driveWithin render (steps + 1) pass =
      (turn render >>= fun _ => driveWithin render steps) pass := by
  have some : pass.agenda.size ≠ 0 := by
    have := List.length_pos_iff.mpr busy
    rw [Agenda.size]
    omega
  have more : pass.agenda.ready.isEmpty = false := by simpa using busy
  rw [driveWithin, bind_step, get_step]
  simp only [beq_iff_eq, some, if_false, more, Bool.false_eq_true]

/-- Driving a pass whose work waits lets time pass, if that goes on. -/
theorem Pass.driveWithin_time (render : RenderBody) (steps : Nat)
    (idle : pass.agenda.ready = []) (some : pass.agenda.size ≠ 0) :
    driveWithin render (steps + 1) pass = (do
      if ← passTime then driveWithin render steps else throw Fault.stalled) pass := by
  rw [driveWithin, bind_step, get_step]
  simp only [beq_iff_eq, some, if_false, idle, List.isEmpty_nil, if_true]

end earliest

/-! ## Interleaved entries -/

namespace Interleaved

variable {α β : Type} {relates : α → β → Prop} {owns : Undertaking → α → Prop} {entry : α}
  {front back : List α} {others : List β} {owners : List Undertaking}

/-- An entry is related to one of the others, or is that of an undertaking. -/
theorem split (interleaved : Interleaved relates owns (front ++ entry :: back) others owners) :
    (∃ early other late before behind, others = early ++ other :: late ∧
      owners = before ++ behind ∧ relates entry other ∧
      Interleaved relates owns front early before ∧ Interleaved relates owns back late behind) ∨
    ∃ early late owner before behind, others = early ++ late ∧
      owners = before ++ owner :: behind ∧ owns owner entry ∧
      Interleaved relates owns front early before ∧ Interleaved relates owns back late behind := by
  induction front generalizing others owners with
  | nil =>
    cases interleaved with
    | both related rest => exact .inl ⟨[], _, _, [], _, rfl, rfl, related, .nil, rest⟩
    | only owned rest => exact .inr ⟨[], _, _, [], _, rfl, rfl, owned, .nil, rest⟩
  | cons first front ih =>
    cases interleaved with
    | both related rest =>
      rcases ih rest with ⟨early, other, late, before, behind, rfl, rfl, found, ahead, after⟩ |
        ⟨early, late, owner, before, behind, rfl, rfl, owned, ahead, after⟩
      · exact .inl ⟨_ :: early, other, late, before, behind, rfl, rfl, found,
          .both related ahead, after⟩
      · exact .inr ⟨_ :: early, late, owner, before, behind, rfl, rfl, owned,
          .both related ahead, after⟩
    | only owns rest =>
      rcases ih rest with ⟨early, other, late, before, behind, rfl, rfl, found, ahead, after⟩ |
        ⟨early, late, owner, before, behind, rfl, rfl, owned, ahead, after⟩
      · exact .inl ⟨early, other, late, _ :: before, behind, rfl, rfl, found, .only owns ahead,
          after⟩
      · exact .inr ⟨early, late, owner, _ :: before, behind, rfl, rfl, owned, .only owns ahead,
          after⟩

/-- What holds of all that entries are related to holds of the others. -/
theorem forall_other {good : β → Prop}
    (interleaved : Interleaved relates owns front others owners)
    (each : ∀ entry ∈ front, ∀ other, relates entry other → good other) :
    ∀ other ∈ others, good other := by
  induction interleaved with
  | nil => simp
  | both related _ ih =>
    obtain ⟨own, rest⟩ := List.forall_mem_cons.mp each
    exact List.forall_mem_cons.mpr ⟨own _ related, ih rest⟩
  | only _ _ ih => exact ih (List.forall_mem_cons.mp each).2

/-- Without entries there are neither others nor undertakings. -/
theorem none (interleaved : Interleaved relates owns front others owners) (none : front = []) :
    others = [] ∧ owners = [] := by
  subst none
  cases interleaved
  exact ⟨rfl, rfl⟩

end Interleaved

/-! ## Alongside -/

/-- A pass at another time. -/
def Pass.at (pass : Pass) (now : Nat) : Pass := { pass with agenda := { pass.agenda with now } }

/-- Two passes with chunks are alongside each other: they are abreast, but that the bare one may be
behind in time as long as none of its work can go on. -/
def Alongside (accord : Accord) (full bare : Pass) (copies : Copies) : Prop :=
  ∃ twins parts undertakings, twins ≠ [] ∧
    Abreast accord twins parts undertakings full (bare.at full.agenda.now) copies ∧
    (bare.agenda.ready ≠ [] → bare.agenda.now = full.agenda.now)

section alongside

variable {accord : Accord} {twins : List Chunk} {parts : List Part}
  {undertakings : List Undertaking} {full bare last : Pass} {copies : Copies}

/-- Passes that are abreast are alongside. -/
theorem Abreast.alongside (abreast : Abreast accord twins parts undertakings full bare copies)
    (some : twins ≠ []) : Alongside accord full bare copies := by
  have now := abreast.scheduled.now
  refine ⟨twins, parts, undertakings, some, ?_, fun _ => now.symm⟩
  rwa [Pass.at, now]

/-- Time passes in both passes, or in the full one alone. -/
theorem Abreast.passes
    (abreast : Abreast accord twins parts undertakings full (bare.at full.agenda.now) copies)
    (some : twins ≠ []) (idle : full.agenda.ready = []) (waits : full.agenda.timed ≠ []) :
    bare.agenda.ready = [] ∧ ∃ after, Pass.passTime full = (.ok true, after) ∧
      (Alongside accord after bare copies ∨
        ∃ afterToo, Alongside accord after afterToo copies ∧ ∀ marks,
          Pass.passTime (bare.having (copies marks)) =
            (.ok true, afterToo.having (copies marks))) := by
  obtain ⟨_, early, slept, barred, ready, timed, gated, perm⟩ := abreast.scheduled
  obtain ⟨idleToo, rfl⟩ := ready.none idle
  obtain ⟨front, moment, work, back, split, before, behind⟩ := exists_earliest _ waits
  have passed := Pass.passTime_step split before behind
  rw [split] at timed
  refine ⟨idleToo, _, passed, ?_⟩
  rcases timed.split with
    ⟨ahead, held, late, first, rest, splitToo, rfl, related, earlyToo, lateToo⟩ |
    ⟨ahead, late, owner, first, rest, splitToo, rfl, owned, earlyToo, lateToo⟩
  · obtain ⟨_, held⟩ := held
    obtain ⟨rfl, related⟩ := related
    have passedToo (marks : Marks) : Pass.passTime (bare.having (copies marks)) = _ :=
      Pass.passTime_step splitToo
        (earlyToo.forall_other fun entry member other waiting => waiting.1 ▸ before entry member)
        (lateToo.forall_other fun entry member other waiting => waiting.1 ▸ behind entry member)
    let after : Pass := { full with agenda := { full.agenda with
      now := moment, ready := [work], timed := front ++ back } }
    let afterToo : Pass := { bare with agenda := { bare.agenda with
      now := moment, ready := [held], timed := ahead ++ late } }
    have on : Abreast accord twins parts undertakings after afterToo copies :=
      abreast.aside ⟨rfl, rfl, rfl⟩ ⟨rfl, rfl, rfl⟩
        ⟨rfl, [], first ++ rest, barred, .both related .nil, earlyToo.append lateToo, gated, perm⟩
        abreast.saved abreast.gates rfl rfl abreast.failures
    exact .inr ⟨afterToo, on.alongside some, passedToo⟩
  · have ready : Interleaved (accord.related twins) (fun owner work => work = owner.work) [work]
        bare.agenda.ready [owner] := by
      rw [show bare.agenda.ready = [] from idleToo]
      exact .only owned .nil
    have others : Interleaved (Waiting accord twins) (fun owner entry => entry.2 = owner.work)
        (front ++ back) bare.agenda.timed (first ++ rest) := by
      rw [show bare.agenda.timed = ahead ++ late from splitToo]
      exact earlyToo.append lateToo
    have front : (owner :: (first ++ rest)).Perm (first ++ owner :: rest) := List.perm_middle.symm
    have moved := (front.append_right barred).trans perm
    exact .inl ⟨twins, parts, undertakings, some, abreast.aside ⟨rfl, rfl, rfl⟩ ⟨rfl, rfl, rfl⟩
      ⟨rfl, [owner], first ++ rest, barred, ready, others, gated, moved⟩ abreast.saved abreast.gates
      rfl rfl abreast.failures, fun some => absurd idleToo some⟩

/-- When the full pass has no work left then neither has the bare one, and all undertakings are
done. -/
theorem Abreast.idle (abreast : Abreast accord twins parts undertakings full bare copies)
    (done : full.agenda.pending = []) : bare.agenda.pending = [] ∧ undertakings = [] := by
  obtain ⟨_, early, slept, barred, ready, timed, gated, perm⟩ := abreast.scheduled
  simp only [Agenda.pending, List.append_eq_nil_iff, List.map_eq_nil_iff] at done ⊢
  obtain ⟨noneReady, noneTimed, noneGated⟩ := done
  obtain ⟨noReady, rfl⟩ := ready.none noneReady
  obtain ⟨noTimed, rfl⟩ := timed.none noneTimed
  obtain ⟨noGated, rfl⟩ := gated.none noneGated
  exact ⟨⟨noReady, noTimed, noGated⟩, perm.symm.eq_nil⟩

end alongside

variable {omission : Omission} {sheds : Shedding} {full bare last : Pass} {copies : Copies}
  {steps : Nat}

/-- A step of driving the full pass is taken alongside by the bare one, or leaves the two alongside
each other. -/
theorem Alongside.goes (alongside : Alongside (omission.accord sheds) full bare copies)
    (renders : omission.RendersAlong sheds Body.nestingLimit)
    (drove : Pass.driveWithin Body.render (steps + 1) full = (.ok (), last)) :
    (full.agenda.pending = [] ∧ last = full) ∨
    ∃ after, Pass.driveWithin Body.render steps after = (.ok (), last) ∧
      (Alongside (omission.accord sheds) after bare copies ∨
        ∃ afterToo copiesThen, Alongside (omission.accord sheds) after afterToo copiesThen ∧
          ∀ more marks,
            Pass.driveWithin (omission.render marks) (more + 1) (bare.having (copies marks)) =
              Pass.driveWithin (omission.render marks) more
                (afterToo.having (copiesThen marks))) := by
  obtain ⟨twins, parts, undertakings, chunks, abreast, sameTime⟩ := alongside
  by_cases done : full.agenda.pending = []
  · rw [driveWithin_empty steps done] at drove
    cases drove
    exact .inl ⟨done, rfl⟩
  refine .inr ?_
  by_cases idle : full.agenda.ready = []
  · have some : full.agenda.size ≠ 0 := fun none => done (Pass.pending_of_size (by simp [none]))
    rw [Pass.driveWithin_time Body.render steps idle some] at drove
    by_cases waits : full.agenda.timed = []
    · rw [bind_step, Pass.passTime_none waits] at drove
      cases drove
    obtain ⟨idleToo, after, passed, goes⟩ := abreast.passes chunks idle waits
    rw [bind_step, passed] at drove
    refine ⟨after, drove, goes.imp id fun ⟨afterToo, alongsideOn, passedToo⟩ =>
      ⟨afterToo, copies, alongsideOn, fun more marks => ?_⟩⟩
    let held : Pass := bare.having (copies marks)
    have someToo : held.agenda.size ≠ 0 := by
      intro none
      have never : held.agenda.timed = [] := by
        rw [Agenda.size] at none
        exact List.length_eq_zero_iff.mp (by omega)
      have stays := (Pass.passTime_none never).symm.trans (passedToo marks)
      cases stays
    have drives := Pass.driveWithin_time (omission.render marks) more
      (show held.agenda.ready = [] from idleToo) someToo
    rw [drives, bind_step, passedToo marks]
    rfl
  · rw [Pass.driveWithin_turn Body.render steps idle] at drove
    obtain ⟨_, after, turned, rest⟩ := bind_ok drove
    refine ⟨after, rest, ?_⟩
    rcases abreast.turns renders idle with ⟨busyToo, ended⟩ |
      ⟨middle, partsOn, undertakingsOn, turnedOn, abreastOn⟩
    · have busyToo : bare.agenda.ready ≠ [] := busyToo
      have same : bare.at full.agenda.now = bare := by
        rw [← sameTime busyToo]
        rfl
      obtain ⟨later, partsOn, undertakingsOn, given, afterToo, copiesThen, grows, abreastOn,
        matched, turnedToo⟩ := ended
      rw [turned] at abreastOn matched
      simp only [same] at turnedToo
      cases matched
      refine .inr ⟨afterToo, copiesThen, abreastOn.alongside (grows.ne_nil chunks),
        fun more marks => ?_⟩
      have drives := Pass.driveWithin_turn (omission.render marks) more
        (show (bare.having (copies marks)).agenda.ready ≠ [] from busyToo)
      rw [drives, bind_step, turnedToo]
    · cases turned.symm.trans turnedOn
      have now : after.agenda.now = full.agenda.now := abreastOn.scheduled.now
      rw [← now] at abreastOn sameTime
      exact .inl ⟨twins, partsOn, undertakingsOn, chunks, abreastOn, sameTime⟩

/-- When the full pass can be driven until no work is left, the bare one can be driven so alongside,
in no more steps. -/
theorem Alongside.drives (alongside : Alongside (omission.accord sheds) full bare copies)
    (renders : omission.RendersAlong sheds Body.nestingLimit)
    (drove : Pass.driveWithin Body.render steps full = (.ok (), last)) :
    last.agenda.pending = [] ∧ ∃ lastToo copiesThen,
      Alongside (omission.accord sheds) last lastToo copiesThen ∧
      ∀ more marks, steps ≤ more →
        Pass.driveWithin (omission.render marks) more (bare.having (copies marks)) =
          (.ok (), lastToo.having (copiesThen marks)) := by
  induction steps generalizing full bare copies with
  | zero => cases drove
  | succ steps ih =>
    rcases alongside.goes renders drove with ⟨done, rfl⟩ |
      ⟨after, rest, alongsideOn | ⟨afterToo, copiesOn, alongsideOn, step⟩⟩
    · refine ⟨done, bare, copies, alongside, fun more marks enough => ?_⟩
      obtain ⟨twins, parts, undertakings, _, abreast, _⟩ := alongside
      obtain ⟨more, rfl⟩ := Nat.exists_eq_add_of_le' enough
      exact driveWithin_empty (more + steps) (abreast.idle done).1
    · obtain ⟨done, lastToo, copiesThen, alongsideThen, drives⟩ := ih alongsideOn rest
      exact ⟨done, lastToo, copiesThen, alongsideThen, fun more marks enough =>
        drives more marks (Nat.le_of_succ_le enough)⟩
    · obtain ⟨done, lastToo, copiesThen, alongsideThen, drives⟩ := ih alongsideOn rest
      refine ⟨done, lastToo, copiesThen, alongsideThen, fun more marks enough => ?_⟩
      obtain ⟨more, rfl⟩ := Nat.exists_eq_add_of_le' enough
      rw [← Nat.add_assoc, step]
      exact drives _ marks (Nat.le_add_left _ _)

end TemplateStream
