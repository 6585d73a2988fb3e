import TemplateStream.Proofs.AbreastBodies

/-!
# Turns that go along

A turn of work that is the same on twins goes along. A turn of an undertaking is taken by the full
pass alone: it changes what its call left, which then is still something that the call may leave.
-/

namespace TemplateStream

open RenderTree Outline Relation

variable {omission : Omission} {sheds : Shedding} {context : Context} {twins : List Chunk}
  {chunk other : Chunk}

/-! ## Work on twins -/

/-- What is left of work is the same on twins. -/
def SameLeft (sheds : Shedding) (twins : List Chunk) :
    Option (Pause × Work) → Option (Pause × Work) → Prop :=
  Option.Rel fun left rest => left.1 = rest.1 ∧ SameWork sheds twins left.2 rest.2

/-- Finishing with twins goes along. -/
theorem SameFinish.concludes {finish final : Finish} {result given : Except Fault Outcome}
    (same : SameFinish sheds context finish final)
    (renders : omission.RendersAlong sheds Body.nestingLimit) (twin : Twin twins chunk other)
    (matched : Matched (SameOutcome (omission.accord sheds) twins) result given) :
    Along (omission.accord sheds) twins (fun _ _ _ => True)
      (finish.conclude Body.render chunk context result) fun marks =>
        final.conclude (omission.render marks) other context given := by
  have lifts : Along (omission.accord sheds) twins (fun _ _ _ => True)
      (discard (liftExcept result)) fun _ => discard (liftExcept given) := by
    cases matched with
    | ok same => exact .pure trivial
    | error fault => exact .throw fault
  cases same with
  | leave => exact lifts
  | close => exact lifts.bind fun _ _ _ grows _ => Along.close (twin_mono grows twin)
  | @settle call held same depth =>
    have proceeds : Along (omission.accord sheds) twins (fun _ _ _ => True)
        (do discard (call.proceed Body.render chunk context (← liftExcept result)))
        fun marks => (do
          discard (held.proceed (omission.render marks) other context (← liftExcept given))) := by
      cases matched with
      | ok outcomes => exact (same.proceed renders twin outcomes).discard
      | error fault => exact .throw fault
    have closes {later : List Chunk} (grows : twins <+: later) :
        Along (omission.accord sheds) later (fun _ _ _ => True) chunk.close fun _ => other.close :=
      Along.close (twin_mono grows twin)
    refine proceeds.attempt.bind fun later first second grows settled => ?_
    cases settled with
    | ok _ => exact closes grows
    | error fault =>
      dsimp only
      split
      · exact .throw fault
      · exact (same.recover renders (twin_mono grows twin) depth fault).discard.bind
          fun _ _ _ growsOn _ => closes (grows.trans growsOn)

/-- Work on a script goes along, up to its next pause. -/
theorem SameFinish.continues {finish final : Finish} {scope held : Scope} {script rest : Script}
    (same : SameFinish sheds scope.context finish final) (scopes : SameScope twins scope held)
    (scripts : Script.Sheds sheds scope.bodies held.bodies Body.nestingLimit scope.context script
      rest)
    (renders : omission.RendersAlong sheds Body.nestingLimit) :
    Along (omission.accord sheds) twins (SameLeft sheds)
      (Work.continueScript Body.render script scope finish) fun marks =>
        Work.continueScript (omission.render marks) rest held final := by
  refine (scripts.advances renders scopes rfl rfl rfl).attempt.bind
    fun later progress reached grows matched => ?_
  have there := scopes.mono grows
  have concludes {result given : Except Fault Outcome}
      (matched : Matched (SameOutcome (omission.accord sheds) later) result given) :
      Along (omission.accord sheds) later (SameLeft sheds)
        (do finish.conclude Body.render scope.chunk scope.context result; pure none)
        fun marks => (do
          final.conclude (omission.render marks) held.chunk held.context given
          pure none) := by
    rw [← scopes.context]
    exact (same.concludes renders there.twin matched).bind fun _ _ _ _ _ => .pure .none
  cases matched with
  | error fault => exact concludes (.error fault)
  | ok got =>
    cases got with
    | finished outcomes => exact concludes (.ok outcomes)
    | paused pause scripts => exact .pure (.some ⟨rfl, .run there scripts same⟩)

/-- A turn of work goes along. -/
theorem SameWork.steps {work held : Work} (same : SameWork sheds twins work held)
    (renders : omission.RendersAlong sheds Body.nestingLimit) :
    Along (omission.accord sheds) twins (SameLeft sheds) (work.step Body.render) fun marks =>
      held.step (omission.render marks) := by
  cases same with
  | idle => exact .pure .none
  | run scopes scripts finishes => exact finishes.continues scopes scripts renders
  | @block scope held finish final scopes blocks finishes =>
    have rendered : Along (omission.accord sheds) twins (SameOutcome (omission.accord sheds))
        (do
          pure (.chunk (← Body.render (bodyNamed scope.bodies "block") scope.chunk
            scope.context)))
        fun marks => (do
          pure (.chunk (← omission.render marks (bodyNamed held.bodies "block") held.chunk
            held.context))) := by
      rw [← scopes.context]
      exact (renders blocks scopes.twin).bind fun _ _ _ _ twin => .pure (.chunk twin)
    refine rendered.attempt.bind fun later result given grows matched => ?_
    rw [← scopes.context]
    exact (finishes.concludes renders (twin_mono grows scopes.twin) matched).bind
      fun _ _ _ _ _ => .pure .none
  | @invoke call asked helper branch own context twin same functions =>
    refine (Along.tapDepth twin).bind fun later depth number grows equal => ?_
    obtain rfl : depth = number := equal
    have there := twin_mono grows twin
    have finishes : SameFinish sheds context (.settle call depth) (.settle asked depth) :=
      .settle same depth
    have fails (fault : Fault) : Along (omission.accord sheds) later (SameLeft sheds)
        (do
          (Finish.settle call depth).conclude Body.render branch context (.error fault)
          pure none)
        fun marks => (do
          (Finish.settle asked depth).conclude (omission.render marks) own context (.error fault)
          pure none) :=
      (finishes.concludes renders there (.error fault)).bind fun _ _ _ _ _ => .pure .none
    rw [same.parameters]
    cases Parameter.resolve helper (.ofList asked.parameters) (some context) with
    | error fault => exact fails fault
    | ok parameters =>
      have scopes : SameScope later (call.scope branch context parameters)
          (asked.scope own context parameters) := ⟨there, rfl, rfl⟩
      dsimp only
      cases function : helper.function with
      | scripted style script =>
        rw [function] at functions
        exact SameFinish.continues finishes scopes functions renders
      | builtin which => exact .pure (.some ⟨rfl, .block scopes same.bodies.block finishes⟩)
      | inert value => exact fails _

/-! ## Undertakings -/

section undertakings

variable {accord : Accord} {parts front back : List Part}
  {undertakings others more : List Undertaking}
  {owner : Undertaking} {full bare fullThen : Pass} {copies : Copies} {early late put : Outline}
  {gap : Gap}

/-- Undertakings are not at work on chunks that have a twin. -/
theorem Abreast.untwinned (abreast : Abreast accord twins parts undertakings full bare copies)
    (member : owner ∈ undertakings) (twin : Twin twins owner.chunk other) : False := by
  obtain ⟨handle, held, found, foundToo, _, complete, _⟩ := abreast.handles twin
  obtain ⟨_, now, lookup, isOpen, _⟩ := abreast.tended owner member
  obtain rfl := Option.some.inj (found.symm.trans lookup)
  obtain ⟨front, back, rfl⟩ := abreast.split twin foundToo (complete.symm.trans isOpen)
  exact abreast.elsewhere member rfl

/-- The place of an undertaking is in what its call left. -/
theorem Abreast.place (abreast : Abreast accord twins parts undertakings full bare copies)
    (member : owner ∈ undertakings) :
    ∃ front back early late gap,
      parts = front ++ .apart (early ++ .hole owner.chunk :: late) gap :: back := by
  have there := abreast.places.subset (List.mem_map_of_mem member)
  obtain ⟨part, inside, place⟩ := List.mem_flatMap.mp there
  cases part with
  | text content => cases place
  | holes own held => cases place
  | apart inner gap =>
    obtain ⟨early, late, rfl⟩ := List.mem_iff_append.mp (mem_holes.mp place)
    obtain ⟨front, back, rfl⟩ := List.mem_iff_append.mp inside
    exact ⟨front, back, early, late, gap, rfl⟩

/-- Other undertakings are at work on other chunks. -/
theorem Abreast.alone (abreast : Abreast accord twins parts undertakings full bare copies)
    (listed : undertakings.Perm (owner :: others)) {undertaking : Undertaking}
    (member : undertaking ∈ others) : undertaking.chunk ≠ owner.chunk := by
  have chunks := (listed.map fun undertaking : Undertaking => undertaking.chunk).symm.trans
    abreast.places
  have nodup := chunks.nodup_iff.mpr (abreast.outlinedFull.distinct.sublist (places_sublist _))
  exact fun same => (List.nodup_cons.mp nodup).1 (List.mem_map.mpr ⟨undertaking, member, same⟩)

/-- No other hole of the document is that of an undertaking. -/
theorem Abreast.lone
    (abreast : Abreast accord twins
      (front ++ .apart (early ++ .hole chunk :: late) gap :: back) undertakings full bare copies) :
    (chunk ∉ holes early ∧ chunk ∉ holes late) ∧
      ∀ part ∈ front ++ back, chunk ∉ part.places := by
  have distinct := abreast.outlinedFull.distinct
  simp only [List.flatMap_append, List.flatMap_cons, Part.full, holes_append, holes_hole,
    List.append_assoc, List.cons_append] at distinct
  rw [← List.append_assoc] at distinct
  have outside := (List.nodup_cons.mp (List.nodup_middle.mp distinct)).1
  simp only [List.mem_append, not_or] at outside
  obtain ⟨⟨inFront, inEarly⟩, inLate, inBack⟩ := outside
  have among {parts : List Part} {part : Part} (member : part ∈ parts)
      (place : chunk ∈ part.places) :
      chunk ∈ holes (parts.flatMap Part.full) :=
    (places_sublist parts).subset (List.mem_flatMap.mpr ⟨part, member, place⟩)
  refine ⟨⟨inEarly, inLate⟩, List.forall_mem_append.mpr ⟨?_, ?_⟩⟩
  · exact fun part member place => inFront (among member place)
  · exact fun part member place => inBack (among member place)

/-- What an undertaking left fits into its place when what is left can yield what the undertaking
could: whatever is put into the new holes, the old undertakings yield what it comes to. -/
theorem Abreast.fits_taken
    (abreast : Abreast accord twins
      (front ++ .apart (early ++ .hole owner.chunk :: late) gap :: back) undertakings full bare
      copies)
    (listed : undertakings.Perm (owner :: others))
    (yields : ∀ fill : Chunk → Outline,
      (∀ undertaking ∈ others ++ more, undertaking.Yields (fill undertaking.chunk)) →
        owner.Yields (put.expanded fill)) :
    ∀ part ∈ front ++ .apart (early ++ put ++ late) gap :: back,
      part.Fits accord twins (others ++ more) := by
  have held (fill : Chunk → Outline)
      (all : ∀ undertaking ∈ others ++ more, undertaking.Yields (fill undertaking.chunk)) :
      ∀ undertaking ∈ undertakings, undertaking.Yields
        (Function.update fill owner.chunk (put.expanded fill) undertaking.chunk) := by
    intro undertaking member
    rcases List.mem_cons.mp (listed.subset member) with rfl | other
    · rw [Function.update_self]
      exact yields fill all
    · rw [Function.update_of_ne (abreast.alone listed other)]
      exact all undertaking (List.mem_append_left _ other)
  have kept {part : Part} (outside : owner.chunk ∉ part.places)
      (fits : part.Fits accord twins undertakings) : part.Fits accord twins (others ++ more) := by
    cases part with
    | text content => trivial
    | holes own place => exact fits
    | apart inner gap =>
      exact fun fill all => expanded_update_of_notMem outside _ ▸ fits _ (held fill all)
  obtain ⟨⟨notEarly, notLate⟩, outside⟩ := abreast.lone
  have old := abreast.fits
  simp only [List.forall_mem_append, List.forall_mem_cons] at old outside ⊢
  obtain ⟨oldFront, own, oldBack⟩ := old
  refine ⟨fun part member => kept (outside.1 part member) (oldFront part member), ?_,
    fun part member => kept (outside.2 part member) (oldBack part member)⟩
  exact fun fill all => expanded_update_hole notEarly notLate ▸ own _ (held fill all)

/-- The undertakings that go on have the holes that what was left has in the place of the old
one. -/
theorem Abreast.places_taken
    (abreast : Abreast accord twins
      (front ++ .apart (early ++ .hole owner.chunk :: late) gap :: back) undertakings full bare
      copies)
    (listed : undertakings.Perm (owner :: others))
    (places : (more.map fun undertaking => undertaking.chunk).Perm (holes put)) :
    ((others ++ more).map fun undertaking => undertaking.chunk).Perm
      ((front ++ .apart (early ++ put ++ late) gap :: back).flatMap Part.places) := by
  have within {inner : Outline} : (Part.apart inner gap).places = holes inner := rfl
  have chunks := (listed.map fun undertaking : Undertaking => undertaking.chunk).symm.trans
    abreast.places
  simp only [List.flatMap_append, List.flatMap_cons, within, holes_append, holes_hole,
    List.map_cons, List.append_assoc, List.cons_append] at chunks
  let ahead := front.flatMap Part.places ++ holes early
  let behind := holes late ++ back.flatMap Part.places
  have rest : (others.map fun undertaking => undertaking.chunk).Perm (ahead ++ behind) := by
    have all := chunks.trans ((List.perm_middle.append_left _).trans List.perm_middle)
    simpa only [ahead, behind, List.append_assoc] using List.Perm.cons_inv all
  calc
    (others ++ more).map (fun undertaking => undertaking.chunk)
    _ = others.map (fun undertaking => undertaking.chunk) ++
        more.map (fun undertaking => undertaking.chunk) := List.map_append
    List.Perm _ ((ahead ++ behind) ++ holes put) := rest.append places
    List.Perm _ (ahead ++ (holes put ++ behind)) := by
      rw [List.append_assoc]
      exact List.perm_append_comm.append_left ahead
    _ = (front ++ .apart (early ++ put ++ late) gap :: back).flatMap Part.places := by
      simp [ahead, behind, within]

/-- A turn of an undertaking leaves the passes abreast, when what is left can yield what the
undertaking could. -/
theorem Abreast.further
    (abreast : Abreast accord twins
      (front ++ .apart (early ++ .hole owner.chunk :: late) gap :: back) undertakings full bare
      copies)
    (listed : undertakings.Perm (owner :: others)) (reached : full.Reaches fullThen)
    (around : Pass.Around { full with agenda := fullThen.agenda } fullThen)
    (outlined : fullThen.Outlined (front.flatMap Part.full ++ early ++ put ++
      (late ++ back.flatMap Part.full)))
    (spared : ∀ number < full.handles.size, number ≠ owner.chunk.number →
      fullThen.handles[number]? = full.handles[number]?)
    (places : (more.map fun undertaking => undertaking.chunk).Perm (holes put))
    (tended : ∀ undertaking ∈ more, undertaking.Tends accord.looping ∧
      fullThen.HasOpen undertaking.chunk undertaking.taps)
    (yields : ∀ fill : Chunk → Outline,
      (∀ undertaking ∈ others ++ more, undertaking.Yields (fill undertaking.chunk)) →
        owner.Yields (put.expanded fill))
    (scheduled : Scheduled accord twins (others ++ more) fullThen.agenda bare.agenda) :
    Abreast accord twins (front ++ .apart (early ++ put ++ late) gap :: back)
      (others ++ more) fullThen bare copies where
  keptFull := abreast.keptFull.reaches reached
  keptBare := abreast.keptBare
  outlinedFull := by simpa [Part.full] using outlined
  outlinedBare := by simpa [Part.bare] using abreast.outlinedBare
  sizes := abreast.sizes
  fits := abreast.fits_taken listed yields
  places := abreast.places_taken listed places
  tended := by
    refine List.forall_mem_append.mpr ⟨fun undertaking member => ?_, tended⟩
    obtain ⟨tends, handle, found, rest⟩ :=
      abreast.tended undertaking (listed.symm.subset (List.mem_cons_of_mem owner member))
    have there := lt_size_of_found found
    have different : undertaking.chunk.number ≠ owner.chunk.number := fun numbers =>
      abreast.alone listed member (Chunk.eq_of_number numbers)
    exact ⟨tends, handle, (spared _ there different).trans found, rest⟩
  paired := by
    intro number own found
    obtain ⟨handle, held, foundFull, rest⟩ := abreast.paired found
    refine ⟨handle, held, ?_, rest⟩
    have there := lt_size_of_found foundFull
    refine (spared _ there fun numbers => ?_).trans foundFull
    obtain rfl := Chunk.eq_of_number numbers
    exact abreast.untwinned (listed.symm.subset List.mem_cons_self)
      (show Twin _ _ ⟨number⟩ from found)
  all := abreast.all
  distinct := abreast.distinct
  scheduled := scheduled
  saved := by
    rw [around.saved]
    exact abreast.saved
  gates := around.gates.trans abreast.gates
  loopingFull := around.looping.trans abreast.loopingFull
  loopingBare := abreast.loopingBare
  failures := around.failures.trans abreast.failures

/-- What an undertaking puts at its hole leaves the passes abreast, with the errands that it leaves
and with what is left of it, if it paused. -/
theorem Abreast.carried
    (abreast : Abreast accord twins
      (front ++ .apart (early ++ .hole owner.chunk :: late) gap :: back) undertakings full bare
      copies)
    (listed : undertakings.Perm (owner :: others)) {rest : List Work} {after : Pass}
    {last : Outline} {errands : List Errand} {next : List Undertaking}
    (puts : (full.queued rest).Puts owner.chunk (front.flatMap Part.full ++ early) put last
      (late ++ back.flatMap Part.full) errands after)
    (free : ∀ errand ∈ errands, errand.free.Tends accord.looping)
    (places : (next.map fun undertaking => undertaking.chunk).Perm (holes last))
    (tended : ∀ undertaking ∈ next, undertaking.Tends accord.looping ∧
      after.HasOpen undertaking.chunk undertaking.taps)
    (yields : ∀ fill : Chunk → Outline,
      (∀ undertaking ∈ next, undertaking.Yields (fill undertaking.chunk)) →
        owner.Yields ((put ++ last).expanded fill))
    (popped : Scheduled accord twins others (full.queued rest).agenda bare.agenda) (pause : Pause) :
    Abreast accord twins (front ++ .apart (early ++ (put ++ last) ++ late) gap :: back)
      (others ++ (errands.map Errand.free ++ next))
      { after with agenda := after.agenda.joined pause (next.map fun owner => owner.work) }
      bare copies := by
  obtain ⟨agenda, gates, looping, failures, saved⟩ := puts.around
  have untouched : full.Untouched (full.queued rest) := ⟨rfl, rfl, rfl⟩
  have scheduled : Scheduled accord twins ((others ++ errands.map Errand.free) ++ next)
      (after.agenda.joined pause (next.map fun owner => owner.work)) bare.agenda := by
    have both := (popped.joined .turn (interleaved_errands _ errands)).joined pause
      (interleaved_works _ next)
    rw [Agenda.joined_nil, Agenda.joined_nil] at both
    rwa [agenda]
  refine abreast.further listed
    (((ReflTransGen.single (.aside untouched)).trans puts.reached).tail (.aside ⟨rfl, rfl, rfl⟩))
    ⟨rfl, gates, looping, failures, saved⟩ (puts.outlined.of_same rfl rfl) puts.others ?_ ?_ ?_
    (by rwa [List.append_assoc] at scheduled)
  · rw [List.map_append, List.map_map, holes_append]
    exact puts.places.symm.append places
  · refine List.forall_mem_append.mpr ⟨fun undertaking member => ?_, tended⟩
    obtain ⟨errand, listed, rfl⟩ := List.mem_map.mp member
    exact ⟨free errand listed, puts.held errand listed⟩
  · exact fun fill all => yields fill fun undertaking member => all undertaking (by simp [member])

/-- A turn of an undertaking leaves the passes abreast. -/
theorem Abreast.only (abreast : Abreast accord twins parts undertakings full bare copies)
    (listed : undertakings.Perm (owner :: others)) {rest : List Work}
    (first : full.agenda.ready = owner.work :: rest)
    (popped : Scheduled accord twins others (full.queued rest).agenda bare.agenda) :
    ∃ after parts undertakings, Pass.turn Body.render full = (.ok (), after) ∧
      Abreast accord twins parts undertakings after bare copies := by
  have member : owner ∈ undertakings := listed.symm.subset List.mem_cons_self
  obtain ⟨front, back, early, late, gap, rfl⟩ := abreast.place member
  obtain ⟨tends, opens⟩ := abreast.tended owner member
  have outlined : (full.queued rest).Outlined _ := abreast.outlinedFull.of_same rfl rfl
  have split : (front ++ Part.apart (early ++ .hole owner.chunk :: late) gap :: back).flatMap
      Part.full = front.flatMap Part.full ++ early ++ .hole owner.chunk ::
        (late ++ back.flatMap Part.full) := by
    simp [Part.full]
  rw [split] at outlined
  have untouched : full.Untouched (full.queued rest) := ⟨rfl, rfl, rfl⟩
  have kept := abreast.keptFull.reaches (.single (.aside untouched))
  obtain ⟨left, after, put, errands, stepped, free, ends⟩ :=
    tends.turn ⟨kept, abreast.loopingFull, opens⟩ outlined
  rw [Pass.turn_step first, stepped]
  cases left with
  | none =>
    obtain ⟨puts, leaves⟩ := ends
    have none : (([] : List Undertaking).map fun undertaking => undertaking.chunk).Perm
      (holes []) := .refl _
    have carried := abreast.carried listed puts free none (by simp)
      (fun fill _ => ⟨put, leaves, by simpa using becomes_expanded put fill⟩) popped .turn
    rw [List.map_nil, Agenda.joined_nil] at carried
    exact ⟨after, _, _, rfl, carried⟩
  | some paused =>
    obtain ⟨pause, work⟩ := paused
    obtain ⟨taps, puts, opensThen, tendsOn⟩ := ends
    refine ⟨_, _, _, Pass.suspend_joined pause work after,
      abreast.carried listed puts free (.refl _)
        (List.forall_mem_singleton.mpr ⟨tendsOn, opensThen⟩) (fun fill yields => ?_) popped pause⟩
    obtain ⟨more, leaves, becomes⟩ := List.forall_mem_singleton.mp yields
    exact ⟨put ++ more, leaves, by simpa using (becomes_expanded put fill).append becomes⟩

end undertakings

/-! ## Turns -/

section turns

variable {parts : List Part} {undertakings : List Undertaking} {full bare : Pass} {copies : Copies}

/-- A turn of work that is the same on twins goes along. -/
theorem Abreast.both {work held : Work} {rest left : List Work}
    (abreast : Abreast (omission.accord sheds) twins parts undertakings full bare copies)
    (renders : omission.RendersAlong sheds Body.nestingLimit)
    (same : SameWork sheds twins work held) (first : full.agenda.ready = work :: rest)
    (firstToo : bare.agenda.ready = held :: left)
    (popped : Scheduled (omission.accord sheds) twins undertakings (full.queued rest).agenda
      (bare.queued left).agenda) :
    EndAbreast (omission.accord sheds) twins (fun _ _ _ => True) (Pass.turn Body.render full)
      fun marks => Pass.turn (omission.render marks) (bare.having (copies marks)) := by
  have queued : Abreast (omission.accord sheds) twins parts undertakings (full.queued rest)
      (bare.queued left) copies :=
    abreast.aside ⟨rfl, rfl, rfl⟩ ⟨rfl, rfl, rfl⟩ popped abreast.saved abreast.gates rfl rfl
      abreast.failures
  obtain ⟨later, partsOn, undertakingsOn, given, bareOn, copiesOn, grows, abreastOn, matched,
    steppedToo⟩ := (same.steps renders).goes queued
  have turnsToo (marks : Marks) : Pass.turn (omission.render marks) (bare.having (copies marks)) =
      _ := Pass.turn_step (show (bare.having (copies marks)).agenda.ready = _ from firstToo)
  have stepsToo (marks : Marks) : held.step (omission.render marks)
      ((bare.having (copies marks)).queued left) = (given, bareOn.having (copiesOn marks)) :=
    steppedToo marks
  simp only [stepsToo] at turnsToo
  rw [Pass.turn_step first]
  rcases stepped : work.step Body.render (full.queued rest) with ⟨result, middle⟩
  rw [stepped] at abreastOn matched
  cases matched with
  | error fault =>
    exact ⟨later, partsOn, undertakingsOn, .ok (),
      { bareOn with failures := bareOn.failures ++ [fault] }, copiesOn, grows,
      abreastOn.aside ⟨rfl, rfl, rfl⟩ ⟨rfl, rfl, rfl⟩ abreastOn.scheduled abreastOn.saved
        abreastOn.gates rfl rfl (congrArg (· ++ [fault]) abreastOn.failures), .ok trivial, turnsToo⟩
  | ok lefts =>
    cases lefts with
    | none =>
      exact ⟨later, partsOn, undertakingsOn, .ok (), bareOn, copiesOn, grows, abreastOn,
        .ok trivial, turnsToo⟩
    | @some paused pausedToo both =>
      obtain ⟨pause, work⟩ := paused
      obtain ⟨pauseToo, held⟩ := pausedToo
      obtain ⟨rfl, sameOn⟩ := both
      obtain ⟨last, partsThen, undertakingsThen, givenThen, bareThen, copiesThen, growsOn,
        abreastThen, done, suspendsToo⟩ := (Along.suspend pause sameOn).goes abreastOn
      exact ⟨last, partsThen, undertakingsThen, givenThen, bareThen, copiesThen,
        grows.trans growsOn, abreastThen, done, fun marks =>
          (turnsToo marks).trans (suspendsToo marks)⟩

/-- A turn is taken by both passes, or by the full one alone. -/
theorem Abreast.turns
    (abreast : Abreast (omission.accord sheds) twins parts undertakings full bare copies)
    (renders : omission.RendersAlong sheds Body.nestingLimit) (busy : full.agenda.ready ≠ []) :
    (bare.agenda.ready ≠ [] ∧ EndAbreast (omission.accord sheds) twins (fun _ _ _ => True)
      (Pass.turn Body.render full) fun marks =>
        Pass.turn (omission.render marks) (bare.having (copies marks))) ∨
    ∃ after parts undertakings, Pass.turn Body.render full = (.ok (), after) ∧
      Abreast (omission.accord sheds) twins parts undertakings after bare copies := by
  obtain ⟨now, early, slept, barred, ready, timed, gated, perm⟩ := abreast.scheduled
  generalize first : full.agenda.ready = works at ready
  generalize firstToo : bare.agenda.ready = others at ready
  cases ready with
  | nil => exact absurd first busy
  | both related rest =>
    exact .inl ⟨List.cons_ne_nil _ _, abreast.both renders related first firstToo
      ⟨now, early, slept, barred, rest, timed, gated, perm⟩⟩
  | @only work rest left owners owner owned others =>
    subst owned
    exact .inr (abreast.only perm.symm first
      ⟨now, owners, slept, barred, firstToo ▸ others, timed, gated, .refl _⟩)

end turns

end TemplateStream
