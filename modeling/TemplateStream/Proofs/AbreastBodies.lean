import TemplateStream.Proofs.AbreastScripts

/-!
# Bodies that go along

Rendering a body and the same body without some calls goes along on twins. Where a call is left out
it fails alone: what it leaves is put in front of the hole of the one twin, and there is a gap in
front of that of the other. Both go on as they were.
-/

namespace TemplateStream

open RenderTree Outline Relation

variable {omission : Omission} {sheds : Shedding} {depth : Nat} {context : Context}
  {twins : List Chunk} {chunk other : Chunk}

/-! ## Calls -/

section call

variable {call held : HelperCall}

/-- Going on with the result of a helper goes along. -/
theorem SameCall.proceed (same : SameCall sheds depth context call held)
    (renders : omission.RendersAlong sheds depth) (twin : Twin twins chunk other)
    {outcome result : Outcome}
    (outcomes : SameOutcome (omission.accord sheds) twins outcome result) :
    Along (omission.accord sheds) twins Twin
      (call.proceed (Body.renderTo depth) chunk context outcome) fun marks =>
        held.proceed (omission.renderTo marks depth) other context result := by
  have bodies := same.bodies
  have writes (value : Value) : Along (omission.accord sheds) twins Twin
      (do chunk.write value; pure chunk) fun _ => (do other.write value; pure other) :=
    (Along.write twin value).bind fun _ _ _ grows _ => .pure (twin_mono grows twin)
  have selects (truth : Bool) : Along (omission.accord sheds) twins Twin
      (Body.renderTo depth (bodyNamed call.bodies (if truth then "block" else "else")) chunk
        context)
      fun marks => omission.renderTo marks depth
        (bodyNamed held.bodies (if truth then "block" else "else")) other context := by
    cases truth with
    | true => exact renders bodies.block twin
    | false => exact renders bodies.otherwise twin
  cases outcomes with
  | nothing => exact .pure twin
  | chunk next => exact .pure next
  | awaitable related =>
    simp only [HelperCall.proceed, bodies.none]
    split
    · exact selects true
    · exact writes (.record [])
  | value value =>
    cases value with
    | null => exact .pure twin
    | bool truth =>
      simp only [HelperCall.proceed, bodies.none]
      split
      · exact selects _
      · exact .pure twin
    | _ =>
      simp only [HelperCall.proceed, bodies.none]
      split
      · exact selects _
      · exact writes _

/-- Answering for a fault goes along. -/
theorem SameCall.recover (same : SameCall sheds depth context call held)
    (renders : omission.RendersAlong sheds depth) (twin : Twin twins chunk other) (number : Nat)
    (fault : Fault) :
    Along (omission.accord sheds) twins Twin
      (call.recover (Body.renderTo depth) chunk context number fault) fun marks =>
        held.recover (omission.renderTo marks depth) other context number fault := by
  have bodies := same.bodies
  by_cases absent : bodyNamed call.bodies "error" = .absent
  · have placeholder : call.placeholder context fault = held.placeholder context fault := by
      simp only [HelperCall.placeholder, same.helper]
    simp only [HelperCall.recover_absent absent,
      HelperCall.recover_absent (bodies.unanswered.mp absent), same.helper, placeholder]
    split
    · exact .throw _
    · split
      · refine (Along.noteRecovery held.helper fault).bind fun _ _ _ first _ => ?_
        refine (Along.untapTo (twin_mono first twin) number).bind fun _ _ _ second _ => ?_
        have there := twin_mono (first.trans second) twin
        exact Along.lifting fun text _ => (Along.write there _).bind fun _ _ _ grows _ =>
          .pure (twin_mono grows there)
      · exact .throw _
  · have present : bodyNamed held.bodies "error" ≠ .absent := fun gone =>
      absent (bodies.unanswered.mpr gone)
    simp only [HelperCall.recover_present absent, HelperCall.recover_present present, same.helper]
    split
    · exact .throw _
    · refine (Along.noteRecovery held.helper fault).bind fun _ _ _ first _ => ?_
      refine (Along.untapTo (twin_mono first twin) number).bind fun _ _ _ second _ => ?_
      exact renders (bodies.error absent fault) (twin_mono (first.trans second) twin)

/-- Calling a helper function goes along. -/
theorem HelperFunction.Sheds.invoke {scope held : Scope} {function : HelperFunction}
    (functions : function.Sheds sheds depth scope.context scope.bodies held.bodies)
    (bodies : BodiesShed sheds depth scope.context scope.bodies held.bodies)
    (renders : omission.RendersAlong sheds depth) (same : SameScope twins scope held) :
    Along (omission.accord sheds) twins (SameOutcome (omission.accord sheds))
      (function.invoke (Body.renderTo depth) scope) fun marks =>
        function.invoke (omission.renderTo marks depth) held := by
  have block (later : List Chunk) (grows : twins <+: later) :
      Along (omission.accord sheds) later Twin
        (Body.renderTo depth (bodyNamed scope.bodies "block") scope.chunk scope.context)
        fun marks => omission.renderTo marks depth (bodyNamed held.bodies "block") held.chunk
          held.context := by
    rw [← same.context]
    exact renders bodies.block (twin_mono grows same.twin)
  have blocks : Along (omission.accord sheds) twins (SameOutcome (omission.accord sheds))
      (invoke.block (Body.renderTo depth) scope) fun marks =>
        invoke.block (omission.renderTo marks depth) held :=
    (block twins List.prefix_rfl).bind fun _ _ _ _ twin => .pure (.chunk twin)
  have tapped (transform : String → String) :
      Along (omission.accord sheds) twins (SameOutcome (omission.accord sheds))
        (invoke.tapped (Body.renderTo depth) scope (.total transform)) fun marks =>
          invoke.tapped (omission.renderTo marks depth) held (.total transform) :=
    (Along.tap same.twin transform).bind fun later _ _ grows _ => (block later grows).bind
      fun _ _ _ _ twin => (Along.untap twin).bind fun _ _ _ growsOn _ =>
        .pure (.chunk (twin_mono growsOn twin))
  cases function with
  | builtin which =>
    cases which with
    | upper => exact tapped _
    | lower => exact tapped _
    | eq =>
      simp only [HelperFunction.invoke, same.parameters]
      exact .pure (.value _)
    | sep =>
      simp only [invoke_sep, same.context]
      split
      · exact .pure (.chunk same.twin)
      · exact blocks
    | defer => exact blocks
  | scripted style script => exact functions.runs renders same rfl rfl rfl
  | inert value => exact .throw _

/-- The outcome of a helper goes along. -/
theorem SameCall.outcome {helper : Helper} (same : SameCall sheds depth context call held)
    (functions : helper.function.Sheds sheds depth context call.bodies held.bodies)
    (renders : omission.RendersAlong sheds depth) (twin : Twin twins chunk other) :
    Along (omission.accord sheds) twins (SameOutcome (omission.accord sheds))
      (call.outcome (Body.renderTo depth) helper chunk context) fun marks =>
        held.outcome (omission.renderTo marks depth) helper other context := by
  simp only [HelperCall.outcome, same.parameters]
  refine Along.lifting fun parameters _ => ?_
  have scopes : SameScope twins (call.scope chunk context parameters)
      (held.scope other context parameters) := ⟨twin, rfl, rfl⟩
  refine (HelperFunction.Sheds.invoke functions same.bodies renders scopes).bind
    fun _ outcome result _ outcomes => ?_
  cases outcomes with
  | awaitable _ => exact .throw _
  | nothing => exact .pure .nothing
  | value value => exact .pure (.value value)
  | chunk twin => exact .pure (.chunk twin)

/-- Performing a call goes along. -/
theorem Along.perform (call held : HelperCall) (helpers : call.helper = held.helper)
    (parameters : call.parameters = held.parameters)
    (related : ∀ environment helper, context.environment = some environment →
      environment.helpers.get call.helper = .ok helper →
      let reached := if helper.function.isAsync then Body.nestingLimit else depth
      BodiesShed sheds reached context call.bodies held.bodies ∧
        helper.function.Sheds sheds reached context call.bodies held.bodies)
    (renders : omission.RendersAlong sheds depth) (twin : Twin twins chunk other) :
    Along (omission.accord sheds) twins Twin (call.perform (Body.renderTo depth) chunk context)
      fun marks => held.perform (omission.renderTo marks depth) other context := by
  simp only [HelperCall.perform]
  cases known : context.environment with
  | none =>
    rw [helpers]
    exact .throw _
  | some environment =>
    dsimp only
    rw [← helpers]
    refine Along.lifting fun helper registered => ?_
    obtain ⟨bodies, functions⟩ := related environment helper known registered
    cases asynchronous : helper.function.isAsync with
    | true =>
      simp only [asynchronous, if_true] at bodies functions ⊢
      exact (Along.map twin fun _ _ _ _ branches => .pure (.awaitable
        (SameWork.invoke branches ⟨helpers, parameters, bodies⟩ functions))).bind
          fun _ _ _ grows _ => .pure (twin_mono grows twin)
    | false =>
      simp only [asynchronous, Bool.false_eq_true, if_false] at bodies functions ⊢
      have same : SameCall sheds depth context call held := ⟨helpers, parameters, bodies⟩
      refine (Along.tapDepth twin).bind fun later number taps first equal => ?_
      obtain rfl : number = taps := equal
      refine (same.outcome functions renders (twin_mono first twin)).attempt.bind
        fun last result outcome second matched => ?_
      have there := twin_mono (first.trans second) twin
      cases matched with
      | ok outcomes => exact same.proceed renders there outcomes
      | error fault =>
        dsimp only
        split
        · exact .throw fault
        · exact same.recover renders there number fault

end call

/-! ## Calls that are left out -/

/-- Handles that keep their taps, and stay complete or not, remain those of twins. -/
theorem Paired.follow {full bare fullThen bareThen : Array Handle} (paired : Paired twins full bare)
    (keeps : ∀ {number : Nat} {handle : Handle}, full[number]? = some handle →
      ∃ then', fullThen[number]? = some then' ∧ then'.taps = handle.taps ∧
        then'.complete = handle.complete)
    (same : bareThen = bare) : Paired twins fullThen bareThen := by
  intro number own found
  obtain ⟨handle, held, foundFull, foundBare, taps, complete, harmless⟩ := paired found
  obtain ⟨now, foundNow, tapsNow, completeNow⟩ := keeps foundFull
  exact ⟨now, held, foundNow, same ▸ foundBare, tapsNow.trans taps, completeNow.trans complete,
    tapsNow ▸ harmless⟩

/-- The mark of a gap is written in front of the hole of its chunk, through its taps. -/
theorem markGap_puts (marks : Marks) (label : String) (depth : Nat) (context : Context)
    {bare : Pass} {before behind : Outline} {handle : Handle} (kept : bare.Kept)
    (writable : bare.Writable other handle)
    (harmless : handle.taps.Harmless) (outlined : bare.Outlined (before ++ .hole other :: behind)) :
    ∃ tree, markGap marks label depth other context bare = (.ok other, bare.having tree) ∧
      bare.Reaches (bare.having tree) ∧ tree.records.size = bare.tree.records.size ∧
      (bare.having tree).Outlined
        (before ++ (ofTexts (Gap.texts marks ⟨label, context, depth, handle.taps⟩) ++ [.hole other])
          ++ behind) := by
  have opens := Chunk.ensureOpen_step writable.found .render
  simp only [writable.isOpen, Bool.false_eq_true, if_false] at opens
  simp only [markGap, bind_step, opens, Chunk.handle_step writable.found, Gap.texts]
  cases marks ⟨label, context, depth, handle.taps⟩ with
  | none =>
    exact ⟨bare.tree, rfl, .refl, rfl, by simpa [ofTexts] using outlined⟩
  | some mark =>
    have wrote := writable.write_value harmless (show Value.text mark ≠ .null by simp)
    simp only [bind_step, wrote, pure_step]
    obtain ⟨_, whole⟩ := kept.whole
    exact ⟨_, rfl, (reaches_endure.write other (.text mark)).after wrote,
      (whole.receives writable.record _).size,
      outlined.wrote writable.found [handle.taps.effect mark] bare.memory⟩

section omitted

variable {call : HelperCall} {label : String} {environment : Environment} {helper : Helper}
  {front back : List Part} {undertakings : List Undertaking} {full bare : Pass} {copies : Copies}
  {handle held : Handle}

/-- What a call that is left out leaves is put in front of the hole of the one twin, and there is a
gap in front of that of the other. -/
theorem Omission.beside (twin : Twin twins chunk other)
    (abreast : Abreast (omission.accord sheds) twins (front ++ .holes chunk other :: back)
      undertakings full bare copies)
    (writable : full.Writable chunk handle)
    (writableToo : ∀ marks, (bare.having (copies marks)).Writable other held)
    (harmless : held.taps.Harmless) {after : Pass} (put : Outline) (more : List Undertaking)
    (reached : full.Reaches after)
    (around : Pass.Around { full with agenda := after.agenda } after)
    (agenda : after.agenda =
      full.agenda.joined .turn (more.map fun undertaking => undertaking.work))
    (outlined : after.Outlined
      (front.flatMap Part.full ++ put ++ .hole chunk :: back.flatMap Part.full))
    (others : ∀ number < full.handles.size, number ≠ chunk.number →
      after.handles[number]? = full.handles[number]?)
    (own : ∃ now, after.handles[chunk.number]? = some now ∧ now.taps = handle.taps ∧
      now.complete = handle.complete)
    (fits : (Part.apart put ⟨label, context, depth, held.taps⟩).Fits (omission.accord sheds) twins
      (undertakings ++ more))
    (places : (more.map fun undertaking => undertaking.chunk).Perm (holes put))
    (tended : ∀ undertaking ∈ more, undertaking.Tends omission.looping ∧
      after.HasOpen undertaking.chunk undertaking.taps) :
    EndAbreast (omission.accord sheds) twins Twin (.ok chunk, after) fun marks =>
      markGap marks label depth other context (bare.having (copies marks)) := by
  have puts (marks : Marks) := markGap_puts marks label depth context (abreast.keptBare marks)
    (writableToo marks) harmless (abreast.outlinedAroundBare marks)
  choose copiesThen marked reachedToo sizes outlinedToo using puts
  suffices besides : Abreast (omission.accord sheds) twins
      (front ++ [.apart put ⟨label, context, depth, held.taps⟩, .holes chunk other] ++ back)
      (undertakings ++ more) after bare copiesThen from besides.ends (.ok twin) marked
  refine abreast.put List.prefix_rfl reached reachedToo around ⟨rfl, rfl, rfl, rfl, rfl⟩ ?_
    (fun marks => ?_) (fun marks => (sizes marks).trans (abreast.sizes marks)) ?_ others ?_
    abreast.all abreast.distinct ?_ tended ?_
  · simpa [Part.full] using outlined
  · simpa [Part.bare] using outlinedToo marks
  · simp only [List.forall_mem_cons]
    exact ⟨fits, twin, by simp⟩
  · refine abreast.paired.follow (fun {number old} found => ?_) rfl
    by_cases same : number = chunk.number
    · subst same
      obtain rfl := Option.some.inj (writable.found.symm.trans found)
      exact own
    · have there := lt_size_of_found found
      exact ⟨old, (others number there same).trans found, rfl, rfl⟩
  · simpa [Part.places] using places
  · have scheduled := abreast.scheduled.joined .turn (interleaved_works _ more)
    rw [Agenda.joined_nil] at scheduled
    rw [agenda]
    exact scheduled

/-- A call that is left out and performed at once leaves the passes abreast. -/
theorem Omission.at_once (known : context.environment = some environment)
    (registered : environment.helpers.get call.helper = .ok helper)
    (labelled : omission.calls label = some call)
    (fails : call.FailsAlone helper omission.looping depth context)
    (immediate : helper.function.isAsync = false) (twin : Twin twins chunk other)
    (abreast : Abreast (omission.accord sheds) twins (front ++ .holes chunk other :: back)
      undertakings full bare copies)
    (writable : full.Writable chunk handle)
    (writableToo : ∀ marks, (bare.having (copies marks)).Writable other held)
    (taps : handle.taps = held.taps) (harmless : handle.taps.Harmless) :
    EndAbreast (omission.accord sheds) twins Twin
      (call.perform (Body.renderTo depth) chunk context full) fun marks =>
        markGap marks label depth other context (bare.having (copies marks)) := by
  have outlined := abreast.outlinedAround
  have offers : full.Offers omission.looping chunk handle.taps :=
    ⟨abreast.keptFull, abreast.loopingFull, handle, writable.found, writable.isOpen, rfl⟩
  rw [HelperCall.FailsAlone, if_neg (by simp [immediate])] at fails
  obtain ⟨fault, raised, after, put, errands, failed, answered, recovers, puts, succeed, opensThen,
    leaves⟩ := (fails full chunk handle.taps offers harmless).recovers offers harmless outlined
  have ordinary : fault.kind.isStructural = false := by
    simpa using (Bool.and_eq_true_iff.mp answered).1
  have performed : call.perform (Body.renderTo depth) chunk context full = (.ok chunk, after) := by
    rw [perform_step known registered immediate writable.found, failed]
    simp only [ordinary, Bool.false_eq_true, if_false, recovers]
  rw [performed]
  have around := puts.around
  refine Omission.beside twin abreast writable writableToo (taps ▸ harmless) put
    (errands.map Errand.free) puts.reached
    ⟨rfl, around.gates, around.looping, around.failures, around.saved⟩ ?agenda ?outlined
    puts.others ?own ?fits ?places ?tended
  case agenda =>
    rw [around.agenda, List.map_map]
    rfl
  case outlined => simpa using puts.outlined
  case own =>
    obtain ⟨now, foundNow, isOpen, own⟩ := opensThen
    exact ⟨now, foundNow, own, isOpen.trans writable.isOpen.symm⟩
  case fits =>
    refine fun fill _ => ⟨put, ?_, becomes_expanded put fill⟩
    refine ⟨call, environment, helper, labelled, known, registered, ?_⟩
    rw [HelperCall.Leaves, if_neg (by simp [immediate]), ← taps]
    exact ⟨chunk, leaves⟩
  case places =>
    have places := puts.places.symm
    simpa [Function.comp_def, Errand.free] using places
  case tended =>
    intro undertaking member
    obtain ⟨errand, listed, rfl⟩ := List.mem_map.mp member
    exact ⟨.inl ⟨succeed errand listed, fun _ => trivial⟩, puts.held errand listed⟩

/-- A call that is left out and performed later leaves the passes abreast. -/
theorem Omission.later (known : context.environment = some environment)
    (registered : environment.helpers.get call.helper = .ok helper)
    (labelled : omission.calls label = some call)
    (fails : call.FailsAlone helper omission.looping depth context)
    (asynchronous : helper.function.isAsync = true) (twin : Twin twins chunk other)
    (abreast : Abreast (omission.accord sheds) twins (front ++ .holes chunk other :: back)
      undertakings full bare copies)
    (writable : full.Writable chunk handle)
    (writableToo : ∀ marks, (bare.having (copies marks)).Writable other held)
    (taps : handle.taps = held.taps) (harmless : handle.taps.Harmless) :
    EndAbreast (omission.accord sheds) twins Twin
      (call.perform (Body.renderTo depth) chunk context full) fun marks =>
        markGap marks label depth other context (bare.having (copies marks)) := by
  have outlined := abreast.outlinedAround
  rw [HelperCall.FailsAlone, if_pos asynchronous] at fails
  obtain ⟨looping, fails⟩ := fails
  obtain ⟨_, whole⟩ := abreast.keptFull.whole
  obtain ⟨tree, forks, _⟩ := whole.forks writable.record
  let branch : Chunk := ⟨full.handles.size⟩
  let work : Work := .invoke call helper branch context
  let middle := full.forked chunk handle tree
  let after := middle.scheduling [work]
  have branched : chunk.branch full = (.ok branch, middle) := by
    rw [Chunk.branch_step writable.found writable.isOpen, forks]
    rfl
  have loops : middle.looping = true := abreast.loopingFull.trans looping
  have performed : call.perform (Body.renderTo depth) chunk context full = (.ok chunk, after) := by
    simp only [HelperCall.perform, known, bind_step, registered, liftExcept_step, asynchronous,
      if_true, Chunk.map, branched, pure_step, Pass.spawn, get_step, loops]
    rfl
  have outlinedThen : after.Outlined _ :=
    (outlined.forked writable.found writable.isOpen forks).of_same rfl rfl
  obtain ⟨stages, failing, first⟩ := fails branch handle.taps.inherit harmless.inherit
    TapStack.depth_inherit
  let undertaking : Undertaking :=
    ⟨⟨work, branch, handle.taps.inherit⟩, omission.Leaves ⟨label, context, depth, held.taps⟩⟩
  have tends : undertaking.Tends omission.looping := by
    refine .inr ⟨call, context, handle.taps.inherit, stages, failing, first,
      ⟨rfl, rfl, rfl, rfl⟩, harmless.inherit, TapStack.depth_inherit, fun left leaves => ?_⟩
    refine ⟨call, environment, helper, labelled, known, registered, ?_⟩
    rw [HelperCall.Leaves, if_pos asynchronous, ← taps]
    exact ⟨branch, leaves⟩
  rw [performed]
  refine Omission.beside twin abreast writable writableToo (taps ▸ harmless) [.hole branch]
    [undertaking] (((reaches_endure.branch chunk).after branched).tail (.aside ⟨rfl, rfl, rfl⟩))
    ⟨rfl, rfl, rfl, rfl, rfl⟩ rfl (by simpa using outlinedThen)
    (fun number old apart => Pass.forked_other apart old tree)
    ⟨_, Pass.forked_self writable.found tree, rfl, rfl⟩ ?fits (.refl _) ?tended
  case fits =>
    intro fill yields
    obtain ⟨left, leaves, becomes⟩ := yields undertaking (by simp)
    exact ⟨left, leaves, by simpa using becomes⟩
  case tended =>
    simp only [List.forall_mem_singleton]
    exact ⟨tends, _, Pass.forked_branch writable.found tree, rfl, rfl⟩

/-- Rendering a call that is left out goes along with marking the gap. -/
theorem Along.omitted (known : context.environment = some environment)
    (registered : environment.helpers.get call.helper = .ok helper)
    (labelled : omission.calls label = some call)
    (fails : call.FailsAlone helper omission.looping depth context)
    (twin : Twin twins chunk other) :
    Along (omission.accord sheds) twins Twin
      (Body.renderWith (Body.renderTo depth)
        (.call call.helper call.bodies call.parameters) chunk context)
      fun marks => markGap marks label depth other context := by
  refine opened twin .render fun {front back undertakings full bare copies handle held} abreast
    writable writableToo taps harmless => ?_
  rw [bind_step, Chunk.ensureOpen_step writable.found, writable.isOpen]
  show EndAbreast _ _ _ (call.perform (Body.renderTo depth) chunk context full) fun marks =>
    markGap marks label depth other context (bare.having (copies marks))
  cases asynchronous : helper.function.isAsync with
  | true =>
    exact Omission.later known registered labelled fails asynchronous twin abreast writable
      writableToo taps harmless
  | false =>
    exact Omission.at_once known registered labelled fails asynchronous twin abreast writable
      writableToo taps harmless

end omitted

/-! ## Rendering -/

/-- Rendering sites that are related one by one goes along. -/
theorem Along.renderSites (renders : omission.RendersAlong sheds depth)
    (twin : Twin twins chunk other) {sites places : List Site}
    (related : List.Forall₂ (fun (site place : Site) =>
      site.1 = place.1 ∧ sheds depth site.1 site.2 place.2) sites places) :
    Along (omission.accord sheds) twins Twin (renderSites (Body.renderTo depth) chunk sites)
      fun marks => TemplateStream.renderSites (omission.renderTo marks depth) other places :=
  Along.foldlM related twin fun _ _ _ site _ _ both twin => by
    rw [← both.1]
    exact renders both.2 twin

/-- Running scripts of which one is the other without some calls goes along, and so does going on
with the chunk that they return, if they return one. -/
theorem Script.Sheds.runs_plain {script instead : Script}
    (related : Script.Sheds sheds [] [] depth context script instead)
    (renders : omission.RendersAlong sheds depth) (twin : Twin twins chunk other) :
    Along (omission.accord sheds) twins Twin
      (do pure ((← runScript (Body.renderTo depth) (.plain chunk context) script).chunkOr chunk))
      fun marks => (do
        pure ((← runScript (omission.renderTo marks depth) (.plain other context) instead).chunkOr
          other)) := by
  have scopes : SameScope twins (.plain chunk context) (.plain other context) := ⟨twin, rfl, rfl⟩
  refine (related.runs renders scopes rfl rfl rfl).bind fun _ outcome result grows outcomes => ?_
  cases outcomes with
  | chunk next => exact .pure next
  | nothing | value _ | awaitable _ => exact .pure (twin_mono grows twin)

/-- Rendering bodies of which one is the other without some calls goes along. -/
theorem Body.Sheds.renders {body held : Body}
    (related : body.Sheds omission sheds depth context held)
    (renders : omission.RendersAlong sheds depth) (twin : Twin twins chunk other) :
    Along (omission.accord sheds) twins Twin (renderTo (depth + 1) body chunk context) fun marks =>
      omission.renderTo marks (depth + 1) held other context := by
  have opens {body held : Body} (own : omission.label? held = none)
      (writes : ∀ later, twins <+: later →
        Along (omission.accord sheds) later Twin (body.write (renderTo depth) chunk context)
          fun marks => held.write (omission.renderTo marks depth) other context) :
      Along (omission.accord sheds) twins Twin (renderTo (depth + 1) body chunk context)
        fun marks => omission.renderTo marks (depth + 1) held other context := by
    simp only [Omission.renderTo, own]
    exact (Along.ensureOpen twin .render).bind fun later _ _ grows _ => writes later grows
  have text {later : List Chunk} (grows : twins <+: later) (content : String) :
      Along (omission.accord sheds) later Twin (do chunk.write (.text content); pure chunk)
        fun _ => (do other.write (.text content); pure other) :=
    (Along.write (twin_mono grows twin) _).bind fun _ _ _ growsOn _ =>
      .pure (twin_mono (grows.trans growsOn) twin)
  cases related with
  | text content => exact opens rfl fun _ grows => text grows content
  | reference path escape =>
    refine opens rfl fun later grows => Along.lifting fun value _ => ?_
    cases value with
    | null => exact .pure (twin_mono grows twin)
    | _ => exact text grows _
  | absent => exact opens rfl fun _ grows => .pure (twin_mono grows twin)
  | inert value => exact opens rfl fun _ _ => .throw _
  | sequence related =>
    exact opens rfl fun _ grows => Along.foldlM related (twin_mono grows twin)
      fun _ _ _ _ _ _ both twin => renders both twin
  | @each path block otherwise _ _ related =>
    refine opens rfl fun later grows => ⟨fun {parts undertakings full bare copies} abreast => ?_⟩
    cases got : context.get path with
    | error fault =>
      simp only [Body.write, bind_step, got, liftExcept_step]
      exact abreast.ends (.error fault) fun _ => rfl
    | ok value =>
      simp only [write_each got]
      exact (Along.renderSites renders (twin_mono grows twin) (related value got)).goes abreast
  | @embed name values related =>
    refine opens rfl fun later grows => ?_
    simp only [Body.write]
    cases known : context.environment with
    | none => exact .throw _
    | some environment =>
      exact Along.lifting fun body got => renders (related environment body known got)
        (twin_mono grows twin)
  | @call helper bodies others parameters related =>
    exact opens rfl fun _ grows => Along.perform ⟨helper, bodies, parameters⟩
      ⟨helper, others, parameters⟩ rfl rfl related renders (twin_mono grows twin)
  | callback related =>
    exact opens rfl fun _ grows => related.runs_plain renders (twin_mono grows twin)
  | function _ own related =>
    exact opens own fun _ grows => related.runs_plain renders (twin_mono grows twin)
  | deferred style name related =>
    refine opens rfl fun later grows => ?_
    have there := twin_mono grows twin
    refine (Along.map there fun last branch own _ branches => .pure (.awaitable ?_)).bind
      fun _ _ _ growsOn _ => .pure (twin_mono growsOn there)
    have scopes : SameScope last (.plain branch context) (.plain own context) :=
      ⟨branches, rfl, rfl⟩
    exact SameWork.run scopes related .close
  | @omitted call label _ _ known registered labelled fails =>
    have own : omission.label? (.function label []) = some label := by
      simp [Omission.label?, labelled]
    simp only [Omission.renderTo, own]
    exact Along.omitted known registered labelled fails twin

/-- Rendering goes along to any depth. -/
theorem Omission.Unfolds.rendersAlong (unfolds : omission.Unfolds sheds) (depth : Nat) :
    omission.RendersAlong sheds depth := by
  induction depth with
  | zero => exact fun _ _ _ _ _ _ _ _ => .throw .tooDeep
  | succ depth ih =>
    exact fun _ _ _ context body held related twin =>
      (unfolds depth context body held related).renders ih twin

end TemplateStream
