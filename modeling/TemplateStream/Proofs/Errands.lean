import TemplateStream.Proofs.Failures

/-!
# Errands

An errand is work on a branch that minds the branch for as long as it goes on, through all its
pauses, and ends it. So does the work of a call that is performed on a branch of its own and fails
alone there: its helper may pause before it raises its fault, and then the fault is answered for.
An undertaking is either, with what may be left in the document once it is done.
-/

namespace TemplateStream

open RenderTree Outline

/-! ## The stages of a call -/

/-- Does a part of a script, up to its next pause or its end. -/
def scriptStage (render : RenderBody) (script : Script) (scope : Scope) (finish : Finish) :
    PassM (Outcome ⊕ (Pause × Work)) := do
  match ← advance render scope script with
  | .paused pause rest => pure (.inr (pause, .run rest scope finish))
  | .finished outcome => pure (.inl outcome)

/-- Does what work does up to its next pause, or until it comes to a result, of which nothing is
made yet. -/
def Work.stage (render : RenderBody) : Work → PassM (Outcome ⊕ (Pause × Work))
  | .idle => pure (.inl .nothing)
  | .run script scope finish => scriptStage render script scope finish
  | .block scope _ => do
    pure (.inl (.chunk (← render (bodyNamed scope.bodies "block") scope.chunk scope.context)))
  | .invoke call helper branch context => do
    let finish := Finish.settle call (← branch.tapDepth)
    let parameters ← liftExcept (Parameter.resolve helper (.ofList call.parameters) (some context))
    let scope := call.scope branch context parameters
    match helper.function with
    | .scripted _ script => scriptStage render script scope finish
    | .builtin _ => pure (.inr (.sleep (delayOf parameters), .block scope finish))
    | .inert value => throw (.notCallable value.typeName)

/-- Work on a call whose result is settled on a branch that had so many taps of its own. -/
def Errand.Settles (errand : Errand) (call : HelperCall) (context : Context) (depth : Nat) : Prop :=
  match errand.work with
  | .idle => False
  | .run _ scope finish | .block scope finish =>
    scope.chunk = errand.chunk ∧ scope.context = context ∧ finish = .settle call depth
  | .invoke asked _ branch inner =>
    asked = call ∧ branch = errand.chunk ∧ inner = context ∧ errand.taps.depth = depth

section stage

variable {render : RenderBody} {errand : Errand} {call : HelperCall} {context : Context}
  {depth : Nat} {pass after : Pass} {pause : Pause} {rest : Work}

/-- A turn of work on a call is a stage of it, and at the end its result is settled. -/
theorem Work.step_stage (settles : errand.Settles call context depth)
    (opens : pass.HasOpen errand.chunk errand.taps) :
    errand.work.step render pass = (do
      match ← attempt (errand.work.stage render) with
      | .ok (.inr left) => pure (some left)
      | .ok (.inl outcome) => do
        (Finish.settle call depth).conclude render errand.chunk context (.ok outcome)
        pure none
      | .error fault => do
        (Finish.settle call depth).conclude render errand.chunk context (.error fault)
        pure none) pass := by
  obtain ⟨work, chunk, taps⟩ := errand
  obtain ⟨handle, found, _, rfl⟩ := opens
  have continues (script : Script) (scope : Scope) (pass : Pass) :
      continueScript render script scope (.settle call depth) pass = (do
        match ← attempt (scriptStage render script scope (.settle call depth)) with
        | .ok (.inr left) => pure (some left)
        | .ok (.inl outcome) => do
          (Finish.settle call depth).conclude render scope.chunk scope.context (.ok outcome)
          pure none
        | .error fault => do
          (Finish.settle call depth).conclude render scope.chunk scope.context (.error fault)
          pure none) pass := by
    simp only [continueScript, scriptStage, bind_step, attempt_step]
    rcases advance render scope script pass with ⟨fault | progress, middle⟩
    · rfl
    · cases progress <;> rfl
  cases work with
  | idle => exact absurd settles not_false
  | run script scope finish =>
    obtain ⟨rfl, rfl, rfl⟩ := settles
    exact continues script scope pass
  | block scope finish =>
    obtain ⟨rfl, rfl, rfl⟩ := settles
    simp only [Work.step, stage, bind_step, attempt_step]
    rcases render (bodyNamed scope.bodies "block") scope.chunk scope.context pass
      with ⟨fault | next, middle⟩
    · exact (bind_step _ _ _).symm
    · exact (bind_step _ _ _).symm
  | invoke asked helper branch inner =>
    obtain ⟨rfl, rfl, rfl, rfl⟩ := settles
    simp only [Work.step, stage, bind_step, attempt_step, Chunk.tapDepth_step found,
      liftExcept_step]
    cases Parameter.resolve helper (.ofList asked.parameters) (some inner) with
    | error fault => rfl
    | ok parameters =>
      cases helper.function with
      | scripted style script =>
        exact (continues script (asked.scope branch inner parameters) pass).trans (bind_step _ _ _)
      | _ => rfl

/-- What is left of work on a call is work on that call. -/
theorem Errand.Settles.goesOn (settles : errand.Settles call context depth)
    (opens : pass.HasOpen errand.chunk errand.taps)
    (paused : errand.work.stage render pass = (.ok (.inr (pause, rest)), after))
    (taps : TapStack) : Errand.Settles ⟨rest, errand.chunk, taps⟩ call context depth := by
  obtain ⟨work, chunk, now⟩ := errand
  obtain ⟨handle, found, _, rfl⟩ := opens
  have scripts {script : Script} {scope : Scope} {finish : Finish} {pass : Pass}
      (paused : scriptStage render script scope finish pass = (.ok (.inr (pause, rest)), after)) :
      ∃ script, rest = .run script scope finish := by
    obtain ⟨progress, middle, _, stopped⟩ := bind_ok paused
    cases progress with
    | finished outcome => cases stopped
    | paused pause left =>
      cases stopped
      exact ⟨left, rfl⟩
  cases work with
  | idle => exact absurd settles not_false
  | run script scope finish =>
    obtain ⟨left, rfl⟩ := scripts paused
    exact settles
  | block scope finish =>
    obtain ⟨_, _, _, stopped⟩ := bind_ok paused
    cases stopped
  | invoke asked helper branch inner =>
    obtain ⟨rfl, rfl, rfl, rfl⟩ := settles
    obtain ⟨own, middle, counted, goesOn⟩ := bind_ok paused
    cases (Chunk.tapDepth_step found).symm.trans counted
    obtain ⟨parameters, between, lifted, invoked⟩ := bind_ok goesOn
    cases function : helper.function with
    | scripted style script =>
      simp only [function] at invoked
      obtain ⟨left, rfl⟩ := scripts invoked
      exact ⟨rfl, rfl, rfl⟩
    | builtin which =>
      simp only [function] at invoked
      cases invoked
      exact ⟨rfl, rfl, rfl⟩
    | inert value =>
      simp only [function] at invoked
      cases invoked

end stage

/-! ## Errands that succeed -/

/-- Errands that succeed whatever the pass: each of their turns minds the chunk, leaves nothing but
such errands, and in the end the chunk is ended. -/
def Succeeding (looping : Bool) (errands : Errand → Prop) : Prop :=
  ∀ errand, errands errand → ∀ origin, origin.Offers looping errand.chunk errand.taps →
    ∃ left after others, errand.work.step Body.render origin = (.ok left, after) ∧
      origin.Minds errand.chunk others after ∧ (∀ other ∈ others, errands other) ∧
      match left with
      | none => ∃ handle, after.handles[errand.chunk.number]? = some handle ∧
          handle.complete = true
      | some (_, rest) => ∃ taps, after.HasOpen errand.chunk taps ∧
          errands ⟨rest, errand.chunk, taps⟩

/-- An errand succeeds when it is one of some that do. -/
def Errand.Succeeds (looping : Bool) (errand : Errand) : Prop :=
  ∃ errands, Succeeding looping errands ∧ errands errand

/-- The errands that succeed leave nothing but errands that do. -/
theorem succeeding_succeeds (looping : Bool) : Succeeding looping (Errand.Succeeds looping) := by
  rintro errand ⟨errands, succeeding, member⟩ origin offers
  obtain ⟨left, after, others, stepped, minds, among, ends⟩ :=
    succeeding errand member origin offers
  refine ⟨left, after, others, stepped, minds,
    fun other listed => ⟨errands, succeeding, among other listed⟩, ?_⟩
  cases left with
  | none => exact ends
  | some paused =>
    obtain ⟨taps, opensThen, goesOn⟩ := ends
    exact ⟨taps, opensThen, errands, succeeding, goesOn⟩

/-! ## Calls that fail alone -/

namespace HelperCall

/-- Stages of a call on a branch, each with the taps that the branch has then, of which every one
raises a fault that can be answered for, or pauses and is followed by another. -/
def FailingStages (call : HelperCall) (looping : Bool) (context : Context) (branch : Chunk)
    (taps : TapStack) (stages : Work → TapStack → Prop) : Prop :=
  ∀ work now, stages work now → ∀ origin, origin.Offers looping branch now →
    call.RaisesAt Body.render context (Errand.Succeeds looping) (work.stage Body.render) branch
        taps origin ∨
      ∃ pause rest after errands then',
        work.stage Body.render origin = (.ok (.inr (pause, rest)), after) ∧
        origin.Minds branch errands after ∧ (∀ errand ∈ errands, errand.Succeeds looping) ∧
        after.HasOpen branch then' ∧ stages rest then'

/-- A call fails alone in a context, when bodies are nested to at most a depth: on whatever open
chunk it is performed, its helper raises a fault that can be answered for. An asynchronous helper
does so on a branch, and may pause before. -/
def FailsAlone (call : HelperCall) (helper : Helper) (looping : Bool) (depth : Nat)
    (context : Context) : Prop :=
  if helper.function.isAsync then
    looping = true ∧ ∀ branch taps, taps.Harmless → taps.depth = 0 →
      ∃ stages, call.FailingStages looping context branch taps stages ∧
        stages (.invoke call helper branch context) taps
  else
    ∀ origin chunk taps, origin.Offers looping chunk taps → taps.Harmless →
      call.RaisesAt (Body.renderTo depth) context (Errand.Succeeds looping)
        (call.outcome (Body.renderTo depth) helper chunk context) chunk taps origin

/-- What the stages of a call leave on a branch that had the given taps before the call, and has
others by now: what its helper had written when it paused, and in the end what it had written when
it raised a fault and what was then written in answer. -/
inductive LeavesLater (call : HelperCall) (looping : Bool) (context : Context) (branch : Chunk)
    (taps : TapStack) : Work → TapStack → Outline → Prop where
  | raises {work : Work} {now : TapStack} {left : Outline}
      (leaves : call.LeavesAt Body.render looping context (work.stage Body.render) branch now taps
        left) : LeavesLater call looping context branch taps work now left
  | pauses {work rest : Work} {now later : TapStack} {pause : Pause} {origin after : Pass}
      {before behind written left : Outline} (offers : origin.Offers looping branch now)
      (outlined : origin.Outlined (before ++ .hole branch :: behind))
      (paused : work.stage Body.render origin = (.ok (.inr (pause, rest)), after))
      (outlinedThen : after.Outlined (before ++ written ++ .hole branch :: behind))
      (opensThen : after.HasOpen branch later)
      (leaves : LeavesLater call looping context branch taps rest later left) :
      LeavesLater call looping context branch taps work now (written ++ left)

/-- What a call that failed alone leaves in the document when the chunk on which it was performed
had the given taps. -/
def Leaves (call : HelperCall) (helper : Helper) (looping : Bool) (depth : Nat) (context : Context)
    (taps : TapStack) (left : Outline) : Prop :=
  if helper.function.isAsync then
    ∃ branch, call.LeavesLater looping context branch taps.inherit
      (.invoke call helper branch context) taps.inherit left
  else
    ∃ chunk, call.LeavesAt (Body.renderTo depth) looping context
      (call.outcome (Body.renderTo depth) helper chunk context) chunk taps taps left

end HelperCall

/-! ## Undertakings -/

/-- Work on a branch, with what it may leave in the document when it is done. -/
structure Undertaking extends Errand where
  leaves : Outline → Prop

/-- What can have become of what an undertaking leaves, while its own branches went on. -/
def Undertaking.Yields (undertaking : Undertaking) (left : Outline) : Prop :=
  ∃ first : Outline, undertaking.leaves first ∧ first.Becomes left

/-- An errand that may leave anything. -/
def Errand.free (errand : Errand) : Undertaking := { errand with leaves := fun _ => True }

/-- An undertaking is an errand that succeeds, or a stage of a call that fails alone. -/
def Undertaking.Tends (undertaking : Undertaking) (looping : Bool) : Prop :=
  undertaking.toErrand.Succeeds looping ∧ (∀ left, undertaking.leaves left) ∨
    ∃ call context taps stages,
      HelperCall.FailingStages call looping context undertaking.chunk taps stages ∧
      stages undertaking.work undertaking.taps ∧
      undertaking.toErrand.Settles call context taps.depth ∧ taps.Harmless ∧ taps.depth = 0 ∧
      ∀ left, call.LeavesLater looping context undertaking.chunk taps undertaking.work
        undertaking.taps left → undertaking.leaves left

namespace Pass

variable {origin after : Pass} {chunk : Chunk} {before put behind : Outline} {taps : TapStack}
  {errands : List Errand}

/-- A chunk that was minded and ended has something put in the place of its hole. -/
theorem Minds.puts_ended (minds : origin.Minds chunk errands after) (kept : origin.Kept)
    (outlined : origin.Outlined (before ++ .hole chunk :: behind)) {handle : Handle}
    (found : after.handles[chunk.number]? = some handle) (ended : handle.complete = true) :
    ∃ put, origin.Puts chunk before put [] behind errands after := by
  obtain ⟨put, last, puts, whether⟩ := minds.puts kept outlined
  obtain rfl := whether found
  exact ⟨put, by simpa only [ended, if_true] using puts⟩

/-- Closing a chunk without taps of its own takes its hole away. -/
theorem Puts.closed (puts : origin.Puts chunk before put [.hole chunk] behind errands after)
    (kept : origin.Kept) (inside : chunk.number < origin.handles.size)
    (opens : after.HasOpen chunk taps) (untapped : taps.depth = 0) :
    ∃ final, chunk.close after = (.ok (), final) ∧
      origin.Puts chunk before put [] behind errands final := by
  obtain ⟨handle, found, isOpen, rfl⟩ := opens
  have keptOn := kept.reaches puts.reached
  have writable := keptOn.owned.writable found isOpen
  obtain ⟨_, whole⟩ := keptOn.whole
  obtain ⟨tree, completes, _⟩ := whole.completes writable.record
  have completed : chunk.complete after = (.ok (), after.completed chunk tree) := by
    rw [Chunk.complete_step found isOpen untapped]
    simp only [onTree_step, changed, completes, Pass.completed]
  have closes : chunk.close after = (.ok (), after.completed chunk tree) := by
    simp [Chunk.close, bind_step, Chunk.handle_step found, isOpen, Chunk.finish, completed]
  have outlined := puts.outlined
  rw [← List.append_assoc, List.append_assoc (before ++ put)] at outlined
  have spares {number : Nat} (apart : number ≠ chunk.number) :
      (after.completed chunk tree).handles[number]? = after.handles[number]? :=
    changed_other apart _
  refine ⟨_, closes, ?_⟩
  exact {
    reached := puts.reached.trans ((reaches_endure.complete chunk).after completed)
    around := puts.around.trans ⟨rfl, rfl, rfl, rfl, rfl⟩
    grows := puts.grows.trans (by simp [Pass.completed, changed])
    others := fun number old apart => (spares apart).trans (puts.others number old apart)
    outlined := by simpa using outlined.completed found isOpen untapped completes
    places := puts.places
    new := puts.new
    held := fun errand member => by
      obtain ⟨held, lookup, rest⟩ := puts.held errand member
      have apart : errand.chunk.number ≠ chunk.number :=
        Nat.ne_of_gt (Nat.lt_of_lt_of_le inside (puts.new errand member))
      exact ⟨held, (spares apart).trans lookup, rest⟩ }

end Pass

/-- A turn of an undertaking puts something at the hole of its chunk. When it paused what is left of
it is an undertaking again, and may leave what is missing. -/
theorem Undertaking.Tends.turn {undertaking : Undertaking} {looping : Bool} {origin : Pass}
    {before behind : Outline} (tends : undertaking.Tends looping)
    (offers : origin.Offers looping undertaking.chunk undertaking.taps)
    (outlined : origin.Outlined (before ++ .hole undertaking.chunk :: behind)) :
    ∃ left after put errands, undertaking.work.step Body.render origin = (.ok left, after) ∧
      (∀ errand ∈ errands, errand.free.Tends looping) ∧
      match left with
      | none => origin.Puts undertaking.chunk before put [] behind errands after ∧
          undertaking.leaves put
      | some (_, rest) => ∃ taps,
          origin.Puts undertaking.chunk before put [.hole undertaking.chunk] behind errands after ∧
          after.HasOpen undertaking.chunk taps ∧
          Undertaking.Tends ⟨⟨rest, undertaking.chunk, taps⟩,
            fun more => undertaking.leaves (put ++ more)⟩ looping := by
  obtain ⟨errand, leaves⟩ := undertaking
  have kept := offers.kept
  have free {errands : List Errand} (succeed : ∀ errand ∈ errands, errand.Succeeds looping) :
      ∀ errand ∈ errands, errand.free.Tends looping :=
    fun errand member => .inl ⟨succeed errand member, fun _ => trivial⟩
  rcases tends with ⟨succeeds, anything⟩ |
    ⟨call, context, taps, stages, failing, stage, settles, harmless, untapped, promised⟩
  · obtain ⟨left, after, others, stepped, minds, succeed, ends⟩ :=
      succeeding_succeeds looping errand succeeds origin offers
    cases left with
    | none =>
      obtain ⟨handle, found, ended⟩ := ends
      obtain ⟨put, puts⟩ := minds.puts_ended kept outlined found ended
      exact ⟨none, after, put, others, stepped, free succeed, puts, anything put⟩
    | some paused =>
      obtain ⟨taps, opensThen, goesOn⟩ := ends
      obtain ⟨put, puts⟩ := minds.puts_open kept outlined opensThen
      exact ⟨some paused, after, put, others, stepped, free succeed, taps, puts, opensThen,
        .inl ⟨goesOn, fun more => anything (put ++ more)⟩⟩
  · have stepped : errand.work.step Body.render origin = _ :=
      Work.step_stage settles offers.opens
    rcases failing errand.work errand.taps stage origin offers with raises |
      ⟨pause, rest, after, others, taps', paused, minds, succeed, opensThen, stageThen⟩
    · obtain ⟨fault, raised, after, put, errands, failed, answered, recovers, puts, succeed,
        opensThen, left⟩ := raises.recovers offers harmless outlined
      obtain ⟨final, closes, putsThen⟩ := puts.closed kept outlined.inside opensThen untapped
      have ordinary : fault.kind.isStructural = false := by
        simpa using (Bool.and_eq_true_iff.mp answered).1
      refine ⟨none, final, put, errands, ?_, free succeed, putsThen, promised put (.raises left)⟩
      rw [stepped]
      simp only [bind_step, attempt_step, failed, settle_step, liftExcept_step, ordinary,
        Bool.false_eq_true, if_false, discard_step, recovers, closes, pure_step]
    · obtain ⟨put, puts⟩ := minds.puts_open kept outlined opensThen
      have settlesOn : Errand.Settles ⟨rest, errand.chunk, taps'⟩ call context taps.depth :=
        Errand.Settles.goesOn settles offers.opens paused taps'
      refine ⟨some (pause, rest), after, put, others, ?_, free succeed, taps', puts, opensThen,
        .inr ⟨call, context, taps, stages, failing, stageThen, settlesOn, harmless, untapped,
          fun left leaves => promised _ (.pauses offers outlined paused
            (by simpa using puts.outlined) opensThen leaves)⟩⟩
      rw [stepped]
      simp only [bind_step, attempt_step, paused, pure_step]

end TemplateStream
