import TemplateStream.Proofs.Insertions
import TemplateStream.Proofs.Tasks

/-!
# Helpers that fail

A call whose helper raises a fault answers for it: it takes the taps off that the helper left, and
then the error body or a placeholder is written. When the helper and the error body mind the chunk
that they are given, nothing else in the document changes: at the hole of the chunk stands what the
helper had written, and behind it what was written in answer, through the taps that were there
before the call.
-/

namespace TemplateStream

open RenderTree Outline Relation

variable {pass : Pass} {chunk : Chunk} {handle : Handle}

/-- A handle that is changed twice is changed once. -/
theorem Pass.changed_changed (pass : Pass) (chunk : Chunk) (first second : Handle → Handle) :
    (pass.changed chunk first).changed chunk second = pass.changed chunk (second ∘ first) := by
  rw [changed, changed, modify_modify]
  rfl

/-- A handle that is changed to what it was is not changed. -/
theorem Pass.changed_unchanged (found : pass.handles[chunk.number]? = some handle)
    {change : Handle → Handle} (same : change handle = handle) :
    pass.changed chunk change = pass := by
  have kept : pass.handles.modify chunk.number change = pass.handles := by
    refine modify_unchanged fun held lookup => ?_
    rwa [Option.some.inj (found.symm.trans lookup)] at same
  rw [changed, kept]

/-- The newest of the taps that are on top of given ones can be taken off. -/
theorem TapStack.pop_own {taps : TapStack} (inherited : taps.inherited ≤ taps.frames.length)
    (tap : Tap) (frames : List Tap) :
    TapStack.pop { taps with frames := tap :: frames ++ taps.frames } =
      .ok (tap, { taps with frames := frames ++ taps.frames }) := by
  have inside : taps.inherited < (tap :: (frames ++ taps.frames)).length := by
    simp only [List.length_cons, List.length_append]
    omega
  simp only [List.cons_append, TapStack.pop]
  rw [if_pos inside]

namespace HelperCall

/-- As many taps are taken off as are on top of the given ones. -/
theorem untap_each {α : Type} {taps : TapStack} {frames : List Tap}
    (found : pass.handles[chunk.number]? = some handle)
    (own : handle.taps = { taps with frames := frames ++ taps.frames })
    (inherited : taps.inherited ≤ taps.frames.length) {times : List α}
    (many : times.length = frames.length) :
    times.forM (fun _ => chunk.untap) pass =
      (.ok (), pass.changed chunk ({ · with taps := taps })) := by
  induction frames generalizing pass handle times with
  | nil =>
    obtain rfl := List.eq_nil_of_length_eq_zero many
    have same : ({ handle with taps := taps } : Handle) = handle := by
      rw [show taps = handle.taps from own.symm]
    rw [Pass.changed_unchanged found same]
    rfl
  | cons tap frames ih =>
    obtain ⟨first, rest, rfl⟩ := List.exists_cons_of_length_eq_add_one many
    let left : TapStack := { taps with frames := frames ++ taps.frames }
    have popped : handle.taps.pop = .ok (tap, left) := own ▸ TapStack.pop_own inherited tap frames
    have untapped := Pass.changed_self found ({ · with taps := left })
    have others := ih untapped rfl (Nat.succ.inj many)
    rw [Pass.changed_changed] at others
    have stepped : (first :: rest).forM (fun _ => chunk.untap) = (do
        chunk.untap
        rest.forM fun _ => chunk.untap) := rfl
    rw [stepped, bind_step, Chunk.untap_step found, popped]
    exact others

/-- The taps that a helper left on a chunk are taken off. -/
theorem untapTo_step {taps : TapStack} {frames : List Tap}
    (found : pass.handles[chunk.number]? = some handle)
    (own : handle.taps = { taps with frames := frames ++ taps.frames })
    (inherited : taps.inherited ≤ taps.frames.length) :
    untapTo chunk taps.depth pass =
      (.ok (), pass.changed chunk ({ · with taps := taps })) := by
  have excess : handle.taps.depth - taps.depth = frames.length := by
    rw [own]
    simp only [TapStack.depth, List.length_append]
    omega
  have many : (List.range (handle.taps.depth - taps.depth)).length = frames.length := by
    rw [List.length_range, excess]
  rw [untapTo, bind_step, Chunk.tapDepth_step found]
  exact untap_each found own inherited many

end HelperCall

/-- A pass after a helper failed, which is noted, and after its taps were taken off the chunk, which
has the given ones again. -/
def Pass.restored (raised : Pass) (chunk : Chunk) (taps : TapStack) (helper : String)
    (fault : Fault) : Pass :=
  { raised with recoveries := raised.recoveries ++ [(helper, fault)] }.changed chunk
    ({ · with taps := taps })

namespace HelperCall

variable {call : HelperCall} {helper : Helper} {render : RenderBody} {context : Context}

/-- The context in which the error body of a call is rendered. -/
def errorContext (context : Context) (fault : Fault) : Context :=
  context.push (.ofFields [(errorName, .text fault.message)])

/-- The placeholder of a call. -/
def placeholder (call : HelperCall) (context : Context) (fault : Fault) : Except Fault String :=
  Pattern.fill (context.environment.getD {}).placeholder
    [("helper", .ofValue (.text call.helper)), (errorName, .ofFault fault)]

/-- Without an error body a fault is answered for with the placeholder, when that is the policy. -/
theorem recover_absent (absent : bodyNamed call.bodies "error" = .absent) (depth : Nat)
    (fault : Fault) :
    call.recover render chunk context depth fault =
      if fault.kind == .helper then throw fault
      else if (context.environment.getD {}).policy == .placeholder then (do
        Pass.noteRecovery call.helper fault
        untapTo chunk depth
        let text ← liftExcept (call.placeholder context fault)
        chunk.write (.text text)
        pure chunk)
      else throw (.helperFailed call.helper fault) := by
  rw [HelperCall.recover, absent]
  split <;> rfl

/-- An error body is rendered to answer for a fault. -/
theorem recover_present (present : bodyNamed call.bodies "error" ≠ .absent) (depth : Nat)
    (fault : Fault) :
    call.recover render chunk context depth fault =
      if fault.kind == .helper then throw fault
      else (do
        Pass.noteRecovery call.helper fault
        untapTo chunk depth
        render (bodyNamed call.bodies "error") chunk (errorContext context fault)) := by
  rw [HelperCall.recover]
  cases named : bodyNamed call.bodies "error" with
  | absent => exact absurd named present
  | _ => split <;> rfl

section recover

variable {raised : Pass} {taps : TapStack} {frames : List Tap} {fault : Fault}

/-- A fault is answered for once it is noted and the taps of the helper are taken off. -/
theorem restored_step {α : Type} (found : raised.handles[chunk.number]? = some handle)
    (own : handle.taps = { taps with frames := frames ++ taps.frames })
    (inherited : taps.inherited ≤ taps.frames.length) (helper : String) (next : PassM α) :
    (do
      Pass.noteRecovery helper fault
      untapTo chunk taps.depth
      next) raised = next (raised.restored chunk taps helper fault) := by
  have noted : ({ raised with recoveries := raised.recoveries ++ [(helper, fault)] } :
      Pass).handles[chunk.number]? = some handle := found
  have untapped := untapTo_step noted own inherited
  simp only [Pass.noteRecovery, bind_step, modify_step, untapped]
  rfl

/-- Without an error body the placeholder is written, when that is the policy. -/
theorem recover_placeholder (absent : bodyNamed call.bodies "error" = .absent)
    (answered : fault.isAnswered = true)
    (policy : (context.environment.getD {}).policy = .placeholder)
    (found : raised.handles[chunk.number]? = some handle)
    (own : handle.taps = { taps with frames := frames ++ taps.frames })
    (inherited : taps.inherited ≤ taps.frames.length) :
    call.recover render chunk context taps.depth fault raised = (do
      let text ← liftExcept (call.placeholder context fault)
      chunk.write (.text text)
      pure chunk) (raised.restored chunk taps call.helper fault) := by
  have answers : (fault.kind == .helper) = false := by
    simpa using (Bool.and_eq_true_iff.mp answered).2
  rw [recover_absent absent, answers, policy]
  exact restored_step found own inherited call.helper _

/-- An error body is rendered. -/
theorem recover_body (present : bodyNamed call.bodies "error" ≠ .absent)
    (answered : fault.isAnswered = true)
    (found : raised.handles[chunk.number]? = some handle)
    (own : handle.taps = { taps with frames := frames ++ taps.frames })
    (inherited : taps.inherited ≤ taps.frames.length) :
    call.recover render chunk context taps.depth fault raised =
      render (bodyNamed call.bodies "error") chunk (errorContext context fault)
        (raised.restored chunk taps call.helper fault) := by
  have answers : (fault.kind == .helper) = false := by
    simpa using (Bool.and_eq_true_iff.mp answered).2
  rw [recover_present present, answers]
  exact restored_step found own inherited call.helper _

end recover

/-- A fault can be answered for at a chunk: there is a placeholder, or the error body is rendered
there, minds the chunk, leaves nothing but minded errands, and leaves the taps as they were. -/
def AnswersAt (call : HelperCall) (render : RenderBody) (context : Context)
    (minded : Errand → Prop) (fault : Fault) (restored : Pass) (chunk : Chunk) (taps : TapStack) :
    Prop :=
  (bodyNamed call.bodies "error" = .absent ∧
      (context.environment.getD {}).policy = .placeholder ∧
      ∃ text, call.placeholder context fault = .ok text) ∨
    (bodyNamed call.bodies "error" ≠ .absent ∧ ∃ after errands,
      render (bodyNamed call.bodies "error") chunk (errorContext context fault) restored =
        (.ok chunk, after) ∧
      restored.Minds chunk errands after ∧ (∀ errand ∈ errands, minded errand) ∧
      after.HasOpen chunk taps)

/-- A step of the helper of a call raises a fault that can be answered for. It minded the chunk of
the call before, left nothing but minded errands, and took none of the taps off that the chunk had
when the helper was called. -/
def RaisesAt {α : Type} (call : HelperCall) (render : RenderBody) (context : Context)
    (minded : Errand → Prop) (step : PassM α) (chunk : Chunk) (taps : TapStack) (origin : Pass) :
    Prop :=
  ∃ fault raised errands frames, step origin = (.error fault, raised) ∧
    fault.isAnswered = true ∧ origin.Minds chunk errands raised ∧
    (∀ errand ∈ errands, minded errand) ∧
    raised.HasOpen chunk { taps with frames := frames ++ taps.frames } ∧
    call.AnswersAt render context minded fault (raised.restored chunk taps call.helper fault) chunk
      taps

/-- What was written in answer to a fault: the placeholder, as the taps change it, or what rendering
the error body put in front of the hole of the chunk. -/
def Answers (call : HelperCall) (render : RenderBody) (context : Context) (fault : Fault)
    (restored : Pass) (chunk : Chunk) (taps : TapStack) (before behind answer : Outline) : Prop :=
  (bodyNamed call.bodies "error" = .absent ∧
      ∃ text, call.placeholder context fault = .ok text ∧
        answer = ofTexts [taps.effect text]) ∨
    (bodyNamed call.bodies "error" ≠ .absent ∧ ∃ after,
      render (bodyNamed call.bodies "error") chunk (errorContext context fault) restored =
        (.ok chunk, after) ∧
      after.Outlined (before ++ answer ++ .hole chunk :: behind))

/-- What a step of the helper of a call that raised a fault left in front of the hole of the chunk:
what it had written, and what was then written in answer. The chunk had the first taps before the
step, and the second ones before the call. -/
def LeavesAt {α : Type} (call : HelperCall) (render : RenderBody) (looping : Bool)
    (context : Context) (step : PassM α) (chunk : Chunk) (now taps : TapStack) (left : Outline) :
    Prop :=
  ∃ origin fault raised before behind written answer, origin.Offers looping chunk now ∧
    origin.Outlined (before ++ .hole chunk :: behind) ∧ step origin = (.error fault, raised) ∧
      raised.Outlined (before ++ written ++ .hole chunk :: behind) ∧
      call.Answers render context fault (raised.restored chunk taps call.helper fault) chunk taps
        (before ++ written) behind answer ∧
      left = written ++ answer

end HelperCall

namespace Pass

variable {origin raised after : Pass} {before behind put : Outline} {taps : TapStack}
  {errands : List Errand}

/-- A chunk that stayed open can be written to through harmless taps. -/
theorem Writable.write_value {pass : Pass} {chunk : Chunk} {handle : Handle}
    (writable : pass.Writable chunk handle) (harmless : handle.taps.Harmless) {value : Value}
    (present : value ≠ .null) :
    chunk.write value pass =
      (.ok (), pass.wrote handle [handle.taps.effect value.toText] pass.memory) := by
  rw [Chunk.write_step writable.found writable.isOpen present, harmless.apply]
  simp only [onTree_step, RenderTree.append_step writable.record, wrote]

/-- Writing a text through harmless taps puts it in front of the hole. -/
theorem Puts.of_write (kept : origin.Kept) (opens : origin.HasOpen chunk taps)
    (harmless : taps.Harmless) (outlined : origin.Outlined (before ++ .hole chunk :: behind))
    (text : String) :
    ∃ after, chunk.write (.text text) origin = (.ok (), after) ∧
      origin.Puts chunk before (ofTexts [taps.effect text]) [.hole chunk] behind [] after ∧
      after.HasOpen chunk taps := by
  obtain ⟨handle, found, isOpen, rfl⟩ := opens
  have writable := kept.owned.writable found isOpen
  have wrote := writable.write_value harmless (show Value.text text ≠ .null by simp)
  refine ⟨_, wrote, ?_, handle, found, isOpen, rfl⟩
  exact {
    reached := (reaches_endure.write chunk (.text text)).after wrote
    around := ⟨by simp [scheduling, Pass.wrote], rfl, rfl, rfl, rfl⟩
    grows := Nat.le_refl _
    others := fun _ _ _ => rfl
    outlined := outlined.wrote found [handle.taps.effect text] origin.memory
    places := by simp
    new := by simp
    held := by simp }

/-- What a helper wrote before it failed stands in front of the hole when its taps were taken
off. -/
theorem Puts.restored {frames : List Tap}
    (puts : origin.Puts chunk before put [.hole chunk] behind errands raised)
    (inside : chunk.number < origin.handles.size) (harmless : taps.Harmless)
    (opens : raised.HasOpen chunk { taps with frames := frames ++ taps.frames })
    (helper : String) (fault : Fault) :
    origin.Puts chunk before put [.hole chunk] behind errands
        (raised.restored chunk taps helper fault) ∧
      (raised.restored chunk taps helper fault).HasOpen chunk taps := by
  obtain ⟨now, found, isOpen, own⟩ := opens
  let noted : Pass := { raised with recoveries := raised.recoveries ++ [(helper, fault)] }
  have untapped : HelperCall.untapTo chunk taps.depth noted = _ :=
    HelperCall.untapTo_step found own harmless.own
  have reached : noted.Reaches (raised.restored chunk taps helper fault) :=
    (reaches_endure.untapTo chunk taps.depth).after untapped
  have noting : raised.Goes noted := .aside ⟨rfl, rfl, rfl⟩
  have restores {number : Nat} (apart : number ≠ chunk.number) :
      (raised.restored chunk taps helper fault).handles[number]? = raised.handles[number]? :=
    changed_other apart _
  have grows : raised.handles.size ≤
      (raised.restored chunk taps helper fault).handles.size := by
    simp [Pass.restored, changed]
  have outlinedOn : noted.Outlined (before ++ (put ++ [.hole chunk]) ++ behind) :=
    puts.outlined.of_same rfl rfl
  refine ⟨?_, _, changed_self found _, isOpen, rfl⟩
  exact {
    reached := (puts.reached.tail noting).trans reached
    around := puts.around.trans ⟨rfl, rfl, rfl, rfl, rfl⟩
    grows := puts.grows.trans grows
    others := fun number old apart => (restores apart).trans (puts.others number old apart)
    outlined := outlinedOn.retapped fun _ => taps
    places := puts.places
    new := puts.new
    held := fun errand member => by
      obtain ⟨handle, lookup, rest⟩ := puts.held errand member
      have apart : errand.chunk.number ≠ chunk.number :=
        Nat.ne_of_gt (Nat.lt_of_lt_of_le inside (puts.new errand member))
      exact ⟨handle, (restores apart).trans lookup, rest⟩ }

/-- A chunk that was minded and is still open has something put in front of its hole. -/
theorem Minds.puts_open (minds : origin.Minds chunk errands after) (kept : origin.Kept)
    (outlined : origin.Outlined (before ++ .hole chunk :: behind))
    (opens : after.HasOpen chunk taps) :
    ∃ put, origin.Puts chunk before put [.hole chunk] behind errands after := by
  obtain ⟨put, last, puts, whether⟩ := minds.puts kept outlined
  obtain ⟨handle, found, isOpen, _⟩ := opens
  obtain rfl := whether found
  exact ⟨put, by simpa only [isOpen, Bool.false_eq_true, if_false] using puts⟩

end Pass

/-- A fault that was raised at a chunk is answered for there. What the helper had written is put in
front of the hole of the chunk, and then the answer. -/
theorem HelperCall.RaisesAt.recovers {α : Type} {call : HelperCall} {render : RenderBody}
    {context : Context} {minded : Errand → Prop} {step : PassM α} {now taps : TapStack}
    {origin : Pass} {looping : Bool} {before behind : Outline}
    (raises : call.RaisesAt render context minded step chunk taps origin)
    (offers : origin.Offers looping chunk now) (harmless : taps.Harmless)
    (outlined : origin.Outlined (before ++ .hole chunk :: behind)) :
    ∃ fault raised after put errands, step origin = (.error fault, raised) ∧
      fault.isAnswered = true ∧
      call.recover render chunk context taps.depth fault raised = (.ok chunk, after) ∧
      origin.Puts chunk before put [.hole chunk] behind errands after ∧
      (∀ errand ∈ errands, minded errand) ∧ after.HasOpen chunk taps ∧
      call.LeavesAt render looping context step chunk now taps put := by
  have kept := offers.kept
  obtain ⟨fault, raised, errands, frames, failed, answered, minds, minded, opens, answers⟩ := raises
  obtain ⟨written, puts⟩ := minds.puts_open kept outlined opens
  obtain ⟨restores, opensThen⟩ :=
    puts.restored outlined.inside harmless opens call.helper fault
  have keptOn := kept.reaches restores.reached
  have outlinedOn : (raised.restored chunk taps call.helper fault).Outlined
      (before ++ written ++ .hole chunk :: behind) := by simpa using restores.outlined
  have leaves {answer : Outline} (given : call.Answers render context fault
      (raised.restored chunk taps call.helper fault) chunk taps (before ++ written) behind answer) :
      call.LeavesAt render looping context step chunk now taps (written ++ answer) :=
    ⟨origin, fault, raised, before, behind, written, answer, offers, outlined, failed,
      by simpa using puts.outlined, given, rfl⟩
  obtain ⟨now, found, _, own⟩ := opens
  rcases answers with ⟨absent, policy, text, filled⟩ | ⟨present, after, more, rendered, mindsOn, mindedOn, left⟩
  · obtain ⟨after, wrote, inserts, opensAfter⟩ :=
      Pass.Puts.of_write keptOn opensThen harmless outlinedOn text
    have all := restores.trans inserts outlined.inside
    refine ⟨fault, raised, after, _, _, failed, answered, ?_, all, by simpa using minded,
      opensAfter, leaves (.inl ⟨absent, text, filled, rfl⟩)⟩
    rw [recover_placeholder absent answered policy found own harmless.own, filled]
    simp only [bind_step, liftExcept_step, wrote, pure_step]
  · obtain ⟨answer, inserts⟩ := mindsOn.puts_open keptOn outlinedOn left
    refine ⟨fault, raised, after, _, _, failed, answered, ?_,
      restores.trans inserts outlined.inside, List.forall_mem_append.mpr ⟨minded, mindedOn⟩, left,
      leaves (.inr ⟨present, after, rendered, by simpa using inserts.outlined⟩)⟩
    rw [recover_body present answered found own harmless.own, rendered]

end TemplateStream
