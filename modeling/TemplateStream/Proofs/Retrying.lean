import TemplateStream.Proofs.Failures
import TemplateStream.Proofs.Ownership

/-!
# Calls to make again

A call that writes, taps, untaps or ends looks at what it needs before it changes anything, so
that a call which failed can be corrected and made again. One call does not: ending a chunk with a
value writes the value first and then misses the taps that were not removed. The text stays in the
record, and once the taps are removed and the chunk is ended as before it stands there twice.
-/

namespace TemplateStream

open RenderTree

/-- The chunk of a call that neither makes a chunk nor is given a function. -/
def ChunkCall.subject : ChunkCall → Option Chunk
  | .write chunk _ | .tap chunk _ | .untap chunk | .finish chunk _ => some chunk
  | .root | .map .. => none

/-- Removes the taps that a chunk has of its own and then makes a call. -/
def ChunkCall.corrected (call : ChunkCall) (chunk : Chunk) : PassM Unit := do
  HelperCall.untapTo chunk 0
  call.perform

/-- Whether a tap goes by the text alone. -/
def Tap.isPure : Tap → Bool
  | .stateless _ => true
  | .remembering .. => false

/-- All taps of a chunk go by the text alone. -/
def Pass.Pure (pass : Pass) (chunk : Chunk) : Prop :=
  ∀ handle, pass.handles[chunk.number]? = some handle →
    ∀ tap ∈ handle.taps.frames, tap.isPure = true

/-- All is as before, but for what the taps of a chunk remember, if they do. -/
structure Pass.Intact (pass : Pass) (chunk : Chunk) (after : Pass) : Prop where
  others : after = { pass with memory := after.memory }
  same : pass.Pure chunk → after = pass

/-- A call that ends an open chunk with a value while taps of its own are left, which pass the text
of the value on. -/
structure Pass.EndsTapped (pass : Pass) (call : ChunkCall) (chunk : Chunk) (handle : Handle)
    (value : Value) (text : String) (memory : TapMemory) : Prop where
  ends : call = .finish chunk value
  present : value ≠ .null
  found : pass.handles[chunk.number]? = some handle
  isOpen : handle.complete = false
  tapped : handle.taps.depth ≠ 0
  passes : handle.taps.apply value.toText pass.memory = (.ok text, memory)

/-- The taps of a stack without those of its owner. -/
def TapStack.lent (stack : TapStack) : TapStack :=
  { stack with frames := stack.frames.drop stack.depth }

/-! ## Taps -/

namespace TapStack

variable {stack : TapStack}

/-- Taps that go by the text alone remember nothing, whether they refuse it or not. -/
theorem apply_pure (pure : ∀ tap ∈ stack.frames, tap.isPure = true) (text : String)
    (memory : TapMemory) : (stack.apply text memory).2 = memory := by
  rw [TapStack.apply]
  generalize stack.frames = frames at pure
  induction frames generalizing text with
  | nil => rfl
  | cons tap rest ih =>
    rw [List.foldlM_cons, bind_step]
    cases tap with
    | remembering number apply => cases pure _ List.mem_cons_self
    | stateless apply =>
      have applied : Tap.apply text (.stateless apply) memory = (apply text, memory) :=
        liftExcept_step (apply text) memory
      rw [applied]
      cases apply text with
      | error fault => rfl
      | ok changed =>
        exact ih changed fun other member => pure other (List.mem_cons_of_mem _ member)

/-- A stack is what its owner put on top of the others. -/
theorem lent_own (stack : TapStack) :
    stack = { stack.lent with
      frames := stack.frames.take stack.depth ++ stack.lent.frames } := by
  rw [lent, List.take_append_drop]

/-- What an owner leaves are the taps that were inherited. -/
theorem lent_inherited (tapped : stack.depth ≠ 0) :
    stack.lent.frames.length = stack.lent.inherited := by
  rw [depth] at tapped
  simp only [lent, List.length_drop, depth]
  omega

/-- None of the taps that an owner leaves is its own. -/
theorem lent_depth (tapped : stack.depth ≠ 0) : stack.lent.depth = 0 :=
  Nat.sub_eq_zero_of_le (Nat.le_of_eq (lent_inherited tapped))

end TapStack

/-! ## Calls that fail -/

namespace Pass.Intact

variable {pass after : Pass} {chunk : Chunk}

/-- Nothing changed. -/
theorem refl (pass : Pass) (chunk : Chunk) : pass.Intact chunk pass := ⟨rfl, fun _ => rfl⟩

/-- A pass that is the same is intact. -/
theorem of_eq (same : after = pass) : pass.Intact chunk after := same ▸ refl pass chunk

/-- What the taps of a chunk do to a text changes nothing else. -/
theorem applied {handle : Handle} (found : pass.handles[chunk.number]? = some handle)
    (text : String) :
    pass.Intact chunk { pass with memory := (handle.taps.apply text pass.memory).2 } where
  others := rfl
  same pure := by rw [TapStack.apply_pure (pure handle found)]

end Pass.Intact

namespace Chunk

variable {pass after : Pass} {chunk : Chunk} {handle : Handle} {fault : Fault}

/-- What is asked of a chunk is refused at once, or the chunk is open. -/
theorem opened_step {operation : ChunkOperation} {next : PassM Unit} {result : Except Fault Unit}
    (ran : (do chunk.ensureOpen operation; next) pass = (result, after)) :
    (∃ fault, result = .error fault) ∧ after = pass ∨
      ∃ handle, pass.handles[chunk.number]? = some handle ∧ handle.complete = false ∧
        next pass = (result, after) := by
  rw [bind_step] at ran
  rcases asked : chunk.ensureOpen operation pass with ⟨fault | _, middle⟩
  · rw [asked] at ran
    cases ran
    have same := chunk.ensureOpen_same operation pass
    rw [asked] at same
    exact .inl ⟨⟨fault, rfl⟩, same⟩
  · rw [asked] at ran
    obtain ⟨rfl, handle, found, isOpen⟩ := ensureOpen_ok asked
    exact .inr ⟨handle, found, isOpen, ran⟩

/-- Writing that fails changes nothing but what the taps remember. -/
theorem write_fails (kept : pass.Kept) {value : Value}
    (failed : chunk.write value pass = (.error fault, after)) : pass.Intact chunk after := by
  rcases opened_step failed with ⟨_, same⟩ | ⟨handle, found, isOpen, _⟩
  · exact .of_eq same
  · by_cases absent : value = .null
    · rw [absent, write_null found isOpen] at failed
      cases failed
    · have writable := kept.owned.writable found isOpen
      have applied := Pass.Intact.applied found value.toText
      rw [write_step found isOpen absent] at failed
      rcases passed : handle.taps.apply value.toText pass.memory with ⟨refused | text, memory⟩
      · rw [passed] at failed applied
        cases failed
        exact applied
      · rw [passed] at failed
        have appended := append_step writable.record text
        simp only [Pass.onTree_step, appended] at failed
        cases failed

/-- A value that was written is in the record of the chunk, as the taps passed it on. -/
theorem write_succeeds (kept : pass.Kept) {value : Value} (present : value ≠ .null)
    (wrote : chunk.write value pass = (.ok (), after)) :
    ∃ handle text memory, pass.Writable chunk handle ∧
      handle.taps.apply value.toText pass.memory = (.ok text, memory) ∧
      after = pass.wrote handle [text] memory := by
  rcases opened_step wrote with ⟨⟨_, failed⟩, _⟩ | ⟨handle, found, isOpen, _⟩
  · cases failed
  · have writable := kept.owned.writable found isOpen
    rw [write_step found isOpen present] at wrote
    rcases passed : handle.taps.apply value.toText pass.memory with ⟨refused | text, memory⟩
    · rw [passed] at wrote
      cases wrote
    · rw [passed] at wrote
      have appended := append_step writable.record text
      simp only [Pass.onTree_step, appended] at wrote
      cases wrote
      exact ⟨handle, text, memory, writable, passed, rfl⟩

/-- Installing a tap that fails changes nothing. -/
theorem tap_fails {transform : Option Transform}
    (failed : chunk.tap transform pass = (.error fault, after)) : after = pass := by
  rcases opened_step failed with ⟨_, same⟩ | ⟨handle, found, isOpen, asked⟩
  · exact same
  · cases transform with
    | none =>
      cases asked
      rfl
    | some transform =>
      obtain ⟨tap, memory, installed⟩ := transform.install_ok pass.memory
      rw [tap_step found isOpen installed] at failed
      cases failed

/-- Removing a tap that fails changes nothing. -/
theorem untap_fails (failed : chunk.untap pass = (.error fault, after)) : after = pass := by
  cases found : pass.handles[chunk.number]? with
  | none =>
    rw [untap, bind_step, handle_absent found] at failed
    cases failed
    rfl
  | some handle =>
    rw [untap_step found] at failed
    cases popped : handle.taps.pop with
    | error refused =>
      rw [popped] at failed
      cases failed
      rfl
    | ok popping =>
      rw [popped] at failed
      cases failed

/-- An open chunk without taps of its own is completed. -/
theorem completes (kept : pass.Kept) (found : pass.handles[chunk.number]? = some handle)
    (isOpen : handle.complete = false) (untapped : handle.taps.depth = 0) :
    ∃ tree, RenderTree.complete handle.record pass.tree = (.ok (), tree) ∧
      chunk.complete pass =
        (.ok (), { pass.changed chunk ({ · with complete := true }) with tree }) := by
  obtain ⟨written, whole⟩ := kept.whole
  have writable := kept.owned.writable found isOpen
  obtain ⟨tree, completed, _⟩ := whole.completes writable.record
  refine ⟨tree, completed, ?_⟩
  have step := complete_step found isOpen untapped
  rwa [Pass.onTree_step, show (pass.changed chunk _).tree = pass.tree from rfl, completed] at step

/-- Ending a chunk without a value changes nothing when it fails, which it does on an open chunk for
taps that were left. -/
theorem complete_fails (kept : pass.Kept)
    (failed : chunk.complete pass = (.error fault, after)) :
    after = pass ∧ ∀ handle, pass.handles[chunk.number]? = some handle →
      handle.complete = false → handle.taps.depth ≠ 0 := by
  have tapped : ∀ handle, pass.handles[chunk.number]? = some handle →
      handle.complete = false → handle.taps.depth ≠ 0 := by
    intro handle found isOpen untapped
    obtain ⟨_, _, completed⟩ := completes kept found isOpen untapped
    rw [completed] at failed
    cases failed
  refine ⟨?_, tapped⟩
  rcases opened_step failed with ⟨_, same⟩ | ⟨handle, found, isOpen, _⟩
  · exact same
  · rw [complete_tapped found isOpen (tapped handle found isOpen)] at failed
    cases failed
    rfl

/-- Ending a chunk changes nothing when it fails, unless it wrote a value and then missed taps that
were left. -/
theorem finish_fails (kept : pass.Kept) {value : Value}
    (failed : chunk.finish value pass = (.error fault, after)) :
    pass.Intact chunk after ∨ ∃ handle text memory,
      pass.EndsTapped (.finish chunk value) chunk handle value text memory := by
  by_cases absent : value = .null
  · subst absent
    exact .inl (.of_eq (complete_fails kept failed).1)
  · have reached : pass.Reaches (chunk.write value pass).2 := reaches_endure.write chunk value pass
    rw [finish_present absent, bind_step] at failed
    rcases wrote : chunk.write value pass with ⟨refused | _, middle⟩
    · rw [wrote] at failed
      cases failed
      exact .inl (write_fails kept wrote)
    · rw [wrote] at failed reached
      obtain ⟨handle, text, memory, writable, passes, rfl⟩ := write_succeeds kept absent wrote
      have missed := (complete_fails (kept.reaches reached) failed).2 handle writable.found
        writable.isOpen
      exact .inr ⟨handle, text, memory, rfl, absent, writable.found, writable.isOpen, missed,
        passes⟩

end Chunk

/-- A call that fails changes nothing, unless it ends a chunk with a value and misses taps that were
left. -/
theorem ChunkCall.fails {call : ChunkCall} {chunk : Chunk} {pass after : Pass} {fault : Fault}
    (subject : call.subject = some chunk) (kept : pass.Kept)
    (failed : call.perform pass = (.error fault, after)) :
    pass.Intact chunk after ∨ ∃ handle value text memory,
      pass.EndsTapped call chunk handle value text memory := by
  cases call with
  | root => cases subject
  | map chunk work answer => cases subject
  | write chunk value =>
    cases subject
    exact .inl (Chunk.write_fails kept failed)
  | tap chunk transform =>
    cases subject
    exact .inl (.of_eq (Chunk.tap_fails failed))
  | untap chunk =>
    cases subject
    exact .inl (.of_eq (Chunk.untap_fails failed))
  | finish chunk value =>
    cases subject
    rcases Chunk.finish_fails kept failed with intact | ⟨handle, text, memory, ends⟩
    · exact .inl intact
    · exact .inr ⟨handle, value, text, memory, ends⟩

/-! ## Calls that are made again -/

namespace Chunk

variable {pass : Pass} {chunk : Chunk} {handle : Handle} {value : Value} {written : Journal}

/-- A value that the taps pass on is written, and the text is entered in the journal. -/
theorem writes (kept : pass.Kept) (whole : Whole pass.tree written)
    (writable : pass.Writable chunk handle) (present : value ≠ .null) {text : String}
    {memory : TapMemory}
    (passes : handle.taps.apply value.toText pass.memory = (.ok text, memory)) :
    chunk.write value pass = (.ok (), pass.wrote handle [text] memory) ∧
      (pass.wrote handle [text] memory).Kept ∧
      Whole (pass.wrote handle [text] memory).tree
        (written.enter (some (handle.record, text))) := by
  have appended := append_step writable.record text
  have wrote : chunk.write value pass = (.ok (), pass.wrote handle [text] memory) := by
    rw [write_step writable.found writable.isOpen present, passes]
    simp only [Pass.onTree_step, appended, Pass.wrote]
  have advanced := (append_advances whole handle.record text).whole
  rw [writable.record, if_pos rfl, appended] at advanced
  exact ⟨wrote, kept.reaches ((reaches_endure.write chunk value).after wrote), advanced⟩

/-- Ending a chunk without taps of its own with a value puts the text of the value behind what was
written to its record. -/
theorem finishes (kept : pass.Kept) (whole : Whole pass.tree written)
    (found : pass.handles[chunk.number]? = some handle) (isOpen : handle.complete = false)
    (untapped : handle.taps.depth = 0) (present : value ≠ .null) {text : String}
    {memory : TapMemory}
    (passes : handle.taps.apply value.toText pass.memory = (.ok text, memory)) :
    ∃ last, chunk.finish value pass = (.ok (), last) ∧
      Whole last.tree (written.enter (some (handle.record, text))) ∧
      last.tree.documentOrder = pass.tree.documentOrder := by
  have writable := kept.owned.writable found isOpen
  obtain ⟨wrote, keeps, holds⟩ := writes kept whole writable present passes
  have record := (keeps.owned.writable found isOpen).record
  obtain ⟨tree, completed, ended⟩ := completes keeps found isOpen untapped
  have advanced : Whole tree (written.enter (some (handle.record, text))) := by
    have advanced := (RenderTree.complete_advances holds handle.record).whole
    rwa [completed] at advanced
  have finished : chunk.finish value pass =
      chunk.complete (pass.wrote handle [text] memory) := by
    rw [finish_present present, bind_step, wrote]
  exact ⟨_, finished.trans ended, advanced, (holds.completed_order record completed).trans
    (whole.received_order writable.record [text])⟩

/-- Once its own taps are removed a chunk can be ended with a value. -/
theorem corrected_finishes (kept : pass.Kept) (whole : Whole pass.tree written)
    (found : pass.handles[chunk.number]? = some handle) (isOpen : handle.complete = false)
    (tapped : handle.taps.depth ≠ 0) (present : value ≠ .null) {text : String}
    {memory : TapMemory}
    (passes : handle.taps.lent.apply value.toText pass.memory = (.ok text, memory)) :
    ∃ last, (ChunkCall.finish chunk value).corrected chunk pass = (.ok (), last) ∧
      Whole last.tree (written.enter (some (handle.record, text))) ∧
      last.tree.documentOrder = pass.tree.documentOrder := by
  let bare := pass.changed chunk ({ · with taps := handle.taps.lent })
  have removed : HelperCall.untapTo chunk 0 pass = (.ok (), bare) := by
    rw [← TapStack.lent_depth tapped]
    exact HelperCall.untapTo_step found handle.taps.lent_own
      (Nat.le_of_eq (TapStack.lent_inherited tapped).symm)
  have keeps : bare.Kept := kept.reaches ((reaches_endure.untapTo chunk 0).after removed)
  have held : bare.handles[chunk.number]? = some { handle with taps := handle.taps.lent } :=
    Pass.changed_self found _
  obtain ⟨last, finished, holds, order⟩ := finishes keeps (show Whole bare.tree written from whole)
    held isOpen (TapStack.lent_depth tapped) present passes
  refine ⟨last, ?_, holds, order⟩
  rw [ChunkCall.corrected, bind_step, removed]
  exact finished

end Chunk

/-- Ending a chunk with a value while taps of its own are left writes the value and then fails. -/
theorem Pass.EndsTapped.fails {pass : Pass} {call : ChunkCall} {chunk : Chunk} {handle : Handle}
    {value : Value} {text : String} {memory : TapMemory}
    (ends : pass.EndsTapped call chunk handle value text memory) (kept : pass.Kept) :
    call.perform pass = (.error (.chunk (.tapsLeft handle.taps.depth)),
      pass.wrote handle [text] memory) := by
  obtain ⟨rfl, present, found, isOpen, tapped, passes⟩ := ends
  obtain ⟨written, whole⟩ := kept.whole
  have writable := kept.owned.writable found isOpen
  rw [ChunkCall.perform, Chunk.finish_present present, bind_step,
    (Chunk.writes kept whole writable present passes).1]
  exact Chunk.complete_tapped found isOpen tapped

/-- With a sink that refuses nothing, a call that writes, taps, untaps or ends and that fails leaves
all as it was, and what taps remember too when they go by the text alone. The exception is a chunk
that is ended with a value while taps of its own are left: the value is written and then the call
fails, so that after the taps are removed and the call is made again the record holds one text more
than if they had been removed at first. -/
theorem failed_calls_intact_unless_tapped (sink : Sink) (looping : Bool)
    (accepts : ∀ received fragment, sink received fragment = none) (pass : Pass)
    (reached : (Pass.start sink looping).Reaches pass) (call : ChunkCall) (chunk : Chunk)
    (subject : call.subject = some chunk) :
    (∀ fault after, call.perform pass = (.error fault, after) →
      (∀ handle value text memory, ¬ pass.EndsTapped call chunk handle value text memory) →
      pass.Intact chunk after) ∧
    ∀ handle value text memory, pass.EndsTapped call chunk handle value text memory →
      call.perform pass = (.error (.chunk (.tapsLeft handle.taps.depth)),
        pass.wrote handle [text] memory) ∧
      (pass.Pure chunk → ∀ plain,
        handle.taps.lent.apply value.toText pass.memory = (.ok plain, pass.memory) →
        ∃ written once twice, Whole pass.tree written ∧
          call.corrected chunk pass = (.ok (), once) ∧
          Whole once.tree (written.enter (some (handle.record, plain))) ∧
          call.corrected chunk (call.perform pass).2 = (.ok (), twice) ∧
          Whole twice.tree ((written.enter (some (handle.record, text))).enter
            (some (handle.record, plain))) ∧
          twice.tree.documentOrder = once.tree.documentOrder) := by
  obtain rfl : sink = .accepting := funext fun received => funext (accepts received)
  have kept := (Pass.kept_start looping).reaches reached
  refine ⟨fun fault after failed none => ?_, fun handle value text memory ends => ?_⟩
  · rcases ChunkCall.fails subject kept failed with intact | ⟨handle, value, text, memory, ends⟩
    · exact intact
    · exact absurd ends (none handle value text memory)
  · have fails := ends.fails kept
    refine ⟨fails, fun pure plain passes => ?_⟩
    obtain ⟨rfl, present, found, isOpen, tapped, passed⟩ := ends
    obtain ⟨written, whole⟩ := kept.whole
    have writable := kept.owned.writable found isOpen
    -- taps that go by the text alone remember nothing of the call that failed
    obtain rfl : memory = pass.memory := by
      have forgets := TapStack.apply_pure (pure handle found) value.toText pass.memory
      rwa [passed] at forgets
    obtain ⟨_, keeps, holds⟩ := Chunk.writes kept whole writable present passed
    obtain ⟨once, first, at_once, order⟩ :=
      Chunk.corrected_finishes kept whole found isOpen tapped present passes
    obtain ⟨twice, second, again, same⟩ :=
      Chunk.corrected_finishes keeps holds found isOpen tapped present passes
    refine ⟨written, once, twice, whole, first, at_once, ?_, again, ?_⟩
    · rw [fails]
      exact second
    · exact same.trans ((whole.received_order writable.record [text]).trans order.symm)

/-- The root chunk is ended with a value. -/
def rootEnding : ChunkCall := .finish ⟨0⟩ (.text "x")

/-- The text of an ending that failed for a tap stands in the record in front of the text of the
next one. -/
theorem failed_calls_intact_unless_tapped_upper :
    let origin := Pass.start .accepting false
    let rooted := (Operation.root.perform origin).2
    let tapped := ((Operation.tap ⟨0⟩ (some .upper)).perform rooted).2
    (∀ received fragment, Sink.accepting received fragment = none) ∧ origin.Reaches tapped ∧
      rootEnding.subject = some ⟨0⟩ ∧
      (rootEnding.corrected ⟨0⟩ tapped).2.tree.text = "x" ∧
      (rootEnding.perform tapped).1 = .error (.chunk (.tapsLeft 1)) ∧
      ∃ twice, rootEnding.corrected ⟨0⟩ (rootEnding.perform tapped).2 = (.ok (), twice) ∧
        twice.tree.text = "Xx" := by
  intro origin rooted tapped
  have reached : origin.Reaches tapped :=
    (Pass.reaches_perform .root origin).trans (Pass.reaches_perform (.tap ⟨0⟩ (some .upper)) rooted)
  let tap : Tap := .stateless fun text => .ok (Text.upper text)
  let handle : Handle := { record := 0, taps := { frames := [tap] } }
  have upper : Text.upper "x" = "X" := by decide +kernel
  have ends : tapped.EndsTapped rootEnding ⟨0⟩ handle (.text "x") "X" tapped.memory := {
    ends := rfl
    present := nofun
    found := rfl
    isOpen := rfl
    tapped := Nat.one_ne_zero
    passes := upper ▸ rfl }
  have pure : tapped.Pure ⟨0⟩ := by
    intro held found other member
    obtain rfl : handle = held := Option.some.inj found
    rw [List.mem_singleton.mp member]
    rfl
  obtain ⟨fails, again⟩ := (failed_calls_intact_unless_tapped .accepting false (fun _ _ => rfl)
    tapped reached rootEnding ⟨0⟩ rfl).2 handle (.text "x") "X" tapped.memory ends
  obtain ⟨_, _, twice, _, _, _, second, _⟩ := again pure "x" rfl
  refine ⟨fun _ _ => rfl, reached, rfl, by decide +kernel, by rw [fails]; rfl, twice, second, ?_⟩
  have text : (rootEnding.corrected ⟨0⟩ (rootEnding.perform tapped).2).2.tree.text = "Xx" := by
    decide +kernel
  rwa [second] at text

end TemplateStream
