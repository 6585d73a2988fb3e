import TemplateStream.Proofs.Abreast

/-!
# Steps that go along

What a pass does besides the operations on chunks goes along in two passes that are abreast: notes
are made, chunks are remembered and looked up, gates open, and work is scheduled that does the same
on twins. So do the steps that are made of these.
-/

namespace TemplateStream

open RenderTree Outline Relation

section aside

variable {accord : Accord} {twins : List Chunk} {parts : List Part}
  {undertakings : List Undertaking} {full bare fullThen bareThen : Pass} {copies : Copies}

/-- What touches neither the tree nor a handle leaves the passes abreast when the rest of them still
agrees. -/
theorem Abreast.aside (abreast : Abreast accord twins parts undertakings full bare copies)
    (untouched : full.Untouched fullThen) (untouchedToo : bare.Untouched bareThen)
    (scheduled : Scheduled accord twins undertakings fullThen.agenda bareThen.agenda)
    (saved : List.Forall₂ (fun (entry other : String × Chunk) =>
      entry.1 = other.1 ∧ Twin twins entry.2 other.2) fullThen.saved bareThen.saved)
    (gates : fullThen.gates = bareThen.gates) (looping : fullThen.looping = full.looping)
    (loopingToo : bareThen.looping = bare.looping)
    (failures : fullThen.failures = bareThen.failures) :
    Abreast accord twins parts undertakings fullThen bareThen copies where
  keptFull := abreast.keptFull.reaches (.single (.aside untouched))
  keptBare marks := (abreast.keptBare marks).reaches
    (.single (.aside ⟨rfl, untouchedToo.handles, untouchedToo.rootTaken⟩))
  outlinedFull := abreast.outlinedFull.of_same untouched.tree untouched.handles
  outlinedBare marks := (abreast.outlinedBare marks).of_same rfl untouchedToo.handles
  sizes marks := by
    rw [untouchedToo.tree]
    exact abreast.sizes marks
  fits := abreast.fits
  places := abreast.places
  tended := by
    simp only [Pass.HasOpen, untouched.handles]
    exact abreast.tended
  paired := by
    rw [untouched.handles, untouchedToo.handles]
    exact abreast.paired
  all := by
    rw [untouchedToo.handles]
    exact abreast.all
  distinct := abreast.distinct
  scheduled := scheduled
  saved := saved
  gates := gates
  loopingFull := looping.trans abreast.loopingFull
  loopingBare := loopingToo.trans abreast.loopingBare
  failures := failures

end aside

section interleaved

variable {α β : Type} {relates : α → β → Prop} {owns : Undertaking → α → Prop}
  {entries : List α} {others : List β} {owners : List Undertaking}

/-- Entries that are sorted out in both passes alike are still related, and the undertakings are
sorted out with them. -/
theorem Interleaved.partition (interleaved : Interleaved relates owns entries others owners)
    (which : α → Bool) (choice : β → Bool)
    (alike : ∀ entry other, relates entry other → which entry = choice other) :
    ∃ chosen left, Interleaved relates owns (entries.filter which) (others.filter choice) chosen ∧
      Interleaved relates owns (entries.filter (not ∘ which)) (others.filter (not ∘ choice)) left ∧
      (chosen ++ left).Perm owners := by
  induction interleaved with
  | nil => exact ⟨[], [], .nil, .nil, .nil⟩
  | @both entry other _ _ _ related _ ih =>
    obtain ⟨chosen, left, taken, rest, perm⟩ := ih
    have same := alike entry other related
    cases decided : choice other with
    | true =>
      refine ⟨chosen, left, ?_, ?_, perm⟩
      · rw [List.filter_cons_of_pos (same.trans decided), List.filter_cons_of_pos decided]
        exact .both related taken
      · rw [List.filter_cons_of_neg (by simp [same, decided]),
          List.filter_cons_of_neg (by simp [decided])]
        exact rest
    | false =>
      refine ⟨chosen, left, ?_, ?_, perm⟩
      · rw [List.filter_cons_of_neg (by simp [same, decided]),
          List.filter_cons_of_neg (by simp [decided])]
        exact taken
      · rw [List.filter_cons_of_pos (by simp [same, decided]),
          List.filter_cons_of_pos (by simp [decided])]
        exact .both related rest
  | @only entry _ _ _ owner owned _ ih =>
    obtain ⟨chosen, left, taken, rest, perm⟩ := ih
    cases decided : which entry with
    | true =>
      refine ⟨owner :: chosen, left, ?_, ?_, perm.cons owner⟩
      · rw [List.filter_cons_of_pos decided]
        exact .only owned taken
      · rw [List.filter_cons_of_neg (by simp [decided])]
        exact rest
    | false =>
      refine ⟨chosen, owner :: left, ?_, ?_, List.perm_middle.trans (perm.cons owner)⟩
      · rw [List.filter_cons_of_neg (by simp [decided])]
        exact taken
      · rw [List.filter_cons_of_pos (by simp [decided])]
        exact .only owned rest

/-- What waits can go on when it waits for nothing any more. -/
theorem Interleaved.freed {γ : Type} {accord : Accord} {twins : List Chunk}
    {entries others : List (γ × Work)}
    (interleaved : Interleaved (Waiting accord twins) (fun owner entry => entry.2 = owner.work)
      entries others owners) :
    Interleaved (accord.related twins) (fun owner work => work = owner.work)
      (entries.map Prod.snd) (others.map Prod.snd) owners := by
  induction interleaved with
  | nil => exact .nil
  | both related _ ih => exact .both related.2 ih
  | only owned _ ih => exact .only owned ih

end interleaved

/-- Two outcomes are the same, but for a chunk and work that are so on twins. -/
inductive SameOutcome (accord : Accord) (twins : List Chunk) : Outcome → Outcome → Prop where
  | nothing : SameOutcome accord twins .nothing .nothing
  | value (value : Value) : SameOutcome accord twins (.value value) (.value value)
  | chunk {chunk other : Chunk} (twin : Twin twins chunk other) :
      SameOutcome accord twins (.chunk chunk) (.chunk other)
  | awaitable {work other : Work} (related : accord.related twins work other) :
      SameOutcome accord twins (.awaitable work) (.awaitable other)

namespace Along

variable {α β : Type} {accord : Accord} {twins : List Chunk} {chunk other : Chunk}

/-! ## Chunks -/

/-- The handles of twins are alike. -/
theorem handle (twin : Twin twins chunk other) :
    Along accord twins (fun _ (handle held : Handle) =>
      handle.taps = held.taps ∧ handle.complete = held.complete) chunk.handle fun _ =>
        other.handle := by
  refine ⟨fun {parts undertakings full bare copies} abreast => ?_⟩
  obtain ⟨handle, held, found, foundToo, taps, complete, _⟩ := abreast.handles twin
  rw [Chunk.handle_step found]
  exact abreast.ends (.ok ⟨taps, complete⟩) fun _ => Chunk.handle_step foundToo

/-- Twins have as many taps of their own. -/
theorem tapDepth (twin : Twin twins chunk other) :
    Along accord twins (fun _ => Eq) chunk.tapDepth fun _ => other.tapDepth :=
  bind (handle twin) fun _ handle held _ alike =>
    pure (congrArg TapStack.depth alike.1 : handle.taps.depth = held.taps.depth)

/-- Whether something can be done to twins is the same. -/
theorem ensureOpen (twin : Twin twins chunk other) (operation : ChunkOperation) :
    Along accord twins (fun _ _ _ => True) (chunk.ensureOpen operation) fun _ =>
      other.ensureOpen operation := by
  refine bind (handle twin) fun later first second _ alike => ?_
  rw [alike.2]
  cases second.complete with
  | true => exact throw _
  | false => exact pure trivial

/-- Finishing goes along. -/
theorem finish (twin : Twin twins chunk other) (value : Value) :
    Along accord twins (fun _ _ _ => True) (chunk.finish value) fun _ => other.finish value := by
  by_cases absent : value = .null
  · subst absent
    exact complete twin
  · rw [Chunk.finish_present absent, Chunk.finish_present absent]
    exact bind (write twin value) fun later _ _ grows _ => complete (twin_mono grows twin)

/-- Closing goes along. -/
theorem close (twin : Twin twins chunk other) :
    Along accord twins (fun _ _ _ => True) chunk.close fun _ => other.close := by
  refine bind (handle twin) fun later first second grows alike => ?_
  rw [alike.2]
  cases second.complete with
  | true => exact pure trivial
  | false => exact finish (twin_mono grows twin) .null

/-- Steps that are repeated go along when each does. -/
theorem forM {γ : Type} {step other : γ → PassM PUnit} (entries : List γ)
    (each : ∀ later entry, twins <+: later →
      Along accord later (fun _ _ _ => True) (step entry) fun _ => other entry) :
    Along accord twins (fun _ _ _ => True) (entries.forM step) fun _ => entries.forM other := by
  induction entries generalizing twins with
  | nil => exact pure trivial
  | cons entry rest ih =>
    exact bind (each twins entry List.prefix_rfl) fun later _ _ grows _ =>
      ih fun last entry growsOn => each last entry (grows.trans growsOn)

/-- Steps that give the chunks to go on with go along when each does. -/
theorem foldlM {γ δ : Type} {matches' : γ → δ → Prop} {entries : List γ} {others : List δ}
    (paired : List.Forall₂ matches' entries others) {step : Chunk → γ → PassM Chunk}
    {follow : Marks → Chunk → δ → PassM Chunk} (twin : Twin twins chunk other)
    (each : ∀ later chunk other entry held, twins <+: later → matches' entry held →
      Twin later chunk other →
      Along accord later Twin (step chunk entry) fun marks => follow marks other held) :
    Along accord twins Twin (entries.foldlM step chunk) fun marks =>
      others.foldlM (follow marks) other := by
  induction paired generalizing twins chunk other with
  | nil => exact pure twin
  | cons first _ ih =>
    simp only [List.foldlM_cons]
    exact bind (each twins chunk other _ _ List.prefix_rfl first twin)
      fun later next result grows twinThen => ih twinThen
        fun last chunk other entry held growsOn => each last chunk other entry held
          (grows.trans growsOn)

/-- Taking off the taps that a helper left goes along. -/
theorem untapTo (twin : Twin twins chunk other) (depth : Nat) :
    Along accord twins (fun _ _ _ => True) (HelperCall.untapTo chunk depth) fun _ =>
      HelperCall.untapTo other depth := by
  refine bind (tapDepth twin) fun later first second grows same => ?_
  rw [show first = second from same]
  exact forM _ fun last _ growsOn => untap (twin_mono (grows.trans growsOn) twin)

/-! ## Notes and gates -/

/-- Notes go along. -/
theorem note (entry : Value) :
    Along accord twins (fun _ _ _ => True) (Pass.note entry) fun _ => Pass.note entry := by
  refine ⟨fun {parts undertakings full bare copies} abreast => ?_⟩
  have noted : Abreast accord twins parts undertakings (Pass.note entry full).2
      (Pass.note entry bare).2 copies :=
    abreast.aside ⟨rfl, rfl, rfl⟩ ⟨rfl, rfl, rfl⟩ abreast.scheduled abreast.saved abreast.gates rfl
      rfl abreast.failures
  exact noted.ends (.ok trivial) fun _ => rfl

/-- Noting that a fault is answered for goes along. -/
theorem noteRecovery (helper : String) (fault : Fault) :
    Along accord twins (fun _ _ _ => True) (Pass.noteRecovery helper fault) fun _ =>
      Pass.noteRecovery helper fault := by
  refine ⟨fun {parts undertakings full bare copies} abreast => ?_⟩
  have noted : Abreast accord twins parts undertakings (Pass.noteRecovery helper fault full).2
      (Pass.noteRecovery helper fault bare).2 copies :=
    abreast.aside ⟨rfl, rfl, rfl⟩ ⟨rfl, rfl, rfl⟩ abreast.scheduled abreast.saved abreast.gates rfl
      rfl abreast.failures
  exact noted.ends (.ok trivial) fun _ => rfl

/-- Remembering twins goes along. -/
theorem saveChunk (name : String) (twin : Twin twins chunk other) :
    Along accord twins (fun _ _ _ => True) (saveChunk name chunk) fun _ =>
      TemplateStream.saveChunk name other := by
  refine ⟨fun {parts undertakings full bare copies} abreast => ?_⟩
  have others : List.Forall₂ (fun (entry other : String × Chunk) =>
      entry.1 = other.1 ∧ Twin twins entry.2 other.2)
      (full.saved.filter fun entry => entry.1 != name)
      (bare.saved.filter fun entry => entry.1 != name) :=
    List.rel_filter (fun _ _ both => by simp only [both.1]) abreast.saved
  have saved : Abreast accord twins parts undertakings
      (TemplateStream.saveChunk name chunk full).2 (TemplateStream.saveChunk name other bare).2
      copies :=
    abreast.aside ⟨rfl, rfl, rfl⟩ ⟨rfl, rfl, rfl⟩ abreast.scheduled (.cons ⟨rfl, twin⟩ others)
      abreast.gates rfl rfl abreast.failures
  exact saved.ends (.ok trivial) fun _ => rfl

/-- The chunks that are remembered under a name are twins. -/
theorem savedChunk (name : String) :
    Along accord twins Twin (savedChunk name) fun _ => TemplateStream.savedChunk name := by
  refine ⟨fun {parts undertakings full bare copies} abreast => ?_⟩
  have found : Option.Rel (Twin twins) (full.saved.lookup name) (bare.saved.lookup name) := by
    have saved := abreast.saved
    generalize full.saved = entries at saved
    generalize bare.saved = others at saved
    induction saved with
    | nil => exact .none
    | @cons entry held _ _ both _ ih =>
      obtain ⟨key, own⟩ := entry
      obtain ⟨key', own'⟩ := held
      obtain ⟨rfl, twin⟩ := both
      rw [List.lookup_cons, List.lookup_cons]
      cases name == key with
      | true => exact .some twin
      | false => exact ih
  simp only [TemplateStream.savedChunk, bind_step, get_step]
  generalize full.saved.lookup name = first at found
  generalize bare.saved.lookup name = second at found
  cases found with
  | none =>
    exact abreast.ends (.error _) fun _ => rfl
  | some twin =>
    exact abreast.ends (.ok twin) fun _ => rfl

/-- Whether a gate is open is the same. -/
theorem whenOpen {relates : List Chunk → α → β → Prop} (name : String) {step waiting : PassM α}
    {follow rest : Marks → PassM β} (goesOn : Along accord twins relates step follow)
    (waits : Along accord twins relates waiting rest) :
    Along accord twins relates (do if (← get).gates.isOpen name then step else waiting)
      fun marks => (do if (← get).gates.isOpen name then follow marks else rest marks) := by
  refine ⟨fun {parts undertakings full bare copies} abreast => ?_⟩
  simp only [bind_step, get_step, abreast.gates]
  split
  · exact goesOn.goes abreast
  · exact waits.goes abreast

/-- Opening a gate goes along. -/
theorem openGate (name : String) :
    Along accord twins (fun _ _ _ => True) (Pass.openGate name) fun _ => Pass.openGate name := by
  refine ⟨fun {parts undertakings full bare copies} abreast => ?_⟩
  obtain ⟨early, slept, barred, ready, timed, gated, perm⟩ := abreast.scheduled.work
  obtain ⟨chosen, left, freed, waiting, parted⟩ := gated.partition (fun entry => entry.1 == name)
    (fun entry => entry.1 == name) fun entry held both => by rw [both.1]
  suffices opened : Abreast accord twins parts undertakings (Pass.openGate name full).2
      (Pass.openGate name bare).2 copies from opened.ends (.ok trivial) fun _ => rfl
  refine abreast.aside ⟨rfl, rfl, rfl⟩ ⟨rfl, rfl, rfl⟩
    ⟨abreast.scheduled.now, early ++ chosen, slept, left, ?_, timed, ?_, ?_⟩ abreast.saved
    (by simp [Pass.openGate, abreast.gates]) rfl rfl abreast.failures
  · simp only [Pass.openGate, modify_step, List.partition_eq_filter_filter]
    exact ready.append freed.freed
  · simp only [Pass.openGate, modify_step, List.partition_eq_filter_filter]
    exact waiting
  · refine List.Perm.trans ?_ perm
    rw [List.append_assoc, List.append_assoc, List.append_assoc]
    refine List.Perm.append_left early (List.Perm.trans ?_ (parted.append_left slept))
    rw [← List.append_assoc, ← List.append_assoc]
    exact List.perm_append_comm.append_right left

/-! ## Scheduling -/

/-- Scheduling work goes along that does the same on twins. -/
theorem spawn {work held : Work} (related : accord.related twins work held) :
    Along accord twins (fun _ _ _ => True) (Pass.spawn work) fun _ => Pass.spawn held := by
  refine ⟨fun {parts undertakings full bare copies} abreast => ?_⟩
  simp only [Pass.spawn, bind_step, get_step, abreast.loopingFull, abreast.loopingBare]
  cases accord.looping with
  | false =>
    exact abreast.ends (.error _) fun _ => rfl
  | true =>
    have scheduled := abreast.scheduled.joined .turn (.both related .nil)
    rw [List.append_nil] at scheduled
    have enqueued : Abreast accord twins parts undertakings (Pass.enqueue work full).2
        (Pass.enqueue held bare).2 copies :=
      abreast.aside ⟨rfl, rfl, rfl⟩ ⟨rfl, rfl, rfl⟩ scheduled abreast.saved abreast.gates rfl rfl
        abreast.failures
    exact enqueued.ends (.ok trivial) fun _ => rfl

/-- Suspending work goes along that does the same on twins. -/
theorem suspend (pause : Pause) {work held : Work} (related : accord.related twins work held) :
    Along accord twins (fun _ _ _ => True) (Pass.suspend pause work) fun _ =>
      Pass.suspend pause held := by
  refine ⟨fun {parts undertakings full bare copies} abreast => ?_⟩
  have scheduled := abreast.scheduled.joined pause (.both related .nil)
  rw [List.append_nil] at scheduled
  rw [Pass.suspend_joined]
  have suspended : Abreast accord twins parts undertakings
      { full with agenda := full.agenda.joined pause [work] }
      { bare with agenda := bare.agenda.joined pause [held] } copies :=
    abreast.aside ⟨rfl, rfl, rfl⟩ ⟨rfl, rfl, rfl⟩ scheduled abreast.saved abreast.gates rfl rfl
      abreast.failures
  exact suspended.ends (.ok trivial) fun _ => Pass.suspend_joined ..

/-- Mapping goes along when what is done with the branches does. -/
theorem map (twin : Twin twins chunk other) {work : Chunk → PassM Outcome}
    {held : Marks → Chunk → PassM Outcome}
    (does : ∀ later branch own, twins <+: later → Twin later branch own →
      Along accord later (SameOutcome accord) (work branch) fun marks => held marks own) :
    Along accord twins (fun _ _ _ => True) (chunk.map work) fun marks =>
      other.map (held marks) := by
  refine bind (branch twin) fun later first second grows branches => ?_
  refine bind (does later first second grows branches) fun last outcome result _ same => ?_
  cases same with
  | awaitable related => exact spawn related
  | nothing | value _ | chunk _ => exact pure trivial

end Along

end TemplateStream
