import TemplateStream.Proofs.Errands

/-!
# Two passes abreast

A full pass and a bare one go on abreast: the bare one lacks what some calls wrote in the full one.
Each chunk of the bare pass has a twin in the full one, with the same taps, and their documents have
the same parts but for those calls. Where such a call was performed the full document has what it
left, with a hole for each undertaking that it left behind, and the bare one has a gap. To tell the
gaps apart something may be written in each of them, a mark. The bare pass is therefore followed
with all marks at once, which show in nothing but its document. Operations on twins leave the passes
abreast.
-/

namespace TemplateStream

open RenderTree Outline Relation

/-- A place of a document where a call is left out: the label of what stands there, the context that
it is rendered in, to what depth bodies may be nested in it, and the taps in force. -/
structure Gap where
  label : String
  context : Context
  depth : Nat
  taps : TapStack

/-- What is written in the gaps of a document, if anything is. -/
abbrev Marks := Gap → Option String

/-- The mark of a gap as the taps in force there change it. -/
def Gap.texts (marks : Marks) (gap : Gap) : List String :=
  ((marks gap).map gap.taps.effect).toList

/-- A part of the documents of two passes. -/
inductive Part where
  /-- The same text in both. -/
  | text (content : String)
  /-- The places at which two twins write. -/
  | holes (full bare : Chunk)
  /-- What a call left in the full document, and the gap in the bare one. -/
  | apart (inner : Outline) (gap : Gap)

namespace Part

/-- A part of the full document. -/
def full : Part → Outline
  | .text content => [.text content]
  | .holes chunk _ => [.hole chunk]
  | .apart inner _ => inner

/-- The same part of the bare document, with marks in the gaps. -/
def bare (marks : Marks) : Part → Outline
  | .text content => [.text content]
  | .holes _ chunk => [.hole chunk]
  | .apart _ gap => ofTexts (gap.texts marks)

/-- The holes of what a call left. -/
def places : Part → List Chunk
  | .apart inner _ => inner.holes
  | _ => []

end Part

/-- What is asked of two passes that are abreast. -/
structure Accord where
  /-- Whether event loops run. -/
  looping : Bool
  /-- What a call may leave that is left out in a gap. -/
  leaves : Gap → Outline → Prop
  /-- Work that does the same on twins. -/
  related : List Chunk → Work → Work → Prop
  related_mono : ∀ {twins later : List Chunk} {work other : Work}, twins <+: later →
    related twins work other → related later work other

/-- What can have become of what a call left that is left out in a gap. -/
def Accord.Yields (accord : Accord) (gap : Gap) (left : Outline) : Prop :=
  ∃ first : Outline, accord.leaves gap first ∧ first.Becomes left

/-- A chunk of the full pass is the twin of one of the bare pass. Twins are listed by the numbers
that they have in the bare pass. -/
abbrev Twin (twins : List Chunk) (chunk other : Chunk) : Prop :=
  twins[other.number]? = some chunk

/-- The handles of twins have the same taps, which are harmless, and both are complete or not. -/
def Paired (twins : List Chunk) (full bare : Array Handle) : Prop :=
  ∀ ⦃number : Nat⦄ ⦃chunk : Chunk⦄, twins[number]? = some chunk → ∃ handle held,
    full[chunk.number]? = some handle ∧ bare[number]? = some held ∧
      handle.taps = held.taps ∧ handle.complete = held.complete ∧ handle.taps.Harmless

/-- A part of the documents of two passes is as it should be. What a call left is something that it
may leave, whatever its undertakings come to. -/
def Part.Fits (accord : Accord) (twins : List Chunk) (undertakings : List Undertaking) :
    Part → Prop
  | .text _ => True
  | .holes chunk other => Twin twins chunk other
  | .apart inner gap => ∀ fill : Chunk → Outline,
    (∀ undertaking ∈ undertakings, undertaking.Yields (fill undertaking.chunk)) →
      accord.Yields gap (inner.expanded fill)

/-- Entries of the full pass and of the bare one: they are related one by one, but for those of the
full pass that are owned by undertakings. -/
inductive Interleaved {α β : Type} (relates : α → β → Prop) (owns : Undertaking → α → Prop) :
    List α → List β → List Undertaking → Prop where
  | nil : Interleaved relates owns [] [] []
  | both {entry : α} {other : β} {full : List α} {bare : List β} {owners : List Undertaking}
      (related : relates entry other) (rest : Interleaved relates owns full bare owners) :
      Interleaved relates owns (entry :: full) (other :: bare) owners
  | only {entry : α} {full : List α} {bare : List β} {owners : List Undertaking}
      {owner : Undertaking} (owned : owns owner entry)
      (rest : Interleaved relates owns full bare owners) :
      Interleaved relates owns (entry :: full) bare (owner :: owners)

/-- Work that waits for the same, and is the same on twins. -/
def Waiting (accord : Accord) (twins : List Chunk) {α : Type} (entry other : α × Work) : Prop :=
  entry.1 = other.1 ∧ accord.related twins entry.2 other.2

/-- The work that is not done is the same on twins, but for that of undertakings. -/
structure Scheduled (accord : Accord) (twins : List Chunk) (undertakings : List Undertaking)
    (full bare : Agenda) : Prop where
  now : full.now = bare.now
  work : ∃ early slept barred,
    Interleaved (accord.related twins) (fun owner work => work = owner.work) full.ready bare.ready
      early ∧
    Interleaved (Waiting accord twins) (fun owner entry => entry.2 = owner.work) full.timed
      bare.timed slept ∧
    Interleaved (Waiting accord twins) (fun owner entry => entry.2 = owner.work) full.gated
      bare.gated barred ∧
    (early ++ slept ++ barred).Perm undertakings

/-- An agenda with more work, which is paused. -/
def Agenda.joined (agenda : Agenda) (pause : Pause) (works : List Work) : Agenda :=
  match pause with
  | .turn => { agenda with ready := agenda.ready ++ works }
  | .delay ticks =>
    { agenda with timed := agenda.timed ++ works.map fun work => (agenda.now + ticks, work) }
  | .gate name => { agenda with gated := agenda.gated ++ works.map fun work => (name, work) }

@[simp]
theorem Agenda.joined_nil (agenda : Agenda) (pause : Pause) : agenda.joined pause [] = agenda := by
  cases pause <;> simp [joined]

/-- Work that is suspended waits in the agenda. -/
theorem Pass.suspend_joined (pause : Pause) (work : Work) (pass : Pass) :
    suspend pause work pass =
      (.ok (), { pass with agenda := pass.agenda.joined pause [work] }) := by
  cases pause <;> rfl

/-- A pass with another document. -/
abbrev Pass.having (pass : Pass) (tree : RenderTree) : Pass := { pass with tree }

/-- The documents of the bare pass, each with other marks in its gaps. -/
abbrev Copies := Marks → RenderTree

/-- Two passes are abreast, of which the bare one has a document for all marks. -/
structure Abreast (accord : Accord) (twins : List Chunk) (parts : List Part)
    (undertakings : List Undertaking) (full bare : Pass) (copies : Copies) : Prop where
  keptFull : full.Kept
  keptBare : ∀ marks, (bare.having (copies marks)).Kept
  outlinedFull : full.Outlined (parts.flatMap Part.full)
  outlinedBare : ∀ marks, (bare.having (copies marks)).Outlined (parts.flatMap (Part.bare marks))
  sizes : ∀ marks, (copies marks).records.size = bare.tree.records.size
  fits : ∀ part ∈ parts, part.Fits accord twins undertakings
  places : (undertakings.map fun undertaking => undertaking.chunk).Perm (parts.flatMap Part.places)
  tended : ∀ undertaking ∈ undertakings, undertaking.Tends accord.looping ∧
    full.HasOpen undertaking.chunk undertaking.taps
  paired : Paired twins full.handles bare.handles
  all : twins.length = bare.handles.size
  distinct : twins.Nodup
  scheduled : Scheduled accord twins undertakings full.agenda bare.agenda
  saved : List.Forall₂ (fun (entry other : String × Chunk) =>
    entry.1 = other.1 ∧ Twin twins entry.2 other.2) full.saved bare.saved
  gates : full.gates = bare.gates
  loopingFull : full.looping = accord.looping
  loopingBare : bare.looping = accord.looping
  failures : full.failures = bare.failures

/-! ## Twins -/

section twins

variable {accord : Accord} {twins later : List Chunk} {full bare : Array Handle}
  {chunk other : Chunk} {number : Nat}

/-- Twins remain twins. -/
theorem twin_mono (grows : twins <+: later) (twin : twins[number]? = some chunk) :
    later[number]? = some chunk := by
  obtain ⟨new, rfl⟩ := grows
  rw [List.getElem?_append_left (List.getElem?_eq_some_iff.mp twin).choose]
  exact twin

/-- Chunks have no more than one twin. -/
theorem twin_unique (distinct : twins.Nodup) {first second : Nat}
    (early : twins[first]? = some chunk) (late : twins[second]? = some chunk) :
    first = second := by
  obtain ⟨inside, found⟩ := List.getElem?_eq_some_iff.mp early
  obtain ⟨insideToo, foundToo⟩ := List.getElem?_eq_some_iff.mp late
  exact (List.Nodup.getElem_inj_iff distinct).mp (found.trans foundToo.symm)

section interleaved

variable {α β : Type} {relates weaker : α → β → Prop} {owns : Undertaking → α → Prop}
  {entries more : List α} {others late : List β} {owners owning : List Undertaking}

theorem Interleaved.imp (interleaved : Interleaved relates owns entries others owners)
    (weakens : ∀ entry other, relates entry other → weaker entry other) :
    Interleaved weaker owns entries others owners := by
  induction interleaved with
  | nil => exact .nil
  | both related _ ih => exact .both (weakens _ _ related) ih
  | only owned _ ih => exact .only owned ih

theorem Interleaved.append (early : Interleaved relates owns entries others owners)
    (behind : Interleaved relates owns more late owning) :
    Interleaved relates owns (entries ++ more) (others ++ late) (owners ++ owning) := by
  induction early with
  | nil => exact behind
  | both related _ ih => exact .both related ih
  | only owned _ ih => exact .only owned ih

end interleaved

/-- Work that is all that of undertakings. -/
theorem interleaved_works (relates : Work → Work → Prop) (owners : List Undertaking) :
    Interleaved relates (fun owner work => work = owner.work)
      (owners.map fun owner => owner.work) [] owners := by
  induction owners with
  | nil => exact .nil
  | cons owner rest ih => exact .only rfl ih

/-- Work that is all that of errands. -/
theorem interleaved_errands (relates : Work → Work → Prop) (errands : List Errand) :
    Interleaved relates (fun owner work => work = owner.work) (errands.map Errand.work) []
      (errands.map Errand.free) := by
  have works := interleaved_works relates (errands.map Errand.free)
  rwa [List.map_map] at works

theorem Waiting.mono {α : Type} {entry other : α × Work}
    (waiting : Waiting accord twins entry other) (grows : twins <+: later) :
    Waiting accord later entry other :=
  ⟨waiting.1, accord.related_mono grows waiting.2⟩

theorem Scheduled.mono {undertakings : List Undertaking} {agenda others : Agenda}
    (scheduled : Scheduled accord twins undertakings agenda others) (grows : twins <+: later) :
    Scheduled accord later undertakings agenda others where
  now := scheduled.now
  work := by
    obtain ⟨early, slept, barred, ready, timed, gated, perm⟩ := scheduled.work
    exact ⟨early, slept, barred, ready.imp fun _ _ => accord.related_mono grows,
      timed.imp fun _ _ waiting => waiting.mono grows,
      gated.imp fun _ _ waiting => waiting.mono grows, perm⟩

/-- Work that is to wait for the same in both passes waits there. -/
theorem Interleaved.waiting {γ : Type} {works late : List Work} {owners : List Undertaking}
    (interleaved : Interleaved (accord.related twins) (fun owner work => work = owner.work) works
      late owners) (moment : γ) :
    Interleaved (Waiting accord twins) (fun owner entry => entry.2 = owner.work)
      (works.map fun work => (moment, work)) (late.map fun work => (moment, work)) owners := by
  induction interleaved with
  | nil => exact .nil
  | both related _ ih => exact .both ⟨rfl, related⟩ ih
  | only owned _ ih => exact .only owned ih

/-- What is paused in both passes, and what is paused for undertakings in the full one. -/
theorem Scheduled.joined {undertakings more : List Undertaking} {agenda others : Agenda}
    (scheduled : Scheduled accord twins undertakings agenda others) (pause : Pause)
    {works late : List Work}
    (interleaved : Interleaved (accord.related twins) (fun owner work => work = owner.work) works
      late more) :
    Scheduled accord twins (undertakings ++ more) (agenda.joined pause works)
      (others.joined pause late) := by
  obtain ⟨now, early, slept, barred, ready, timed, gated, perm⟩ := scheduled
  cases pause with
  | turn =>
    refine ⟨now, early ++ more, slept, barred, ready.append interleaved, timed, gated, ?_⟩
    refine List.Perm.trans ?_ (perm.append_right more)
    simp only [List.append_assoc]
    exact .append_left _ (List.append_assoc slept barred more ▸ List.perm_append_comm)
  | delay ticks =>
    refine ⟨now, early, slept ++ more, barred, ready, ?_, gated, ?_⟩
    · simp only [Agenda.joined, now]
      exact timed.append (interleaved.waiting (others.now + ticks))
    · refine List.Perm.trans ?_ (perm.append_right more)
      simp only [List.append_assoc]
      exact .append_left _ (.append_left _ List.perm_append_comm)
  | gate name =>
    refine ⟨now, early, slept, barred ++ more, ready, timed,
      gated.append (interleaved.waiting name), ?_⟩
    rw [← List.append_assoc]
    exact perm.append_right more

/-- Twins to which the same is done remain alike. -/
theorem Paired.modify (paired : Paired twins full bare) (distinct : twins.Nodup)
    (twin : Twin twins chunk other) {change alter : Handle → Handle}
    (alike : ∀ handle held : Handle, handle.taps = held.taps → handle.complete = held.complete →
      handle.taps.Harmless → (change handle).taps = (alter held).taps ∧
        (change handle).complete = (alter held).complete ∧ (change handle).taps.Harmless) :
    Paired twins (full.modify chunk.number change) (bare.modify other.number alter) := by
  intro number own found
  obtain ⟨handle, held, foundFull, foundBare, taps, complete, harmless⟩ := paired found
  by_cases same : other.number = number
  · subst same
    obtain rfl : chunk = own := Option.some.inj (twin.symm.trans found)
    obtain ⟨tapsOn, completeOn, harmlessOn⟩ := alike handle held taps complete harmless
    exact ⟨_, _, by simp [Array.getElem?_modify, foundFull],
      by simp [Array.getElem?_modify, foundBare], tapsOn, completeOn, harmlessOn⟩
  · have apart : chunk.number ≠ own.number := by
      intro numbers
      obtain rfl := Chunk.eq_of_number numbers
      exact same (twin_unique distinct twin found)
    exact ⟨handle, held, by simp [Array.getElem?_modify, apart, foundFull],
      by simp [Array.getElem?_modify, same, foundBare], taps, complete, harmless⟩

/-- New handles that are alike are those of twins. -/
theorem Paired.push (paired : Paired twins full bare) (all : twins.length = bare.size)
    {handle held : Handle} (taps : handle.taps = held.taps)
    (complete : handle.complete = held.complete) (harmless : handle.taps.Harmless) :
    Paired (twins ++ [⟨full.size⟩]) (full.push handle) (bare.push held) := by
  intro number own found
  by_cases old : number < twins.length
  · rw [List.getElem?_append_left old] at found
    obtain ⟨first, second, foundFull, foundBare, alike⟩ := paired found
    have insideFull := lt_size_of_found foundFull
    have insideBare := lt_size_of_found foundBare
    refine ⟨first, second, ?_, ?_, alike⟩
    · rw [Array.getElem?_push_lt insideFull, ← Array.getElem?_eq_getElem insideFull, foundFull]
    · rw [Array.getElem?_push_lt insideBare, ← Array.getElem?_eq_getElem insideBare, foundBare]
  · have last : number = twins.length := by
      have inside := (List.getElem?_eq_some_iff.mp found).choose
      rw [List.length_append, List.length_singleton] at inside
      omega
    subst last
    rw [List.getElem?_concat_length] at found
    obtain rfl := Option.some.inj found
    refine ⟨handle, held, Array.getElem?_push_size, ?_, taps, complete, harmless⟩
    rw [all]
    exact Array.getElem?_push_size

end twins

/-! ## Steps side by side -/

/-- Two results are the same fault, or values that are related. -/
inductive Matched {α β : Type} (relates : α → β → Prop) :
    Except Fault α → Except Fault β → Prop where
  | ok {value : α} {other : β} (related : relates value other) :
      Matched relates (.ok value) (.ok other)
  | error (fault : Fault) : Matched relates (.error fault) (.error fault)

/-- Two steps have ended abreast, with matching results, of which the second is the same for all
marks. The twins are the old ones and new ones. -/
def EndAbreast {α β : Type} (accord : Accord) (twins : List Chunk)
    (relates : List Chunk → α → β → Prop) (first : Except Fault α × Pass)
    (second : Marks → Except Fault β × Pass) : Prop :=
  ∃ later parts undertakings result bare copies, twins <+: later ∧
    Abreast accord later parts undertakings first.2 bare copies ∧
    Matched (relates later) first.1 result ∧
    ∀ marks, second marks = (result, bare.having (copies marks))

/-- Passes that are abreast with the old twins have ended so. -/
theorem Abreast.ends {α β : Type} {accord : Accord} {twins : List Chunk}
    {relates : List Chunk → α → β → Prop} {parts : List Part} {undertakings : List Undertaking}
    {full bare : Pass} {copies : Copies} {first : Except Fault α} {result : Except Fault β}
    {second : Marks → Except Fault β × Pass}
    (abreast : Abreast accord twins parts undertakings full bare copies)
    (matched : Matched (relates twins) first result)
    (same : ∀ marks, second marks = (result, bare.having (copies marks))) :
    EndAbreast accord twins relates (first, full) second :=
  ⟨twins, parts, undertakings, result, bare, copies, List.prefix_rfl, abreast, matched, same⟩

/-- Two steps go along: from passes that are abreast they end abreast. What the second does may
depend on the marks. -/
structure Along {α β : Type} (accord : Accord) (twins : List Chunk)
    (relates : List Chunk → α → β → Prop) (step : PassM α) (other : Marks → PassM β) : Prop where
  goes : ∀ {parts : List Part} {undertakings : List Undertaking} {full bare : Pass}
      {copies : Copies}, Abreast accord twins parts undertakings full bare copies →
    EndAbreast accord twins relates (step full) fun marks =>
      other marks (bare.having (copies marks))

namespace Along

variable {α β γ δ : Type} {accord : Accord} {twins : List Chunk}
  {relates : List Chunk → α → β → Prop} {step : PassM α} {other : Marks → PassM β}

/-- Steps that change nothing and give matching results go along. -/
theorem unchanged {first : Except Fault α} {second : Except Fault β}
    (matched : Matched (relates twins) first second) (step_eq : ∀ pass, step pass = (first, pass))
    (other_eq : ∀ marks pass, other marks pass = (second, pass)) :
    Along accord twins relates step other := by
  refine ⟨fun {parts undertakings full bare copies} abreast => ?_⟩
  rw [step_eq]
  exact abreast.ends matched fun marks => other_eq marks _

theorem pure {value : α} {other : β} (related : relates twins value other) :
    Along accord twins relates (Pure.pure value) fun _ => Pure.pure other :=
  unchanged (.ok related) (fun _ => rfl) fun _ _ => rfl

theorem throw (fault : Fault) :
    Along accord twins relates (throw fault : PassM α) fun _ => (throw fault : PassM β) :=
  unchanged (.error fault) (fun _ => rfl) fun _ _ => rfl

/-- Sequences go along when their steps do. -/
theorem bind {relatesNext : List Chunk → γ → δ → Prop} {next : α → PassM γ}
    {follow : Marks → β → PassM δ} (first : Along accord twins relates step other)
    (second : ∀ later value result, twins <+: later → relates later value result →
      Along accord later relatesNext (next value) fun marks => follow marks result) :
    Along accord twins relatesNext (step >>= next) fun marks => other marks >>= follow marks := by
  refine ⟨fun {parts undertakings full bare copies} abreast => ?_⟩
  obtain ⟨later, between, tending, given, bareThen, copiesThen, grows, abreastThen, matched,
    same⟩ :=
    first.goes abreast
  simp only [bind_step, same]
  rcases ran : step full with ⟨result, middle⟩
  rw [ran] at abreastThen matched
  cases matched with
  | ok related =>
    obtain ⟨last, partsOn, tendingOn, givenOn, bareOn, copiesOn, growsOn, rest⟩ :=
      (second later _ _ grows related).goes abreastThen
    exact ⟨last, partsOn, tendingOn, givenOn, bareOn, copiesOn, grows.trans growsOn, rest⟩
  | error fault =>
    exact ⟨later, between, tending, .error fault, bareThen, copiesThen, grows, abreastThen,
      .error fault, fun _ => rfl⟩

/-- What was computed aside is the same in both. -/
theorem lifting {given : Except Fault γ} {next : γ → PassM α} {follow : Marks → γ → PassM β}
    (goesOn : ∀ value, given = .ok value →
      Along accord twins relates (next value) fun marks => follow marks value) :
    Along accord twins relates (liftExcept given >>= next) fun marks =>
      liftExcept given >>= follow marks := by
  cases given with
  | ok value => exact goesOn value rfl
  | error fault => exact throw fault

/-- It does not matter whether the results are wanted. -/
theorem discard (along : Along accord twins relates step other) :
    Along accord twins (fun _ _ _ => True) (discard step) fun marks =>
      discard (other marks) := by
  have unwanted : ∀ later value result, twins <+: later → relates later value result →
      Along accord later (fun _ _ _ => True) (Pure.pure PUnit.unit : PassM PUnit) fun _ =>
        (Pure.pure PUnit.unit : PassM PUnit) := fun _ _ _ _ _ => pure trivial
  refine ⟨fun {parts undertakings full bare copies} abreast => ?_⟩
  have ended := (bind along unwanted).goes abreast
  simp only [bind_step] at ended
  simp only [discard_step]
  exact ended

/-- It does not matter whether the steps may fail. -/
theorem attempt (along : Along accord twins relates step other) :
    Along accord twins (fun later => Matched (relates later)) (attempt step) fun marks =>
      attempt (other marks) := by
  refine ⟨fun {parts undertakings full bare copies} abreast => ?_⟩
  obtain ⟨later, between, tending, given, bareThen, copiesThen, grows, abreastThen, matched,
    same⟩ :=
    along.goes abreast
  refine ⟨later, between, tending, .ok given, bareThen, copiesThen, grows, abreastThen, .ok matched,
    fun marks => ?_⟩
  have ended : other marks (bare.having (copies marks)) = _ := same marks
  simp only [attempt_step, ended]

end Along

/-! ## Operations on twins -/

namespace Abreast

variable {accord : Accord} {twins later : List Chunk} {parts front back inner : List Part}
  {undertakings more : List Undertaking} {full bare fullThen bareThen : Pass}
  {copies copiesThen : Copies} {chunk other : Chunk} {handle held : Handle}

/-- The handles of twins. -/
theorem handles (abreast : Abreast accord twins parts undertakings full bare copies)
    (twin : Twin twins chunk other) :
    ∃ handle held, full.handles[chunk.number]? = some handle ∧
      bare.handles[other.number]? = some held ∧ handle.taps = held.taps ∧
      handle.complete = held.complete ∧ handle.taps.Harmless :=
  abreast.paired twin

/-- Chunks that have a twin are there. -/
theorem inside (abreast : Abreast accord twins parts undertakings full bare copies)
    (member : chunk ∈ twins) : chunk.number < full.handles.size := by
  obtain ⟨number, lookup⟩ := List.mem_iff_getElem?.mp member
  obtain ⟨_, _, found, _⟩ := abreast.paired lookup
  exact lt_size_of_found found

/-- The place of twins that are open. -/
theorem split (abreast : Abreast accord twins parts undertakings full bare copies)
    (twin : Twin twins chunk other)
    (found : bare.handles[other.number]? = some held) (isOpen : held.complete = false) :
    ∃ front back, parts = front ++ .holes chunk other :: back := by
  have member := mem_holes.mp ((abreast.outlinedBare fun _ => none).holed found isOpen)
  obtain ⟨part, inside, there⟩ := List.mem_flatMap.mp member
  cases part with
  | text content => simp [Part.bare] at there
  | apart inner gap => simp [Part.bare, ofTexts] at there
  | holes own place =>
    obtain rfl : other = place := by simpa [Part.bare] using there
    have fits : Twin twins own other := abreast.fits _ inside
    obtain rfl : chunk = own := Option.some.inj (twin.symm.trans fits)
    exact List.mem_iff_append.mp inside

/-- The full document around the hole of a twin. -/
theorem outlinedAround
    (abreast : Abreast accord twins (front ++ .holes chunk other :: back) undertakings full bare
      copies) :
    full.Outlined (front.flatMap Part.full ++ .hole chunk :: back.flatMap Part.full) := by
  have outlined := abreast.outlinedFull
  rwa [List.flatMap_append, List.flatMap_cons] at outlined

/-- The bare document around the hole of a twin. -/
theorem outlinedAroundBare
    (abreast : Abreast accord twins (front ++ .holes chunk other :: back) undertakings full bare
      copies) (marks : Marks) :
    (bare.having (copies marks)).Outlined
      (front.flatMap (Part.bare marks) ++ .hole other :: back.flatMap (Part.bare marks)) := by
  have outlined := abreast.outlinedBare marks
  rwa [List.flatMap_append, List.flatMap_cons] at outlined

/-- The holes of what calls left are holes of the full document. -/
theorem places_sublist (parts : List Part) :
    (parts.flatMap Part.places).Sublist (holes (parts.flatMap Part.full)) := by
  induction parts with
  | nil => exact .slnil
  | cons part rest ih =>
    rw [List.flatMap_cons, List.flatMap_cons, holes_append]
    refine List.Sublist.append ?_ ih
    cases part with
    | text content => exact List.nil_sublist _
    | holes own place => exact List.nil_sublist _
    | apart inner gap => exact List.Sublist.refl _

/-- Undertakings are at work elsewhere than open twins. -/
theorem elsewhere
    (abreast : Abreast accord twins (front ++ .holes chunk other :: back) undertakings full bare
      copies)
    {undertaking : Undertaking} (member : undertaking ∈ undertakings) :
    undertaking.chunk.number ≠ chunk.number := by
  intro numbers
  have there := abreast.places.subset (List.mem_map_of_mem member)
  rw [Chunk.eq_of_number numbers, List.flatMap_append, List.flatMap_cons, List.mem_append] at there
  have distinct := abreast.outlinedFull.distinct
  rw [List.flatMap_append, List.flatMap_cons, holes_append] at distinct
  obtain ⟨_, behind, disjoint⟩ := List.nodup_append.mp distinct
  rcases there with early | late
  · exact disjoint chunk ((places_sublist front).subset early) chunk List.mem_cons_self rfl
  · exact (List.nodup_cons.mp behind).1 ((places_sublist back).subset late)

/-- What is done at the place of two twins leaves the passes abreast when it leaves the rest of them
alone, but for the work that can go on. -/
theorem put
    (abreast : Abreast accord twins (front ++ .holes chunk other :: back) undertakings full bare
      copies)
    (grows : twins <+: later) (reachedFull : full.Reaches fullThen)
    (reachedBare : ∀ marks,
      (bare.having (copies marks)).Reaches (bareThen.having (copiesThen marks)))
    (aroundFull : Pass.Around { full with agenda := fullThen.agenda } fullThen)
    (aroundBare : Pass.Around { bare with agenda := bareThen.agenda } bareThen)
    (outlinedFull : fullThen.Outlined
      (front.flatMap Part.full ++ inner.flatMap Part.full ++ back.flatMap Part.full))
    (outlinedBare : ∀ marks, (bareThen.having (copiesThen marks)).Outlined
      (front.flatMap (Part.bare marks) ++ inner.flatMap (Part.bare marks) ++
        back.flatMap (Part.bare marks)))
    (sizes : ∀ marks, (copiesThen marks).records.size = bareThen.tree.records.size)
    (fits : ∀ part ∈ inner, part.Fits accord later (undertakings ++ more))
    (others : ∀ number < full.handles.size, number ≠ chunk.number →
      fullThen.handles[number]? = full.handles[number]?)
    (paired : Paired later fullThen.handles bareThen.handles)
    (all : later.length = bareThen.handles.size) (distinct : later.Nodup)
    (places : (more.map fun undertaking => undertaking.chunk).Perm (inner.flatMap Part.places))
    (tended : ∀ undertaking ∈ more, undertaking.Tends accord.looping ∧
      fullThen.HasOpen undertaking.chunk undertaking.taps)
    (scheduled : Scheduled accord later (undertakings ++ more) fullThen.agenda bareThen.agenda) :
    Abreast accord later (front ++ inner ++ back) (undertakings ++ more) fullThen bareThen
      copiesThen := by
  have kept {part : Part} (before : part.Fits accord twins undertakings) :
      part.Fits accord later (undertakings ++ more) := by
    cases part with
    | text content => trivial
    | holes own place => exact twin_mono grows before
    | apart inner gap =>
      exact fun fill yields => before fill fun undertaking member =>
        yields undertaking (List.mem_append_left _ member)
  exact {
    keptFull := abreast.keptFull.reaches reachedFull
    keptBare := fun marks => (abreast.keptBare marks).reaches (reachedBare marks)
    outlinedFull := by simpa only [List.flatMap_append] using outlinedFull
    outlinedBare := by simpa only [List.flatMap_append] using outlinedBare
    sizes := sizes
    fits := by
      have before := abreast.fits
      simp only [List.forall_mem_append, List.forall_mem_cons] at before ⊢
      exact ⟨⟨fun part member => kept (before.1 part member), fits⟩,
        fun part member => kept (before.2.2 part member)⟩
    places := by
      have old := abreast.places
      rw [List.flatMap_append, List.flatMap_cons] at old
      rw [List.map_append, List.flatMap_append, List.flatMap_append]
      refine (old.append places).trans ?_
      have none : (Part.holes chunk other).places = [] := rfl
      rw [none, List.nil_append, List.append_assoc, List.append_assoc]
      exact List.perm_append_comm.append_left _
    tended := by
      refine List.forall_mem_append.mpr ⟨fun undertaking member => ?_, tended⟩
      obtain ⟨tends, handle, found, rest⟩ := abreast.tended undertaking member
      have there := lt_size_of_found found
      exact ⟨tends, handle, (others _ there (abreast.elsewhere member)).trans found, rest⟩
    paired := paired
    all := all
    distinct := distinct
    scheduled := scheduled
    saved := by
      rw [aroundFull.saved, aroundBare.saved]
      exact abreast.saved.imp fun _ _ both => ⟨both.1, twin_mono grows both.2⟩
    gates := by rw [aroundFull.gates, aroundBare.gates, abreast.gates]
    loopingFull := by rw [aroundFull.looping, abreast.loopingFull]
    loopingBare := by rw [aroundBare.looping, abreast.loopingBare]
    failures := by rw [aroundFull.failures, aroundBare.failures, abreast.failures] }

/-- What an operation does at the place of two twins leaves the passes abreast. -/
theorem operate
    (abreast : Abreast accord twins (front ++ .holes chunk other :: back) undertakings full bare
      copies)
    (grows : twins <+: later) (reachedFull : full.Reaches fullThen)
    (reachedBare : ∀ marks,
      (bare.having (copies marks)).Reaches (bareThen.having (copiesThen marks)))
    (aroundFull : full.Around fullThen) (aroundBare : bare.Around bareThen)
    (outlinedFull : fullThen.Outlined
      (front.flatMap Part.full ++ inner.flatMap Part.full ++ back.flatMap Part.full))
    (outlinedBare : ∀ marks, (bareThen.having (copiesThen marks)).Outlined
      (front.flatMap (Part.bare marks) ++ inner.flatMap (Part.bare marks) ++
        back.flatMap (Part.bare marks)))
    (sizes : ∀ marks, (copiesThen marks).records.size = bareThen.tree.records.size)
    (fits : ∀ part ∈ inner, part.Fits accord later undertakings)
    (others : ∀ number < full.handles.size, number ≠ chunk.number →
      fullThen.handles[number]? = full.handles[number]?)
    (paired : Paired later fullThen.handles bareThen.handles)
    (all : later.length = bareThen.handles.size) (distinct : later.Nodup)
    (none : inner.flatMap Part.places = []) :
    Abreast accord later (front ++ inner ++ back) undertakings fullThen bareThen copiesThen := by
  obtain ⟨agendaFull, gatesFull, loopingFull, failuresFull, savedFull⟩ := aroundFull
  obtain ⟨agendaBare, gatesBare, loopingBare, failuresBare, savedBare⟩ := aroundBare
  have same : Abreast accord later (front ++ inner ++ back) (undertakings ++ []) fullThen bareThen
      copiesThen := by
    refine abreast.put grows reachedFull reachedBare
      ⟨rfl, gatesFull, loopingFull, failuresFull, savedFull⟩
      ⟨rfl, gatesBare, loopingBare, failuresBare, savedBare⟩ outlinedFull outlinedBare sizes
      (by rwa [List.append_nil]) others paired all distinct (by rw [none]; rfl) (by simp) ?_
    rw [agendaFull, agendaBare, List.append_nil]
    exact abreast.scheduled.mono grows
  rwa [List.append_nil] at same

/-- Changing the taps of twins in the same way leaves the passes abreast. -/
theorem retap
    (abreast : Abreast accord twins (front ++ .holes chunk other :: back) undertakings full bare
      copies)
    (twin : Twin twins chunk other) {change : TapStack → TapStack}
    (harmless : ∀ taps : TapStack, taps.Harmless → (change taps).Harmless)
    (reachedFull : full.Reaches
      (full.changed chunk fun handle => { handle with taps := change handle.taps }))
    (reachedBare : ∀ marks, (bare.having (copies marks)).Reaches
      ((bare.having (copies marks)).changed other fun handle =>
        { handle with taps := change handle.taps })) :
    Abreast accord twins (front ++ [.holes chunk other] ++ back) undertakings
      (full.changed chunk fun handle => { handle with taps := change handle.taps })
      (bare.changed other fun handle => { handle with taps := change handle.taps }) copies := by
  have outlined : (full.changed chunk fun handle =>
      { handle with taps := change handle.taps }).Outlined _ :=
    abreast.outlinedFull.retapped change
  rw [List.flatMap_append, List.flatMap_cons, ← List.append_assoc] at outlined
  refine abreast.operate List.prefix_rfl reachedFull reachedBare ⟨rfl, rfl, rfl, rfl, rfl⟩
    ⟨rfl, rfl, rfl, rfl, rfl⟩ (by simpa using outlined) (fun marks => ?_) abreast.sizes ?_
    (fun _ _ apart => Pass.changed_other apart _) ?_ ?_
    abreast.distinct rfl
  · have outlinedToo : ((bare.changed other fun handle =>
        { handle with taps := change handle.taps }).having (copies marks)).Outlined _ :=
      (abreast.outlinedBare marks).retapped change
    rw [List.flatMap_append, List.flatMap_cons, ← List.append_assoc] at outlinedToo
    simpa using outlinedToo
  · simp only [List.forall_mem_singleton]
    exact twin
  · refine Paired.modify abreast.paired abreast.distinct twin
      fun handle held taps complete safe => ?_
    exact ⟨congrArg change taps, complete, harmless _ safe⟩
  · rw [abreast.all]
    simp [Pass.changed]

end Abreast

namespace Along

variable {α β : Type} {accord : Accord} {twins : List Chunk}
  {relates : List Chunk → α → β → Prop} {chunk other : Chunk}

/-- Operations that are refused on complete chunks go along on twins when they do so on open
ones. -/
theorem opened (twin : Twin twins chunk other) (operation : ChunkOperation)
    {next : PUnit → PassM α} {follow : Marks → PUnit → PassM β}
    (goesOn : ∀ {front back : List Part} {undertakings : List Undertaking} {full bare : Pass}
        {copies : Copies} {handle held : Handle},
      Abreast accord twins (front ++ .holes chunk other :: back) undertakings full bare copies →
      full.Writable chunk handle → (∀ marks, (bare.having (copies marks)).Writable other held) →
      handle.taps = held.taps → handle.taps.Harmless →
      EndAbreast accord twins relates ((chunk.ensureOpen operation >>= next) full) fun marks =>
        (other.ensureOpen operation >>= follow marks) (bare.having (copies marks))) :
    Along accord twins relates (chunk.ensureOpen operation >>= next) fun marks =>
      other.ensureOpen operation >>= follow marks := by
  refine ⟨fun {parts undertakings full bare copies} abreast => ?_⟩
  obtain ⟨handle, held, found, foundToo, taps, complete, harmless⟩ := abreast.handles twin
  cases isOpen : held.complete with
  | true =>
    rw [bind_step, Chunk.ensureOpen_step found, complete, isOpen]
    refine abreast.ends (.error _) fun marks => ?_
    have ended := Chunk.ensureOpen_step (show (bare.having (copies marks)).handles[_]? = _ from
      foundToo) operation
    simp only [bind_step, ended, isOpen, if_true]
  | false =>
    obtain ⟨front, back, rfl⟩ := abreast.split twin foundToo isOpen
    exact goesOn abreast (abreast.keptFull.owned.writable found (complete.trans isOpen))
      (fun marks => (abreast.keptBare marks).owned.writable foundToo isOpen) taps harmless

/-- Writing goes along. -/
theorem write (twin : Twin twins chunk other) (value : Value) :
    Along accord twins (fun _ _ _ => True) (chunk.write value) fun _ => other.write value := by
  refine opened twin .write fun {front back undertakings full bare copies handle held} abreast
    writable writableToo taps harmless => ?_
  show EndAbreast accord twins _ (chunk.write value full) fun marks =>
    other.write value (bare.having (copies marks))
  by_cases absent : value = .null
  · rw [absent, Chunk.write_null writable.found writable.isOpen]
    exact abreast.ends (.ok trivial) fun marks =>
      Chunk.write_null (writableToo marks).found (writableToo marks).isOpen
  · have wrote := writable.write_value harmless absent
    have wroteToo (marks : Marks) := (writableToo marks).write_value (taps ▸ harmless) absent
    have reached := (reaches_endure.write chunk value).after wrote
    rw [wrote]
    let text := handle.taps.effect value.toText
    let copiesThen : Copies := fun marks =>
      (copies marks).received held.record [held.taps.effect value.toText]
    have abreastThen : Abreast accord twins (front ++ [.text text, .holes chunk other] ++ back)
        undertakings (full.wrote handle [text] full.memory) bare copiesThen :=
      abreast.operate List.prefix_rfl reached (fun marks => ?reached) ⟨rfl, rfl, rfl, rfl, rfl⟩
        ⟨rfl, rfl, rfl, rfl, rfl⟩ (abreast.outlinedAround.wrote writable.found [text] _)
        (fun marks => ?outlined) (fun marks => ?sizes) ?fits (fun _ _ _ => rfl) abreast.paired
        abreast.all abreast.distinct rfl
    exact abreastThen.ends (.ok trivial) wroteToo
    case reached => exact (reaches_endure.write other value).after (wroteToo marks)
    case outlined =>
      simp only [copiesThen, ← taps]
      exact (abreast.outlinedAroundBare marks).wrote (writableToo marks).found [text] bare.memory
    case sizes =>
      obtain ⟨_, whole⟩ := (abreast.keptBare marks).whole
      exact (whole.receives (writableToo marks).record _).size.trans (abreast.sizes marks)
    case fits =>
      simp only [List.forall_mem_cons]
      exact ⟨trivial, twin, by simp⟩

/-- Putting a harmless tap on goes along. -/
theorem tap (twin : Twin twins chunk other) (transform : String → String) :
    Along accord twins (fun _ _ _ => True) (chunk.tap (some (.total transform))) fun _ =>
      other.tap (some (.total transform)) := by
  refine opened twin .tap fun {front back undertakings full bare copies handle held} abreast
    writable writableToo taps harmless => ?_
  show EndAbreast accord twins _ (chunk.tap (some (.total transform)) full) fun marks =>
    other.tap (some (.total transform)) (bare.having (copies marks))
  let tap : Tap := .stateless (.ok ∘ transform)
  have installed (memory : TapMemory) :
      (Transform.total transform).install memory = (.ok tap, memory) := rfl
  have tapped := Chunk.tap_step writable.found writable.isOpen (installed full.memory)
  have tappedToo (marks : Marks) := Chunk.tap_step (writableToo marks).found
    (writableToo marks).isOpen (installed bare.memory)
  have reached := (reaches_endure.tap chunk _).after tapped
  have reachedToo (marks : Marks) := (reaches_endure.tap other _).after (tappedToo marks)
  rw [tapped]
  have retapped := abreast.retap twin (fun taps safe => safe.push transform) reached reachedToo
  exact retapped.ends (.ok trivial) tappedToo

/-- What is no transform is refused alike. -/
theorem tap_none (twin : Twin twins chunk other) :
    Along accord twins (fun _ _ _ => True) (chunk.tap none) fun _ => other.tap none := by
  refine opened twin .tap fun {front back undertakings full bare copies handle held} abreast
    writable writableToo _ _ => ?_
  rw [bind_step, Chunk.ensureOpen_step writable.found, writable.isOpen]
  refine abreast.ends (.error _) fun marks => ?_
  have opens := Chunk.ensureOpen_step (writableToo marks).found .tap
  simp only [bind_step, opens, (writableToo marks).isOpen]
  rfl

/-- Taking a tap off goes along. -/
theorem untap (twin : Twin twins chunk other) :
    Along accord twins (fun _ _ _ => True) chunk.untap fun _ => other.untap := by
  refine ⟨fun {parts undertakings full bare copies} abreast => ?_⟩
  obtain ⟨handle, held, found, foundToo, taps, complete, harmless⟩ := abreast.handles twin
  have step := Chunk.untap_step found
  have stepToo (marks : Marks) := Chunk.untap_step
    (show (bare.having (copies marks)).handles[_]? = _ from foundToo)
  rw [taps] at step
  cases popped : held.taps.pop with
  | error fault =>
    simp only [popped] at step stepToo
    rw [step]
    exact abreast.ends (.error fault) stepToo
  | ok taken =>
    obtain ⟨tap, rest⟩ := taken
    simp only [popped] at step stepToo
    have isOpen := ((abreast.keptBare fun _ => none).owned.writable_of_pop foundToo popped).isOpen
    obtain ⟨front, back, rfl⟩ := abreast.split twin foundToo isOpen
    have reached := (reaches_endure.untap chunk).after step
    have reachedToo (marks : Marks) := (reaches_endure.untap other).after (stepToo marks)
    have safe : rest.Harmless := by
      obtain ⟨frames, inherited, most⟩ := TapStack.depth_of_pop popped
      refine ⟨fun tap member => harmless.total tap ?_, inherited ▸ most⟩
      rw [taps, frames]
      exact List.mem_cons_of_mem _ member
    rw [step]
    have retapped := abreast.retap twin (fun _ _ => safe) reached reachedToo
    exact retapped.ends (.ok trivial) stepToo

/-- Forking branches goes along, and the branches are twins. -/
theorem branch (twin : Twin twins chunk other) :
    Along accord twins Twin chunk.branch fun _ => other.branch := by
  refine opened twin .map fun {front back undertakings full bare copies handle held} abreast
    writable writableToo taps harmless => ?_
  show EndAbreast accord twins _ (chunk.branch full) fun marks =>
    other.branch (bare.having (copies marks))
  obtain ⟨_, whole⟩ := abreast.keptFull.whole
  obtain ⟨tree, forks, _⟩ := whole.forks writable.record
  have branched : chunk.branch full = (.ok ⟨full.handles.size⟩, full.forked chunk handle tree) := by
    rw [Chunk.branch_step writable.found writable.isOpen, forks]
    rfl
  have forksToo (marks : Marks) : ∃ treeToo,
      RenderTree.fork held.record (copies marks) =
        (.ok ((copies marks).records.size + 1, (copies marks).records.size), treeToo) ∧
      treeToo.records.size = bare.tree.records.size + 2 := by
    obtain ⟨_, wholeToo⟩ := (abreast.keptBare marks).whole
    obtain ⟨treeToo, forksToo, size, _⟩ := wholeToo.forks (writableToo marks).record
    exact ⟨treeToo, forksToo, size.trans (congrArg (· + 2) (abreast.sizes marks))⟩
  choose copiesThen forksToo sizes using forksToo
  let bareThen : Pass := (bare.forked other held bare.tree).having (copiesThen fun _ => none)
  have forked (marks : Marks) : (bare.having (copies marks)).forked other held (copiesThen marks) =
      bareThen.having (copiesThen marks) := by
    simp only [bareThen, Pass.forked, Pass.changed, abreast.sizes]
  have branchedToo (marks : Marks) : other.branch (bare.having (copies marks)) =
      (.ok ⟨bare.handles.size⟩, bareThen.having (copiesThen marks)) := by
    rw [Chunk.branch_step (writableToo marks).found (writableToo marks).isOpen, ← forked]
    show _ = _
    rw [forksToo]
    rfl
  have reached := (reaches_endure.branch chunk).after branched
  have reachedToo (marks : Marks) := (reaches_endure.branch other).after (branchedToo marks)
  let later := twins ++ [⟨full.handles.size⟩]
  let inner : List Part := [.holes ⟨full.handles.size⟩ ⟨bare.handles.size⟩, .holes chunk other]
  have outlinedThen : (full.forked chunk handle tree).Outlined
      (front.flatMap Part.full ++ inner.flatMap Part.full ++ back.flatMap Part.full) :=
    abreast.outlinedAround.forked writable.found writable.isOpen forks
  have outlinedThenToo (marks : Marks) : (bareThen.having (copiesThen marks)).Outlined
      (front.flatMap (Part.bare marks) ++ inner.flatMap (Part.bare marks) ++
        back.flatMap (Part.bare marks)) := by
    rw [← forked]
    exact (abreast.outlinedAroundBare marks).forked (writableToo marks).found
      (writableToo marks).isOpen (forksToo marks)
  have grows : twins <+: later := List.prefix_append _ _
  have branches : Twin later ⟨full.handles.size⟩ ⟨bare.handles.size⟩ := by
    rw [Twin, ← abreast.all, List.getElem?_concat_length]
  have distinct : later.Nodup := by
    refine List.nodup_append.mpr ⟨abreast.distinct, List.nodup_singleton _, ?_⟩
    rintro own member last new rfl
    obtain rfl := List.mem_singleton.mp new
    exact Nat.lt_irrefl _ (abreast.inside member)
  have pushed : Paired later (full.handles.push
        { record := full.tree.records.size + 1, taps := handle.taps.inherit })
      (bare.handles.push { record := bare.tree.records.size + 1, taps := held.taps.inherit }) :=
    Paired.push abreast.paired abreast.all (congrArg TapStack.inherit taps) rfl harmless.inherit
  rw [branched]
  refine ⟨later, front ++ inner ++ back, undertakings, .ok _, bareThen, copiesThen, grows, ?_,
    .ok branches, branchedToo⟩
  refine abreast.operate grows reached reachedToo ⟨rfl, rfl, rfl, rfl, rfl⟩
    ⟨rfl, rfl, rfl, rfl, rfl⟩ outlinedThen outlinedThenToo
    (fun marks => (sizes marks).trans (sizes _).symm) ?_
    (fun number old apart => Pass.forked_other apart old tree) ?_ ?_ distinct rfl
  · simp only [inner, List.forall_mem_cons]
    exact ⟨branches, twin_mono grows twin, by simp⟩
  · refine Paired.modify pushed distinct (twin_mono grows twin) fun _ _ taps complete safe => ?_
    exact ⟨taps, complete, safe⟩
  · simp [later, bareThen, abreast.all, Pass.forked, Pass.changed]

/-- Completing goes along. -/
theorem complete (twin : Twin twins chunk other) :
    Along accord twins (fun _ _ _ => True) chunk.complete fun _ => other.complete := by
  refine opened twin .finish fun {front back undertakings full bare copies handle held} abreast
    writable writableToo taps harmless => ?_
  show EndAbreast accord twins _ (chunk.complete full) fun marks =>
    other.complete (bare.having (copies marks))
  by_cases untapped : handle.taps.depth = 0
  · have untappedToo : held.taps.depth = 0 := taps ▸ untapped
    obtain ⟨_, whole⟩ := abreast.keptFull.whole
    obtain ⟨tree, completes, _⟩ := whole.completes writable.record
    have completed : chunk.complete full = (.ok (), full.completed chunk tree) := by
      rw [Chunk.complete_step writable.found writable.isOpen untapped]
      simp only [Pass.onTree_step, Pass.changed, completes, Pass.completed]
    have completesToo (marks : Marks) : ∃ treeToo,
        RenderTree.complete held.record (copies marks) = (.ok (), treeToo) ∧
        treeToo.records.size = bare.tree.records.size := by
      obtain ⟨_, wholeToo⟩ := (abreast.keptBare marks).whole
      obtain ⟨treeToo, completesToo, size, _⟩ := wholeToo.completes (writableToo marks).record
      exact ⟨treeToo, completesToo, size.trans (abreast.sizes marks)⟩
    choose copiesThen completesToo sizes using completesToo
    let bareThen : Pass := bare.completed other bare.tree
    have completedToo (marks : Marks) : other.complete (bare.having (copies marks)) =
        (.ok (), bareThen.having (copiesThen marks)) := by
      rw [Chunk.complete_step (writableToo marks).found (writableToo marks).isOpen untappedToo]
      simp only [Pass.onTree_step, Pass.changed, completesToo, bareThen, Pass.completed]
    have reached := (reaches_endure.complete chunk).after completed
    have reachedToo (marks : Marks) := (reaches_endure.complete other).after (completedToo marks)
    have outlinedThen :=
      abreast.outlinedAround.completed writable.found writable.isOpen untapped completes
    have outlinedThenToo (marks : Marks) : (bareThen.having (copiesThen marks)).Outlined
        (front.flatMap (Part.bare marks) ++ back.flatMap (Part.bare marks)) :=
      (abreast.outlinedAroundBare marks).completed (writableToo marks).found
        (writableToo marks).isOpen untappedToo (completesToo marks)
    rw [completed]
    have abreastThen : Abreast accord twins (front ++ [] ++ back) undertakings
        (full.completed chunk tree) bareThen copiesThen := by
      refine abreast.operate List.prefix_rfl reached reachedToo ⟨rfl, rfl, rfl, rfl, rfl⟩
        ⟨rfl, rfl, rfl, rfl, rfl⟩ (by simpa using outlinedThen)
        (fun marks => by simpa using outlinedThenToo marks) sizes (by simp)
        (fun _ _ apart => Pass.changed_other apart _) ?_ ?_ abreast.distinct rfl
      · refine Paired.modify abreast.paired abreast.distinct twin fun _ _ taps _ safe => ?_
        exact ⟨taps, rfl, safe⟩
      · simp [bareThen, abreast.all, Pass.completed, Pass.changed]
    exact abreastThen.ends (.ok trivial) completedToo
  · have tappedToo : held.taps.depth ≠ 0 := taps ▸ untapped
    rw [Chunk.complete_tapped writable.found writable.isOpen untapped, taps]
    exact abreast.ends (.error _) fun marks =>
      Chunk.complete_tapped (writableToo marks).found (writableToo marks).isOpen tappedToo

end Along

end TemplateStream
