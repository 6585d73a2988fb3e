import Mathlib.Data.List.Forall2
import TemplateStream.Proofs.ChunkSteps
import TemplateStream.Proofs.Confined

/-!
# Passes that mirror each other

Two passes that began alike but for what taps remembered before go on alike as long as all scripts
keep to themselves: each operation on a chunk of theirs gives the same result in both and leaves
them alike. Taps that remember have other numbers in the other pass, by a shift that stays the
same, and have heard the same since they were installed. The handles that were there at the
beginning are left as they were.
-/

namespace TemplateStream

/-! ## Taps -/

variable {base twin bound later : Nat}

/-- The texts of one more call are those of the calls before, and its own if it is one of the
tap. -/
theorem textsFor_concat (number : Nat) (calls : List TapCall) (call : TapCall) :
    textsFor number (calls ++ [call]) =
      textsFor number calls ++ if call.tap = number then [call.text] else [] := by
  by_cases own : call.tap = number
  · simp [textsFor, own]
  · simp [textsFor, own]

/-- Two taps that do the same, of which those that remember go by what themselves were called with
and have numbers of the same distance from two bases. -/
inductive SameTap (base twin bound : Nat) : Tap → Tap → Prop where
  | stateless (apply : String → Except Fault String) :
      SameTap base twin bound (.stateless apply) (.stateless apply)
  | remembering {apply held : List TapCall → String → Except Fault String} (offset : Nat)
      (own : List String → String → Except Fault String) (counted : base + offset < bound)
      (goes : ∀ calls text, apply calls text = own (textsFor (base + offset) calls) text)
      (goesToo : ∀ calls text, held calls text = own (textsFor (twin + offset) calls) text) :
      SameTap base twin bound (.remembering (base + offset) apply)
        (.remembering (twin + offset) held)

theorem SameTap.mono {tap held : Tap} (same : SameTap base twin bound tap held)
    (more : bound ≤ later) : SameTap base twin later tap held := by
  cases same with
  | stateless apply => exact .stateless apply
  | remembering offset own counted goes goesToo =>
    exact .remembering offset own (Nat.lt_of_lt_of_le counted more) goes goesToo

/-- Two memories in which as many taps were installed since two bases, and heard the same. Only
installed taps were called. -/
structure SameMemory (base twin : Nat) (memory held : TapMemory) : Prop where
  count : ∃ count, memory.installed = base + count ∧ held.installed = twin + count
  heard : ∀ offset, textsFor (base + offset) memory.calls = textsFor (twin + offset) held.calls
  counted : ∀ call ∈ memory.calls, call.tap < memory.installed

/-- Taps that do the same give the same and hear the same. -/
theorem SameTap.applied {tap held : Tap} {memory other : TapMemory}
    (same : SameTap base twin memory.installed tap held)
    (memories : SameMemory base twin memory other) (text : String) :
    (held.apply text other).1 = (tap.apply text memory).1 ∧
      SameMemory base twin (tap.apply text memory).2 (held.apply text other).2 ∧
      (tap.apply text memory).2.installed = memory.installed := by
  cases same with
  | stateless apply =>
    simp only [Tap.apply, liftExcept_step]
    exact ⟨trivial, memories, trivial⟩
  | @remembering apply held offset own counted goes goesToo =>
    simp only [Tap.apply, bind_step, get_step, set_step, liftExcept_step]
    refine ⟨?_, ⟨memories.count, fun other => ?_, fun call member => ?_⟩, trivial⟩
    · rw [goes, goesToo, memories.heard]
    · rw [textsFor_concat, textsFor_concat, memories.heard]
      by_cases own : offset = other
      · simp [own]
      · simp [own]
    · rcases List.mem_append.mp member with member | last
      · exact memories.counted call member
      · rw [List.mem_singleton.mp last]
        exact counted

/-- A transform that keeps to itself is installed as taps that do the same. -/
theorem Transform.Confined.installed {transform : Transform} (confined : transform.Confined)
    {memory other : TapMemory} (memories : SameMemory base twin memory other) :
    ∃ tap held after afterToo, transform.install memory = (.ok tap, after) ∧
      transform.install other = (.ok held, afterToo) ∧
      memory.installed ≤ after.installed ∧ SameMemory base twin after afterToo ∧
      SameTap base twin after.installed tap held := by
  cases transform with
  | stateless apply =>
    exact ⟨_, _, memory, other, rfl, rfl, Nat.le_refl _, memories, .stateless apply⟩
  | remembering apply =>
    obtain ⟨own, goes⟩ := confined
    obtain ⟨count, here, there⟩ := memories.count
    refine ⟨_, _, _, _, rfl, rfl, Nat.le_succ _, ⟨⟨count + 1, ?_, ?_⟩, memories.heard, ?_⟩, ?_⟩
    · exact congrArg (· + 1) here
    · exact congrArg (· + 1) there
    · exact fun call member => Nat.lt_succ_of_lt (memories.counted call member)
    · rw [here, there]
      exact .remembering count own (by simp) (fun _ _ => goes _ _ _) fun _ _ => goes _ _ _

/-- Two stacks of taps that do the same. -/
structure SameTaps (base twin bound : Nat) (taps held : TapStack) : Prop where
  frames : List.Forall₂ (SameTap base twin bound) taps.frames held.frames
  inherited : held.inherited = taps.inherited

namespace SameTaps

variable {taps held : TapStack}

theorem mono (same : SameTaps base twin bound taps held) (more : bound ≤ later) :
    SameTaps base twin later taps held where
  frames := same.frames.imp fun _ _ tap => tap.mono more
  inherited := same.inherited

theorem depth (same : SameTaps base twin bound taps held) : held.depth = taps.depth := by
  rw [TapStack.depth, TapStack.depth, same.frames.length_eq, same.inherited]

theorem push (same : SameTaps base twin bound taps held) {tap other : Tap}
    (new : SameTap base twin bound tap other) :
    SameTaps base twin bound (taps.push tap) (held.push other) where
  frames := .cons new same.frames
  inherited := same.inherited

theorem inherit (same : SameTaps base twin bound taps held) :
    SameTaps base twin bound taps.inherit held.inherit where
  frames := same.frames
  inherited := same.frames.length_eq.symm

/-- The newest taps can be taken off both stacks, or off neither. -/
theorem pop (same : SameTaps base twin bound taps held) :
    (∃ fault, taps.pop = .error fault ∧ held.pop = .error fault) ∨
      ∃ tap left other leftToo, taps.pop = .ok (tap, left) ∧ held.pop = .ok (other, leftToo) ∧
        SameTaps base twin bound left leftToo := by
  obtain ⟨frames, inherited⟩ := taps
  obtain ⟨framesToo, inheritedToo⟩ := held
  obtain ⟨all, below⟩ := same
  cases below
  cases all with
  | nil => exact .inl ⟨_, rfl, rfl⟩
  | @cons tap other rest left first others =>
    have lengths : left.length = rest.length := others.length_eq.symm
    by_cases own : inherited < rest.length + 1
    · refine .inr ⟨tap, _, other, _, if_pos own, if_pos (by simpa [lengths] using own), others, rfl⟩
    · exact .inl ⟨_, if_neg own, if_neg (by simpa [lengths] using own)⟩

/-- Stacks that do the same give the same and hear the same. -/
theorem applied {memory other : TapMemory} (same : SameTaps base twin memory.installed taps held)
    (memories : SameMemory base twin memory other) (text : String) :
    (held.apply text other).1 = (taps.apply text memory).1 ∧
      SameMemory base twin (taps.apply text memory).2 (held.apply text other).2 ∧
      (taps.apply text memory).2.installed = memory.installed := by
  obtain ⟨all, _⟩ := same
  unfold TapStack.apply
  generalize taps.frames = frames at all
  generalize held.frames = others at all
  generalize counted : memory.installed = bound at all
  -- The bound of the taps stays fixed while the memory grows, since no tap is installed.
  induction all generalizing memory other text with
  | nil => exact ⟨rfl, memories, counted⟩
  | @cons tap held rest left first _ ih =>
    have step : SameTap base twin memory.installed tap held := counted ▸ first
    obtain ⟨sameText, heard, still⟩ := step.applied memories text
    simp only [List.foldlM_cons, bind_step]
    rcases ran : tap.apply text memory with ⟨fault | passed, after⟩
    all_goals
      rcases ranToo : held.apply text other with ⟨faultToo | passedToo, afterToo⟩
      all_goals
        rw [ran, ranToo] at sameText heard
        rw [ran] at still
        cases sameText
    · exact ⟨rfl, heard, still.trans counted⟩
    · exact ih heard passed (still.trans counted)

end SameTaps

/-! ## Passes -/

/-- Two handles that do the same. -/
structure SameHandle (base twin bound : Nat) (handle held : Handle) : Prop where
  record : held.record = handle.record
  complete : held.complete = handle.complete
  taps : SameTaps base twin bound handle.taps held.taps

theorem SameHandle.mono {handle held : Handle} (same : SameHandle base twin bound handle held)
    (more : bound ≤ later) : SameHandle base twin later handle held where
  record := same.record
  complete := same.complete
  taps := same.taps.mono more

/-- A pass with other handles and another memory. -/
def Pass.beside (pass : Pass) (handles : Array Handle) (memory : TapMemory) : Pass :=
  { pass with handles, memory }

/-- A pass that began in the given state, and other handles and another memory with which it would
do the same. The handles that were there at the beginning are as they were, and all else that was
begun keeps to itself. -/
structure Mirrors (first : Pass) (twin : Nat) (pass : Pass) (handles : Array Handle)
    (memory : TapMemory) : Prop where
  memory : SameMemory first.memory.installed twin pass.memory memory
  size : handles.size = pass.handles.size
  more : first.handles.size ≤ pass.handles.size
  former : ∀ number < first.handles.size, pass.handles[number]? = first.handles[number]?
  saved : pass.saved = first.saved
  same : ∀ number handle, first.handles.size ≤ number → pass.handles[number]? = some handle →
    ∃ held, handles[number]? = some held ∧
      SameHandle first.memory.installed twin pass.memory.installed handle held
  agenda : pass.agenda.Confined first.handles.size

namespace Mirrors

variable {first pass : Pass} {handles : Array Handle} {memory : TapMemory} {chunk : Chunk}

/-- A chunk of the pass has a handle with both, which do the same, or with neither. -/
theorem handle (mirrors : Mirrors first twin pass handles memory)
    (since : chunk.Since first.handles.size) :
    (pass.handles[chunk.number]? = none ∧
        (pass.beside handles memory).handles[chunk.number]? = none) ∨
      ∃ handle held, pass.handles[chunk.number]? = some handle ∧
        (pass.beside handles memory).handles[chunk.number]? = some held ∧
        SameHandle first.memory.installed twin pass.memory.installed handle held := by
  cases found : pass.handles[chunk.number]? with
  | none =>
    rw [Array.getElem?_eq_none_iff, ← mirrors.size, ← Array.getElem?_eq_none_iff] at found
    exact .inl ⟨rfl, found⟩
  | some handle =>
    obtain ⟨held, foundToo, same⟩ := mirrors.same chunk.number handle since found
    exact .inr ⟨handle, held, rfl, foundToo, same⟩

/-- A change to the tree and what else belongs to neither handles nor taps nor what was begun. -/
theorem aside (mirrors : Mirrors first twin pass handles memory) {after : Pass}
    (handlesStay : after.handles = pass.handles) (memoryStays : after.memory = pass.memory)
    (savedStays : after.saved = pass.saved) (agenda : after.agenda.Confined first.handles.size) :
    Mirrors first twin after handles memory where
  memory := memoryStays ▸ mirrors.memory
  size := handlesStay ▸ mirrors.size
  more := handlesStay ▸ mirrors.more
  former := handlesStay ▸ mirrors.former
  saved := savedStays.trans mirrors.saved
  same := by
    rw [handlesStay, memoryStays]
    exact mirrors.same
  agenda := agenda

/-- Taps were installed or called in both alike. -/
theorem remembers (mirrors : Mirrors first twin pass handles memory) {next nextToo : TapMemory}
    (memories : SameMemory first.memory.installed twin next nextToo)
    (more : pass.memory.installed ≤ next.installed) :
    Mirrors first twin { pass with memory := next } handles nextToo where
  memory := memories
  size := mirrors.size
  more := mirrors.more
  former := mirrors.former
  saved := mirrors.saved
  same number handle since found := by
    obtain ⟨held, foundToo, same⟩ := mirrors.same number handle since found
    exact ⟨held, foundToo, same.mono more⟩
  agenda := mirrors.agenda

/-- The handle of a chunk of the pass was changed in both alike. -/
theorem changed (mirrors : Mirrors first twin pass handles memory)
    (since : chunk.Since first.handles.size) {change changeToo : Handle → Handle}
    (alike : ∀ handle held,
      SameHandle first.memory.installed twin pass.memory.installed handle held →
      SameHandle first.memory.installed twin pass.memory.installed (change handle)
        (changeToo held)) :
    Mirrors first twin (pass.changed chunk change)
      (handles.modify chunk.number changeToo) memory where
  memory := mirrors.memory
  size := by simpa [Pass.changed] using mirrors.size
  more := by simpa [Pass.changed] using mirrors.more
  former number early := by
    have other : chunk.number ≠ number := Nat.ne_of_gt (Nat.lt_of_lt_of_le early since)
    rw [Pass.changed, Array.getElem?_modify, if_neg other]
    exact mirrors.former number early
  saved := mirrors.saved
  same number handle late found := by
    rw [Pass.changed, Array.getElem?_modify] at found
    rw [Array.getElem?_modify]
    split at found
    · obtain ⟨old, there, rfl⟩ := Option.map_eq_some_iff.mp found
      obtain ⟨held, foundToo, same⟩ := mirrors.same number old late there
      exact ⟨changeToo held, by rw [if_pos ‹_›, foundToo, Option.map_some], alike old held same⟩
    · rw [if_neg ‹_›]
      exact mirrors.same number handle late found
  agenda := mirrors.agenda

/-- A handle was made in both alike. -/
theorem created (mirrors : Mirrors first twin pass handles memory) {handle held : Handle}
    (same : SameHandle first.memory.installed twin pass.memory.installed handle held) :
    Mirrors first twin { pass with handles := pass.handles.push handle } (handles.push held)
      memory where
  memory := mirrors.memory
  size := by simpa using mirrors.size
  more := by
    rw [Array.size_push]
    exact Nat.le_succ_of_le mirrors.more
  former number early := by
    have before : number ≠ pass.handles.size :=
      Nat.ne_of_lt (Nat.lt_of_lt_of_le early mirrors.more)
    rw [Array.getElem?_push, if_neg before]
    exact mirrors.former number early
  saved := mirrors.saved
  same number other late found := by
    rw [Array.getElem?_push] at found
    rw [Array.getElem?_push, mirrors.size]
    split at found
    · cases found
      exact ⟨held, if_pos ‹_›, same⟩
    · rw [if_neg ‹_›]
      exact mirrors.same number other late found
  agenda := mirrors.agenda

end Mirrors

/-! ## Steps -/

section steps

open Chunk

variable {first pass : Pass} {handles : Array Handle} {memory : TapMemory} {chunk : Chunk}
  {α β : Type} {good : α → Prop} {better : β → Prop} {step : PassM α}

/-- A step goes alike from a pass and from a state that mirrors it, and its result, if it does not
fail, is as told. -/
def MirroredAt (first : Pass) (twin : Nat) (pass : Pass) (handles : Array Handle)
    (memory : TapMemory) (good : α → Prop) (step : PassM α) : Prop :=
  ∃ handlesThen memoryThen,
    step (pass.beside handles memory) =
        ((step pass).1, (step pass).2.beside handlesThen memoryThen) ∧
    Mirrors first twin (step pass).2 handlesThen memoryThen ∧
    ∀ value, (step pass).1 = .ok value → good value

/-- A step goes alike wherever a pass is mirrored. -/
def Mirrored (first : Pass) (twin : Nat) (good : α → Prop) (step : PassM α) : Prop :=
  ∀ pass handles memory, Mirrors first twin pass handles memory →
    MirroredAt first twin pass handles memory good step

/-- A result of which nothing is asked. -/
abbrev anything : α → Prop := fun _ => True

namespace MirroredAt

theorem of_run {result : Except Fault α} {after : Pass} {handlesThen : Array Handle}
    {memoryThen : TapMemory} (ran : step pass = (result, after))
    (ranToo : step (pass.beside handles memory) = (result, after.beside handlesThen memoryThen))
    (mirrors : Mirrors first twin after handlesThen memoryThen)
    (fine : ∀ value, result = .ok value → good value) :
    MirroredAt first twin pass handles memory good step := by
  refine ⟨handlesThen, memoryThen, ?_⟩
  rw [ran]
  exact ⟨ranToo, mirrors, fine⟩

theorem of_fault {fault : Fault} {after : Pass} {handlesThen : Array Handle}
    {memoryThen : TapMemory} (ran : step pass = (.error fault, after))
    (ranToo : step (pass.beside handles memory) =
      (.error fault, after.beside handlesThen memoryThen))
    (mirrors : Mirrors first twin after handlesThen memoryThen) :
    MirroredAt first twin pass handles memory good step :=
  of_run ran ranToo mirrors nofun

theorem of_value {value : α} {after : Pass} {handlesThen : Array Handle}
    {memoryThen : TapMemory} (ran : step pass = (.ok value, after))
    (ranToo : step (pass.beside handles memory) = (.ok value, after.beside handlesThen memoryThen))
    (mirrors : Mirrors first twin after handlesThen memoryThen) (fine : good value) :
    MirroredAt first twin pass handles memory good step :=
  of_run ran ranToo mirrors fun _ same => by cases same; exact fine

/-- A step that comes to what another one does later. -/
theorem of_later {other : PassM α} {middle : Pass} {handlesThen : Array Handle}
    {memoryThen : TapMemory}
    (mirrored : MirroredAt first twin middle handlesThen memoryThen good other)
    (ran : step pass = other middle)
    (ranToo : step (pass.beside handles memory) = other (middle.beside handlesThen memoryThen)) :
    MirroredAt first twin pass handles memory good step := by
  rw [MirroredAt, ran, ranToo]
  exact mirrored

end MirroredAt

namespace Mirrored

theorem pure {value : α} (fine : good value) : Mirrored first twin good (pure value) :=
  fun _ _ _ mirrors => .of_value rfl rfl mirrors fine

theorem throw (fault : Fault) : Mirrored first twin good (throw fault) :=
  fun _ _ _ mirrors => .of_fault rfl rfl mirrors

theorem lift {result : Except Fault α} (fine : ∀ value, result = .ok value → good value) :
    Mirrored first twin good (liftExcept result) :=
  fun _ _ _ mirrors => .of_run (liftExcept_step _ _) (liftExcept_step _ _) mirrors fine

/-- What follows may rely on what is told of the result before it. -/
theorem bind {next : α → PassM β} (before : Mirrored first twin good step)
    (later : ∀ value, good value → Mirrored first twin better (next value)) :
    Mirrored first twin better (step >>= next) := by
  intro pass handles memory mirrors
  obtain ⟨handlesThen, memoryThen, ranToo, after, fine⟩ := before pass handles memory mirrors
  rcases ran : step pass with ⟨fault | value, middle⟩
  all_goals rw [ran] at ranToo after fine
  · exact .of_fault (by rw [bind_step, ran]) (by rw [bind_step, ranToo]) after
  · obtain ⟨handlesLast, memoryLast, endedToo, last, finer⟩ :=
      later value (fine value rfl) middle handlesThen memoryThen after
    have ended : (step >>= next) pass = next value middle := by rw [bind_step, ran]
    refine ⟨handlesLast, memoryLast, ?_⟩
    rw [ended]
    refine ⟨?_, last, finer⟩
    rw [bind_step, ranToo]
    exact endedToo

theorem attempt (mirrored : Mirrored first twin good step) :
    Mirrored first twin (fun result => ∀ value, result = .ok value → good value)
      (attempt step) := by
  intro pass handles memory mirrors
  obtain ⟨handlesThen, memoryThen, ran, after, fine⟩ := mirrored pass handles memory mirrors
  refine .of_run (attempt_step step pass) ?_ after fun result same => ?_
  · rw [attempt_step, ran]
  · cases same
    exact fine

theorem discard (mirrored : Mirrored first twin good step) :
    Mirrored first twin anything (discard step) := by
  have same : (Functor.discard step : PassM PUnit) = step >>= fun _ => Pure.pure ⟨⟩ := by
    rw [bind_pure_comp]
    rfl
  have nothing : Mirrored first twin anything (Pure.pure ⟨⟩ : PassM PUnit) := pure trivial
  rw [same]
  exact mirrored.bind fun _ _ => nothing

theorem foldlM {γ : Type} {next : α → γ → PassM α} {entries : List γ}
    (each : ∀ value entry, good value → entry ∈ entries →
      Mirrored first twin good (next value entry)) {value : α} (fine : good value) :
    Mirrored first twin good (entries.foldlM next value) := by
  induction entries generalizing value with
  | nil => exact pure fine
  | cons entry rest ih =>
    rw [List.foldlM_cons]
    exact (each value entry fine List.mem_cons_self).bind fun next fine =>
      ih (fun value other fine member => each value other fine (List.mem_cons_of_mem _ member)) fine

theorem forM {γ : Type} {next : γ → PassM Unit}
    (each : ∀ entry, Mirrored first twin anything (next entry)) (entries : List γ) :
    Mirrored first twin anything (entries.forM next) := by
  induction entries with
  | nil => exact pure trivial
  | cons entry rest ih => exact (each entry).bind fun _ _ => ih

/-- A fault in the way of a step. -/
theorem guard {condition : Prop} [Decidable condition] {fault : Fault} {next : PUnit → PassM α}
    (kept : Mirrored first twin good (next ⟨⟩)) :
    Mirrored first twin good
      (if condition then MonadExcept.throw fault >>= next else next ⟨⟩) := by
  split
  · exact throw fault
  · exact kept

/-- A step that neither looks at handles, taps and remembered chunks nor changes them. -/
theorem blind (blind : ∀ (pass : Pass) handles memory, step (pass.beside handles memory) =
      ((step pass).1, (step pass).2.beside handles memory))
    (stays : ∀ pass, (step pass).2.handles = pass.handles ∧ (step pass).2.memory = pass.memory ∧
      (step pass).2.saved = pass.saved)
    (kept : ∀ pass, pass.agenda.Confined first.handles.size →
      (step pass).2.agenda.Confined first.handles.size ∧
        ∀ value, (step pass).1 = .ok value → good value) :
    Mirrored first twin good step := by
  intro pass handles memory mirrors
  obtain ⟨sameHandles, sameMemory, sameSaved⟩ := stays pass
  obtain ⟨agenda, fine⟩ := kept pass mirrors.agenda
  exact ⟨handles, memory, blind pass handles memory,
    mirrors.aside sameHandles sameMemory sameSaved agenda, fine⟩

/-- A step on the tree. -/
theorem onTree (step : TreeM α) : Mirrored first twin anything (Pass.onTree step) :=
  blind (fun _ _ _ => rfl) (fun _ => ⟨rfl, rfl, rfl⟩) fun _ confined =>
    ⟨confined, fun _ _ => trivial⟩

/-! ## Chunks -/

/-- A step that first asks whether a chunk of the pass is open. -/
theorem opened {operation : ChunkOperation} {rest : PassM α}
    (asks : step = do
      chunk.ensureOpen operation
      rest)
    (since : chunk.Since first.handles.size)
    (kept : ∀ pass handles memory handle held, Mirrors first twin pass handles memory →
      pass.handles[chunk.number]? = some handle →
      (pass.beside handles memory).handles[chunk.number]? = some held →
      SameHandle first.memory.installed twin pass.memory.installed handle held →
      handle.complete = false → held.complete = false →
      MirroredAt first twin pass handles memory good step) :
    Mirrored first twin good step := by
  intro pass handles memory mirrors
  rcases mirrors.handle since with ⟨absent, absentToo⟩ | ⟨handle, held, found, foundToo, same⟩
  · refine .of_fault (by rw [asks, bind_step, ensureOpen_absent absent]) ?_ mirrors
    rw [asks, bind_step, ensureOpen_absent absentToo]
  · cases complete : handle.complete with
    | true =>
      refine .of_fault (by rw [asks, bind_step, ensureOpen_step found, if_pos complete]) ?_ mirrors
      rw [asks, bind_step, ensureOpen_step foundToo, if_pos (same.complete.trans complete)]
    | false =>
      exact kept pass handles memory handle held mirrors found foundToo same complete
        (same.complete.trans complete)

/-- Asking whether a chunk is open. -/
theorem ensureOpen (since : chunk.Since first.handles.size) (operation : ChunkOperation) :
    Mirrored first twin anything (chunk.ensureOpen operation) := by
  have asks : chunk.ensureOpen operation = (do
      chunk.ensureOpen operation
      Pure.pure ()) := bind_pure_unit.symm
  refine opened asks since ?_
  intro pass handles memory handle held mirrors found foundToo same isOpen isOpenToo
  have allowed {pass : Pass} {handle : Handle} (found : pass.handles[chunk.number]? = some handle)
      (isOpen : handle.complete = false) : chunk.ensureOpen operation pass = (.ok (), pass) := by
    rw [ensureOpen_step found, isOpen]
    rfl
  exact .of_value (allowed found isOpen) (allowed foundToo isOpenToo) mirrors trivial

/-- What follows on a chunk of the pass whose handle is asked for. -/
theorem looked (since : chunk.Since first.handles.size) {next : Handle → PassM α}
    (kept : ∀ pass handles memory handle held, Mirrors first twin pass handles memory →
      pass.handles[chunk.number]? = some handle →
      (pass.beside handles memory).handles[chunk.number]? = some held →
      SameHandle first.memory.installed twin pass.memory.installed handle held →
      ∃ mirrored, MirroredAt first twin pass handles memory good mirrored ∧
        next handle pass = mirrored pass ∧
        next held (pass.beside handles memory) = mirrored (pass.beside handles memory)) :
    Mirrored first twin good (do next (← chunk.handle)) := by
  intro pass handles memory mirrors
  rcases mirrors.handle since with ⟨absent, absentToo⟩ | ⟨handle, held, found, foundToo, same⟩
  · refine .of_fault (by rw [bind_step, handle_absent absent]) ?_ mirrors
    rw [bind_step, handle_absent absentToo]
  · obtain ⟨step, mirrored, ran, ranToo⟩ :=
      kept pass handles memory handle held mirrors found foundToo same
    refine .of_later mirrored ?_ ?_
    · rw [bind_step, handle_step found]
      exact ran
    · rw [bind_step, handle_step foundToo]
      exact ranToo

/-- Asking for the number of taps. -/
theorem tapDepth (since : chunk.Since first.handles.size) :
    Mirrored first twin anything chunk.tapDepth := by
  refine looked since fun pass handles memory handle held mirrors found foundToo same => ?_
  refine ⟨Pure.pure handle.taps.depth, pure trivial _ _ _ mirrors, rfl, ?_⟩
  rw [same.taps.depth]

/-- Writing: the taps make the same of the text. -/
theorem write (since : chunk.Since first.handles.size) (value : Value) :
    Mirrored first twin anything (chunk.write value) := by
  refine opened rfl since ?_
  intro pass handles memory handle held mirrors found foundToo same isOpen isOpenToo
  by_cases present : value = .null
  · subst present
    exact .of_value (write_null found isOpen) (write_null foundToo isOpenToo) mirrors trivial
  · have ran := write_step found isOpen present
    have ranToo := write_step foundToo isOpenToo present
    rw [same.record] at ranToo
    obtain ⟨sameText, heard, still⟩ := same.taps.applied mirrors.memory value.toText
    have remembers := mirrors.remembers heard (Nat.le_of_eq still.symm)
    rcases applied : handle.taps.apply value.toText pass.memory with ⟨result, after⟩
    rcases appliedToo : held.taps.apply value.toText memory with ⟨resultToo, afterToo⟩
    rw [applied, appliedToo] at sameText remembers
    rw [applied] at ran
    rw [show (pass.beside handles memory).memory = memory from rfl, appliedToo] at ranToo
    cases sameText
    cases result with
    | error fault => exact .of_fault ran ranToo remembers
    | ok text =>
      exact .of_later (onTree (RenderTree.append handle.record text) _ _ _ remembers) ran ranToo

/-- Installing a transform that keeps to itself. -/
theorem tap (since : chunk.Since first.handles.size) {transform : Option Transform}
    (confined : ∀ some, transform = .some some → some.Confined) :
    Mirrored first twin anything (chunk.tap transform) := by
  refine opened rfl since ?_
  intro pass handles memory handle held mirrors found foundToo same isOpen isOpenToo
  cases transform with
  | none =>
    have refused {pass : Pass} {handle : Handle} (found : pass.handles[chunk.number]? = some handle)
        (isOpen : handle.complete = false) :
        chunk.tap none pass = (.error (.chunk .notTransform), pass) := by
      rw [Chunk.tap, bind_step, ensureOpen_step found, isOpen]
      rfl
    exact .of_fault (refused found isOpen) (refused foundToo isOpenToo) mirrors
  | some transform =>
    obtain ⟨tap, other, after, afterToo, installed, installedToo, more, memories, taps⟩ :=
      (confined transform rfl).installed mirrors.memory
    refine .of_value (tap_step found isOpen installed) (tap_step foundToo isOpenToo installedToo)
      ((mirrors.remembers memories more).changed since fun handle held same => ?_) trivial
    exact ⟨same.record, same.complete, same.taps.push taps⟩

/-- Removing a tap. -/
theorem untap (since : chunk.Since first.handles.size) :
    Mirrored first twin anything chunk.untap := by
  intro pass handles memory mirrors
  rcases mirrors.handle since with ⟨absent, absentToo⟩ | ⟨handle, held, found, foundToo, same⟩
  · refine .of_fault (by rw [Chunk.untap, bind_step, handle_absent absent]) ?_ mirrors
    rw [Chunk.untap, bind_step, handle_absent absentToo]
  · have ran := untap_step found
    have ranToo := untap_step foundToo
    rcases same.taps.pop with ⟨fault, popped, poppedToo⟩ |
      ⟨tap, left, other, leftToo, popped, poppedToo, taps⟩
    all_goals
      rw [popped] at ran
      rw [poppedToo] at ranToo
    · exact .of_fault ran ranToo mirrors
    · exact .of_value ran ranToo (mirrors.changed since fun handle held same =>
        ⟨same.record, same.complete, taps⟩) trivial

/-- Forking a branch, which is a chunk of the pass. -/
theorem branch (since : chunk.Since first.handles.size) :
    Mirrored first twin (Chunk.Since first.handles.size) chunk.branch := by
  refine opened rfl since ?_
  intro pass handles memory handle held mirrors found foundToo same isOpen isOpenToo
  have ran := branch_step found isOpen
  have ranToo := branch_step foundToo isOpenToo
  rw [same.record, show (pass.beside handles memory).tree = pass.tree from rfl] at ranToo
  rcases forked : RenderTree.fork handle.record pass.tree with
    ⟨fault | ⟨branch, continuation⟩, tree⟩
  all_goals
    rw [forked] at ran ranToo
    have grown : Mirrors first twin { pass with tree } handles memory :=
      mirrors.aside rfl rfl rfl mirrors.agenda
  · exact .of_fault ran ranToo grown
  · rw [show (pass.beside handles memory).handles.size = pass.handles.size from mirrors.size]
      at ranToo
    have inherits : SameHandle first.memory.installed twin pass.memory.installed
        { record := branch, taps := handle.taps.inherit }
        { record := branch, taps := held.taps.inherit } := ⟨rfl, rfl, same.taps.inherit⟩
    have goesOn := (grown.created inherits).changed since fun handle held same =>
      (⟨rfl, same.complete, same.taps⟩ : SameHandle first.memory.installed twin _
        { handle with record := continuation } { held with record := continuation })
    exact .of_value ran ranToo goesOn mirrors.more

/-- Completing a chunk. -/
theorem complete (since : chunk.Since first.handles.size) :
    Mirrored first twin anything chunk.complete := by
  refine opened rfl since ?_
  intro pass handles memory handle held mirrors found foundToo same isOpen isOpenToo
  by_cases untapped : handle.taps.depth = 0
  · have ranToo := complete_step foundToo isOpenToo (same.taps.depth.trans untapped)
    rw [same.record] at ranToo
    have ends := mirrors.changed since fun handle held same =>
      (⟨same.record, rfl, same.taps⟩ : SameHandle first.memory.installed twin _
        { handle with complete := true } { held with complete := true })
    exact .of_later (onTree (RenderTree.complete handle.record) _ _ _ ends)
      (complete_step found isOpen untapped) ranToo
  · have ranToo := complete_tapped foundToo isOpenToo fun none =>
      untapped (same.taps.depth.symm.trans none)
    rw [same.taps.depth] at ranToo
    exact .of_fault (complete_tapped found isOpen untapped) ranToo mirrors

/-- Finishing a chunk. -/
theorem finish (since : chunk.Since first.handles.size) (value : Value) :
    Mirrored first twin anything (chunk.finish value) := by
  unfold Chunk.finish
  split
  · exact complete since
  · exact (write since _).bind fun _ _ => complete since

/-- Closing a chunk. -/
theorem close (since : chunk.Since first.handles.size) :
    Mirrored first twin anything chunk.close := by
  refine looked since fun pass handles memory handle held mirrors found foundToo same => ?_
  refine ⟨if !handle.complete then chunk.finish else Pure.pure (), ?_, rfl, ?_⟩
  · split
    · exact finish since .null _ _ _ mirrors
    · exact pure trivial _ _ _ mirrors
  · rw [same.complete]

/-- Taking the root, which is a chunk of the pass. -/
theorem root : Mirrored first twin (Chunk.Since first.handles.size) Chunk.root := by
  intro pass handles memory mirrors
  cases taken : pass.rootTaken with
  | true =>
    have refused {pass : Pass} (taken : pass.rootTaken = true) :
        Chunk.root pass = (.error (.chunk .rootTaken), pass) := by
      simp [Chunk.root, bind_step, taken]
    exact .of_fault (refused taken) (refused taken) mirrors
  | false =>
    have takenToo : (pass.beside handles memory).rootTaken = false := taken
    have ranToo := root_step takenToo
    rw [show (pass.beside handles memory).handles.size = pass.handles.size from mirrors.size]
      at ranToo
    have begun : Mirrors first twin { pass with rootTaken := true } handles memory :=
      mirrors.aside rfl rfl rfl mirrors.agenda
    exact .of_value (root_step taken) ranToo
      (begun.created ⟨rfl, rfl, ⟨.nil, rfl⟩⟩) mirrors.more

end Mirrored

end steps

end TemplateStream
