import TemplateStream.Proofs.HelperPaths
import TemplateStream.Proofs.Outlines

/-!
# What stays at one place

Whatever is done to a chunk and to branches that were not there before changes the document at the
hole of the chunk alone. It puts something in front of the hole, and when the chunk is ended in its
place. The branches that are new and still open are left to work that was scheduled: each such
errand has a hole of its own in what was put there.
-/

namespace TemplateStream

open RenderTree Outline Relation

/-! ## The rest of a pass -/

/-- A pass is the same but for its tree, its handles, its taps' memory and what is noted. -/
structure Pass.Around (pass after : Pass) : Prop where
  agenda : after.agenda = pass.agenda
  gates : after.gates = pass.gates
  looping : after.looping = pass.looping
  failures : after.failures = pass.failures
  saved : after.saved = pass.saved

namespace Pass.Around

variable {pass middle after : Pass}

theorem refl (pass : Pass) : pass.Around pass := ⟨rfl, rfl, rfl, rfl, rfl⟩

theorem trans (early : pass.Around middle) (late : middle.Around after) : pass.Around after where
  agenda := late.agenda.trans early.agenda
  gates := late.gates.trans early.gates
  looping := late.looping.trans early.looping
  failures := late.failures.trans early.failures
  saved := late.saved.trans early.saved

/-- A step that changes nothing leaves the rest of the pass alone. -/
theorem unchanged {α : Type} {step : PassM α} (same : ∀ pass, (step pass).2 = pass) :
    Keeps Around step :=
  Keeps.unchanged refl same

/-- A sequence of steps leaves the rest of the pass alone when they do. -/
theorem bind {α β : Type} {step : PassM α} {next : α → PassM β} (first : Keeps Around step)
    (second : ∀ value, Keeps Around (next value)) : Keeps Around (step >>= next) :=
  Keeps.bind trans first second

/-- A step on the tree leaves the rest of the pass alone. -/
theorem onTree {α : Type} (step : TreeM α) : Keeps Around (Pass.onTree step) :=
  fun _ => ⟨rfl, rfl, rfl, rfl, rfl⟩

/-- A step of the taps leaves the rest of the pass alone. -/
theorem onTaps {α : Type} (step : TapM α) : Keeps Around (Pass.onTaps step) :=
  fun _ => ⟨rfl, rfl, rfl, rfl, rfl⟩

/-- Changing a handle leaves the rest of the pass alone. -/
theorem update (chunk : Chunk) (change : Handle → Handle) : Keeps Around (chunk.update change) :=
  fun _ => ⟨rfl, rfl, rfl, rfl, rfl⟩

/-- An operation leaves the rest of the pass alone. -/
theorem operation (operation : Operation) : Keeps Around operation.perform := by
  have looked (chunk : Chunk) : Keeps Around chunk.handle := unchanged chunk.handle_same
  have opened (chunk : Chunk) (which : ChunkOperation) : Keeps Around (chunk.ensureOpen which) :=
    unchanged (chunk.ensureOpen_same which)
  have refused {α : Type} (fault : Fault) : Keeps Around (throw fault : PassM α) :=
    unchanged fun _ => rfl
  cases operation with
  | root =>
    refine Keeps.discard fun pass => ?_
    cases taken : pass.rootTaken with
    | true => simp [Chunk.root, bind_step, taken, refl]
    | false =>
      rw [Chunk.root_step taken]
      exact ⟨rfl, rfl, rfl, rfl, rfl⟩
  | write chunk value =>
    refine bind (opened chunk .write) fun _ => ?_
    split
    · exact unchanged fun _ => rfl
    · exact bind (looked chunk) fun _ => bind (onTaps _) fun _ => onTree _
  | tap chunk transform =>
    refine bind (opened chunk .tap) fun _ => ?_
    split
    · exact refused _
    · exact bind (onTaps _) fun _ => update chunk _
  | untap chunk =>
    refine bind (looked chunk) fun handle => bind ?_ fun _ => update chunk _
    exact unchanged fun pass => by rw [liftExcept_step]
  | branch chunk =>
    refine Keeps.discard (bind (opened chunk .map) fun _ => bind (looked chunk) fun _ =>
      bind (onTree _) fun _ => bind (fun _ => ?_) fun _ => bind (update chunk _) fun _ => ?_)
    · exact ⟨rfl, rfl, rfl, rfl, rfl⟩
    · exact unchanged fun _ => rfl
  | complete chunk =>
    refine bind (opened chunk .finish) fun _ => bind (looked chunk) fun handle => ?_
    exact Keeps.guard (refused _) (bind (update chunk _) fun _ => onTree _)

end Pass.Around

/-! ## Staying at a chunk -/

/-- Work that writes at a chunk, and the taps of the chunk. -/
structure Errand where
  work : Work
  chunk : Chunk
  taps : TapStack

namespace Pass

/-- A chunk is open and has the given taps. -/
def HasOpen (pass : Pass) (chunk : Chunk) (taps : TapStack) : Prop :=
  ∃ handle, pass.handles[chunk.number]? = some handle ∧ handle.complete = false ∧
    handle.taps = taps

/-- A pass that has come about by operations offers an open chunk that has the given taps, and event
loops run or not. -/
structure Offers (pass : Pass) (looping : Bool) (chunk : Chunk) (taps : TapStack) : Prop where
  kept : pass.Kept
  loops : pass.looping = looping
  opens : pass.HasOpen chunk taps

/-- A pass with more work that can go on. -/
def scheduling (pass : Pass) (works : List Work) : Pass :=
  { pass with agenda := { pass.agenda with ready := pass.agenda.ready ++ works } }

/-- What a pass becomes by operations on a chunk and on branches that are new, by notes, and when
work is scheduled. -/
inductive Stays (origin : Pass) (chunk : Chunk) : List Work → Pass → Prop where
  | start : origin.Stays chunk [] origin
  | notes {works : List Work} {pass : Pass} (stays : origin.Stays chunk works pass)
      (recoveries : List (String × Fault)) (log : List Value) :
      origin.Stays chunk works { pass with recoveries, log }
  | performs {works : List Work} {pass : Pass} (stays : origin.Stays chunk works pass)
      (operation : Operation) {other : Chunk} (target : operation.target = some other)
      (whose : other = chunk ∨ origin.handles.size ≤ other.number) :
      origin.Stays chunk works (operation.perform pass).2
  | spawns {works : List Work} {pass : Pass} (stays : origin.Stays chunk works pass)
      (work : Work) : origin.Stays chunk (works ++ [work]) (pass.scheduling [work])

/-- What a pass becomes when a chunk is minded: what is done stays at the chunk, and each branch
that is new and still open is left to an errand. -/
structure Minds (origin : Pass) (chunk : Chunk) (errands : List Errand) (after : Pass) : Prop where
  stays : origin.Stays chunk (errands.map Errand.work) after
  distinct : (errands.map Errand.chunk).Nodup
  new : ∀ errand ∈ errands, origin.handles.size ≤ errand.chunk.number
  held : ∀ errand ∈ errands, after.HasOpen errand.chunk errand.taps
  left : ∀ {branch : Chunk} {taps : TapStack}, origin.handles.size ≤ branch.number →
    after.HasOpen branch taps → branch ∈ errands.map Errand.chunk

/-- What a pass became by what stays at a chunk: the same but for its notes, for the work that was
scheduled, and for what is now at the hole of the chunk. -/
structure Extends (origin : Pass) (chunk : Chunk) (before inner behind : Outline)
    (works : List Work) (after : Pass) : Prop where
  reached : origin.Reaches after
  around : (origin.scheduling works).Around after
  grows : origin.handles.size ≤ after.handles.size
  others : ∀ number < origin.handles.size, number ≠ chunk.number →
    after.handles[number]? = origin.handles[number]?
  outlined : after.Outlined (before ++ inner ++ behind)

/-- The holes of an outline are new. -/
def AllNew (origin : Pass) (put : Outline) : Prop :=
  ∀ hole ∈ holes put, origin.handles.size ≤ hole.number

/-- No operation takes a handle away. -/
theorem Effect.grows {pass after : Pass} {target : Option Chunk}
    (effect : pass.Effect target after) : pass.handles.size ≤ after.handles.size := by
  cases effect with
  | nothing untouched => rw [untouched.handles]
  | _ => simp [Pass.wrote, Pass.forked, Pass.completed, changed]

namespace Extends

variable {origin pass after : Pass} {chunk other : Chunk} {before put last inner behind : Outline}
  {works : List Work}

/-- The chunks that were there have their holes elsewhere. -/
theorem old (outlined : origin.Outlined (before ++ .hole chunk :: behind)) {hole : Chunk}
    (member : hole ∈ holes (before ++ .hole chunk :: behind)) :
    hole.number < origin.handles.size := by
  obtain ⟨_, lookup, _⟩ := outlined.isOpen member
  exact lt_size_of_found lookup

/-- The hole of a chunk that is open is behind what was put in front of it. -/
theorem last_open (extended : origin.Extends chunk before (put ++ last) behind works pass)
    (outlined : origin.Outlined (before ++ .hole chunk :: behind)) (new : origin.AllNew put)
    (known : last = [.hole chunk] ∨ last = []) {held : Handle}
    (found : pass.handles[chunk.number]? = some held) (isOpen : held.complete = false) :
    last = [.hole chunk] := by
  rcases known with behindIt | none
  · exact behindIt
  · have member := extended.outlined.holed found isOpen
    have distinct := outlined.distinct
    simp only [none, List.append_nil, holes_append, holes_hole, List.mem_append] at member distinct
    have disjoint := (List.nodup_middle.mp distinct)
    have fresh : chunk ∉ holes put := fun inside =>
      Nat.not_lt.mpr (new chunk inside) (old outlined (by simp))
    refine absurd ?_ (List.nodup_cons.mp disjoint).1
    exact List.mem_append.mpr (member.imp_left fun early => early.resolve_right fresh)

/-- A chunk that is ended has no hole any more. -/
theorem last_ended (extended : origin.Extends chunk before (put ++ last) behind works pass)
    (known : last = [.hole chunk] ∨ last = []) {held : Handle}
    (found : pass.handles[chunk.number]? = some held) (ended : held.complete = true) :
    last = [] := by
  refine known.resolve_left fun there => ?_
  obtain ⟨handle, lookup, isOpen⟩ := extended.outlined.isOpen (by simp [there] : chunk ∈ _)
  obtain rfl := Option.some.inj (found.symm.trans lookup)
  exact Bool.false_ne_true (isOpen.symm.trans ended)

/-- The hole of the chunk or of a new branch is in what was put at the hole of the chunk. -/
theorem place (extended : origin.Extends chunk before (put ++ last) behind works pass)
    (outlined : origin.Outlined (before ++ .hole chunk :: behind)) (new : origin.AllNew put)
    (known : last = [.hole chunk] ∨ last = [])
    (whose : other = chunk ∨ origin.handles.size ≤ other.number) {held : Handle}
    (found : pass.handles[other.number]? = some held) (isOpen : held.complete = false) :
    ∃ front back, before ++ (put ++ last) ++ behind = front ++ .hole other :: back ∧
      ∀ added, origin.AllNew added →
        (∃ more, front ++ (added ++ [.hole other]) ++ back = before ++ (more ++ last) ++ behind ∧
          origin.AllNew more) ∧
        (∃ more final, front ++ added ++ back = before ++ (more ++ final) ++ behind ∧
          origin.AllNew more ∧ (final = [.hole chunk] ∨ final = [])) := by
  by_cases same : other = chunk
  · subst same
    obtain rfl := extended.last_open outlined new known found isOpen
    refine ⟨before ++ put, behind, by simp, fun added fresh => ?_⟩
    have both : origin.AllNew (put ++ added) := by
      rw [AllNew, holes_append]
      exact List.forall_mem_append.mpr ⟨new, fresh⟩
    exact ⟨⟨put ++ added, by simp, both⟩, put ++ added, [], by simp, both, .inr rfl⟩
  · have recent := whose.resolve_left same
    have member := extended.outlined.holed found isOpen
    have inside : other ∈ holes put := by
      by_contra outside
      refine Nat.not_lt.mpr recent (old outlined ?_)
      have final : other ∉ holes last := by
        rcases known with rfl | rfl
        · simpa using same
        · simp
      simp only [holes_append, List.mem_append] at member ⊢
      exact member.imp (fun early => early.resolve_right fun late => late.elim outside final)
        fun late => List.mem_cons_of_mem _ late
    obtain ⟨front, back, rfl⟩ := List.mem_iff_append.mp (mem_holes.mp inside)
    have own := new
    rw [AllNew, holes_append, holes_hole] at own
    obtain ⟨early, late⟩ := List.forall_mem_append.mp own
    have later := (List.forall_mem_cons.mp late).2
    refine ⟨before ++ front, back ++ last ++ behind, by simp, fun added fresh => ⟨?_, ?_⟩⟩
    · refine ⟨front ++ (added ++ [.hole other]) ++ back, by simp, ?_⟩
      simp only [AllNew, holes_append, holes_hole, holes_nil]
      exact List.forall_mem_append.mpr ⟨List.forall_mem_append.mpr ⟨early,
        List.forall_mem_append.mpr ⟨fresh, List.forall_mem_singleton.mpr recent⟩⟩, later⟩
    · refine ⟨front ++ added ++ back, last, by simp, ?_, known⟩
      simp only [AllNew, holes_append]
      exact List.forall_mem_append.mpr ⟨List.forall_mem_append.mpr ⟨early, fresh⟩, later⟩

/-- An operation that stays at a chunk puts something at its hole. -/
theorem performs (extended : origin.Extends chunk before (put ++ last) behind works pass)
    (kept : origin.Kept) (outlined : origin.Outlined (before ++ .hole chunk :: behind))
    (new : origin.AllNew put) (known : last = [.hole chunk] ∨ last = []) (operation : Operation)
    (target : operation.target = some other)
    (whose : other = chunk ∨ origin.handles.size ≤ other.number) :
    ∃ put last,
      origin.Extends chunk before (put ++ last) behind works (operation.perform pass).2 ∧
        origin.AllNew put ∧ (last = [.hole chunk] ∨ last = []) := by
  have keptOn := kept.reaches extended.reached
  obtain ⟨written, whole⟩ := keptOn.whole
  have effect := keptOn.owned.effect whole operation
  have reached := extended.reached.tail (.performs pass operation)
  have around := extended.around.trans (Around.operation operation pass)
  rw [target] at effect
  have others : ∀ number < origin.handles.size, number ≠ chunk.number →
      (operation.perform pass).2.handles[number]? = origin.handles[number]? := by
    intro number old apart
    have found := extended.others number old apart
    rw [Array.getElem?_eq_getElem old] at found ⊢
    refine (effect.spares keptOn.owned whole (fun same => ?_) found).1
    obtain rfl := Option.some.inj same
    rcases whose with rfl | new
    · exact apart rfl
    · exact Nat.not_lt.mpr new old
  have puts {more final : Outline} (new : origin.AllNew more)
      (known : final = [.hole chunk] ∨ final = [])
      (outlinedOn : (operation.perform pass).2.Outlined (before ++ (more ++ final) ++ behind)) :
      ∃ put last,
        origin.Extends chunk before (put ++ last) behind works (operation.perform pass).2 ∧
          origin.AllNew put ∧ (last = [.hole chunk] ∨ last = []) :=
    ⟨more, final, ⟨reached, around, extended.grows.trans effect.grows, others, outlinedOn⟩, new,
      known⟩
  clear reached around others
  generalize (operation.perform pass).2 = after at effect puts
  cases effect with
  | nothing untouched =>
    exact puts new known (extended.outlined.of_same untouched.tree untouched.handles)
  | wrote writable text memory =>
    obtain ⟨front, back, same, goes⟩ :=
      extended.place outlined new known whose writable.found writable.isOpen
    obtain ⟨⟨more, moved, fresh⟩, _⟩ := goes (ofTexts [text]) (by simp [AllNew])
    exact puts fresh known
      (moved ▸ (same ▸ extended.outlined).wrote writable.found [text] memory)
  | tapped writable tap memory =>
    have remembered : Outlined { pass with memory } _ := extended.outlined.of_same rfl rfl
    exact puts new known (remembered.retapped fun taps => taps.push tap)
  | @untapped _ _ _ taps writable popped =>
    exact puts new known (extended.outlined.retapped fun _ => taps)
  | forked writable forks =>
    obtain ⟨front, back, same, goes⟩ :=
      extended.place outlined new known whose writable.found writable.isOpen
    obtain ⟨⟨more, moved, fresh⟩, _⟩ := goes [.hole ⟨pass.handles.size⟩]
      (List.forall_mem_singleton.mpr extended.grows)
    exact puts fresh known
      (moved ▸ (same ▸ extended.outlined).forked writable.found writable.isOpen forks)
  | completed writable untapped completes =>
    obtain ⟨front, back, same, goes⟩ :=
      extended.place outlined new known whose writable.found writable.isOpen
    obtain ⟨_, more, final, moved, fresh, knownOn⟩ := goes [] (by simp [AllNew])
    refine puts fresh knownOn ?_
    rw [← moved, List.append_nil]
    exact (same ▸ extended.outlined).completed writable.found writable.isOpen untapped completes

end Extends

/-- Whatever stays at a chunk puts something in front of its hole, or in its place. -/
theorem Stays.extends {origin after : Pass} {chunk : Chunk} {works : List Work}
    {before behind : Outline} (stays : origin.Stays chunk works after) (kept : origin.Kept)
    (outlined : origin.Outlined (before ++ .hole chunk :: behind)) :
    ∃ put last, origin.Extends chunk before (put ++ last) behind works after ∧
      origin.AllNew put ∧ (last = [.hole chunk] ∨ last = []) := by
  induction stays with
  | start =>
    refine ⟨[], [.hole chunk], ⟨.refl, ?_, Nat.le_refl _, fun _ _ _ => rfl, by simpa using outlined⟩,
      by simp [AllNew], .inl rfl⟩
    rw [scheduling, List.append_nil]
    exact .refl origin
  | notes _ recoveries log ih =>
    obtain ⟨put, last, extended, rest⟩ := ih
    exact ⟨put, last, ⟨extended.reached.tail (.aside ⟨rfl, rfl, rfl⟩),
      extended.around.trans ⟨rfl, rfl, rfl, rfl, rfl⟩, extended.grows, extended.others,
      extended.outlined.of_same rfl rfl⟩, rest⟩
  | performs _ operation target whose ih =>
    obtain ⟨put, last, extended, new, known⟩ := ih
    exact extended.performs kept outlined new known operation target whose
  | spawns _ work ih =>
    obtain ⟨put, last, extended, rest⟩ := ih
    have around := extended.around
    refine ⟨put, last, ⟨extended.reached.tail (.aside ⟨rfl, rfl, rfl⟩),
      ⟨?_, around.gates, around.looping, around.failures, around.saved⟩, extended.grows,
      extended.others, extended.outlined.of_same rfl rfl⟩, rest⟩
    simp only [scheduling, around.agenda, List.append_assoc]

/-! ## Minding a chunk -/

/-- What a pass became when a chunk was minded: something was put in front of its hole, which is
still there or not, and errands are left that have the new holes. -/
structure Puts (origin : Pass) (chunk : Chunk) (before put last behind : Outline)
    (errands : List Errand) (after : Pass) : Prop
    extends origin.Extends chunk before (put ++ last) behind (errands.map Errand.work) after where
  places : (holes put).Perm (errands.map Errand.chunk)
  new : ∀ errand ∈ errands, origin.handles.size ≤ errand.chunk.number
  held : ∀ errand ∈ errands, after.HasOpen errand.chunk errand.taps

section minds

variable {origin middle after : Pass} {chunk : Chunk} {before behind first second last : Outline}
  {errands more : List Errand}

/-- Chunks that have a hole were there. -/
theorem Outlined.inside (outlined : origin.Outlined (before ++ .hole chunk :: behind)) :
    chunk.number < origin.handles.size :=
  Extends.old outlined (by simp)

/-- Minding a chunk puts something at its hole. -/
theorem Minds.puts (minds : origin.Minds chunk errands after) (kept : origin.Kept)
    (outlined : origin.Outlined (before ++ .hole chunk :: behind)) :
    ∃ put last, origin.Puts chunk before put last behind errands after ∧
      ∀ {handle : Handle}, after.handles[chunk.number]? = some handle →
        last = if handle.complete then [] else [.hole chunk] := by
  obtain ⟨put, last, extended, new, known⟩ := minds.stays.extends kept outlined
  have member (branch : Chunk) : branch ∈ holes put ↔ branch ∈ errands.map Errand.chunk := by
    have within : holes (before ++ (put ++ last) ++ behind) =
        holes before ++ (holes put ++ holes last) ++ holes behind := by
      simp only [holes_append]
    constructor
    · intro inside
      obtain ⟨handle, found, isOpen⟩ := extended.outlined.isOpen
        (by simp [inside] : branch ∈ holes (before ++ (put ++ last) ++ behind))
      exact minds.left (new branch inside) ⟨handle, found, isOpen, rfl⟩
    · intro listed
      obtain ⟨errand, errands, rfl⟩ := List.mem_map.mp listed
      obtain ⟨handle, found, isOpen, _⟩ := minds.held errand errands
      have inside := extended.outlined.holed found isOpen
      have recent := minds.new errand errands
      have elsewhere : errand.chunk ∉ holes (before ++ .hole chunk :: behind) := fun there =>
        Nat.not_lt.mpr recent (Extends.old outlined there)
      simp only [holes_append, holes_hole, List.mem_append, List.mem_cons, not_or] at inside elsewhere
      have apart : errand.chunk ∉ holes last := by
        rcases known with rfl | rfl
        · simpa using elsewhere.2.1
        · simp
      tauto
  refine ⟨put, last, ⟨extended, ?_, minds.new, minds.held⟩, fun {handle} found => ?_⟩
  · have distinct := extended.outlined.distinct
    simp only [holes_append, List.nodup_append] at distinct
    exact (List.perm_ext_iff_of_nodup distinct.1.2.1.1 minds.distinct).mpr member
  · cases complete : handle.complete with
    | true => exact extended.last_ended known found complete
    | false => exact extended.last_open outlined new known found complete

/-- What is put in front of a hole in two parts is put there. -/
theorem Puts.trans
    (early : origin.Puts chunk before first [.hole chunk] behind errands middle)
    (late : middle.Puts chunk (before ++ first) second last behind more after)
    (inside : chunk.number < origin.handles.size) :
    origin.Puts chunk before (first ++ second) last behind (errands ++ more) after where
  reached := early.reached.trans late.reached
  around := by
    have around := early.around
    have scheduled : Around (origin.scheduling ((errands ++ more).map Errand.work))
        (middle.scheduling (more.map Errand.work)) :=
      ⟨by simp [scheduling, around.agenda], around.gates, around.looping, around.failures,
        around.saved⟩
    exact scheduled.trans late.around
  grows := early.grows.trans late.grows
  others number old apart :=
    (late.others number (Nat.lt_of_lt_of_le old early.grows) apart).trans
      (early.others number old apart)
  outlined := by simpa using late.outlined
  places := by
    rw [holes_append, List.map_append]
    exact early.places.append late.places
  new := List.forall_mem_append.mpr
    ⟨early.new, fun errand member => early.grows.trans (late.new errand member)⟩
  held := by
    refine List.forall_mem_append.mpr ⟨fun errand member => ?_, late.held⟩
    obtain ⟨handle, found, rest⟩ := early.held errand member
    have apart : errand.chunk.number ≠ chunk.number :=
      Nat.ne_of_gt (Nat.lt_of_lt_of_le inside (early.new errand member))
    have there := lt_size_of_found found
    exact ⟨handle, (late.others _ there apart).trans found, rest⟩

end minds

end Pass

end TemplateStream
