import TemplateStream.Proofs.Denotation
import TemplateStream.Proofs.Schedules

/-!
# Rendering tells meanings

When a body was rendered without a recovery it means something. For a body that was rendered at
once this shows as it is rendered. For one that is rendered later it shows only when its turn
comes; until then, what renders it means something provided that the work which is left does.
-/

namespace TemplateStream

open Body

/-- Work of a call that renders its block later, and the block renders only standard bodies. -/
def Work.Defers : Work → Prop
  | .invoke asked helper _ context => helper.function = .builtin .defer ∧
    ∀ parameters,
      Parameter.resolve helper (.ofList asked.parameters) (some context) = .ok parameters →
      (bodyNamed asked.bodies "block").Throughout Body.IsStandard context
  | .block scope (.settle _ _) =>
    (bodyNamed scope.bodies "block").Throughout Body.IsStandard scope.context
  | _ => False

/-- A body has a meaning when bodies are nested to at most a depth. -/
def Body.IsMeaningful (depth : Nat) (context : Context) (body : Body) : Prop :=
  ∃ steps texts, meaningTo steps depth context body = some texts

/-- Work that means something on some branch. -/
def Work.IsMeaningful (work : Work) : Prop := ∃ steps chunk texts, work.Means steps chunk texts

/-- A pass in which the given work was scheduled, for which an event loop runs. -/
structure Pass.Spawned (pass after : Pass) (new : List Work) : Prop where
  agenda : after.agenda = { pass.agenda with ready := pass.agenda.ready ++ new }
  looping : after.looping = pass.looping
  needed : pass.looping = false → new = []

/-- What was done in a pass tells that something has a meaning, provided that the work which was
scheduled does, and that something is plain when no event loop runs. -/
def Pass.Tells (pass after : Pass) (meaningful plain : Prop) : Prop :=
  ∃ new, pass.Spawned after new ∧ (∀ work ∈ new, work.Defers) ∧
    ((∀ work ∈ new, work.IsMeaningful) → meaningful) ∧ (pass.looping = false → plain)

namespace Pass

variable {pass middle after : Pass} {new more : List Work} {meaningful plain : Prop}

/-- Nothing was scheduled where the agenda is the same. -/
theorem Spawned.of_same (agenda : after.agenda = pass.agenda)
    (looping : after.looping = pass.looping) : pass.Spawned after [] where
  agenda := by rw [agenda, List.append_nil]
  looping := looping
  needed _ := rfl

/-- What was scheduled in two parts was scheduled. -/
theorem Spawned.trans (early : pass.Spawned middle new) (late : middle.Spawned after more) :
    pass.Spawned after (new ++ more) where
  agenda := by rw [late.agenda, early.agenda, List.append_assoc]
  looping := late.looping.trans early.looping
  needed idle := by
    rw [early.needed idle, late.needed (early.looping.trans idle), List.append_nil]

/-- The work that is pending is what was, and what was scheduled. -/
theorem Spawned.mem_pending (spawned : pass.Spawned after new) {work : Work} :
    work ∈ after.agenda.pending ↔ work ∈ pass.agenda.pending ∨ work ∈ new := by
  rw [spawned.agenda]
  simp only [Agenda.pending, List.mem_append]
  tauto

/-- Where nothing was scheduled, what is told is known. -/
theorem Tells.of_same (agenda : after.agenda = pass.agenda)
    (looping : after.looping = pass.looping) (known : meaningful) (plainly : plain) :
    pass.Tells after meaningful plain :=
  ⟨[], .of_same agenda looping, fun _ member => absurd member List.not_mem_nil,
    fun _ => known, fun _ => plainly⟩

/-- What is done in two parts tells what both tell. -/
theorem Tells.trans {meaningfulMore plainMore : Prop} (early : pass.Tells middle meaningful plain)
    (late : middle.Tells after meaningfulMore plainMore) :
    pass.Tells after (meaningful ∧ meaningfulMore) (plain ∧ plainMore) := by
  obtain ⟨new, spawned, defers, told, plainly⟩ := early
  obtain ⟨more, spawnedMore, defersMore, toldMore, plainlyMore⟩ := late
  refine ⟨new ++ more, spawned.trans spawnedMore, ?_, ?_, ?_⟩
  · intro work member
    rcases List.mem_append.mp member with old | added
    · exact defers work old
    · exact defersMore work added
  · intro all
    exact ⟨told fun work member => all work (List.mem_append_left _ member),
      toldMore fun work member => all work (List.mem_append_right _ member)⟩
  · intro idle
    exact ⟨plainly idle, plainlyMore (spawned.looping.trans idle)⟩

/-- What follows from what is told is told. -/
theorem Tells.imp {meaningfulToo plainToo : Prop} (tells : pass.Tells after meaningful plain)
    (follows : meaningful → meaningfulToo) (followsPlainly : plain → plainToo) :
    pass.Tells after meaningfulToo plainToo := by
  obtain ⟨new, spawned, defers, told, plainly⟩ := tells
  exact ⟨new, spawned, defers, fun all => follows (told all), fun idle =>
    followsPlainly (plainly idle)⟩

end Pass

/-! ## Rendering -/

section render

variable {render : RenderBody} {chunk next : Chunk} {pass after : Pass} {handle : Handle}

/-- Removing a tap schedules nothing. -/
theorem untap_same (ran : chunk.untap pass = (.ok (), after)) :
    after.agenda = pass.agenda ∧ after.looping = pass.looping := by
  cases found : pass.handles[chunk.number]? with
  | none =>
    simp only [Chunk.untap, bind_step, Chunk.handle_absent found] at ran
    cases ran
  | some handle =>
    rw [Chunk.untap_step found] at ran
    cases popped : handle.taps.pop with
    | error fault =>
      rw [popped] at ran
      cases ran
    | ok rest =>
      rw [popped] at ran
      cases ran
      exact ⟨rfl, rfl⟩

/-- Putting a total tap on a chunk schedules nothing. -/
theorem tap_same {transform : String → String}
    (ran : chunk.tap (some (.total transform)) pass = (.ok (), after)) :
    after.agenda = pass.agenda ∧ after.looping = pass.looping := by
  obtain ⟨_, middle, allowed, rest⟩ := bind_ok ran
  obtain ⟨rfl, handle, found, isOpen⟩ := Chunk.ensureOpen_ok allowed
  cases rest
  exact ⟨rfl, rfl⟩

/-- Rendering bodies in order tells what rendering each of them tells. -/
theorem renderSites_tells {sites : List Site} {meaningful plain : Site → Prop}
    (lasting : Enduring.Renders (fun pass after => pass.recoveries <+: after.recoveries) render)
    (tells : ∀ site ∈ sites, ∀ {pass after : Pass} {chunk next : Chunk},
      render site.2 chunk site.1 pass = (.ok next, after) →
      after.recoveries = pass.recoveries → pass.Tells after (meaningful site) (plain site))
    (rendered : renderSites render chunk sites pass = (.ok next, after))
    (unrecovered : after.recoveries = pass.recoveries) :
    pass.Tells after (∀ site ∈ sites, meaningful site) (∀ site ∈ sites, plain site) := by
  induction sites generalizing chunk pass with
  | nil =>
    cases rendered
    exact .of_same rfl rfl (by simp) (by simp)
  | cons site rest ih =>
    obtain ⟨first, middle, start, before, others, behind⟩ :=
      renderSites_cons lasting rendered unrecovered
    have front := tells site List.mem_cons_self start before
    have back := ih (fun other member => tells other (List.mem_cons_of_mem _ member)) others behind
    exact (front.trans back).imp List.forall_mem_cons.mpr List.forall_mem_cons.mpr

/-- Rendering what is composed tells what rendering each of its bodies tells. -/
theorem Composition.render_tells {composition : Composition} {meaningful plain : Site → Prop}
    (now : ∀ sites, composition ≠ .later sites)
    (lasting : Enduring.Renders (fun pass after => pass.recoveries <+: after.recoveries) render)
    (tells : ∀ site ∈ composition.sites, ∀ {pass after : Pass} {chunk next : Chunk},
      render site.2 chunk site.1 pass = (.ok next, after) →
      after.recoveries = pass.recoveries → pass.Tells after (meaningful site) (plain site))
    (found : pass.handles[chunk.number]? = some handle) (isOpen : handle.complete = false)
    (rendered : composition.render render chunk pass = (.ok next, after))
    (unrecovered : after.recoveries = pass.recoveries) :
    pass.Tells after (∀ site ∈ composition.sites, meaningful site)
      (∀ site ∈ composition.sites, plain site) := by
  cases composition with
  | texts content =>
    obtain ⟨_, _, _, _, _, _, _, rfl⟩ := render_texts content found isOpen rendered
    exact .of_same rfl rfl (by simp [Composition.sites]) (by simp [Composition.sites])
  | parts sites => exact renderSites_tells lasting tells rendered unrecovered
  | tapped transform site =>
    obtain ⟨tapped, inside, tap, block, unanswered, untap⟩ :=
      render_tapped lasting rendered unrecovered
    have inner := tells site (List.mem_singleton_self site) block unanswered
    have front : pass.Tells tapped True True :=
      .of_same (tap_same tap).1 (tap_same tap).2 trivial trivial
    have back : inside.Tells after True True :=
      .of_same (untap_same untap).1 (untap_same untap).2 trivial trivial
    refine (front.trans (inner.trans back)).imp ?_ ?_
    · rintro ⟨_, told, _⟩ other member
      rwa [List.mem_singleton.mp member]
    · rintro ⟨_, plainly, _⟩ other member
      rwa [List.mem_singleton.mp member]
  | later sites => exact absurd rfl (now sites)

/-- Forking a branch schedules nothing. -/
theorem branch_same {branch : Chunk} (ran : chunk.branch pass = (.ok branch, after)) :
    after.agenda = pass.agenda ∧ after.looping = pass.looping := by
  obtain ⟨_, middle, allowed, -⟩ := bind_ok ran
  obtain ⟨rfl, handle, found, isOpen⟩ := Chunk.ensureOpen_ok allowed
  rw [Chunk.branch_step found isOpen] at ran
  split at ran
  · cases ran
    exact ⟨rfl, rfl⟩
  · cases ran

/-- What is to be awaited is scheduled, for which an event loop must run. -/
theorem Pass.spawn_ok {work : Work} (spawned : Pass.spawn work pass = (.ok (), after)) :
    pass.looping = true ∧ after = (Pass.enqueue work pass).2 := by
  simp only [Pass.spawn, bind_step, get_step] at spawned
  split at spawned
  · rename_i loops
    cases spawned
    exact ⟨loops, rfl⟩
  · cases spawned

/-- Mapping schedules the work that is to be awaited, for which an event loop must run. -/
theorem Pass.Spawned.of_map {work : Chunk → Work}
    (mapped : chunk.map (fun branch => pure (.awaitable (work branch))) pass = (.ok (), after)) :
    pass.looping = true ∧ ∃ branch, pass.Spawned after [work branch] := by
  obtain ⟨branch, forked, branched, scheduled⟩ := bind_ok mapped
  obtain ⟨agenda, looping⟩ := branch_same branched
  have spawned : Pass.spawn (work branch) forked = (.ok (), after) := scheduled
  obtain ⟨loops, rfl⟩ := Pass.spawn_ok spawned
  refine ⟨looping ▸ loops, branch, ?_, looping, ?_⟩
  · show { forked.agenda with ready := forked.agenda.ready ++ [work branch] } = _
    rw [agenda]
  · intro idle
    rw [looping, idle] at loops
    cases loops

end render

/-! ## Meanings of what was rendered -/

section meaning

variable {depth : Nat} {context : Context} {body : Body}

/-- Several bodies have a meaning together when each of them has one. -/
theorem joined_of_each {sites : List Site}
    (each : ∀ site ∈ sites, site.2.IsMeaningful depth site.1) :
    ∃ steps texts, joined (meaningTo steps depth) sites = some texts := by
  induction sites with
  | nil => exact ⟨0, [], rfl⟩
  | cons site rest ih =>
    obtain ⟨steps, first, front⟩ := each site List.mem_cons_self
    obtain ⟨more, others, back⟩ := ih fun other member => each other (List.mem_cons_of_mem _ member)
    have front := meaningTo_mono front (Nat.le_max_left steps more) (Nat.le_refl depth)
    have back := joined_mono back fun site _ texts found =>
      meaningTo_mono found (Nat.le_max_right steps more) (Nat.le_refl depth)
    exact ⟨max steps more, first ++ others, by simp [joined, front, back]⟩

/-- A body that is rendered at once has a meaning when all bodies that it is made of have one. -/
theorem isMeaningful_of_sites {composition : Composition}
    (composed : body.composition context = some composition)
    (now : ∀ sites, composition ≠ .later sites)
    (each : ∀ site ∈ composition.sites, site.2.IsMeaningful depth site.1) :
    body.IsMeaningful (depth + 1) context := by
  cases composition with
  | texts content => exact ⟨1, content, meaningTo_eq composed⟩
  | parts sites =>
    obtain ⟨steps, texts, found⟩ := joined_of_each each
    exact ⟨steps + 1, texts, (meaningTo_eq composed).trans found⟩
  | tapped transform site =>
    obtain ⟨steps, texts, found⟩ := each site (List.mem_singleton_self site)
    refine ⟨steps + 1, texts.map transform, (meaningTo_eq composed).trans ?_⟩
    simp only [Composition.meaning, found, Option.map_some]
  | later sites => exact absurd rfl (now sites)

/-- A body of a standard form is plain, or a call that renders its block later. -/
theorem Body.IsStandard.plain_or_defers (standard : body.IsStandard context) :
    body.IsPlain context ∨ ∃ name bodies given environment helper,
      body = .call name bodies given ∧ context.environment = some environment ∧
      environment.helpers.get name = .ok helper ∧ helper.function = .builtin .defer := by
  cases body with
  | text | reference | sequence | each | embed | absent => exact .inl trivial
  | call name bodies given =>
    by_cases defers : ∃ environment helper, context.environment = some environment ∧
        environment.helpers.get name = .ok helper ∧ helper.function = .builtin .defer
    · obtain ⟨environment, helper, found⟩ := defers
      exact .inr ⟨name, bodies, given, environment, helper, rfl, found⟩
    · refine .inl fun environment helper known got => ?_
      have builtin := standard environment helper known got
      cases function : helper.function with
      | builtin which =>
        refine HelperFunction.isPlain_iff.mpr ⟨which, rfl, ?_⟩
        rintro rfl
        exact defers ⟨environment, helper, known, got, function⟩
      | scripted style script | inert value =>
        rw [function] at builtin
        cases builtin
  | callback script | function name script | deferred style name script | inert value =>
    exact absurd standard not_false

/-- A call that renders its block later has a meaning when its work does. -/
theorem isMeaningful_of_invoke {name : String} {bodies : List (String × Body)}
    {given : List (String × Value)} {environment : Environment} {helper : Helper} {branch : Chunk}
    (known : context.environment = some environment)
    (got : environment.helpers.get name = .ok helper)
    (meaningful : (Work.invoke ⟨name, bodies, given⟩ helper branch context).IsMeaningful) :
    (Body.call name bodies given).IsMeaningful (depth + 1) context := by
  obtain ⟨steps, chunk, texts, _, defers, ⟨parameters, resolved⟩, meant⟩ := meaningful
  have composed : (Body.call name bodies given).composition context =
      some (.later [(context, bodyNamed bodies "block")]) := by
    rw [Body.composition_call known got resolved, defers]
    rfl
  refine ⟨steps + 1, texts, (meaningTo_eq composed).trans ?_⟩
  simp [Composition.meaning, joined, meant]

/-- Rendering a body of standard forms without a recovery tells that it has a meaning, and that it
is made of plain forms when no event loop runs. -/
theorem renderTo_tells {chunk next : Chunk} {pass after : Pass}
    (standard : body.Throughout Body.IsStandard context)
    (rendered : Body.renderTo depth body chunk context pass = (.ok next, after))
    (unrecovered : after.recoveries = pass.recoveries) :
    pass.Tells after (body.IsMeaningful depth context) (body.Throughout Body.IsPlain context) := by
  induction depth generalizing body context chunk pass after next with
  | zero => cases rendered
  | succ depth ih =>
    have lasting := recoveries_endure.renderTo depth
    obtain ⟨_, _, allowed, wrote⟩ := bind_ok rendered
    obtain ⟨rfl, handle, found, isOpen⟩ := Chunk.ensureOpen_ok allowed
    rcases standard.self.plain_or_defers with plain | defers
    · obtain ⟨composition, composed, performed⟩ :=
        composition_of_write lasting plain found wrote unrecovered
      have now (sites : List Site) : composition ≠ .later sites := by
        rintro rfl
        exact plain.not_later composed
      have told := Composition.render_tells now lasting
        (fun site member => ih (standard.site composed member)) found isOpen performed unrecovered
      refine told.imp (isMeaningful_of_sites composed now) fun plainly => ?_
      refine .of_sites plain fun other composedOther site member => ?_
      obtain rfl : composition = other := Option.some.inj (composed.symm.trans composedOther)
      exact plainly site member
    · obtain ⟨name, bodies, given, environment, helper, rfl, known, got, defers⟩ := defers
      rw [write_defer known got defers] at wrote
      obtain ⟨_, mapped, mapping, done⟩ := bind_ok wrote
      cases done
      obtain ⟨loops, branch, spawned⟩ := Pass.Spawned.of_map mapping
      refine ⟨_, spawned, ?_, ?_, ?_⟩
      · intro work member
        obtain rfl := List.mem_singleton.mp member
        refine ⟨defers, fun parameters resolved => ?_⟩
        have composed := Body.composition_call known got resolved bodies
        rw [defers] at composed
        exact standard.site composed (List.mem_singleton_self _)
      · intro all
        exact isMeaningful_of_invoke known got (all _ (List.mem_singleton_self _))
      · intro idle
        rw [loops] at idle
        cases idle

end meaning

end TemplateStream
