import TemplateStream.Proofs.Detaching
import TemplateStream.Proofs.FailureStages
import TemplateStream.Proofs.Unreached

/-!
# Helper modules from one pass to the next

A pass that comes to it loads the helper modules of the options in order, up to the first that
fails. Modules are remembered as applied only when none of their list failed, and then all of them
are. So a module of such a list is not applied again by a later pass. When one of the list fails,
the next pass that comes to it begins with the same list again, be it that some of its modules
were applied.
-/

namespace TemplateStream

/-- That the helpers of a module were registered, and what came of it. -/
structure Registration where
  module : Value
  result : Except Fault Unit

/-- How helper modules were loaded in a pass: those that were to be loaded, the registrations that
were tried, and what came of it all. -/
structure HelperStage where
  pending : List Value
  tried : List Registration
  result : Except Fault Unit

namespace HelperStage

/-- The modules that are remembered as applied: all or none. -/
def applied (stage : HelperStage) : List Value :=
  match stage.result with
  | .ok () => stage.pending
  | .error _ => []

/-- Registrations are tried in the order of the modules, up to the first that fails, and all goes
well only if each module was registered. -/
structure Orderly (stage : HelperStage) : Prop where
  ordered : stage.tried.map Registration.module <+: stage.pending
  stops : ∀ registration ∈ stage.tried.dropLast, registration.result = .ok ()
  completes : stage.result = .ok () ↔ stage.tried.map Registration.module = stage.pending ∧
    ∀ registration ∈ stage.tried, registration.result = .ok ()

end HelperStage

/-- The legs of a pass before helper modules are loaded. -/
def Leg.early : List Leg := Leg.course.takeWhile (· != .helpers)

/-- The legs of a pass after helper modules were loaded. -/
def Leg.late : List Leg := Leg.course.drop (Leg.early.length + 1)

namespace Session

/-- Imports a helper module, and gives its name. -/
def fetchModule (value : Value) : SessionM String := do
  let name ← liftExcept (moduleName value)
  importModule name
  pure name

/-- The registrations that are tried when helper modules are loaded in order. -/
def registrations : List Value → Session → List Registration
  | [], _ => []
  | value :: rest, session =>
    match fetchModule value session with
    | (.error _, _) => []
    | (.ok name, fetched) =>
      match applyModule name fetched with
      | (.ok (), after) => ⟨value, .ok ()⟩ :: registrations rest after
      | (.error fault, _) => [⟨value, .error fault⟩]

/-- How helper modules are loaded by a pass that comes to it, if they can be looked for. -/
def helperStage? (session : Session) : Option HelperStage :=
  match pendingModules session with
  | (.error _, _) => none
  | (.ok pending, _) =>
    some ⟨pending, registrations pending session, (loadHelperModules pending session).1⟩

/-- The session in which a request comes to loading helper modules, if it does. -/
def reached? (request : Request) (session : Session) : Option Session :=
  match request with
  | .render target input =>
    match (do travel (← opening target input) "" Leg.early) session with
    | (.error _, _) => none
    | (.ok _, reached) => some reached
  | _ => none

/-- How helper modules are loaded for a request, if it comes to that. -/
def stage? (request : Request) (session : Session) : Option HelperStage :=
  (reached? request session).bind helperStage?

end Session

/-- A request, at a time when these modules can be loaded. -/
structure Visit where
  library : ModuleLibrary
  request : Request

namespace Session

/-- A session in which other modules can be loaded. -/
def equipped (session : Session) (library : ModuleLibrary) : Session := { session with library }

/-- A session after a request, whether or not that failed. -/
def visited (session : Session) (visit : Visit) : Session :=
  (answer visit.request (session.equipped visit.library)).2

/-- How helper modules are loaded for requests in order. -/
def helperStages : List Visit → Session → List HelperStage
  | [], _ => []
  | visit :: rest, session =>
    (stage? visit.request (session.equipped visit.library)).toList ++
      helperStages rest (session.visited visit)

/-! ## Loading a list of modules -/

theorem loadHelperModules_cons (value : Value) (rest : List Value) :
    loadHelperModules (value :: rest) = (do
      applyModule (← fetchModule value)
      loadHelperModules rest) := by
  simp only [loadHelperModules, fetchModule, bind_assoc, pure_bind]

/-- Loading helper modules goes through them in order, up to the first that fails. -/
theorem registrations_orderly (modules : List Value) (session : Session) :
    HelperStage.Orderly
      ⟨modules, registrations modules session, (loadHelperModules modules session).1⟩ := by
  induction modules generalizing session with
  | nil => exact ⟨List.prefix_refl [], nofun, fun _ => ⟨rfl, nofun⟩, fun _ => rfl⟩
  | cons value rest ih =>
    rw [loadHelperModules_cons, registrations, bind_step]
    rcases fetchModule value session with ⟨fault | name, fetched⟩
    · exact ⟨List.nil_prefix, nofun, nofun, fun whole => nomatch whole.1⟩
    dsimp only
    rw [bind_step]
    rcases applyModule name fetched with ⟨fault | _, after⟩
    · -- A registration that failed is tried and is the last of all.
      refine ⟨List.cons_prefix_cons.mpr ⟨rfl, List.nil_prefix⟩, nofun, nofun, fun whole => ?_⟩
      cases whole.2 _ List.mem_cons_self
    · obtain ⟨ordered, stops, completes⟩ := ih after
      refine ⟨List.cons_prefix_cons.mpr ⟨rfl, ordered⟩, fun registration member => ?_, ?_⟩
      · dsimp only at member stops
        cases later : registrations rest after with
        | nil =>
          rw [later] at member
          cases member
        | cons next others =>
          rw [later] at member stops
          rw [List.dropLast_cons_of_ne_nil (List.cons_ne_nil _ _)] at member
          rcases List.mem_cons.mp member with rfl | member
          · rfl
          · exact stops registration member
      · dsimp only at completes ⊢
        rw [completes, List.map_cons, List.cons.injEq, List.forall_mem_cons]
        simp only [true_and]

/-! ## What a pass remembers -/

variable {session after : Session}

/-- The options are the same, and so are the modules that were applied. -/
def SameModules (session after : Session) : Prop :=
  after.renderer.options = session.renderer.options ∧
    after.renderer.appliedModules = session.renderer.appliedModules

theorem SameModules.trans {middle : Session} (early : SameModules session middle)
    (late : SameModules middle after) : SameModules session after :=
  ⟨late.1.trans early.1, late.2.trans early.2⟩

theorem Spares.sameModules (spares : Spares session after) : SameModules session after :=
  ⟨spares.options, spares.appliedModules⟩

/-- A request adds the modules of its stage, if it comes to one and nothing of it fails. -/
def Remembers (stage : Option HelperStage) (session after : Session) : Prop :=
  after.renderer.options = session.renderer.options ∧
    after.renderer.appliedModules =
      session.renderer.appliedModules ++ stage.toList.flatMap HelperStage.applied

theorem SameModules.remembers (same : SameModules session after) :
    Remembers none session after :=
  ⟨same.1, same.2.trans (List.append_nil _).symm⟩

theorem Remembers.behind {stage : Option HelperStage} {middle : Session}
    (late : Remembers stage middle after) (early : SameModules session middle) :
    Remembers stage session after :=
  ⟨late.1.trans early.1, by rw [late.2, early.2]⟩

theorem Remembers.ahead {stage : Option HelperStage} {middle : Session}
    (early : Remembers stage session middle) (late : SameModules middle after) :
    Remembers stage session after :=
  ⟨late.1.trans early.1, late.2.trans early.2⟩

/-- The modules of a stage are those of the options that were not applied yet. -/
theorem helperStage?_pending {stage : HelperStage} (found : helperStage? session = some stage) :
    stage.pending = pending session.renderer ∧ stage.Orderly := by
  rw [helperStage?, pendingModules_step] at found
  cases keyed : session.renderer.options.helperModules.forM Value.requireKey with
  | error fault =>
    rw [keyed] at found
    cases found
  | ok _ =>
    rw [keyed] at found
    cases found
    exact ⟨rfl, registrations_orderly _ _⟩

/-- Loading helper modules remembers those of the stage. -/
theorem carryOut_helpers_remembers (commission : Commission) (output : String)
    (session : Session) : Remembers (helperStage? session) session
      (carryOut commission output .helpers session).2 := by
  have looked : (pendingModules session).2 = session := by rw [pendingModules_step]
  rw [carryOut, bind_step, helperStage?]
  rcases found : pendingModules session with ⟨fault | modules, same⟩
  all_goals
    rw [found] at looked
    obtain rfl : session = same := looked.symm
  · exact SameModules.remembers ⟨rfl, rfl⟩
  · have spares := spares_attending.loadHelperModules modules session
    dsimp only
    rw [bind_step, attempt_step]
    rcases loaded : loadHelperModules modules session with ⟨fault | _, after⟩
    all_goals rw [loaded] at spares
    · exact spares.sameModules.remembers
    · refine ⟨spares.options, ?_⟩
      change after.renderer.appliedModules ++ modules = _
      rw [spares.appliedModules]
      simp [HelperStage.applied]

/-- After helper modules were loaded a pass remembers no others. -/
theorem travel_late (commission : Commission) (output : String) :
    Keeps SameModules (travel commission output Leg.late) :=
  @travel_keeps SameModules SameModules.trans Spares.sameModules commission Leg.late
    (fun inside => absurd inside (by decide))
    (fun _ output session => by
      rw [carryOut_content]
      exact ⟨rfl, rfl⟩) output

/-- A pass remembers the modules of its stage, if it comes to one. -/
theorem render_remembers (target : RenderTarget) (input : RenderInput) (session : Session) :
    Remembers (stage? (.render target input) session) session (render target input session).2 ∧
      ∀ reached, reached? (.render target input) session = some reached →
        SameModules session reached := by
  rw [stage?, reached?, render_eq, bind_step, bind_step, opening_step]
  cases target.bodyIn session.renderer.templates with
  | error fault => exact ⟨SameModules.remembers ⟨rfl, rfl⟩, nofun⟩
  | ok body =>
    have split : Leg.course = Leg.early ++ .helpers :: Leg.late := rfl
    have light := travel_spares ⟨target.title, body, input⟩ (by decide : Leg.helpers ∉ Leg.early)
      (by decide) ""
    dsimp only [Except.map]
    rw [split, travel_append, bind_step]
    rcases went : travel ⟨target.title, body, input⟩ "" Leg.early session.cleared
      with ⟨fault | so, reached⟩
    · exact ⟨(light.after went).sameModules.remembers, nofun⟩
    · have early : SameModules session reached := (light.after went).sameModules
      refine ⟨?_, fun other found => Option.some.inj found ▸ early⟩
      have loading := carryOut_helpers_remembers ⟨target.title, body, input⟩ so reached
      dsimp only [Option.bind_some]
      rw [travel, bind_step]
      rcases loaded : carryOut ⟨target.title, body, input⟩ so .helpers reached
        with ⟨fault | next, middle⟩
      all_goals rw [loaded] at loading
      · exact Remembers.behind loading early
      · exact (Remembers.behind loading early).ahead (travel_late _ next middle)

/-! ## What a request remembers -/

theorem SameModules.pending (same : SameModules session after) :
    pending after.renderer = pending session.renderer := by
  rw [Session.pending, Session.pending, same.1, same.2]

/-- Closing a renderer spares the modules. -/
theorem close_spares : Keeps Spares close := by
  have told : Keeps Spares (fire .detach) :=
    tell_spares _ _ (spares_attending.callEach _ fun _ _ _ => rfl)
  have detached : Keeps Spares detachAll := by
    rw [detachAll_eq]
    exact spares_attending.bind told fun _ => spares_attending.bind spares_attending.get fun _ =>
      spares_attending.bind (fun _ => rfl) fun _ => spares_attending.pure _
  exact spares_attending.bind detached.discard fun _ _ => rfl

/-- Every request remembers the modules of its stage, if it comes to one. These are modules that
were not applied before it. -/
theorem answer_remembers (request : Request) (session : Session) :
    Remembers (stage? request session) session (answer request session).2 ∧
      ∀ stage, stage? request session = some stage →
        stage.pending = pending session.renderer ∧ stage.Orderly := by
  have spared {step : SessionM Unit} (kept : Keeps Spares step) :
      Remembers none session (step session).2 := (kept session).sameModules.remembers
  have attending := spares_attending
  cases request with
  | use source settings shared =>
    exact ⟨spared (attending.attach source settings shared).discard, nofun⟩
  | render target input =>
    obtain ⟨remembers, early⟩ := render_remembers target input session
    refine ⟨?_, fun stage found => ?_⟩
    · rw [answer, discard_state]
      exact remembers
    · obtain ⟨reached, comes, staged⟩ := Option.bind_eq_some_iff.mp found
      obtain ⟨pending, orderly⟩ := helperStage?_pending staged
      exact ⟨pending.trans (early reached comes).pending, orderly⟩
  | close => exact ⟨spared close_spares, nofun⟩
  | addHelper helper => exact ⟨spared (attending.addHelper helper), nofun⟩
  | addTemplate name body source =>
    exact ⟨spared (attending.addTemplate name body source), nofun⟩
  | addReader extension reader => exact ⟨spared (attending.addReader extension reader), nofun⟩

/-- A renderer that is set up has its options and has applied no modules. -/
theorem setUp_modules (options : Options) (plugins : List PluginSource) (group : Option String)
    (session : Session) :
    (setUp options plugins group session).2.renderer.options = options ∧
      (setUp options plugins group session).2.renderer.appliedModules = [] := by
  have attending := spares_attending
  have each : Keeps Spares (plugins.forM fun source => discard (attach source)) := by
    induction plugins with
    | nil => exact attending.pure _
    | cons source rest ih =>
      exact attending.bind (attending.attach source .null .null).discard fun _ => ih
  have spares : Keeps Spares (do
      prepareEach plugins
      let warnings ← loadPlugins options.pluginModules group
      plugins.forM fun source => discard (attach source)
      pure warnings) :=
    attending.bind (attending.prepareEach plugins) fun _ =>
      attending.bind (attending.loadPlugins _ group) fun _ =>
        attending.bind each fun _ => attending.pure _
  obtain same := (spares { session with renderer := { options } }).sameModules
  rw [setUp, bind_step, modify_step]
  exact same

/-- The modules of a stage are those of the options that were applied neither before all requests
nor in a stage before it. -/
theorem helperStages_pending (visits : List Visit) {session : Session}
    {before later : List HelperStage} {stage : HelperStage}
    (split : helperStages visits session = before ++ stage :: later) :
    stage.Orderly ∧ stage.pending = session.renderer.options.helperModules.filter fun module =>
      !(session.renderer.appliedModules ++ before.flatMap HelperStage.applied).any module.same := by
  -- What the first visit applies has been applied already in the session that the others find.
  induction visits generalizing session before with
  | nil => cases List.append_ne_nil_of_right_ne_nil before (List.cons_ne_nil stage later) split.symm
  | cons visit rest ih =>
    obtain ⟨remembers, staged⟩ :=
      answer_remembers visit.request (session.equipped visit.library)
    obtain ⟨options, applied⟩ : Remembers _ session (session.visited visit) := remembers
    rw [helperStages] at split
    cases found : stage? visit.request (session.equipped visit.library) with
    | none =>
      rw [found] at split applied
      have later := ih split
      rw [options, applied] at later
      simpa using later
    | some first =>
      rw [found] at split applied
      cases before with
      | nil =>
        obtain ⟨rfl, _⟩ := List.cons.inj split
        obtain ⟨pending, orderly⟩ := staged first found
        refine ⟨orderly, pending.trans ?_⟩
        rw [List.flatMap_nil, List.append_nil]
        rfl
      | cons other before =>
        obtain ⟨rfl, others⟩ := List.cons.inj split
        have later := ih others
        rw [options, applied] at later
        simpa using later

end Session

open Session

/-- Whatever is asked of a renderer after it was set up, with whatever modules there are each time:
a pass that comes to loading helper modules goes in order through those of the options that are not
equal to one of a pass in which none failed, up to the first that fails. So no module is applied
again after such a pass. But a pass in which one failed leaves all to be applied again, also those
that were applied. -/
theorem modules_applied (files : FileTree) (library : ModuleLibrary)
    (installed : Table (List (String × String))) (options : Options) (plugins : List PluginSource)
    (group : Option String) (visits : List Visit) {before later : List HelperStage}
    {stage : HelperStage}
    (split : helperStages visits (setUp options plugins group { files, library, installed }).2 =
      before ++ stage :: later) :
    stage.pending = (options.helperModules.filter fun module =>
        !(before.flatMap HelperStage.applied).any module.same) ∧
      stage.Orderly ∧
      (∀ registration ∈ stage.tried, ∀ earlier ∈ before, earlier.result = .ok () →
        ∀ module ∈ earlier.pending, registration.module.same module = false) ∧
      ∀ next rest fault, later = next :: rest → stage.result = .error fault →
        next.pending = stage.pending := by
  obtain ⟨renderer, none⟩ := setUp_modules options plugins group { files, library, installed }
  have staged {before later : List HelperStage} {stage : HelperStage}
      (split : helperStages visits (setUp options plugins group { files, library, installed }).2 =
        before ++ stage :: later) :
      stage.Orderly ∧ stage.pending = options.helperModules.filter fun module =>
        !(before.flatMap HelperStage.applied).any module.same := by
    have whole := helperStages_pending visits split
    rwa [renderer, none, List.nil_append] at whole
  obtain ⟨orderly, pending⟩ := staged split
  refine ⟨pending, orderly, fun registration tried earlier former fine module member => ?_, ?_⟩
  · have listed : registration.module ∈ stage.pending :=
      orderly.ordered.subset (List.mem_map_of_mem tried)
    rw [pending, List.mem_filter] at listed
    have apart : (before.flatMap HelperStage.applied).any registration.module.same = false := by
      simpa using listed.2
    have applied : module ∈ before.flatMap HelperStage.applied := by
      refine List.mem_flatMap.mpr ⟨earlier, former, ?_⟩
      rw [HelperStage.applied, fine]
      exact member
    exact Bool.eq_false_iff.mpr fun same => Bool.eq_false_iff.mp apart
      (List.any_eq_true.mpr ⟨module, applied, same⟩)
  · rintro next rest fault rfl failed
    obtain ⟨_, again⟩ := staged (split.trans (List.append_cons before stage (next :: rest)))
    have nothing : stage.applied = [] := by rw [HelperStage.applied, failed]
    rw [again, pending, List.flatMap_append, List.flatMap_singleton, nothing, List.append_nil]

/-- Two modules, each of which registers one helper. -/
def lettersLibrary : ModuleLibrary :=
  let registering (id : String) : ModuleContent :=
    let helper : Helper := { id, function := .scripted none [] }
    .members [(registrationMember, .factory (.registration [helper]))]
  { contents := (Table.empty.insert "one" (registering "a")).insert "two" (registering "b") }

/-- A template is rendered while the name of the second helper is taken, and again later. -/
def lettersVisits : List Visit :=
  [.addHelper { id := "q", aliases := ["b"], function := .scripted none [] },
    .addTemplate "page" (.text "t") none, .render (.named "page") (.value .null),
    .addHelper { id := "q", function := .scripted none [] },
    .render (.named "page") (.value .null)].map (⟨lettersLibrary, ·⟩)

/-- The first module is applied in the first pass, which fails of the second one. So the second
pass comes to the first module again, and fails of that. -/
theorem modules_applied_letters :
    let options : Options := { helperModules := [.text "one", .text "two"] }
    let stages := helperStages lettersVisits
      (setUp options [] none { files := {}, library := lettersLibrary, installed := {} }).2
    (stages.map fun stage => stage.tried.map fun registration =>
        (registration.module.text?, registration.result.isOk)) =
      [[(some "one", true), (some "two", false)], [(some "one", false)]] ∧
    ∃ first second, stages = [first, second] ∧ second.pending = first.pending := by
  intro options stages
  refine ⟨by decide +kernel, ?_⟩
  have failed : stages.map (fun stage => stage.result.isOk) = [false, false] := by decide +kernel
  have two : stages.length = 2 := by simpa using congrArg List.length failed
  obtain ⟨first, second, same⟩ := List.length_eq_two.mp two
  refine ⟨first, second, same, ?_⟩
  obtain ⟨_, _, _, again⟩ := modules_applied {} lettersLibrary {} options [] none lettersVisits
    (same.trans (List.nil_append _).symm)
  rw [same] at failed
  cases result : first.result with
  | error fault => exact again second [] fault rfl result
  | ok _ =>
    rw [List.map_cons, result] at failed
    cases failed

end TemplateStream
