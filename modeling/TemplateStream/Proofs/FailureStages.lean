import TemplateStream.Proofs.Course
import TemplateStream.Proofs.Isolation

/-!
# What a render pass fails of

A fault of a pass names the stage that failed and has the original fault behind it. Which stage it
names is decided by what happened: the target led to no body, plugins failed on an event and were
not put up with, loading the data failed by itself, a helper module could not be loaded, or the
content could not be rendered, by the fault of a helper or by another one.
-/

namespace TemplateStream

namespace Pass

/-- What comes of a document when its body was begun with a result, and the work that was left had
some faults, in the order of time. -/
def surfaced (begun : Except Fault Unit) (faults : List Fault) (last : Pass) :
    Except Fault String :=
  match begun, faults with
  | .error fault, _ => .error fault
  | .ok (), fault :: _ => .error fault
  | .ok (), [] =>
    if last.tree.finished then .ok last.tree.text
    else .error (.chunk (.unfinished last.tree.incompleteCount))

/-- The fault of the body itself comes before those of the work, and of these the first in time
comes before that a chunk was never ended. -/
theorem document_surfaces {body : Body} {context : Context} {sink : Sink} {bookmarks : Bookmarks}
    {result : Except Fault Unit} {begun last : Pass}
    (began : begin body context (Pass.start sink true bookmarks) = (result, begun))
    (drove : drive begun = (.ok (), last)) :
    ∃ faults, begun.Runs faults last ∧ last.agenda.pending = [] ∧
      (document body context (Pass.start sink true bookmarks)).1 =
        surfaced result faults last := by
  obtain ⟨faults, ran, done⟩ := Runs.start.driveWithin drove
  rw [List.nil_append] at ran
  refine ⟨faults, ran, done, ?_⟩
  have begins : beginWith Body.render body context (Pass.start sink true bookmarks) =
    (result, begun) := began
  rw [document_eq_documentWith]
  cases result with
  | error fault => exact document_failed begins drove
  | ok _ =>
    have kept : Keeps (fun pass after => after.failures = pass.failures) (begin body context) :=
      failures_same.bind failures_same.root fun root =>
        failures_same.bind (failures_same.renderTo Body.nestingLimit body root context).discard
          fun _ => failures_same.finish root _
    have fresh : begun.failures = [] := kept.after began
    have failures : last.failures = faults := by
      rw [ran.failures_eq, fresh, List.nil_append]
    rw [document_concluded begins drove done, conclusion, failures]
    cases faults <;> rfl

end Pass

namespace Session

variable {target : RenderTarget} {input : RenderInput} {session : Session}

/-- The helper modules that were not applied yet. -/
def pending (renderer : Renderer) : List Value :=
  renderer.options.helperModules.filter fun module => !renderer.appliedModules.any module.same

/-- A telling that is not put up with failed. -/
def Interrupted (policy : PluginPolicy) (told : List Telling) : Prop :=
  policy = .abort ∧ ∃ telling ∈ told, ∃ cause, telling.result = .error cause

/-- What it takes for a pass over a target, in which plugins were told some things, to fail at a
stage with a fault behind it. -/
def FailsAt (target : RenderTarget) (input : RenderInput) (session : Session)
    (told : List Telling) (template : Option String) (cause : Fault) : Stage → Prop
  | .parse =>
    ∃ name, target = .named name ∧ template = some name ∧
      session.renderer.templates.get name = .error cause
  | .pluginEvent event =>
    template = event.template? target.title ∧ session.policy = .abort ∧
      ∃ telling ∈ told, telling.event = event ∧ telling.result = .error cause
  | .dataLoad =>
    template = some target.title ∧ ¬ Interrupted session.policy told ∧
      ∃ commission output reached, Arrives target input session .data commission output reached ∧
        (loadPaths announceFile reached.renderer.options.dataPaths reached).1 = .error cause
  | .helperLoad =>
    template = some target.title ∧
      ∃ commission output reached,
        Arrives target input session .helpers commission output reached ∧
        (loadHelperModules (pending reached.renderer) reached).1 = .error cause
  | .helperCall =>
    template = some target.title ∧ cause.kind = .helper ∧
      ∃ commission output reached,
        Arrives target input session .content commission output reached ∧
        (reached.contentRun commission).1 = .error cause
  | .content =>
    template = some target.title ∧ cause.kind ≠ .helper ∧
      ∃ commission output reached,
        Arrives target input session .content commission output reached ∧
        (reached.contentRun commission).1 = .error cause

/-! ## Coming to a leg -/

/-- A target that leads to no body names a template that there is not, or is itself a body that
cannot be rendered. -/
theorem bodyIn_error {templates : TemplateRegistry} {fault : Fault}
    (failed : target.bodyIn templates = .error fault) :
    (∃ name cause, target = .named name ∧ templates.get name = .error cause ∧
        fault = .stage .parse (some name) cause) ∨
      ∃ body, target = .given body ∧ body.isRenderable = false ∧
        fault = .notRenderable body.typeName := by
  cases target with
  | named name =>
    cases found : templates.get name with
    | ok body =>
      rw [RenderTarget.bodyIn, found] at failed
      cases failed
    | error cause =>
      rw [RenderTarget.bodyIn, found] at failed
      cases failed
      exact .inl ⟨name, cause, rfl, found, rfl⟩
  | given body =>
    cases renderable : body.isRenderable with
    | true =>
      rw [RenderTarget.bodyIn, renderable] at failed
      cases failed
    | false =>
      rw [RenderTarget.bodyIn, renderable] at failed
      cases failed
      exact .inr ⟨body, rfl, renderable, rfl⟩

/-- What was told and read before a leg to which a pass comes, none of which ended the pass. -/
theorem Arrives.stretch {leg : Leg} {commission : Commission} {output : String} {reached : Session}
    (arrives : Arrives target input session leg commission output reached) :
    leg ∈ Leg.course ∧ commission.template = target.title ∧
      ∃ told read, Stretch target.title session.cleared reached told read ∧
        session.policy.Bears told := by
  obtain ⟨opened, before, later, began, course, went⟩ := arrives
  rw [opening_step] at began
  cases found : target.bodyIn session.renderer.templates with
  | error fault =>
    rw [found] at began
    cases began
  | ok body =>
    rw [found] at began
    cases began
    have members : ∀ leg ∈ before, leg ∈ Leg.course := by
      intro leg member
      rw [course]
      exact List.mem_append_left _ member
    obtain ⟨told, read, stretch, ends⟩ :=
      travel_conducts ⟨target.title, body, input⟩ "" members session.cleared
    rw [went] at stretch ends
    refine ⟨?_, rfl, told, read, stretch, ends⟩
    rw [course]
    exact List.mem_append_right _ List.mem_cons_self

/-- What was told and read in a pass that came to a leg in which some things were told and read
before it failed. -/
theorem Arrives.told {leg : Leg} {commission : Commission} {output : String}
    {reached after : Session} (arrives : Arrives target input session leg commission output reached)
    {told : List Telling} {read : List Reading}
    (stretch : Stretch target.title reached after told read) :
    ∃ earlier before, after.tellings = session.tellings ++ (earlier ++ told) ∧
      after.readings = session.readings ++ (before ++ read) := by
  obtain ⟨_, _, earlier, before, so, _⟩ := arrives.stretch
  exact ⟨earlier, before, (so.trans stretch).tellings, (so.trans stretch).readings⟩

/-- No reader that a pass over a target applies fails with a fault that looks like that of a
pass. -/
def ReadsPlainly (target : RenderTarget) (input : RenderInput) (session : Session) : Prop :=
  ∀ reading ∈ (render target input session).2.readings.drop session.readings.length,
    reading.isPlain = true

instance : Decidable (ReadsPlainly target input session) :=
  inferInstanceAs (Decidable (∀ _ ∈ _, _))

/-- A fault of loading data is what the leg fails of. -/
theorem carryOut_data_of {commission : Commission} {output : String} {cause : Fault}
    (failed : (loadPaths announceFile session.renderer.options.dataPaths session).1 =
      .error cause) :
    carryOut commission output .data session =
      (.error (loadFailure commission.template cause),
        (loadPaths announceFile session.renderer.options.dataPaths session).2) := by
  rw [carryOut_data, failed]
  rfl

/-- Loading data fails by itself, or because plugins that were told of a file failed. -/
theorem load_cause {commission : Commission} {output : String} {reached : Session}
    {told : List Telling} {cause : Fault}
    (arrives : Arrives target input session .data commission output reached)
    (failed : (loadPaths announceFile reached.renderer.options.dataPaths reached).1 = .error cause)
    (heard : (render target input session).2.tellings = session.tellings ++ told)
    (plain : ReadsPlainly target input session) :
    cause.kind ≠ .render ∨ session.policy = .abort ∧ ∃ telling ∈ told, ∃ original,
      telling.result = .error original ∧
      cause = .stage (.pluginEvent telling.event) (telling.event.template? target.title)
        original := by
  obtain ⟨_, named, _, _, so, _⟩ := arrives.stretch
  obtain ⟨late, read, stretch, ends⟩ := loadPaths_conducts target.title
    reached.renderer.options.dataPaths reached
  obtain ⟨earlier, before, tellings, readings⟩ := arrives.told stretch
  have ended := arrives.render (carryOut_data_of failed)
  have told_eq : told = earlier ++ late := by
    rw [ended, tellings] at heard
    exact (List.append_cancel_left heard).symm
  rw [failed, so.policy_eq] at ends
  rcases ends with ends | ⟨_, own⟩
  · obtain ⟨telling, member, original, was, rfl⟩ := ends.exists_failed
    refine .inr ⟨ends.1, telling, ?_, original, was, rfl⟩
    rw [told_eq]
    exact List.mem_append_right _ member
  · refine .inl fun render => ?_
    obtain ⟨reading, member, failed⟩ := own render
    have inside : reading ∈
        (Session.render target input session).2.readings.drop session.readings.length := by
      rw [ended, readings, List.drop_left]
      exact List.mem_append_right _ member
    have isPlain := plain reading inside
    simp [Reading.isPlain, failed, render] at isPlain

/-- Helper modules that can be looked for among the applied ones are. -/
theorem pendingModules_of_keyed (keyed : ∀ module ∈ session.renderer.options.helperModules,
    module.requireKey = .ok ()) :
    pendingModules session = (.ok (pending session.renderer), session) := by
  have checked : ∀ modules : List Value, (∀ module ∈ modules, module.requireKey = .ok ()) →
      modules.forM Value.requireKey = .ok () := by
    intro modules
    induction modules with
    | nil => exact fun _ => rfl
    | cons module rest ih =>
      intro keyed
      change (module.requireKey >>= fun _ => rest.forM Value.requireKey) = _
      rw [keyed module List.mem_cons_self]
      exact ih fun other member => keyed other (List.mem_cons_of_mem _ member)
  rw [pendingModules_step, checked _ keyed]
  rfl

/-- A helper module that cannot be loaded is what the leg fails of. -/
theorem carryOut_helpers (commission : Commission) (output : String)
    (keyed : ∀ module ∈ session.renderer.options.helperModules, module.requireKey = .ok ()) :
    (carryOut commission output .helpers session).1 =
      ((loadHelperModules (pending session.renderer) session).1.map fun _ => output).mapError
        (.stage .helperLoad (some commission.template)) := by
  simp only [carryOut, bind_step, pendingModules_of_keyed keyed, attempt_step]
  cases (loadHelperModules (pending session.renderer) session).1 <;> rfl

/-- A fault of the content is what the leg fails of, at the stage that its kind decides. -/
theorem carryOut_content_of {commission : Commission} {output : String} {cause : Fault}
    (failed : (session.contentRun commission).1 = .error cause) :
    carryOut commission output .content session =
      (.error (.stage (contentStage cause) (some commission.template) cause),
        (carryOut commission output .content session).2) := by
  rw [carryOut_content, failed]
  rfl

section

variable {told : List Telling}
  (keyed : ∀ module ∈ session.renderer.options.helperModules, module.requireKey = .ok ())
  (plain : ReadsPlainly target input session)
  (heard : (render target input session).2.tellings = session.tellings ++ told)
  (ends : session.policy.Ends target.title told (fun _ => True) (render target input session).1)

include ends in
/-- A pass that fails with another fault than that of plugins was not interrupted by them. -/
theorem not_interrupted {fault : Fault} (failed : (render target input session).1 = .error fault)
    (other : ∀ event template cause, fault ≠ .stage (.pluginEvent event) template cause) :
    ¬ Interrupted session.policy told := by
  rintro ⟨abort, telling, member, cause, failure⟩
  rw [failed] at ends
  rcases ends with ends | ⟨bears, _⟩
  · exact other _ _ _ (ends.of_failed member failure)
  · rw [bears abort telling member] at failure
    cases failure

include heard in
/-- A pass fails at an event when a plugin that it called on that event aborts it. -/
theorem failsAt_of_event {event : Event} {commission : Commission} {output : String}
    {fault : Fault} {reached after : Session}
    (arrives : Arrives target input session (.event event) commission output reached)
    (failed : carryOut commission output (.event event) reached = (.error fault, after)) :
    ∃ stage template cause, fault = .stage stage template cause ∧
      FailsAt target input session told template cause stage := by
  have ended := arrives.render failed
  obtain ⟨member, named, _, _, so, _⟩ := arrives.stretch
  obtain ⟨late, read, stretch, interrupts⟩ :=
    carryOut_event_conducts commission output member reached
  rw [named] at stretch interrupts
  obtain ⟨earlier, _, tellings, _⟩ := arrives.told stretch
  rw [failed] at interrupts tellings
  rcases interrupts with interrupts | ⟨_, never⟩
  · rw [so.policy_eq] at interrupts
    obtain ⟨telling, inside, cause, failure, rfl⟩ := interrupts.exists_failed
    refine ⟨_, _, cause, rfl, rfl, interrupts.1, telling, ?_, rfl, failure⟩
    rw [ended, tellings] at heard
    rw [← List.append_cancel_left heard]
    exact List.mem_append_right _ inside
  · exact never.elim

include plain heard ends in
/-- A pass that fails while it loads data fails there, unless a plugin aborted it that a data file
was announced to. -/
theorem failsAt_of_data {commission : Commission} {output : String} {fault : Fault}
    {reached after : Session}
    (arrives : Arrives target input session .data commission output reached)
    (failed : carryOut commission output .data reached = (.error fault, after)) :
    ∃ stage template cause, fault = .stage stage template cause ∧
      FailsAt target input session told template cause stage := by
  have ended := arrives.render failed
  obtain ⟨_, named, _⟩ := arrives.stretch
  rw [carryOut_data] at failed
  cases loaded : (loadPaths announceFile reached.renderer.options.dataPaths reached).1 with
  | ok _ =>
    rw [loaded] at failed
    cases failed
  | error cause =>
    rw [loaded] at failed
    cases failed
    rcases load_cause arrives loaded heard plain with
      own | ⟨abort, telling, inside, original, failure, rfl⟩
    · have fault : loadFailure commission.template cause =
          .stage .dataLoad (some target.title) cause := by
        rw [loadFailure, named, if_neg (by simpa using own)]
      rw [fault] at ended
      refine ⟨_, _, cause, fault, rfl, ?_, commission, output, reached, arrives, loaded⟩
      refine not_interrupted ends (congrArg Prod.fst ended) fun _ _ _ same => ?_
      cases same
    · exact ⟨_, _, original, rfl, rfl, abort, telling, inside, rfl, failure⟩

include keyed in
/-- A pass fails at the helpers when a helper module cannot be loaded. -/
theorem failsAt_of_helpers {commission : Commission} {output : String} {fault : Fault}
    {reached after : Session}
    (arrives : Arrives target input session .helpers commission output reached)
    (failed : carryOut commission output .helpers reached = (.error fault, after)) :
    ∃ stage template cause, fault = .stage stage template cause ∧
      FailsAt target input session told template cause stage := by
  obtain ⟨_, named, _, _, so, _⟩ := arrives.stretch
  have options : ∀ module ∈ reached.renderer.options.helperModules,
      module.requireKey = .ok () := so.options ▸ keyed
  have result := carryOut_helpers commission output options
  rw [failed] at result
  cases loaded : (loadHelperModules (pending reached.renderer) reached).1 with
  | ok _ =>
    rw [loaded] at result
    cases result
  | error cause =>
    rw [loaded] at result
    cases result
    exact ⟨_, _, cause, rfl, congrArg some named, commission, output, reached, arrives, loaded⟩

/-- A pass whose content cannot be written fails at that helper, or else at the content. -/
theorem failsAt_of_content {commission : Commission} {output : String} {fault : Fault}
    {reached after : Session}
    (arrives : Arrives target input session .content commission output reached)
    (failed : carryOut commission output .content reached = (.error fault, after)) :
    ∃ stage template cause, fault = .stage stage template cause ∧
      FailsAt target input session told template cause stage := by
  obtain ⟨_, named, _⟩ := arrives.stretch
  cases ran : (reached.contentRun commission).1 with
  | ok text =>
    rw [carryOut_content, ran] at failed
    cases failed
  | error cause =>
    rw [carryOut_content_of ran] at failed
    cases failed
    refine ⟨_, _, cause, rfl, ?_⟩
    rw [contentStage]
    split
    · rename_i helper
      exact ⟨congrArg some named, by simpa using helper, commission, output, reached, arrives, ran⟩
    · rename_i other
      exact ⟨congrArg some named, by simpa using other, commission, output, reached, arrives, ran⟩

include keyed plain heard ends in
/-- A pass that came to a leg that fails is one that fails at the stage of its fault. -/
theorem failsAt_of_leg {leg : Leg} {commission : Commission} {output : String} {fault : Fault}
    {reached after : Session} (arrives : Arrives target input session leg commission output reached)
    (failed : carryOut commission output leg reached = (.error fault, after)) :
    ∃ stage template cause, fault = .stage stage template cause ∧
      FailsAt target input session told template cause stage := by
  cases leg with
  | event event => exact failsAt_of_event heard arrives failed
  | data => exact failsAt_of_data plain heard ends arrives failed
  | helpers => exact failsAt_of_helpers keyed arrives failed
  | content => exact failsAt_of_content arrives failed

include keyed plain heard ends in
/-- A pass that is to fail at a stage does so. -/
theorem error_of_failsAt {stage : Stage} {template : Option String} {cause : Fault}
    (fails : FailsAt target input session told template cause stage) :
    (render target input session).1 = .error (.stage stage template cause) := by
  cases stage with
  | parse =>
    obtain ⟨name, rfl, rfl, unknown⟩ := fails
    rw [render_eq, bind_step, opening_step, RenderTarget.bodyIn, unknown]
    rfl
  | pluginEvent event =>
    obtain ⟨rfl, abort, telling, member, rfl, failure⟩ := fails
    exact ends.of_failed abort member failure
  | dataLoad =>
    obtain ⟨rfl, calm, commission, output, reached, arrives, loaded⟩ := fails
    obtain ⟨_, named, _⟩ := arrives.stretch
    rcases load_cause arrives loaded heard plain with
      own | ⟨abort, telling, inside, original, failure, _⟩
    · rw [arrives.render (carryOut_data_of loaded), loadFailure, named,
        if_neg (by simpa using own)]
    · exact (calm ⟨abort, telling, inside, original, failure⟩).elim
  | helperLoad =>
    obtain ⟨rfl, commission, output, reached, arrives, loaded⟩ := fails
    obtain ⟨_, named, _, _, so, _⟩ := arrives.stretch
    have result := carryOut_helpers commission output
      (so.options ▸ keyed : ∀ module ∈ reached.renderer.options.helperModules,
        module.requireKey = .ok ())
    rw [loaded, named] at result
    rw [arrives.render (Prod.ext result rfl)]
  | helperCall =>
    obtain ⟨rfl, helper, commission, output, reached, arrives, ran⟩ := fails
    obtain ⟨_, named, _⟩ := arrives.stretch
    rw [arrives.render (carryOut_content_of ran), named, contentStage, helper]
    rfl
  | content =>
    obtain ⟨rfl, other, commission, output, reached, arrives, ran⟩ := fails
    obtain ⟨_, named, _⟩ := arrives.stretch
    rw [arrives.render (carryOut_content_of ran), named, contentStage,
      if_neg (by simpa using other)]

end

end Session

open Session

/-- A pass in which every helper module can be looked for and no reader fails as a pass does fails
with a fault of a pass. It names the stage that failed and has the original fault behind it, unless
the target is a body that cannot be rendered. Each stage is named just when that is what happened.
The fault of the content is that of the body itself, else the first of its branches in the order of
time. -/
theorem failures_staged (target : RenderTarget) (input : RenderInput) (session : Session)
    (keyed : ∀ module ∈ session.renderer.options.helperModules, module.requireKey = .ok ())
    (plain : ReadsPlainly target input session) :
    ∃ told, (render target input session).2.tellings = session.tellings ++ told ∧
      (∀ fault, (render target input session).1 = .error fault → fault.kind = .render ∧
        ((∃ typeName, fault = .notRenderable typeName ∧ fault.cause? = none) ∨
          ∃ stage template cause, fault = .stage stage template cause ∧
            fault.cause? = some cause)) ∧
      (∀ stage template cause,
        (render target input session).1 = .error (.stage stage template cause) ↔
          FailsAt target input session told template cause stage) ∧
      (∀ typeName, (render target input session).1 = .error (.notRenderable typeName) ↔
        ∃ body, target = .given body ∧ body.isRenderable = false ∧ typeName = body.typeName) ∧
      ∀ commission output reached,
        Arrives target input session .content commission output reached →
        ∀ result begun last,
          Pass.begin commission.body (contentContext reached.renderer commission)
            (Pass.start commission.input.sink true reached.bookmarks) = (result, begun) →
          Pass.drive begun = (.ok (), last) →
          ∃ faults, begun.Runs faults last ∧ last.agenda.pending = [] ∧
            (reached.contentRun commission).1 = Pass.surfaced result faults last := by
  obtain ⟨told, _, stretch, ends⟩ := render_stretch target input session
  have heard := stretch.tellings
  have refused {body : Body} (given : target = .given body) (inert : body.isRenderable = false) :
      (render target input session).1 = .error (.notRenderable body.typeName) := by
    rw [render_eq, bind_step, opening_step, given, RenderTarget.bodyIn, inert]
    rfl
  have all : ∀ fault, (render target input session).1 = .error fault →
      (∃ body, target = .given body ∧ body.isRenderable = false ∧
        fault = .notRenderable body.typeName) ∨
      ∃ stage template cause, fault = .stage stage template cause ∧
        FailsAt target input session told template cause stage := by
    intro fault failed
    rcases render_error (Prod.ext failed rfl) with
      unopened | ⟨leg, commission, output, reached, arrives, stopped⟩
    · rw [opening_step] at unopened
      cases found : target.bodyIn session.renderer.templates with
      | ok body =>
        rw [found] at unopened
        cases unopened
      | error other =>
        rw [found] at unopened
        obtain rfl : other = fault := Except.error.inj (congrArg Prod.fst unopened)
        rcases bodyIn_error found with ⟨name, cause, rfl, unknown, rfl⟩ | ⟨body, refusal⟩
        · exact .inr ⟨.parse, some name, cause, rfl, name, rfl, rfl, unknown⟩
        · exact .inl ⟨body, refusal⟩
    · exact .inr (failsAt_of_leg keyed plain heard ends arrives stopped)
  refine ⟨told, heard, fun fault failed => ?_,
    fun stage template cause => ⟨fun failed => ?_, error_of_failsAt keyed plain heard ends⟩,
    fun typeName => ⟨fun failed => ?_, ?_⟩,
    fun _ _ _ _ _ _ _ began drove => Pass.document_surfaces began drove⟩
  · rcases all fault failed with ⟨body, _, _, rfl⟩ | ⟨stage, template, cause, rfl, _⟩
    · exact ⟨rfl, .inl ⟨_, rfl, rfl⟩⟩
    · exact ⟨rfl, .inr ⟨stage, template, cause, rfl, rfl⟩⟩
  · rcases all _ failed with ⟨_, _, _, other⟩ | ⟨_, _, _, same, fails⟩
    · cases other
    · cases same
      exact fails
  · rcases all _ failed with ⟨body, given, inert, same⟩ | ⟨_, _, _, other, _⟩
    · cases same
      exact ⟨body, given, inert, rfl⟩
    · cases other
  · rintro ⟨body, given, inert, rfl⟩
    exact refused given inert

/-- A session with a template, a data file and the given helper modules. -/
def surroundedBy (helperModules : List Value) : Session where
  files := { files := [(["notes.txt"], [])] }
  renderer :=
    { options := { dataPaths := [.text "notes.txt"], helperModules }
      templates := .ofList [("page", .text "a")]
      data := { extensions := ⟨.ofList [("txt", .constant (.text "b"))]⟩ } }

/-- Whether a pass failed of a helper module that there is not. -/
def lacksHelpers : Except Fault String → Bool
  | .error (.stage .helperLoad (some "page") (.importing (.missing "missing"))) => true
  | _ => false

theorem of_lacksHelpers {result : Except Fault String} (lacks : lacksHelpers result = true) :
    result = .error (.stage .helperLoad (some "page") (.importing (.missing "missing"))) := by
  unfold lacksHelpers at lacks
  split at lacks
  · rfl
  · cases lacks

/-- A helper module that there is not is what a pass fails of, after the data was loaded. -/
theorem failures_staged_missingModule :
    let session := surroundedBy [.text "missing"]
    (∀ module ∈ session.renderer.options.helperModules, module.requireKey = .ok ()) ∧
      ReadsPlainly (.named "page") (.value .null) session ∧
      ∃ told, FailsAt (.named "page") (.value .null) session told (some "page")
        (.importing (.missing "missing")) .helperLoad := by
  intro session
  have ran : (render (.named "page") (.value .null) session).1 =
      .error (.stage .helperLoad (some "page") (.importing (.missing "missing"))) :=
    of_lacksHelpers (by decide +kernel)
  have keyed : ∀ module ∈ session.renderer.options.helperModules, module.requireKey = .ok () :=
    List.forall_mem_singleton.mpr rfl
  have plain : ReadsPlainly (.named "page") (.value .null) session := by decide +kernel
  obtain ⟨told, _, _, staged, _⟩ := failures_staged _ _ session keyed plain
  exact ⟨keyed, plain, told, (staged _ _ _).mp ran⟩

/-- Whether a pass failed with a fault that is not that of a pass. -/
def failsUnstaged : Except Fault String → Bool
  | .error fault => fault.kind != .render
  | .ok _ => false

theorem of_failsUnstaged {result : Except Fault String} (unstaged : failsUnstaged result = true) :
    ∃ fault, result = .error fault ∧ fault.kind ≠ .render := by
  cases result with
  | ok _ => cases unstaged
  | error fault => exact ⟨fault, rfl, by simpa [failsUnstaged] using unstaged⟩

/-- A helper module that cannot be looked for among the applied ones is not put down to a stage. -/
theorem failures_not_staged :
    let session := surroundedBy [.list [.text "x"]]
    ReadsPlainly (.named "page") (.value .null) session ∧
      ∃ fault, (render (.named "page") (.value .null) session).1 = .error fault ∧
        fault.kind ≠ .render :=
  ⟨by decide +kernel, of_failsUnstaged (by decide +kernel)⟩

end TemplateStream
