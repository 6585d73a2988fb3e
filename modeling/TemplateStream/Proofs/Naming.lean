import TemplateStream.Proofs.FailureStages

/-!
# The template that a fault names

A fault of a render pass names the stage that failed and the template that is rendered. Loading a
data file is the exception: what plugins make of it is reported without the template, and what a
reader reports as a fault of a pass is passed on as it is. All other faults that a pass ends with,
and all other faults that it puts up with, have the name.
-/

namespace TemplateStream

/-- The names of the stages at which a pass can fail. -/
def Stage.names : List String := ["parse", "plugin-event", "data-load", "helper", "render"]

/-- A fault that names a template and one of the stages of a pass. -/
def Fault.Names (template : String) (fault : Fault) : Prop :=
  ∃ stage ∈ Stage.names, ∃ event, fault.stage? = some (stage, some template, event)

/-- The fault that plugins cause which were told of a data file: it names no template. -/
def Telling.unnamed? (telling : Telling) : Option Fault :=
  match telling.event, telling.result with
  | .dataFileLoaded, .error cause => some (.stage (.pluginEvent .dataFileLoaded) none cause)
  | _, _ => none

namespace Fault

variable {template : String} {stage : Stage} {cause : Fault}

/-- A fault of a stage names its template, whatever the fault behind it. -/
theorem names_stage : (Fault.stage stage (some template) cause).Names template := by
  refine ⟨stage.name, ?_, stage.event?, rfl⟩
  cases stage <;> simp [Stage.name, Stage.names]

/-- A fault that names no template does not name that of a pass. -/
theorem not_names_unnamed : ¬ (Fault.stage stage none cause).Names template := by
  rintro ⟨_, _, _, named⟩
  cases named

end Fault

/-- The fault of plugins that were told of something names the template, unless they were told of a
data file. -/
theorem Telling.failure?_names {template : String} {telling : Telling} {fault : Fault}
    (failed : telling.failure? template = some fault) :
    fault.Names template ∨ telling.unnamed? = some fault := by
  obtain ⟨event, data, result⟩ := telling
  cases result with
  | ok _ => cases failed
  | error cause =>
    have same : fault = .stage (.pluginEvent event) (event.template? template) cause :=
      (Option.some.inj failed).symm
    by_cases file : event = .dataFileLoaded
    · subst file
      exact .inr (congrArg some same.symm)
    · have named : event.template? template = some template := by
        cases event <;> first | rfl | exact absurd rfl file
      rw [same, named]
      exact .inl Fault.names_stage

/-- What plugins cause that were told of a data file is their fault, and names no template. -/
theorem Telling.failure?_unnamed (template : String) {telling : Telling} {fault : Fault}
    (unnamed : telling.unnamed? = some fault) :
    telling.failure? template = some fault ∧ ¬ fault.Names template := by
  obtain ⟨event, data, result⟩ := telling
  unfold Telling.unnamed? at unnamed
  split at unnamed
  · rename_i cause file failed
    cases unnamed
    cases file
    cases failed
    exact ⟨rfl, Fault.not_names_unnamed⟩
  · cases unnamed

/-- Where a fault of plugins is not put up with, it is the fault that the pass ends with. -/
theorem PluginPolicy.Ends.of_failure {α : Type} {policy : PluginPolicy} {template : String}
    {told : List Telling} {own : Fault → Prop} {result : Except Fault α}
    (ends : policy.Ends template told own result) (abort : policy = .abort) {telling : Telling}
    (member : telling ∈ told) {fault : Fault}
    (failed : telling.failure? template = some fault) : result = .error fault := by
  cases broke : telling.result with
  | ok _ =>
    rw [Telling.failure?, broke] at failed
    cases failed
  | error cause =>
    rw [Telling.failure?, broke] at failed
    cases failed
    exact ends.of_failed abort member broke

namespace Session

/-- A fault of a pass over a template, given what was read: one that looks like that of a pass
names the template, or is that of a reader. -/
def NamedFault (template : String) (read : List Reading) (fault : Fault) : Prop :=
  fault.kind = .render → fault.Names template ∨ ∃ reading ∈ read, reading.result = .error fault

theorem NamedFault.more {template : String} {read later : List Reading} {fault : Fault}
    (own : NamedFault template later fault) : NamedFault template (read ++ later) fault := by
  intro render
  rcases own render with named | ⟨reading, member, failed⟩
  · exact .inl named
  · exact .inr ⟨reading, List.mem_append_right _ member, failed⟩

/-- A module that cannot be looked for is not reported as a fault of a pass. -/
theorem requireKey_plain {values : List Value} {fault : Fault}
    (failed : values.forM Value.requireKey = .error fault) : fault.kind ≠ .render := by
  induction values with
  | nil => cases failed
  | cons value rest ih =>
    change (value.requireKey >>= fun _ => rest.forM Value.requireKey) = _ at failed
    cases keyed : value.requireKey with
    | ok _ =>
      rw [keyed] at failed
      exact ih failed
    | error other =>
      rw [keyed] at failed
      cases failed
      unfold Value.requireKey at keyed
      split at keyed
      · cases keyed
        exact nofun
      · cases keyed

variable (commission : Commission) (output : String)

/-- Loading data fails with the template of the pass, or with the fault of a reader. -/
theorem carryOut_data_named : Conducts commission.template (NamedFault commission.template)
    (carryOut commission output .data) := by
  intro session
  obtain ⟨told, read, stretch, ends⟩ :=
    loadPaths_conducts commission.template session.renderer.options.dataPaths session
  rw [carryOut_data]
  refine ⟨told, read, stretch, ?_⟩
  cases loaded : (loadPaths announceFile session.renderer.options.dataPaths session).1 with
  | ok _ =>
    rw [loaded] at ends
    exact ends
  | error fault =>
    rw [loaded] at ends
    change session.policy.EndsBy _ _ (loadFailure commission.template fault) ∨ _
    by_cases render : fault.kind = .render
    · rw [loadFailure_of_kind _ render]
      exact ends.imp_right fun ⟨bears, own⟩ => ⟨bears, fun render => .inr (own render)⟩
    · have wrapped : loadFailure commission.template fault =
          .stage .dataLoad (some commission.template) fault := by
        rw [loadFailure, if_neg (by simpa using render)]
      have bears : session.policy.Bears told :=
        ends.elim (fun ended => absurd ended.kind render) And.left
      rw [wrapped]
      exact .inr ⟨bears, fun _ => .inl Fault.names_stage⟩

/-- Loading helper modules fails with the template of the pass. -/
theorem carryOut_helpers_named : Conducts commission.template (NamedFault commission.template)
    (carryOut commission output .helpers) := by
  refine .of_silent (carryOut_helpers_silent _ _ _) fun session fault failed render => ?_
  cases keyed : session.renderer.options.helperModules.forM Value.requireKey with
  | error other =>
    simp only [carryOut, bind_step, pendingModules_step, keyed] at failed
    cases failed
    exact absurd render (requireKey_plain keyed)
  | ok _ =>
    have found : pendingModules session = (.ok (pending session.renderer), session) := by
      rw [pendingModules_step, keyed]
      rfl
    simp only [carryOut, bind_step, found, attempt_step] at failed
    cases loaded : (loadHelperModules (pending session.renderer) session).1 with
    | ok _ =>
      rw [loaded] at failed
      cases failed
    | error cause =>
      rw [loaded] at failed
      cases failed
      exact .inl Fault.names_stage

/-- Rendering the content fails with the template of the pass. -/
theorem carryOut_content_named : Conducts commission.template (NamedFault commission.template)
    (carryOut commission output .content) := by
  refine .of_silent (carryOut_content_silent _ _ _) fun session fault failed _ => ?_
  rw [carryOut_content] at failed
  cases ran : (session.contentRun commission).1 with
  | ok _ =>
    rw [ran] at failed
    cases failed
  | error cause =>
    rw [ran] at failed
    cases failed
    exact .inl Fault.names_stage

/-- Every leg of the course fails with the template of the pass, or with the fault of a reader, when
it is not plugins that fail. -/
theorem carryOut_named {leg : Leg} (member : leg ∈ Leg.course) :
    Conducts commission.template (NamedFault commission.template)
      (carryOut commission output leg) := by
  cases leg with
  | event event => exact (carryOut_event_conducts commission output member).mono fun _ _ => nofun
  | data => exact carryOut_data_named commission output
  | helpers => exact carryOut_helpers_named commission output
  | content => exact carryOut_content_named commission output

/-- What a target leads to no body for: a body that cannot be rendered has no name to give. -/
def Nameless (target : RenderTarget) (fault : Fault) : Prop :=
  ∃ body, target = .given body ∧ body.isRenderable = false ∧ fault = .notRenderable body.typeName

/-- A pass fails with its template, unless plugins fail, it is the fault of a reader, or there is no
name to give. -/
theorem render_named (target : RenderTarget) (input : RenderInput) (session : Session) :
    ∃ told read,
      Stretch target.title session.cleared (render target input session).2 told read ∧
      session.policy.Ends target.title told
        (fun fault => NamedFault target.title read fault ∨ Nameless target fault)
        (render target input session).1 := by
  rw [render_eq, bind_step, opening_step]
  cases found : target.bodyIn session.renderer.templates with
  | error fault =>
    refine ⟨[], [], .of_same rfl rfl rfl, .inr ⟨PluginPolicy.bears_nil, ?_⟩⟩
    rcases bodyIn_error found with ⟨name, cause, rfl, _, rfl⟩ | ⟨body, refused⟩
    · exact .inl fun _ => .inl Fault.names_stage
    · exact .inr ⟨body, refused⟩
  | ok body =>
    let commission : Commission := ⟨target.title, body, input⟩
    have conducts : Conducts target.title (NamedFault target.title)
        (travel commission "" Leg.course) :=
      .travel .more (fun _ member output => carryOut_named commission output member) ""
    obtain ⟨told, read, stretch, ends⟩ := conducts session.cleared
    refine ⟨told, read, stretch, ?_⟩
    change session.policy.Ends _ _ _ (travel commission "" Leg.course session.cleared).1
    cases result : (travel commission "" Leg.course session.cleared).1 with
    | ok _ =>
      rw [result] at ends
      exact ends
    | error fault =>
      rw [result] at ends
      exact ends.imp_right fun ⟨bears, own⟩ => ⟨bears, .inl own⟩

end Session

open Session

/-- Every fault of the kind of a pass that a pass ends with names its template and a stage, unless
it is the fault of plugins that were told of a data file, that of a reader, or that of a body that
cannot be rendered. So does every fault that is put up with, but for those of plugins that were
told of a data file. Whenever these fail, the pass ends with their fault or puts up with it, as the
options say, and it names no template. -/
theorem failures_named (target : RenderTarget) (input : RenderInput) (session : Session) :
    ∃ told read,
      (render target input session).2.tellings = session.tellings ++ told ∧
      (render target input session).2.readings = session.readings ++ read ∧
      (∀ fault, (render target input session).1 = .error fault → fault.kind = .render →
        fault.Names target.title ∨
          (session.policy = .abort ∧ ∃ telling ∈ told, telling.unnamed? = some fault) ∨
          (∃ reading ∈ read, reading.result = .error fault) ∨ Nameless target fault) ∧
      (∀ fault ∈ (render target input session).2.renderer.faults,
        fault.Names target.title ∨
          (session.policy = .proceed ∧ ∃ telling ∈ told, telling.unnamed? = some fault)) ∧
      ∀ telling ∈ told, ∀ fault, telling.unnamed? = some fault →
        ¬ fault.Names target.title ∧
          match session.policy with
          | .abort => (render target input session).1 = .error fault
          | .proceed => fault ∈ (render target input session).2.renderer.faults := by
  obtain ⟨told, read, stretch, ends⟩ := render_named target input session
  have faults : (render target input session).2.renderer.faults =
      session.policy.putUpWith target.title told := stretch.faults
  refine ⟨told, read, stretch.tellings, stretch.readings, fun fault failed render => ?_,
    fun fault member => ?_, fun telling member fault unnamed => ?_⟩
  · rw [failed] at ends
    rcases ends with ⟨abort, earlier, last, rfl, _, cause⟩ | ⟨_, own | nameless⟩
    · rcases Telling.failure?_names cause with named | unnamed
      · exact .inl named
      · exact .inr (.inl ⟨abort, last, List.mem_append_right _ List.mem_cons_self, unnamed⟩)
    · rcases own render with named | reading
      · exact .inl named
      · exact .inr (.inr (.inl reading))
    · exact .inr (.inr (.inr nameless))
  · rw [faults] at member
    cases policy : session.policy with
    | abort =>
      rw [policy] at member
      cases member
    | proceed =>
      rw [policy] at member
      obtain ⟨telling, inside, cause⟩ := List.mem_filterMap.mp member
      exact (Telling.failure?_names cause).imp_right fun unnamed => ⟨rfl, telling, inside, unnamed⟩
  · have ⟨cause, nameless⟩ := Telling.failure?_unnamed target.title unnamed
    refine ⟨nameless, ?_⟩
    cases policy : session.policy with
    | proceed =>
      rw [faults, policy]
      exact List.mem_filterMap.mpr ⟨telling, member, cause⟩
    | abort =>
      exact ends.of_failure policy member cause

/-- The session that is shown has a plugin that fails whenever a data file was loaded: the pass ends
with a fault that names no template. -/
example :
    let reporter : Plugin := { (default : Plugin) with
      name := "reporter"
      scripts := [(.dataFileLoaded, ⟨false, [.raise (.raised .value "boom")]⟩)] }
    let session : Session :=
      { surroundedBy [] with
        renderer := { (surroundedBy []).renderer with
          roster := ⟨.ofList [("reporter", reporter)], []⟩ } }
    (match (render (.named "page") (.value .null) session).1 with
      | .ok _ => none
      | .error fault => fault.stage?) = some ("plugin-event", none, some .dataFileLoaded) := by
  decide +kernel

end TemplateStream
