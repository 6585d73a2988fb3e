import TemplateStream.Proofs.FailureStages
import TemplateStream.Proofs.Pages
import TemplateStream.Proofs.Tables
import TemplateStream.Proofs.Unattended

/-!
# Rendering again

What a pass without plugins did can be done again once it went well: the same files are read, and
what they hold is stored over what it was stored over before; no helper module is left to be
applied; and a content that keeps to itself comes to the same. So the second pass gives what the
first gave, and finds the renderer as it leaves it.
-/

namespace TemplateStream

namespace Session

variable {session after : Session} {commission : Commission} {output next : String}

/-! ## Helper modules -/

/-- Helper modules that were loaded have names. -/
theorem named_of_loaded {modules : List Value}
    (loaded : loadHelperModules modules session = (.ok (), after)) :
    ∀ module ∈ modules, ∃ name, module.text? = some name := by
  induction modules generalizing session with
  | nil => exact fun _ member => (List.not_mem_nil member).elim
  | cons module rest ih =>
    rw [loadHelperModules] at loaded
    obtain ⟨name, middle, named, loaded⟩ := bind_ok loaded
    obtain ⟨_, imported, _, loaded⟩ := bind_ok loaded
    obtain ⟨_, applied, _, loaded⟩ := bind_ok loaded
    obtain ⟨named, _⟩ := liftExcept_ok named
    intro other member
    rcases List.mem_cons.mp member with rfl | member
    · cases text : other.text? with
      | some name => exact ⟨name, rfl⟩
      | none =>
        rw [moduleName, text] at named
        cases named
    · exact ih loaded other member

/-- A text equals itself, be it markup or not. -/
theorem same_of_text {value : Value} {name : String} (text : value.text? = some name) :
    value.same value = true := by
  cases value with
  | text content => exact Value.same_self content
  | markup content => simp [Value.same, Value.text?]
  | _ => cases text

/-- No modules are left to be applied when those that were left have been, if they have names. -/
theorem pending_applied {renderer : Renderer}
    (named : ∀ module ∈ pending renderer, ∃ name, module.text? = some name) :
    pending { renderer with appliedModules := renderer.appliedModules ++ pending renderer } =
      [] := by
  rw [pending, List.filter_eq_nil_iff]
  intro module member
  rw [Bool.not_eq_true, Bool.not_eq_false']
  dsimp only
  rw [List.any_append, Bool.or_eq_true]
  cases applied : renderer.appliedModules.any module.same with
  | true => exact .inl rfl
  | false =>
    have left : module ∈ pending renderer := List.mem_filter.mpr ⟨member, by simp [applied]⟩
    obtain ⟨name, text⟩ := named module left
    exact .inr (List.any_eq_true.mpr ⟨module, left, same_of_text text⟩)

/-- A session after helper modules were loaded is what it was but for the helpers, the loaded
modules and the log. -/
theorem loaded_same {modules : List Value}
    (loaded : loadHelperModules modules session = (.ok (), after)) :
    ∃ library log helpers, after = { session with
      library, log, renderer := { session.renderer with helpers } } := by
  have settled := loadHelperModules_settled modules session
  rw [loaded] at settled
  refine ⟨after.library, after.log, after.renderer.helpers, ?_⟩
  exact congrArg (fun settled : Session => { settled with
    library := after.library
    log := after.log
    renderer := { settled.renderer with helpers := after.renderer.helpers } }) settled

/-- A session in which helper modules were remembered as applied. -/
def remembering (session : Session) (modules : List Value) : Session :=
  { session with
    renderer := { session.renderer with
      appliedModules := session.renderer.appliedModules ++ modules } }

/-- A pass loads the helper modules that were not applied, and remembers them. -/
theorem helpers_ok (went : carryOut commission output .helpers session = (.ok next, after)) :
    next = output ∧ session.renderer.options.helperModules.forM Value.requireKey = .ok () ∧
      ∃ furnished, loadHelperModules (pending session.renderer) session = (.ok (), furnished) ∧
        after = furnished.remembering (pending session.renderer) := by
  obtain ⟨modules, middle, found, went⟩ := bind_ok went
  rw [pendingModules_step] at found
  cases keyed : session.renderer.options.helperModules.forM Value.requireKey with
  | error fault =>
    rw [keyed] at found
    cases found
  | ok _ =>
    rw [keyed] at found
    cases found
    obtain ⟨result, furnished, loaded, went⟩ := bind_ok went
    rw [attempt_step, Prod.mk.injEq, Except.ok.injEq] at loaded
    cases result with
    | error fault => cases went
    | ok _ =>
      cases went
      exact ⟨rfl, rfl, furnished, Prod.ext loaded.1 loaded.2, rfl⟩

/-- Without modules left there is nothing to load. -/
theorem helpers_none (commission : Commission) (output : String)
    (keyed : session.renderer.options.helperModules.forM Value.requireKey = .ok ())
    (none : pending session.renderer = []) :
    carryOut commission output .helpers session = (.ok output, session) := by
  have found : pendingModules session = (.ok [], session) := by
    rw [pendingModules_step, keyed, ← none]
    rfl
  rw [carryOut, bind_step, found]
  dsimp only
  simp only [loadHelperModules, bind_step, attempt_step, pure_step, markApplied, update,
    modify_step, List.append_nil]

/-! ## A pass without plugins -/

/-- A session in which the content was rendered. -/
def rendered (session : Session) (commission : Commission) : Session :=
  { session with
    log := session.log ++ (session.contentRun commission).2.log
    bookmarks := (session.contentRun commission).2.bookmarks
    delivered := (session.contentRun commission).2.tree.delivered }

theorem stocked_recorded (news : List Happening) (loadings : List Loading) :
    (session.recorded news).stocked loadings = (session.stocked loadings).recorded news := rfl

theorem rendered_recorded (news : List Happening) (commission : Commission) :
    (session.recorded news).rendered commission = (session.rendered commission).recorded news :=
  rfl

/-- A content that goes well is rendered. -/
theorem content_ok
    (went : carryOut commission output .content session = (.ok next, after)) :
    (session.contentRun commission).1 = .ok next ∧ after = session.rendered commission := by
  rw [carryOut_content] at went
  cases came : (session.contentRun commission).1 with
  | error fault =>
    rw [came] at went
    cases went
  | ok text =>
    rw [came] at went
    cases went
    exact ⟨rfl, rfl⟩

/-- A content that comes to a text is rendered as that. -/
theorem content_comes (came : (session.contentRun commission).1 = .ok output) (so : String) :
    carryOut commission so .content session = (.ok output, session.rendered commission) := by
  rw [carryOut_content, came]
  rfl

/-- The legs of a pass, between which plugins are told of events. -/
theorem course_eq : Leg.course =
    [Event.beforeRender, .beforeLoadData].map .event ++ .data ::
      ([Event.afterLoadData, .beforeLoadHelpers].map .event ++ .helpers ::
        ([Event.afterLoadHelpers, .beforeRenderContent].map .event ++ .content ::
          ([Event.afterRenderContent, .afterRender].map .event ++ []))) := rfl

/-- What a pass without plugins has made of a session when it comes to the content: the files are
loaded, no helper module is left to be applied, and what is rendered by is as it was. -/
structure Prepared (session : Session) (loadings : List Loading) (reached : Session) : Prop where
  scene : reached.scene = session.scene
  faults : reached.renderer.faults = session.renderer.faults
  templates : reached.renderer.templates = session.renderer.templates
  bookmarks : reached.bookmarks = session.bookmarks
  data : reached.renderer.data.data =
    session.renderer.data.data.insertAll (loadings.map Loading.entry)
  keyed : reached.renderer.options.helperModules.forM Value.requireKey = .ok ()
  applied : pending reached.renderer = []
  quiet : session.Quiet → reached.Quiet

/-- Files and then the helper modules that were left prepare a session. -/
theorem prepared_of_loaded {loadings : List Loading} {news : List Happening} {furnished : Session}
    (keyed : session.renderer.options.helperModules.forM Value.requireKey = .ok ())
    (helped : loadHelperModules (pending session.renderer)
      ((session.stocked loadings).recorded news) = (.ok (), furnished)) :
    Prepared session loadings (furnished.remembering (pending session.renderer)) := by
  have named := named_of_loaded helped
  have stays := loadHelperModules_stays (pending session.renderer)
    ((session.stocked loadings).recorded news)
  rw [helped] at stays
  -- What helper modules change is named, so that all else is plainly what it was.
  obtain ⟨library, log, helpers, rfl⟩ := loaded_same helped
  exact
    { scene := rfl
      faults := rfl
      templates := rfl
      bookmarks := rfl
      data := rfl
      keyed
      applied := pending_applied named
      quiet := fun before =>
        (stays (before.aside rfl rfl rfl rfl rfl)).aside rfl rfl rfl rfl rfl }

/-- A prepared session has the plugins that it had. -/
theorem Prepared.attached {loadings : List Loading} {reached : Session}
    (prepared : Prepared session loadings reached) : reached.attached = session.attached :=
  congrArg (fun scene : Scene => scene.plugins.values) prepared.scene

/-- A pass without plugins that goes well prepares the session and renders the content. -/
theorem travel_ok (alone : session.attached = [])
    (went : travel commission "" Leg.course session = (.ok output, after)) :
    ∃ loadings reached more,
      (session.attempts session.renderer.options.dataPaths).mapM Attempt.loading = .ok loadings ∧
      Prepared session loadings reached ∧ (reached.contentRun commission).1 = .ok output ∧
      after = (reached.rendered commission).recorded more := by
  rw [course_eq] at went
  obtain ⟨first, _, _, ran, went⟩ := travel_leg alone went
  have told : (session.recorded first).attached = [] := alone
  obtain ⟨rfl, loadings, read, loads, rfl⟩ := data_ok told ran
  rw [stocked_recorded, recorded_recorded] at went
  have stocked : ((session.stocked loadings).recorded (first ++ read)).attached = [] := alone
  obtain ⟨second, _, _, ran, went⟩ := travel_leg stocked went
  rw [recorded_recorded] at ran
  obtain ⟨rfl, keyed, furnished, helped, rfl⟩ := helpers_ok ran
  have prepared : Prepared session loadings (furnished.remembering (pending session.renderer)) :=
    prepared_of_loaded keyed helped
  obtain ⟨third, text, _, ran, went⟩ := travel_leg (prepared.attached.trans alone) went
  obtain ⟨came, rfl⟩ := content_ok ran
  rw [rendered_recorded] at went
  have silent : (((furnished.remembering (pending session.renderer)).rendered commission).recorded
      third).attached = [] := prepared.attached.trans alone
  obtain ⟨fourth, told⟩ := travel_events silent [.afterRenderContent, .afterRender] []
  rw [told, recorded_recorded] at went
  cases went
  exact ⟨loadings, _, _, loads, prepared, came, rfl⟩

/-- A pass without plugins in which loading the data files changes nothing and no helper module is
left to be applied just renders the content. -/
theorem travel_settled (alone : session.attached = []) {loadings : List Loading}
    (loads : (session.attempts session.renderer.options.dataPaths).mapM Attempt.loading =
      .ok loadings)
    (stocked : session.stocked loadings = session)
    (keyed : session.renderer.options.helperModules.forM Value.requireKey = .ok ())
    (none : pending session.renderer = [])
    (came : (session.contentRun commission).1 = .ok output) :
    ∃ more, travel commission "" Leg.course session =
      (.ok output, (session.rendered commission).recorded more) := by
  have silent (news : List Happening) : (session.recorded news).attached = [] := alone
  rw [course_eq]
  obtain ⟨first, told⟩ := travel_events alone [.beforeRender, .beforeLoadData] _
  obtain ⟨read, loaded⟩ := data_loads (silent first) commission "" loads
  rw [told, travel, bind_step, loaded, stocked_recorded, recorded_recorded, stocked]
  dsimp only
  obtain ⟨second, told⟩ :=
    travel_events (silent (first ++ read)) [.afterLoadData, .beforeLoadHelpers] _
  have helped : carryOut commission "" .helpers (session.recorded (first ++ read ++ second)) =
      (.ok "", session.recorded (first ++ read ++ second)) := helpers_none commission "" keyed none
  rw [told, recorded_recorded, travel, bind_step, helped]
  dsimp only
  obtain ⟨third, told⟩ :=
    travel_events (silent (first ++ read ++ second)) [.afterLoadHelpers, .beforeRenderContent] _
  have same : ((session.recorded (first ++ read ++ second ++ third)).contentRun commission).1 =
      .ok output := came
  rw [told, recorded_recorded, travel, bind_step, content_comes same, rendered_recorded]
  dsimp only
  have quiet : ((session.rendered commission).recorded
      (first ++ read ++ second ++ third)).attached = [] := alone
  obtain ⟨fourth, told⟩ := travel_events quiet [.afterRenderContent, .afterRender] []
  rw [told, recorded_recorded]
  exact ⟨_, rfl⟩

/-! ## Two passes -/

/-- Where it is quiet a content comes to the same in the next pass. -/
theorem contentRun_again (quiet : session.Quiet) (confined : commission.Confined) (again : Session)
    (renderer : again.renderer = session.renderer)
    (bookmarks : again.bookmarks = (session.contentRun commission).2.bookmarks) :
    (again.contentRun commission).1 = (session.contentRun commission).1 ∧
      (again.contentRun commission).2.tree = (session.contentRun commission).2.tree := by
  obtain ⟨⟨handles, memory, repeated⟩, _⟩ :=
    @Pass.document_repeats commission.input.sink true session.bookmarks [] _ _ quiet.memory confined.body
      (quiet.context confined)
  have same : again.contentRun commission = ((session.contentRun commission).1,
      (session.contentRun commission).2.beside handles memory) := by
    rw [contentRun, renderer, bookmarks]
    exact repeated
  rw [same]
  exact ⟨rfl, rfl⟩

/-- Loading files again whose values are stored already makes no difference. -/
theorem stocked_of_same {loadings : List Loading} (same : session.renderer.data.data.insertAll
    (loadings.map Loading.entry) = session.renderer.data.data) :
    session.stocked loadings = session := by
  rw [stocked, same]

/-- A pass over what the last one left, when that rendered the content of a prepared session:
nothing is loaded anew, and the content comes to the same. -/
theorem travel_prepared {start reached : Session} {loadings : List Loading}
    (quiet : start.Quiet) (blank : start.renderer.faults = []) (confined : commission.Confined)
    (loads : (start.attempts start.renderer.options.dataPaths).mapM Attempt.loading = .ok loadings)
    (prepared : Prepared start loadings reached)
    (came : (reached.contentRun commission).1 = .ok output) {more : List Happening}
    (left : after = (reached.rendered commission).recorded more) :
    ∃ last, travel commission "" Leg.course after.cleared = (.ok output, last) ∧
      last.delivered = after.delivered ∧ last.renderer = after.renderer := by
  have still : reached.Quiet := prepared.quiet quiet
  have blank := prepared.faults.trans blank
  have renderer : after.cleared.renderer = reached.renderer := by
    rw [cleared, left, ← blank]
    rfl
  have bookmarks : after.cleared.bookmarks = (reached.contentRun commission).2.bookmarks := by
    rw [left]
    rfl
  have scene : after.cleared.scene = start.scene := by
    rw [← prepared.scene, scene, renderer, left]
    rfl
  have silent : after.cleared.attached = [] := by
    rw [attached, renderer]
    exact still.alone
  have options : reached.renderer.options = start.renderer.options :=
    congrArg Scene.options prepared.scene
  have loads : (after.cleared.attempts after.cleared.renderer.options.dataPaths).mapM
      Attempt.loading = .ok loadings := by
    rw [attempts_of_scene scene, renderer, options]
    exact loads
  have stocked : after.cleared.stocked loadings = after.cleared := by
    apply stocked_of_same
    rw [renderer, prepared.data]
    exact Table.insertAll_again _ _
  have keyed := prepared.keyed
  have none := prepared.applied
  rw [← renderer] at keyed none
  obtain ⟨result, tree⟩ := contentRun_again still confined after.cleared renderer bookmarks
  obtain ⟨later, ran⟩ := travel_settled silent loads stocked keyed none (result.trans came)
  refine ⟨_, ran, (congrArg RenderTree.delivered tree).trans ?_, renderer.trans ?_⟩
  · rw [left]
    rfl
  · rw [left]
    rfl

/-- Where it is quiet a pass that went well goes well again, and finds the renderer as it leaves
it. -/
theorem travel_again (quiet : session.Quiet) (confined : commission.Confined)
    (went : travel commission "" Leg.course session.cleared = (.ok output, after)) :
    ∃ last, travel commission "" Leg.course after.cleared = (.ok output, last) ∧
      last.delivered = after.delivered ∧ last.renderer = after.renderer ∧
      after.renderer.templates = session.renderer.templates := by
  have begun : session.cleared.Quiet := quiet.aside rfl rfl rfl rfl rfl
  obtain ⟨loadings, reached, more, loads, prepared, came, left⟩ := travel_ok begun.alone went
  obtain ⟨last, ran, delivered, renderer⟩ :=
    travel_prepared begun rfl confined loads prepared came left
  refine ⟨last, ran, delivered, renderer, ?_⟩
  rw [left]
  exact prepared.templates

end Session

open Session

/-- Without plugins a pass that gave a text gives it again: where the registered templates and
helpers, the modules that there are and what is rendered keep to themselves, a second pass over the
same target with the same input gives the same text by the same fragments. It leaves the renderer as
it was after the first pass: with the same data in the same order, the same templates and helpers,
and the same modules remembered as applied. And all keeps to itself then, so that the same holds of
every further pass. -/
theorem render_repeats (target : RenderTarget) (input : RenderInput) (session : Session)
    (output : String) (quiet : session.Quiet) (given : target.Confined) (fits : input.Confined)
    (returned : (render target input session).1 = .ok output) :
    let after := (render target input session).2
    let again := render target input after
    again.1 = .ok output ∧ again.2.delivered = after.delivered ∧
      again.2.renderer = after.renderer ∧ after.Quiet := by
  have still : (render target input session).2.Quiet := render_stays given fits session quiet
  rcases first : render target input session with ⟨result, after⟩
  rw [first] at returned still
  cases returned
  have began := first
  rw [render_eq, bind_step, opening_step] at began
  cases led : target.bodyIn session.renderer.templates with
  | error fault =>
    rw [led] at began
    cases began
  | ok body =>
    rw [led] at began
    obtain ⟨last, again, delivered, renderer, templates⟩ :=
      travel_again quiet ⟨given.body quiet.templates led, fits⟩ began
    have second : render target input after = (.ok output, last) := by
      rw [render_eq, bind_step, opening_step, templates, led]
      exact again
    dsimp only
    rw [second]
    exact ⟨rfl, delivered, renderer, still⟩

/-- What a helper does that numbers the texts which its block writes on a branch. -/
def numberingBranch : Script :=
  [.tap (some .counting), .map [.body "block" none, .finish .null], .untap, .answer .chunk]

theorem numberingBranch_confined : numberingBranch.Confined := by
  have branch : Script.Confined [.body "block" none, .finish .null] :=
    List.forall_mem_cons.mpr ⟨.bare rfl, List.forall_mem_singleton.mpr (.bare rfl)⟩
  refine List.forall_mem_cons.mpr ⟨.tap Transform.counting_confined, ?_⟩
  refine List.forall_mem_cons.mpr ⟨.map branch, ?_⟩
  exact List.forall_mem_cons.mpr ⟨.bare rfl, List.forall_mem_singleton.mpr (.bare rfl)⟩

/-- A template that numbers texts, one of which comes from a data file. -/
def numberedTopic : Body :=
  .call "number" [("block", .sequence [.text "a", .reference "data.topic.body" none, .text "b"])] []

theorem numberedTopic_confined : numberedTopic.Confined := by
  refine .call (List.forall_mem_singleton.mpr (.sequence ?_))
  refine List.forall_mem_cons.mpr ⟨.bare rfl, ?_⟩
  exact List.forall_mem_cons.mpr ⟨.bare rfl, List.forall_mem_singleton.mpr (.bare rfl)⟩

/-- What a reader gives for a file that is stored as a topic. -/
def topic (text : String) : Value := .ofFields [(storageMark, .text "topic"), ("body", .text text)]

/-- A session with two data files that are stored in the same place, a module that registers a
helper, and a template that calls that helper. -/
def topical : Session where
  files := { files := [(["new.md"], []), (["old.txt"], [])] }
  library := { contents := Table.empty.insert "counters" (.members
    [(registrationMember, .factory (.registration
      [{ id := "number", function := .scripted none numberingBranch }]))]) }
  renderer :=
    { options :=
        { dataPaths := [.text "new.md", .text "old.txt"], helperModules := [.text "counters"] }
      templates := .ofList [("page", numberedTopic)]
      data :=
        { extensions := ⟨.ofList [("md", .constant (topic "new")),
            ("txt", .constant (topic "old"))]⟩ } }

theorem topical_quiet : topical.Quiet where
  alone := rfl
  templates := List.forall_mem_singleton.mpr numberedTopic_confined
  furnished :=
    { helpers := HelperRegistry.Confined.builtin
      library := by
        intro members member
        cases List.mem_singleton.mp member
        refine List.forall_mem_singleton.mpr ?_
        exact List.forall_mem_singleton.mpr numberingBranch_confined }
  memory := fun _ member => (List.not_mem_nil member).elim

/-- Files that are stored in the same place are stored there in the same order again, the module
that was applied is left alone, and the texts are numbered from the start. -/
theorem render_repeats_topical :
    let once := render (.named "page") (.value .null) topical
    let twice := render (.named "page") (.value .null) once.2
    topical.Quiet ∧ once.1 = .ok "1:a2:old3:b" ∧
      twice.1 = .ok "1:a2:old3:b" ∧ twice.2.delivered = ["1:a", "2:old", "3:b"] ∧
      twice.2.renderer.helpers.contains "number" = true := by
  dsimp only
  have returned : (render (.named "page") (.value .null) topical).1 = .ok "1:a2:old3:b" :=
    ok_of_toOption (by decide +kernel)
  obtain ⟨again, delivered, renderer, _⟩ := render_repeats (.named "page") (.value .null) topical
    "1:a2:old3:b" topical_quiet trivial trivial returned
  refine ⟨topical_quiet, returned, again, ?_, ?_⟩
  · rw [delivered]
    decide +kernel
  · rw [renderer]
    decide +kernel

end TemplateStream
