import TemplateStream.Proofs.Detaching
import TemplateStream.Proofs.Furnishing
import TemplateStream.Proofs.Loading
import TemplateStream.Proofs.MirroredRuns

/-!
# Sessions without plugins

Without plugins nobody is told of an event, so a pass does nothing but load data, load helper
modules and render the content. If all that is rendered and loaded keeps to itself as well, it still
does after the pass, whether or not that failed, and after whatever else is asked of the renderer.
-/

namespace TemplateStream

namespace Session

variable {session after : Session} {commission : Commission} {output next : String}

/-! ## Legs of a pass -/

/-- Without plugins nobody is told of an event. -/
theorem tell_unattended (alone : session.attached = []) (event : Event) (data : Value)
    {step : List Plugin → SessionM Unit} (nobody : step [] = pure ()) :
    tell event data step session = (.ok (), session.recorded [.told event data (.ok ())]) := by
  have plugins : session.renderer.roster.plugins.values = [] := alone
  rw [tell_step, plugins, nobody]
  rfl

/-- Without plugins telling of an event does not fail. -/
theorem inform_unattended (alone : session.attached = []) (template : Option String) (event : Event)
    (data : Value) {step : List Plugin → SessionM Unit} (nobody : step [] = pure ()) :
    ∃ news, inform template event data step session = (.ok (), session.recorded news) := by
  refine ⟨[.told event data (.ok ())], ?_⟩
  rw [inform, bind_step, attempt_step, tell_unattended alone event data nobody]
  rfl

/-- Without plugins an event of a pass comes to nothing. -/
theorem carryOut_event_unattended (alone : session.attached = []) (commission : Commission)
    (output : String) (event : Event) :
    ∃ news, carryOut commission output (.event event) session =
      (.ok output, session.recorded news) := by
  let data : Value := .ofFields (occasion commission output session.renderer event)
  have nobody : awaitEach event data [] = pure () := rfl
  obtain ⟨news, informed⟩ :=
    inform_unattended alone (some commission.template) event data nobody
  refine ⟨news, ?_⟩
  rw [carryOut, bind_step, get_step]
  dsimp only
  rw [bind_step, announce_eq, informed]
  rfl

/-- Without plugins a pass goes on behind an event. -/
theorem travel_event (alone : session.attached = []) (event : Event) (rest : List Leg) :
    ∃ news, travel commission output (.event event :: rest) session =
      travel commission output rest (session.recorded news) := by
  obtain ⟨news, told⟩ := carryOut_event_unattended alone commission output event
  exact ⟨news, by rw [travel, bind_step, told]⟩

/-- Without plugins a pass goes on behind events. -/
theorem travel_events (alone : session.attached = []) (events : List Event) (rest : List Leg) :
    ∃ news, travel commission output (events.map .event ++ rest) session =
      travel commission output rest (session.recorded news) := by
  induction events generalizing session with
  | nil => exact ⟨[], by rw [recorded_nil]; rfl⟩
  | cons event others ih =>
    obtain ⟨news, first⟩ := travel_event alone event (others.map .event ++ rest)
    have still : (session.recorded news).attached = [] := alone
    obtain ⟨more, later⟩ := ih still
    refine ⟨news ++ more, ?_⟩
    rw [List.map_cons, List.cons_append, first, later, recorded_recorded]

/-- Without plugins a pass that goes well comes to the leg behind events. -/
theorem travel_leg (alone : session.attached = []) {events : List Event} {leg : Leg}
    {rest : List Leg}
    (went : travel commission output (events.map .event ++ leg :: rest) session =
      (.ok next, after)) :
    ∃ news so middle, carryOut commission output leg (session.recorded news) = (.ok so, middle) ∧
      travel commission so rest middle = (.ok next, after) := by
  obtain ⟨news, told⟩ := travel_events alone events (leg :: rest)
  rw [told, travel] at went
  obtain ⟨so, middle, ran, went⟩ := bind_ok went
  exact ⟨news, so, middle, ran, went⟩

/-- Without plugins an attempt to load a file comes to what is read. -/
theorem make_unattended (alone : session.attached = []) (attempt : Attempt) :
    ∃ news, make attempt session = match attempt.loading with
      | .ok loading => (.ok (), (session.stocked [loading]).recorded news)
      | .error fault => (.error fault, session.recorded news) := by
  simp only [make, bind_step, modify_step, liftExcept_step]
  cases attempt.loading with
  | error fault => exact ⟨attempt.reads, rfl⟩
  | ok loading =>
    have nobody : callEach .dataFileLoaded (fileData loading.file loading.key loading.content) [] =
        pure () := rfl
    have still : ((session.stocked [loading]).recorded attempt.reads).attached = [] := alone
    obtain ⟨news, informed⟩ := inform_unattended still none .dataFileLoaded
      (fileData loading.file loading.key loading.content) nobody
    refine ⟨attempt.reads ++ news, informed.trans ?_⟩
    rw [recorded_recorded]

/-- Without plugins attempts come to what is read of all of them, if that can be read. -/
theorem makeAll_unattended (alone : session.attached = []) (attempts : List Attempt) :
    match attempts.mapM Attempt.loading with
    | .ok loadings => ∃ news,
        makeAll attempts session = (.ok (), (session.stocked loadings).recorded news)
    | .error fault => (makeAll attempts session).1 = .error fault := by
  induction attempts generalizing session with
  | nil => exact ⟨[], by rw [recorded_nil]; rfl⟩
  | cons attempt rest ih =>
    obtain ⟨news, made⟩ := make_unattended alone attempt
    simp only [List.mapM_cons, makeAll, bind_step, made]
    cases attempt.loading with
    | error fault => rfl
    | ok loading =>
      have still : ((session.stocked [loading]).recorded news).attached = [] := alone
      have later := ih still
      change match (do pure (loading :: (← rest.mapM Attempt.loading))) with
        | .ok loadings => _
        | .error fault => _
      cases loaded : rest.mapM Attempt.loading with
      | error fault =>
        rw [loaded] at later
        exact later
      | ok loadings =>
        rw [loaded] at later
        obtain ⟨more, ran⟩ := later
        have joined := recorded_recorded (session.stocked (loading :: loadings)) news more
        exact ⟨news ++ more, ran.trans (congrArg (Prod.mk _) joined)⟩

theorem watched_of_alone (alone : session.attached = []) : session.Watched := by
  intro plugin member
  rw [alone] at member
  cases member

/-- Without plugins the data files are loaded if each of them can be read. -/
theorem data_unattended (alone : session.attached = []) (commission : Commission)
    (output : String) :
    match (session.attempts session.renderer.options.dataPaths).mapM Attempt.loading with
    | .ok loadings => ∃ news, carryOut commission output .data session =
        (.ok output, (session.stocked loadings).recorded news)
    | .error _ => ∃ fault, (carryOut commission output .data session).1 = .error fault := by
  have loading := loadPaths_makeAll session.renderer.options.dataPaths (watched_of_alone alone)
  rw [discard_step] at loading
  have made := makeAll_unattended alone (session.attempts session.renderer.options.dataPaths)
  rw [← loading] at made
  rw [carryOut_data]
  rcases ran : loadPaths announceFile session.renderer.options.dataPaths session
    with ⟨fault | keys, after⟩
  all_goals rw [ran] at made
  · cases loads : (session.attempts session.renderer.options.dataPaths).mapM Attempt.loading with
    | error other => exact ⟨_, rfl⟩
    | ok loadings =>
      rw [loads] at made
      obtain ⟨news, same⟩ := made
      cases same
  · cases loads : (session.attempts session.renderer.options.dataPaths).mapM Attempt.loading with
    | error other =>
      rw [loads] at made
      cases made
    | ok loadings =>
      rw [loads] at made
      obtain ⟨news, same⟩ := made
      cases same
      exact ⟨news, rfl⟩

/-- What can be read is loaded. -/
theorem data_loads (alone : session.attached = []) (commission : Commission) (output : String)
    {loadings : List Loading}
    (loads : (session.attempts session.renderer.options.dataPaths).mapM Attempt.loading =
      .ok loadings) :
    ∃ news, carryOut commission output .data session =
      (.ok output, (session.stocked loadings).recorded news) := by
  have went := data_unattended alone commission output
  rwa [loads] at went

/-- What was loaded could be read. -/
theorem data_ok (alone : session.attached = [])
    (went : carryOut commission output .data session = (.ok next, after)) :
    next = output ∧ ∃ loadings news,
      (session.attempts session.renderer.options.dataPaths).mapM Attempt.loading = .ok loadings ∧
      after = (session.stocked loadings).recorded news := by
  have ran := data_unattended alone commission output
  rw [went] at ran
  cases loads : (session.attempts session.renderer.options.dataPaths).mapM Attempt.loading with
  | error fault =>
    rw [loads] at ran
    obtain ⟨_, failed⟩ := ran
    cases failed
  | ok loadings =>
    rw [loads] at ran
    obtain ⟨news, same⟩ := ran
    cases same
    exact ⟨rfl, loadings, news, rfl, rfl⟩

/-! ## Where all keeps to itself -/

/-- A session without plugins in which all keeps to itself: the templates and helpers that are
registered and the modules that there are. Only installed taps were called. -/
structure Quiet (session : Session) : Prop where
  alone : session.attached = []
  templates : session.renderer.templates.Confined
  furnished : session.Furnished
  memory : session.bookmarks.memory.Orderly

/-- A step after which it is still quiet. -/
abbrev Stays (session after : Session) : Prop := session.Quiet → after.Quiet

theorem stays_trans {first second third : Session} (early : Stays first second)
    (late : Stays second third) : Stays first third := fun quiet => late (early quiet)

/-- A change to other things than plugins, templates, helpers, modules and what taps remember. -/
theorem Quiet.aside (quiet : session.Quiet) (plugins : after.attached = session.attached)
    (templates : after.renderer.templates = session.renderer.templates)
    (helpers : after.renderer.helpers = session.renderer.helpers)
    (contents : after.library.contents = session.library.contents)
    (memory : after.bookmarks.memory = session.bookmarks.memory) : after.Quiet where
  alone := plugins.trans quiet.alone
  templates := templates ▸ quiet.templates
  furnished := {
    helpers := helpers ▸ quiet.furnished.helpers
    library := by
      rw [ModuleLibrary.Confined, contents]
      exact quiet.furnished.library }
  memory := memory ▸ quiet.memory

theorem stays_unchanged {α : Type} {step : SessionM α}
    (same : ∀ session, (step session).2 = session) : Keeps Stays step :=
  fun session quiet => by rwa [same]

/-- Where it is quiet, so is the environment of a content. -/
theorem Quiet.environment (quiet : session.Quiet) : session.renderer.environment.Confined where
  templates := fun _ _ found => quiet.templates.get found
  helpers := fun _ _ found => quiet.furnished.helpers.get found

end Session

/-- A target that keeps to itself if it is a body. -/
def RenderTarget.Confined : RenderTarget → Prop
  | .named _ => True
  | .given body => body.Confined

/-- A target that keeps to itself leads to a body that does, among templates that do. -/
theorem RenderTarget.Confined.body {target : RenderTarget} {templates : TemplateRegistry}
    {body : Body} (given : target.Confined) (confined : templates.Confined)
    (led : target.bodyIn templates = .ok body) : body.Confined := by
  cases target with
  | named name =>
    cases found : templates.get name with
    | error fault =>
      rw [RenderTarget.bodyIn, found] at led
      cases led
    | ok other =>
      rw [RenderTarget.bodyIn, found] at led
      cases led
      exact confined.get found
  | given other =>
    rw [RenderTarget.bodyIn] at led
    split at led
    · cases led
      exact given
    · cases led

/-- An input that keeps to itself if it is a context. -/
def RenderInput.Confined : RenderInput → Prop
  | .value _ _ => True
  | .context given _ => given.Confined

/-- What is to be rendered by what, when both keep to themselves. -/
structure Commission.Confined (commission : Commission) : Prop where
  body : commission.body.Confined
  input : commission.input.Confined

/-- A request without plugins of which the parts keep to themselves. -/
def Request.Confined : Request → Prop
  | .use .. => False
  | .render target input => target.Confined ∧ input.Confined
  | .addHelper helper => helper.function.Confined
  | .addTemplate _ body _ => body.Confined
  | .close | .addReader .. => True

namespace Session

variable {session after : Session} {commission : Commission} {output : String}

/-- Where it is quiet a content is rendered in a context that keeps to itself. -/
theorem Quiet.context (quiet : session.Quiet) (confined : commission.Confined) :
    (contentContext session.renderer commission).Confined := by
  have input := confined.input
  unfold contentContext
  split
  · rename_i given
    rw [given] at input
    exact input
  · unfold Renderer.contextFor
    have base (globals : List (Value × Value)) (name : String) :
        (Context.ofValue .null globals (some session.renderer.environment) name
          session.renderer.attributes).Confined := by
      intro environment same
      cases same
      exact quiet.environment
    split
    · exact base _ _
    · exact (base _ _).push _ _ _

/-- A content that is rendered where it is quiet calls installed taps only. -/
theorem Quiet.contentRun (quiet : session.Quiet) (confined : commission.Confined) :
    (session.contentRun commission).2.memory.Orderly :=
  (Pass.document_repeats quiet.memory confined.body (quiet.context confined)).2

theorem make_stays (attempt : Attempt) : Keeps Stays (make attempt) := by
  intro session quiet
  obtain ⟨news, made⟩ := make_unattended quiet.alone attempt
  rw [made]
  split
  · exact quiet.aside rfl rfl rfl rfl rfl
  · exact quiet.aside rfl rfl rfl rfl rfl

theorem makeAll_stays (attempts : List Attempt) : Keeps Stays (makeAll attempts) := by
  induction attempts with
  | nil => exact stays_unchanged fun _ => rfl
  | cons attempt rest ih => exact Keeps.bind stays_trans (make_stays attempt) fun _ => ih

/-- Loading helper modules leaves alone what a pass goes by but the helpers. -/
theorem loadHelperModules_settled (modules : List Value) (session : Session) :
    (loadHelperModules modules session).2.settled = session.settled := by
  have tolerant : Tolerant fun session after => after.settled = session.settled :=
    { trans := fun early late => late.trans early, settled := id }
  exact tolerant.loadHelperModules modules session

theorem loadHelperModules_stays (modules : List Value) :
    Keeps Stays (loadHelperModules modules) := by
  intro session quiet
  have settled := loadHelperModules_settled modules session
  have furnished := loadHelperModules_furnishes modules session quiet.furnished
  generalize (loadHelperModules modules session).2 = after at settled furnished
  have plugins : after.attached = session.attached := (congrArg attached settled :)
  have templates : after.renderer.templates = session.renderer.templates :=
    (congrArg (fun settled : Session => settled.renderer.templates) settled :)
  have bookmarks : after.bookmarks = session.bookmarks := (congrArg Session.bookmarks settled :)
  refine ⟨plugins.trans quiet.alone, ?_, furnished, ?_⟩
  · rw [templates]
    exact quiet.templates
  · rw [bookmarks]
    exact quiet.memory

/-- A leg of a pass leaves it quiet, also when it fails. -/
theorem carryOut_stays (confined : commission.Confined) (output : String) (leg : Leg) :
    Keeps Stays (carryOut commission output leg) := by
  cases leg with
  | event event =>
    intro session quiet
    obtain ⟨news, told⟩ := carryOut_event_unattended quiet.alone commission output event
    rw [told]
    exact quiet.aside rfl rfl rfl rfl rfl
  | data =>
    intro session quiet
    have made := makeAll_stays (session.attempts session.renderer.options.dataPaths) session quiet
    rw [← loadPaths_makeAll _ (watched_of_alone quiet.alone), discard_state] at made
    rw [carryOut_data]
    exact made
  | helpers =>
    have loaded (modules : List Value) := (loadHelperModules_stays modules).attempt
    refine Keeps.bind stays_trans (stays_unchanged fun session => ?_) fun modules =>
      Keeps.bind stays_trans (loaded modules) fun result => ?_
    · rw [pendingModules_step]
    · cases result with
      | error fault => exact stays_unchanged fun _ => rfl
      | ok _ => exact fun session quiet => quiet.aside rfl rfl rfl rfl rfl
  | content =>
    intro session quiet
    rw [carryOut_content]
    exact ⟨quiet.alone, quiet.templates, ⟨quiet.furnished.helpers, quiet.furnished.library⟩,
      quiet.contentRun confined⟩

theorem travel_stays (confined : commission.Confined) (output : String) (legs : List Leg) :
    Keeps Stays (travel commission output legs) := by
  induction legs generalizing output with
  | nil => exact stays_unchanged fun _ => rfl
  | cons leg rest ih =>
    exact Keeps.bind stays_trans (carryOut_stays confined output leg) fun next => ih next

/-- A pass leaves it quiet, also when it fails. -/
theorem render_stays {target : RenderTarget} {input : RenderInput} (given : target.Confined)
    (fits : input.Confined) : Keeps Stays (render target input) := by
  intro session quiet
  have cleared : session.cleared.Quiet := quiet.aside rfl rfl rfl rfl rfl
  rw [render_eq, bind_step, opening_step]
  cases led : target.bodyIn session.renderer.templates with
  | error fault => exact cleared
  | ok body =>
    exact travel_stays ⟨given.body quiet.templates led, fits⟩ "" Leg.course _ cleared

theorem close_stays : Keeps Stays close := by
  refine Keeps.bind stays_trans (Keeps.discard ?_) fun _ => fun session quiet =>
    quiet.aside rfl rfl rfl rfl rfl
  rw [detachAll_eq]
  have told : Keeps Stays (fire .detach) := by
    intro session quiet
    have alone := tell_unattended quiet.alone .detach .null (rfl : callEach .detach .null [] = _)
    rw [fire, alone]
    exact quiet.aside rfl rfl rfl rfl rfl
  refine Keeps.bind stays_trans told fun _ => fun session quiet => ?_
  exact ⟨rfl, quiet.templates, ⟨quiet.furnished.helpers, quiet.furnished.library⟩, quiet.memory⟩

/-- Whatever is asked leaves it quiet, also when it fails. -/
theorem answer_stays {request : Request} (confined : request.Confined) :
    Keeps Stays (answer request) := by
  cases request with
  | use source settings shared => exact confined.elim
  | render target input => exact (render_stays confined.1 confined.2).discard
  | close => exact close_stays
  | addHelper helper =>
    intro session quiet
    simp only [answer, addHelper, bind_step, get_step, liftExcept_step]
    cases registered : session.renderer.helpers.register helper true with
    | error fault => exact quiet
    | ok helpers =>
      exact ⟨quiet.alone, quiet.templates, ⟨quiet.furnished.helpers.register confined registered,
        quiet.furnished.library⟩, quiet.memory⟩
  | addTemplate name body source =>
    intro session quiet
    simp only [answer, addTemplate, bind_step, get_step, liftExcept_step]
    cases registered : session.renderer.templates.register name body with
    | error fault => exact quiet
    | ok templates =>
      have later : Quiet { session with renderer := { session.renderer with templates } } :=
        ⟨quiet.alone, quiet.templates.register confined registered,
          ⟨quiet.furnished.helpers, quiet.furnished.library⟩, quiet.memory⟩
      cases source with
      | none => exact later
      | some source =>
        simp only [update, modify_step, bind_step, get_step, liftExcept_step]
        cases session.renderer.data.addPage source name with
        | error fault => exact later
        | ok page => exact later.aside rfl rfl rfl rfl rfl
  | addReader extension reader =>
    refine Keeps.bind stays_trans (stays_unchanged fun _ => rfl) fun _ =>
      Keeps.bind stays_trans (stays_unchanged fun _ => by rw [liftExcept_step]) fun _ => ?_
    exact fun session quiet => quiet.aside rfl rfl rfl rfl rfl

/-- Whatever is asked in order leaves it quiet, whether or not some of it fails. -/
theorem serve_stays {requests : List Request} (confined : ∀ request ∈ requests, request.Confined) :
    Keeps Stays (serve requests) := by
  induction requests with
  | nil => exact stays_unchanged fun _ => rfl
  | cons request rest ih =>
    obtain ⟨first, others⟩ := List.forall_mem_cons.mp confined
    exact Keeps.bind stays_trans (answer_stays first).attempt.discard fun _ => ih others

/-- It is quiet around a new renderer, if the modules that there are keep to themselves. -/
theorem quiet_fresh (files : FileTree) {library : ModuleLibrary} (confined : library.Confined)
    (installed : Table (List (String × String))) (options : Options) :
    Quiet { files, library, installed, renderer := { options } } where
  alone := rfl
  templates := fun _ member => (List.not_mem_nil member).elim
  furnished := ⟨HelperRegistry.Confined.builtin, confined⟩
  memory := fun _ member => (List.not_mem_nil member).elim

/-- Whatever was asked of a new renderer, it is quiet around it, if what was asked and the modules
that there are keep to themselves. -/
theorem serve_quiet (files : FileTree) {library : ModuleLibrary} (modules : library.Confined)
    (installed : Table (List (String × String))) (options : Options) {requests : List Request}
    (confined : ∀ request ∈ requests, request.Confined) :
    (serve requests { files, library, installed, renderer := { options } }).2.Quiet :=
  serve_stays confined _ (quiet_fresh files modules installed options)

end Session

end TemplateStream
