import TemplateStream.Proofs.Announcing

/-!
# The course of a render pass

Once its target is resolved, a render pass goes through legs in a fixed order: the plugins are
told of an event, or the data files, the helper modules or the content are worked on. A pass
fails when it cannot be opened, or at the first leg that fails, after which it goes no further.
-/

namespace TemplateStream

/-- A leg of a render pass: plugins are told of an event, or work is done. -/
inductive Leg where
  | event (event : Event)
  | data
  | helpers
  | content
  deriving DecidableEq

/-- What a render pass is to do once its target is resolved. -/
structure Commission where
  template : String
  body : Body
  input : RenderInput

/-- The name of the template of a pass over a target. -/
def RenderTarget.title : RenderTarget → String
  | .named name => name
  | .given body => body.ownName

/-- The body that a target leads to, which has to be one that can be rendered. -/
def RenderTarget.bodyIn (templates : TemplateRegistry) : RenderTarget → Except Fault Body
  | .named name => (templates.get name).mapError (.stage .parse (some name))
  | .given body =>
    if body.isRenderable then .ok body else .error (.notRenderable body.typeName)

namespace Leg

/-- The legs of a render pass, in order. -/
def course : List Leg :=
  [.event .beforeRender, .event .beforeLoadData, .data, .event .afterLoadData,
    .event .beforeLoadHelpers, .helpers, .event .afterLoadHelpers, .event .beforeRenderContent,
    .content, .event .afterRenderContent, .event .afterRender]

end Leg

namespace Session

/-- What plugins are told of an event of a pass that has rendered the given output so far. -/
def occasion (commission : Commission) (output : String) (renderer : Renderer) :
    Event → List (String × Value)
  | .beforeRender | .beforeRenderContent | .afterRender =>
    [("template", .text commission.template)]
  | .afterLoadData => [("data", renderer.data.contextData)]
  | .afterLoadHelpers => [("helpers", .tuple (renderer.helpers.ids.map .text))]
  | .afterRenderContent => [("template", .text commission.template), ("output", .text output)]
  | _ => []

/-- Carries out a leg of a pass that has rendered the given output so far, and gives the output
after it. -/
def carryOut (commission : Commission) (output : String) : Leg → SessionM String
  | .event event => do
    announce event commission.template (occasion commission output (← get).renderer event)
    pure output
  | .data => do
    match ← attempt (loadPaths announceFile (← get).renderer.options.dataPaths) with
    | .ok _ => pure output
    | .error fault =>
      throw (if fault.kind == .render then fault
        else .stage .dataLoad (some commission.template) fault)
  | .helpers => do
    let pending ← pendingModules
    match ← attempt (loadHelperModules pending) with
    | .ok () =>
      markApplied pending
      pure output
    | .error fault => throw (.stage .helperLoad (some commission.template) fault)
  | .content => renderContent commission.template commission.body commission.input

/-- Carries out legs in order. -/
def travel (commission : Commission) (output : String) : List Leg → SessionM String
  | [] => pure output
  | leg :: rest => do travel commission (← carryOut commission output leg) rest

/-- Begins a pass over what is to be rendered. -/
def opening (target : RenderTarget) (input : RenderInput) : SessionM Commission := do
  modify fun session => { session with delivered := [] }
  update fun renderer => { renderer with faults := [] }
  let (template, body) ← resolve target
  pure ⟨template, body, input⟩

/-- Going through some legs and then others is going through all of them. -/
theorem travel_append (commission : Commission) (output : String) (first second : List Leg) :
    travel commission output (first ++ second) =
      (do travel commission (← travel commission output first) second) := by
  induction first generalizing output with
  | nil => exact (pure_bind output fun output => travel commission output second).symm
  | cons leg rest ih => simp only [List.cons_append, travel, ih, bind_assoc]

/-- A fault ends a sequence. -/
theorem throw_bind {α β : Type} (fault : Fault) (next : α → SessionM β) :
    (throw fault >>= next) = throw fault := rfl

/-- Loading data is three legs. -/
theorem loadData_bind {α : Type} (commission : Commission) (output : String)
    (next : String → SessionM α) :
    (do
      loadData commission.template
      next output) =
      (do next (← travel commission output [.event .beforeLoadData, .data, .event .afterLoadData]))
    := by
  simp only [loadData, travel, carryOut, bind_assoc, pure_bind]
  refine bind_congr fun _ => bind_congr fun session => bind_congr fun loaded => ?_
  cases loaded with
  | ok _ => simp only [bind_assoc, pure_bind]; rfl
  | error fault => simp only [throw_bind]

/-- Loading helper modules is three legs. -/
theorem loadHelpers_bind {α : Type} (commission : Commission) (output : String)
    (next : String → SessionM α) :
    (do
      loadHelpers commission.template
      next output) =
      (do next (← travel commission output
        [.event .beforeLoadHelpers, .helpers, .event .afterLoadHelpers])) := by
  simp only [loadHelpers, travel, carryOut, bind_assoc, pure_bind]
  refine bind_congr fun _ => bind_congr fun pending => bind_congr fun loaded => ?_
  cases loaded with
  | ok _ => simp only [bind_assoc, pure_bind]; rfl
  | error fault => simp only [throw_bind]

/-- A render pass begins, and then goes through its legs. -/
theorem render_eq (target : RenderTarget) (input : RenderInput) :
    render target input = (do travel (← opening target input) "" Leg.course) := by
  simp only [render, opening, bind_assoc, pure_bind]
  refine bind_congr fun _ => bind_congr fun _ => bind_congr fun (template, body) => ?_
  let commission : Commission := ⟨template, body, input⟩
  let first : List Leg := [.event .beforeLoadData, .data, .event .afterLoadData]
  let middle : List Leg := [.event .beforeLoadHelpers, .helpers, .event .afterLoadHelpers]
  let last : List Leg :=
    [.event .beforeRenderContent, .content, .event .afterRenderContent, .event .afterRender]
  have content : travel commission "" last = (do
      announce .beforeRenderContent template [("template", .text template)]
      let output ← renderContent template body input
      announce .afterRenderContent template
        [("template", .text template), ("output", .text output)]
      announce .afterRender template [("template", .text template)]
      pure output) := by
    simp only [last, travel, carryOut, occasion, bind_assoc, pure_bind]
    rfl
  have helpers := loadHelpers_bind commission "" fun output => travel commission output last
  have data := loadData_bind commission "" fun output => travel commission output (middle ++ last)
  have rest : travel commission "" (first ++ (middle ++ last)) =
      (do
        loadData template
        loadHelpers template
        travel commission "" last) := by
    rw [travel_append, ← data, travel_append, ← helpers]
  rw [← content]
  change _ = travel commission "" (.event .beforeRender :: (first ++ (middle ++ last)))
  simp only [travel, carryOut, bind_assoc, pure_bind, rest]
  rfl

/-! ## How a pass begins and renders -/

/-- A session in which a pass begins. -/
def cleared (session : Session) : Session :=
  { session with
    delivered := []
    renderer := { session.renderer with faults := [] } }

/-- A pass begins when its target leads to a body. -/
theorem opening_step (target : RenderTarget) (input : RenderInput) (session : Session) :
    opening target input session =
      ((target.bodyIn session.renderer.templates).map fun body => ⟨target.title, body, input⟩,
        session.cleared) := by
  simp only [opening, update, bind_step, modify_step, resolve]
  cases target with
  | named name =>
    simp only [bind_step, get_step, RenderTarget.bodyIn]
    cases session.renderer.templates.get name <;> rfl
  | given body =>
    simp only [RenderTarget.bodyIn]
    cases body.isRenderable <;> rfl

/-- Whether or not a pass can be opened, the session is cleared for it. -/
theorem opened_cleared {target : RenderTarget} {input : RenderInput} {session opened : Session}
    {result : Except Fault Commission}
    (began : opening target input session = (result, opened)) : opened = session.cleared := by
  rw [opening_step] at began
  exact (congrArg Prod.snd began).symm

/-- The context in which a renderer renders the content of a pass. -/
def contentContext (renderer : Renderer) (commission : Commission) : Context :=
  match commission.input with
  | .context context _ => context
  | .value value _ => renderer.contextFor commission.template value

/-- The pass in which a session renders the content, with what comes of it. -/
def contentRun (session : Session) (commission : Commission) : Except Fault String × Pass :=
  Pass.document commission.body (contentContext session.renderer commission)
    (Pass.start commission.input.sink true session.bookmarks)

/-- Rendering the content runs a pass, of which the log, the bookmarks and the fragments stay. -/
theorem carryOut_content (commission : Commission) (output : String) (session : Session) :
    carryOut commission output .content session =
      ((session.contentRun commission).1.mapError fun fault =>
          .stage (contentStage fault) (some commission.template) fault,
        { session with
          log := session.log ++ (session.contentRun commission).2.log
          bookmarks := (session.contentRun commission).2.bookmarks
          delivered := (session.contentRun commission).2.tree.delivered }) := by
  have context : contextOf commission.template commission.input session =
      (.ok (contentContext session.renderer commission), session) := by
    unfold contextOf contentContext
    cases commission.input <;> rfl
  simp only [carryOut, renderContent, bind_step, context, get_step, contentRun]
  rcases ran : Pass.document commission.body (contentContext session.renderer commission)
    (Pass.start commission.input.sink true session.bookmarks) with ⟨fault | text, pass⟩
  all_goals
    simp only [ExceptT.run, ran]
    rfl

/-! ## Where a pass comes to -/

variable {commission : Commission} {legs : List Leg} {output : String} {session after : Session}

/-- A fault of going through legs is that of the first of them that fails. -/
theorem travel_error {fault : Fault}
    (failed : travel commission output legs session = (.error fault, after)) :
    ∃ before leg later so reached, legs = before ++ leg :: later ∧
      travel commission output before session = (.ok so, reached) ∧
      carryOut commission so leg reached = (.error fault, after) := by
  induction legs generalizing output session with
  | nil => cases failed
  | cons leg rest ih =>
    rw [travel, bind_step] at failed
    rcases ran : carryOut commission output leg session with ⟨other | next, middle⟩
    · rw [ran] at failed
      cases failed
      exact ⟨[], leg, rest, output, session, rfl, rfl, ran⟩
    · rw [ran] at failed
      obtain ⟨before, last, later, so, reached, rfl, went, stopped⟩ := ih failed
      refine ⟨leg :: before, last, later, so, reached, rfl, ?_, stopped⟩
      rw [travel, bind_step, ran]
      exact went

/-- A leg that fails ends a pass. -/
theorem travel_stops {before later : List Leg} {leg : Leg} {so : String} {reached : Session}
    {fault : Fault} (went : travel commission output before session = (.ok so, reached))
    (failed : carryOut commission so leg reached = (.error fault, after)) :
    travel commission output (before ++ leg :: later) session = (.error fault, after) := by
  rw [travel_append, bind_step, went]
  dsimp only
  rw [travel, bind_step, failed]

/-- A pass over a target is opened in a session, went through all legs before the given one, and
comes to it in another session with the output so far. -/
def Arrives (target : RenderTarget) (input : RenderInput) (session : Session) (leg : Leg)
    (commission : Commission) (output : String) (reached : Session) : Prop :=
  ∃ opened before later, opening target input session = (.ok commission, opened) ∧
    Leg.course = before ++ leg :: later ∧
    travel commission "" before opened = (.ok output, reached)

variable {target : RenderTarget} {input : RenderInput} {leg : Leg} {reached : Session}
  {fault : Fault}

/-- A pass fails when it comes to a leg that fails. -/
theorem Arrives.render (arrives : Arrives target input session leg commission output reached)
    (failed : carryOut commission output leg reached = (.error fault, after)) :
    render target input session = (.error fault, after) := by
  obtain ⟨opened, before, later, began, course, went⟩ := arrives
  rw [render_eq, bind_step, began, course]
  exact travel_stops went failed

/-- A pass whose target leads to no body fails before its first leg. -/
theorem render_unresolved (input : RenderInput)
    (unresolved : target.bodyIn session.renderer.templates = .error fault) :
    render target input session = (.error fault, session.cleared) := by
  rw [render_eq, bind_step, opening_step, unresolved]
  rfl

/-- A pass fails because it cannot be opened, or because it comes to a leg that fails. -/
theorem render_error (failed : render target input session = (.error fault, after)) :
    opening target input session = (.error fault, after) ∨
      ∃ leg commission output reached,
        Arrives target input session leg commission output reached ∧
        carryOut commission output leg reached = (.error fault, after) := by
  rw [render_eq, bind_step] at failed
  rcases began : opening target input session with ⟨other | commission, opened⟩
  · rw [began] at failed
    cases failed
    exact .inl rfl
  · rw [began] at failed
    obtain ⟨before, leg, later, output, reached, course, went, stopped⟩ := travel_error failed
    exact .inr ⟨leg, commission, output, reached, ⟨opened, before, later, began, course, went⟩,
      stopped⟩

/-! ## Looking at a pass -/

/-- An event of the course is told with the template of the pass. -/
theorem course_named (template : String) {event : Event} (member : .event event ∈ Leg.course) :
    event.template? template = some template := by
  cases event <;> first | rfl | cases (by decide : Leg.event .dataFileLoaded ∉ Leg.course) member

/-- Checks that are computed aside change nothing. -/
theorem forM_liftExcept (check : Value → Except Fault Unit) (values : List Value)
    (session : Session) :
    (values.forM (fun value => liftExcept (check value)) : SessionM Unit) session =
      (values.forM check, session) := by
  induction values with
  | nil => rfl
  | cons value rest ih =>
    change ((liftExcept (check value) : SessionM Unit) >>= fun _ => rest.forM _) session = _
    rw [bind_step, liftExcept_step]
    change _ = (check value >>= fun _ => rest.forM check, session)
    cases check value with
    | error fault => rfl
    | ok _ => exact ih

/-- The helper modules that were not applied yet are found without changing anything, unless one
of them cannot be looked for. -/
theorem pendingModules_step (session : Session) :
    pendingModules session = (do
      session.renderer.options.helperModules.forM Value.requireKey
      pure (session.renderer.options.helperModules.filter fun module =>
        !session.renderer.appliedModules.any module.same), session) := by
  simp only [pendingModules, bind_step, get_step, forM_liftExcept]
  cases session.renderer.options.helperModules.forM Value.requireKey <;> rfl

/-! ## Relations that a pass keeps -/

variable {relation : Session → Session → Prop} {notice : FileNotice}

/-- Loading a file keeps a relation that reading, storing and what is done about a file keep. -/
theorem Tolerant.loadFile (tolerant : Tolerant relation)
    (noticed : ∀ file key content, Keeps relation (notice file key content))
    (read : ∀ file result, Keeps relation (happen (.read file result)))
    (stored : ∀ key content, Keeps relation (store key content)) (path : Path) :
    Keeps relation (loadFile notice path) :=
  tolerant.bind tolerant.get fun _ => tolerant.bind (tolerant.lift _) fun _ =>
    tolerant.bind (read _ _) fun _ => tolerant.bind (tolerant.lift _) fun _ =>
      tolerant.bind (stored _ _) fun _ => tolerant.bind (noticed _ _ _) fun _ => tolerant.pure _

theorem Tolerant.loadFiles (tolerant : Tolerant relation)
    (loaded : ∀ path, Keeps relation (Session.loadFile notice path)) (paths : List Path) :
    Keeps relation (loadFiles notice paths) := by
  induction paths with
  | nil => exact tolerant.pure _
  | cons path rest ih =>
    refine tolerant.bind tolerant.get fun session => ?_
    split
    · exact tolerant.bind (loaded path) fun _ => tolerant.bind ih fun _ => tolerant.pure _
    · exact ih

theorem Tolerant.loadPaths (tolerant : Tolerant relation)
    (loaded : ∀ path, Keeps relation (Session.loadFile notice path)) (paths : List Value) :
    Keeps relation (loadPaths notice paths) := by
  induction paths with
  | nil => exact tolerant.pure _
  | cons value rest ih =>
    refine tolerant.bind ?_ fun _ => tolerant.bind ih fun _ => tolerant.pure _
    refine tolerant.bind (tolerant.lift _) fun path => tolerant.bind tolerant.get fun session => ?_
    dsimp only
    split
    · exact tolerant.bind (loaded path) fun _ => tolerant.pure _
    · split
      · exact tolerant.loadFiles loaded _
      · exact tolerant.throw _

/-- A session less what the legs of a pass change besides telling plugins and loading files. -/
def traveled (session : Session) : Session :=
  { session.settled with
    bookmarks := {}
    delivered := []
    renderer := { session.settled.renderer with
      faults := []
      appliedModules := [] } }

/-- A relation that is kept when plugins are told of an event of the course and when a file is
loaded, and that says nothing of what else the legs of a pass change. -/
structure Passing (relation : Session → Session → Prop) : Prop where
  trans : ∀ {first second third}, relation first second → relation second third →
    relation first third
  traveled : ∀ {session after : Session}, after.traveled = session.traveled →
    relation session after
  announced : ∀ {event}, .event event ∈ Leg.course → ∀ (template : String) data,
    Keeps relation (announce event template data)
  loaded : ∀ path, Keeps relation (loadFile announceFile path)

namespace Passing

theorem tolerant (passing : Passing relation) : Tolerant relation where
  trans := passing.trans
  settled := fun {session after} same =>
    passing.traveled (by rw [Session.traveled, Session.traveled, same])

/-- Every leg of the course keeps the relation. -/
theorem carryOut (passing : Passing relation) (commission : Commission) (output : String)
    {leg : Leg} (member : leg ∈ Leg.course) : Keeps relation (carryOut commission output leg) := by
  have tolerant := passing.tolerant
  cases leg with
  | event event =>
    exact tolerant.bind tolerant.get fun session =>
      tolerant.bind (passing.announced member _ _) fun _ => tolerant.pure _
  | data =>
    refine tolerant.bind tolerant.get fun session =>
      tolerant.bind (tolerant.loadPaths passing.loaded _).attempt fun result => ?_
    cases result with
    | ok _ => exact tolerant.pure _
    | error _ => exact tolerant.throw _
  | helpers =>
    refine tolerant.bind (tolerant.unchanged fun _ => by rw [pendingModules_step]) fun pending =>
      tolerant.bind (tolerant.loadHelperModules pending).attempt fun result => ?_
    cases result with
    | ok _ => exact tolerant.bind (fun _ => passing.traveled rfl) fun _ => tolerant.pure _
    | error _ => exact tolerant.throw _
  | content =>
    intro session
    rw [carryOut_content]
    exact passing.traveled rfl

/-- Going through legs of the course keeps the relation. -/
theorem travel (passing : Passing relation) (commission : Commission) (output : String)
    {legs : List Leg} (members : ∀ leg ∈ legs, leg ∈ Leg.course) :
    Keeps relation (travel commission output legs) := by
  induction legs generalizing output with
  | nil => exact passing.tolerant.pure _
  | cons leg rest ih =>
    exact passing.tolerant.bind (passing.carryOut commission output (members leg (by simp)))
      fun next => ih next fun other member => members other (by simp [member])

/-- A pass keeps the relation. -/
theorem render (passing : Passing relation) (target : RenderTarget) (input : RenderInput) :
    Keeps relation (render target input) := by
  rw [render_eq]
  refine passing.tolerant.bind (fun session => ?_) fun commission =>
    passing.travel commission "" fun _ member => member
  rw [opening_step]
  exact passing.traveled rfl

end Passing

/-! ## What the legs tell and read -/

theorem carryOut_helpers_silent (commission : Commission) (output : String) (template : String) :
    Keeps (Silent template) (carryOut commission output .helpers) := by
  have silent := silent_attending template
  refine silent.bind (silent.unchanged fun _ => by rw [pendingModules_step]) fun pending => ?_
  refine silent.bind (silent.loadHelperModules pending).attempt fun result => ?_
  cases result with
  | error fault => exact silent.throw _
  | ok _ => exact silent.bind (fun _ => .of_same rfl rfl rfl) fun _ => silent.pure _

theorem carryOut_content_silent (commission : Commission) (output : String) (template : String) :
    Keeps (Silent template) (carryOut commission output .content) := by
  intro session
  rw [carryOut_content]
  exact .of_same rfl rfl rfl

/-- What a pass over a template makes of a fault of loading data. -/
def loadFailure (template : String) (fault : Fault) : Fault :=
  if fault.kind == .render then fault else .stage .dataLoad (some template) fault

theorem loadFailure_of_kind (template : String) {fault : Fault} (render : fault.kind = .render) :
    loadFailure template fault = fault := by
  rw [loadFailure, render]
  rfl

theorem carryOut_data (commission : Commission) (output : String) (session : Session) :
    carryOut commission output .data session =
      ((((loadPaths announceFile session.renderer.options.dataPaths session).1.map
        fun _ => output).mapError (loadFailure commission.template)),
        (loadPaths announceFile session.renderer.options.dataPaths session).2) := by
  simp only [carryOut, bind_step, get_step, attempt_step]
  cases (loadPaths announceFile session.renderer.options.dataPaths session).1 <;> rfl

/-- An event of the course fails by its telling only. -/
theorem carryOut_event_conducts (commission : Commission) (output : String) {event : Event}
    (member : .event event ∈ Leg.course) :
    Conducts commission.template (fun _ _ => False)
      (carryOut commission output (.event event)) := by
  have silent := silent_attending commission.template
  exact .bind False.elim (.of_silent silent.get nofun) fun session =>
    .bind False.elim (announce_conducts (course_named _ member) _) fun _ =>
      .of_silent (silent.pure _) nofun

/-- Every leg of the course is a stretch of the pass. -/
theorem carryOut_conducts (commission : Commission) (output : String) {leg : Leg}
    (member : leg ∈ Leg.course) :
    Conducts commission.template (fun _ _ => True) (carryOut commission output leg) := by
  cases leg with
  | event event => exact (carryOut_event_conducts commission output member).mono fun _ _ => nofun
  | data =>
    intro reached
    obtain ⟨told, read, stretch, ends⟩ := loadPaths_conducts commission.template
      reached.renderer.options.dataPaths reached
    rw [carryOut_data]
    refine ⟨told, read, stretch, ?_⟩
    cases loaded : (loadPaths announceFile reached.renderer.options.dataPaths reached).1 with
    | ok _ =>
      rw [loaded] at ends
      exact ends
    | error fault =>
      rw [loaded] at ends
      rcases ends with ended | ⟨bears, _⟩
      · refine .inl ?_
        rw [loadFailure_of_kind _ ended.kind]
        exact ended
      · exact .inr ⟨bears, trivial⟩
  | helpers => exact .of_silent (carryOut_helpers_silent _ _ _) fun _ _ _ => trivial
  | content => exact .of_silent (carryOut_content_silent _ _ _) fun _ _ _ => trivial

/-- Going through legs that are each a stretch of the pass is a stretch of it as well. -/
theorem Conducts.travel {own : List Reading → Fault → Prop} {commission : Commission}
    (more : ∀ {read later fault}, own later fault → own (read ++ later) fault) {legs : List Leg}
    (conducts : ∀ leg ∈ legs, ∀ output,
      Conducts commission.template own (carryOut commission output leg)) (output : String) :
    Conducts commission.template own (travel commission output legs) := by
  induction legs generalizing output with
  | nil => exact .of_silent ((silent_attending _).pure _) nofun
  | cons leg rest ih =>
    exact .bind more (conducts leg List.mem_cons_self output)
      fun next => ih (fun other member => conducts other (List.mem_cons_of_mem _ member)) next

/-- Going through legs of the course is a stretch of the pass. -/
theorem travel_conducts (commission : Commission) (output : String) {legs : List Leg}
    (members : ∀ leg ∈ legs, leg ∈ Leg.course) :
    Conducts commission.template (fun _ _ => True) (travel commission output legs) :=
  .travel (fun _ => trivial)
    (fun leg member output => carryOut_conducts commission output (members leg member)) output

/-- A pass is a stretch that ends as its tellings let it. -/
theorem render_stretch (target : RenderTarget) (input : RenderInput) (session : Session) :
    ∃ told read,
      Stretch target.title session.cleared (render target input session).2 told read ∧
      session.policy.Ends target.title told (fun _ => True) (render target input session).1 := by
  rw [render_eq, bind_step, opening_step]
  cases target.bodyIn session.renderer.templates with
  | error fault =>
    exact ⟨[], [], .of_same rfl rfl rfl, .inr ⟨PluginPolicy.bears_nil, trivial⟩⟩
  | ok body =>
    obtain ⟨told, read, stretch, ends⟩ :=
      travel_conducts ⟨target.title, body, input⟩ "" (fun _ member => member) session.cleared
    exact ⟨told, read, stretch, ends⟩

end Session

end TemplateStream
