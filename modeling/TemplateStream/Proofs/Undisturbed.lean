import TemplateStream.Proofs.Onlooking

/-!
# Renders that plugins do not disturb

When the faults of plugins are put up with, plugins that look on make no difference to what a pass
gives. Two sessions that differ in their plugins and in what these leave behind go through a pass
alike; the difference is in the faults that are kept, one for each telling that failed.
-/

namespace TemplateStream

/-- What plugins were told. -/
def Telling.said (telling : Telling) : Event × Value := (telling.event, telling.data)

namespace Session

/-- A session less its plugins, what these may change, and what is kept of them. -/
def core (session : Session) : Session :=
  { session.bare with
    history := []
    renderer := { session.bare.renderer with
      faults := []
      roster := { session.bare.renderer.roster with plugins := {} } } }

theorem bare_core (session : Session) : session.bare.core = session.core := rfl

/-- The session as it is without plugins. -/
def unattended (session : Session) : Session :=
  { session with
    renderer := { session.renderer with
      roster := { session.renderer.roster with plugins := {} } } }

/-- Two sessions that go through a pass alike: the plugins of both look on, their faults are put up
with, and both were told the same. -/
structure Alike (session other : Session) : Prop where
  core : session.core = other.core
  said : session.tellings.map Telling.said = other.tellings.map Telling.said
  proceeds : session.policy = .proceed
  watched : session.Watched
  watchedToo : other.Watched

theorem Alike.proceedsToo {session other : Session} (alike : Alike session other) :
    other.policy = .proceed := by
  have options : other.core.renderer.options = session.core.renderer.options := by rw [alike.core]
  exact (congrArg Options.pluginPolicy options).trans alike.proceeds

/-- A step that gives the same in sessions that are alike, and leaves them alike. -/
def Agrees {α : Type} (step : SessionM α) : Prop :=
  ∀ session other, Alike session other →
    (step session).1 = (step other).1 ∧ Alike (step session).2 (step other).2

namespace Agrees

variable {α β : Type}

theorem pure (value : α) : Agrees (pure value : SessionM α) := fun _ _ alike => ⟨rfl, alike⟩

theorem throw (fault : Fault) : Agrees (throw fault : SessionM α) := fun _ _ alike => ⟨rfl, alike⟩

theorem lift (result : Except Fault α) : Agrees (liftExcept result : SessionM α) := by
  intro session other alike
  rw [liftExcept_step, liftExcept_step]
  exact ⟨rfl, alike⟩

theorem bind {step : SessionM α} {next : α → SessionM β} (first : Agrees step)
    (second : ∀ value, Agrees (next value)) : Agrees (step >>= next) := by
  intro session other alike
  obtain ⟨same, after⟩ := first session other alike
  rw [bind_step, bind_step]
  rcases ran : step session with ⟨result, middle⟩
  rcases ranToo : step other with ⟨resultToo, middleToo⟩
  rw [ran, ranToo] at same after
  cases same
  cases result with
  | error fault => exact ⟨rfl, after⟩
  | ok value => exact second value middle middleToo after

theorem attempt {step : SessionM α} (agrees : Agrees step) : Agrees (attempt step) := by
  intro session other alike
  obtain ⟨same, after⟩ := agrees session other alike
  exact ⟨congrArg Except.ok same, after⟩

/-- What is read of a session is the same in sessions that are alike when it is in its core. -/
theorem get {next : Session → SessionM α} (blind : ∀ session, next session = next session.core)
    (agrees : ∀ session, Agrees (next session)) : Agrees (do next (← get)) := by
  intro session other alike
  have left : (do next (← MonadState.get) : SessionM α) session = next session.core session := by
    rw [bind_step, get_step, ← blind]
  have right : (do next (← MonadState.get) : SessionM α) other = next session.core other := by
    rw [bind_step, get_step, alike.core, ← blind]
  rw [left, right]
  exact agrees session.core session other alike

/-- A change that depends on the core alone, and touches neither plugins nor the history, leaves
sessions alike. -/
theorem modify {change : Session → Session}
    (blind : ∀ session, (change session).core = (change session.core).core)
    (history : ∀ session, (change session).history = session.history)
    (plugins : ∀ session, (change session).attached = session.attached)
    (options : ∀ session, (change session).renderer.options = session.renderer.options) :
    Agrees (modify change : SessionM Unit) := by
  intro session other alike
  refine ⟨rfl, ?_⟩
  rw [modify_step, modify_step]
  exact {
    core := by rw [blind session, blind other, alike.core]
    said := by
      have said := alike.said
      rw [tellings, tellings] at said ⊢
      rwa [history session, history other]
    proceeds := by
      have proceeds := alike.proceeds
      rw [policy] at proceeds ⊢
      rwa [options session]
    watched := by
      rw [Watched, plugins session]
      exact alike.watched
    watchedToo := by
      rw [Watched, plugins other]
      exact alike.watchedToo }

/-! ## Loading helper modules -/

theorem note (entry : Value) : Agrees (note entry) :=
  .modify (fun _ => rfl) (fun _ => rfl) (fun _ => rfl) fun _ => rfl

theorem loadModule (package : Option String) (name : String) :
    Agrees (loadModule package name) := by
  refine .get (fun _ => rfl) fun session => ?_
  dsimp only
  split
  · exact .pure _
  · refine .bind (.lift _) fun content => .bind (.note _) fun _ => ?_
    cases content with
    | failing fault => exact .throw fault
    | members _ => exact .modify (fun _ => rfl) (fun _ => rfl) (fun _ => rfl) fun _ => rfl

theorem loadModules (package : Option String) (names : List String) :
    Agrees (loadModules package names) := by
  induction names generalizing package with
  | nil => exact .pure _
  | cons name rest ih => exact .bind (.loadModule package name) fun _ => ih _

theorem importModule (name : String) : Agrees (importModule name) := by
  have loaded : Agrees (do
      if name.isEmpty then MonadExcept.throw (.importing .blankName)
      Session.loadModules none (ModuleLibrary.ancestry name)) := by
    dsimp only
    split
    · exact .bind (.throw _) fun _ => .loadModules _ _
    · exact .loadModules _ _
  unfold Session.importModule
  dsimp only
  split
  · exact .bind (.throw _) fun _ => loaded
  · exact loaded

theorem registerAll (helpers : List Helper) : Agrees (registerAll helpers) := by
  refine .get (fun _ => rfl) fun session => ?_
  exact .bind (.modify (fun _ => rfl) (fun _ => rfl) (fun _ => rfl) fun _ => rfl) fun _ => .lift _

theorem addFunction (id : String) (function : Option HelperFunction) :
    Agrees (addFunction id function) := by
  cases function with
  | none => exact .throw _
  | some function =>
    refine .get (fun _ => rfl) fun session => .bind (.lift _) fun _ => ?_
    exact .modify (fun _ => rfl) (fun _ => rfl) (fun _ => rfl) fun _ => rfl

theorem addFunctions (functions : List (Value × HelperFunction)) :
    Agrees (addFunctions functions) := by
  induction functions with
  | nil => exact .pure _
  | cons entry rest ih =>
    obtain ⟨id, function⟩ := entry
    unfold Session.addFunctions
    cases id.text? with
    | none => exact .bind (.throw _) fun _ => ih
    | some name => exact .bind (.addFunction name _) fun _ => ih

theorem applyModule (module : String) : Agrees (applyModule module) := by
  refine .get (fun _ => rfl) fun session => ?_
  dsimp only
  split
  · exact .registerAll _
  · rename_i blueprint _
    refine .bind (.note _) fun _ => ?_
    cases blueprint.failure with
    | none => exact .pure _
    | some fault => exact .throw fault
  · split
    · exact .addFunctions _
    · exact .throw _

theorem loadHelperModules (modules : List Value) : Agrees (loadHelperModules modules) := by
  induction modules with
  | nil => exact .pure _
  | cons module rest ih =>
    exact .bind (.lift _) fun name => .bind (.importModule name) fun _ =>
      .bind (.applyModule name) fun _ => ih

theorem pendingModules : Agrees pendingModules := by
  intro session other alike
  have options : session.core.renderer = other.core.renderer := by rw [alike.core]
  rw [pendingModules_step, pendingModules_step]
  refine ⟨?_, alike⟩
  change (do
    session.core.renderer.options.helperModules.forM Value.requireKey
    Pure.pure (session.core.renderer.options.helperModules.filter fun module =>
      !session.core.renderer.appliedModules.any module.same) : Except Fault (List Value)) = _
  rw [options]
  rfl

/-! ## Telling plugins -/

/-- Telling plugins whose faults are put up with makes no difference. -/
theorem inform {event : Event} {waits : Bool} {data : Value}
    {step : List Plugin → SessionM Unit} {template : String}
    (silent : ∀ plugins, Keeps (Silent template) (step plugins)) (asks : Asks event waits step) :
    Agrees (inform (event.template? template) event data step) := by
  intro session other alike
  have proceeds : other.policy = .proceed := alike.proceedsToo
  obtain ⟨calls, result, after, calling, ran, same⟩ := inform_calls data silent asks alike.watched
  obtain ⟨callsToo, resultToo, afterToo, callingToo, ranToo, sameToo⟩ :=
    inform_calls data silent asks alike.watchedToo
  rw [ran, ranToo, alike.proceeds, alike.proceedsToo]
  refine ⟨rfl, ?_⟩
  obtain ⟨scene, history⟩ := heard_of_bare same
  obtain ⟨sceneToo, historyToo⟩ := heard_of_bare sameToo
  exact {
    core := by
      rw [← bare_core after, ← bare_core afterToo, same, sameToo]
      exact alike.core
    said := by
      rw [tellings_of_history history, tellings_of_history historyToo,
        Calls.told ⟨event, data, result⟩ calling, Calls.told ⟨event, data, resultToo⟩ callingToo,
        List.map_append, List.map_append, alike.said]
      rfl
    proceeds := by
      have options : after.renderer.options = session.renderer.options :=
        congrArg Scene.options scene
      exact (congrArg Options.pluginPolicy options).trans alike.proceeds
    watched := watched_of_scene scene alike.watched
    watchedToo := watched_of_scene sceneToo alike.watchedToo }

theorem announce (event : Event) {template : String}
    (named : event.template? template = some template) (data : List (String × Value)) :
    Agrees (announce event template data) := by
  rw [announce_eq, ← named]
  exact .inform (silent_awaitEach template event _) (awaitEach_asks event data)

theorem announceFile (file : DataFile) (key : String) (content : Value) :
    Agrees (announceFile file key content) :=
  .inform (silent_callEach "" .dataFileLoaded _) (callEach_asks .dataFileLoaded _)

/-! ## Legs -/

theorem store (key : String) (content : Value) : Agrees (store key content) :=
  .modify (fun _ => rfl) (fun _ => rfl) (fun _ => rfl) fun _ => rfl

/-- A reading is no telling. -/
theorem read (file : DataFile) (result : Except Fault Value) :
    Agrees (happen (.read file result)) := by
  intro session other alike
  refine ⟨rfl, ?_⟩
  have untold (session : Session) :
      (session.recorded [.read file result]).tellings = session.tellings :=
    List.filterMap_append.trans (List.append_nil _)
  exact {
    core := alike.core
    said := (congrArg _ (untold session)).trans (alike.said.trans (congrArg _ (untold other).symm))
    proceeds := alike.proceeds
    watched := alike.watched
    watchedToo := alike.watchedToo }

theorem loadFile (path : Path) : Agrees (loadFile Session.announceFile path) := by
  refine .get (fun _ => rfl) fun session => .bind (.lift _) fun reader => ?_
  refine .bind (.read _ _) fun _ => .bind (.lift _) fun stored => .bind (.store _ _) fun _ => ?_
  exact .bind (.announceFile _ _ _) fun _ => .pure _

theorem loadFiles (paths : List Path) : Agrees (loadFiles Session.announceFile paths) := by
  induction paths with
  | nil => exact .pure _
  | cons path rest ih =>
    refine .get (fun _ => rfl) fun session => ?_
    split
    · exact .bind (.loadFile path) fun _ => .bind ih fun _ => .pure _
    · exact ih

theorem loadPaths (paths : List Value) : Agrees (loadPaths Session.announceFile paths) := by
  induction paths with
  | nil => exact .pure _
  | cons value rest ih =>
    refine .bind ?_ fun _ => .bind ih fun _ => .pure _
    refine .bind (.lift _) fun path => .get (fun _ => rfl) fun session => ?_
    dsimp only
    split
    · exact .bind (.loadFile path) fun _ => .pure _
    · split
      · exact .loadFiles _
      · exact .throw _

/-- Every leg of the course gives the same in sessions that are alike. -/
theorem carryOut (commission : Commission) (output : String) {leg : Leg}
    (member : leg ∈ Leg.course) : Agrees (carryOut commission output leg) := by
  cases leg with
  | event event =>
    refine .get (fun _ => rfl) fun session => ?_
    exact .bind (.announce event (course_named _ member) _) fun _ => .pure _
  | data =>
    refine .get (fun _ => rfl) fun session => .bind (Agrees.loadPaths _).attempt fun result => ?_
    cases result with
    | ok _ => exact .pure _
    | error _ => exact .throw _
  | helpers =>
    refine .bind .pendingModules fun pending =>
      .bind (Agrees.loadHelperModules pending).attempt fun result => ?_
    cases result with
    | ok _ =>
      exact .bind (.modify (fun _ => rfl) (fun _ => rfl) (fun _ => rfl) fun _ => rfl)
        fun _ => .pure _
    | error _ => exact .throw _
  | content =>
    intro session other alike
    have run : session.contentRun commission = other.contentRun commission := by
      change session.core.contentRun commission = other.core.contentRun commission
      rw [alike.core]
    rw [carryOut_content, carryOut_content, run]
    exact ⟨rfl, {
      core := congrArg (fun core : Session => { core with
        bookmarks := (other.contentRun commission).2.bookmarks
        delivered := (other.contentRun commission).2.tree.delivered }) alike.core
      said := alike.said
      proceeds := alike.proceeds
      watched := alike.watched
      watchedToo := alike.watchedToo }⟩

theorem travel (commission : Commission) (output : String) {legs : List Leg}
    (members : ∀ leg ∈ legs, leg ∈ Leg.course) : Agrees (travel commission output legs) := by
  induction legs generalizing output with
  | nil => exact .pure _
  | cons leg rest ih =>
    exact .bind (.carryOut commission output (members leg (by simp))) fun next =>
      ih next fun other member => members other (by simp [member])

/-- A pass gives the same in sessions that are alike. -/
theorem render (target : RenderTarget) (input : RenderInput) : Agrees (render target input) := by
  rw [render_eq]
  refine .bind ?_ fun commission => .travel commission "" fun _ member => member
  intro session other alike
  have templates : session.core.renderer.templates = other.core.renderer.templates := by
    rw [alike.core]
  rw [opening_step, opening_step]
  refine ⟨?_, {
    core := congrArg (fun core : Session => { core with delivered := [] }) alike.core
    said := alike.said
    proceeds := alike.proceeds
    watched := alike.watched
    watchedToo := alike.watchedToo }⟩
  change Except.map _ (target.bodyIn session.core.renderer.templates) = _
  rw [templates]
  rfl

end Agrees

/-- A session in which plugins look on and their faults are put up with is like the one without
plugins. -/
theorem alike_unattended {session : Session} (watched : session.Watched)
    (proceeds : session.policy = .proceed) : Alike session session.unattended where
  core := rfl
  said := rfl
  proceeds := proceeds
  watched := watched
  watchedToo := nofun

end Session

open Session

/-- When the faults of plugins are put up with and the attached plugins look on, a pass gives the
result and the fragments that it gives without plugins. The faults that it keeps are those of the
tellings in it that failed, in order. Whenever they are told of something the plugins are called in
the order in which they were attached, and the first that fails is the last to be called; a deferred
script fails every telling of a data file. -/
theorem render_undisturbed (target : RenderTarget) (input : RenderInput) (session : Session)
    (proceeds : session.policy = .proceed) (looking : ∀ plugin ∈ session.attached, plugin.LooksOn) :
    let ran := render target input session
    let alone := render target input session.unattended
    ran.1 = alone.1 ∧ ran.2.delivered = alone.2.delivered ∧
      ∃ news, ran.2.history = session.history ++ news ∧ Rounds session.attached news ∧
        ran.2.renderer.faults =
          (news.filterMap Happening.telling?).filterMap (Telling.failure? target.title) ∧
        ∀ plugin ∈ session.attached, ∀ script, plugin.script? .dataFileLoaded = some script →
          script.deferred = true → ∀ telling ∈ news.filterMap Happening.telling?,
            telling.event = .dataFileLoaded → telling.result ≠ .ok () := by
  intro ran alone
  obtain ⟨same, alike⟩ := Agrees.render target input _ _ (alike_unattended looking proceeds)
  obtain ⟨_, news, history, rounds⟩ := follows_passing.render target input session looking
  have delivered : ran.2.core.delivered = alone.2.core.delivered := by rw [alike.core]
  refine ⟨same, delivered, news, history, rounds, ?_, ?_⟩
  · obtain ⟨told, _, stretch, _⟩ := render_stretch target input session
    have all : told = news.filterMap Happening.telling? := by
      have tellings := stretch.tellings
      rw [tellings_of_history history] at tellings
      exact (List.append_cancel_left tellings).symm
    have faults := stretch.faults
    rw [show session.cleared.policy = .proceed from proceeds] at faults
    rw [← all]
    exact faults
  · intro plugin member script found deferred telling told file
    obtain ⟨calls, calling⟩ := rounds.calls told
    rw [file] at calling
    exact calling.fails_of_deferred member found deferred

/-- A plugin of a name with scripts. -/
def onlooker (number : Nat) (name : String) (scripts : List (Event × EventScript)) : Plugin where
  number := number
  name := name
  blueprint := { (default : Blueprint) with name := .given (.text name), listsHandlers := true }
  given := none
  settings := []
  scripts := scripts

/-- A session with a template, a data file and two plugins that fail, the faults of which are put up
with. -/
def failingPlugins : Session where
  files := { files := [(["notes.txt"], [])] }
  renderer :=
    { options := { dataPaths := [.text "notes.txt"], pluginPolicy := .proceed }
      templates := .ofList [("page", .text "a")]
      data := { extensions := ⟨.ofList [("txt", .constant (.text "b"))]⟩ }
      roster := ⟨.ofList [
        ("first", onlooker 0 "first"
          [(.beforeRender, ⟨false, [.logData, .raise (.raised .value "boom")]⟩)]),
        ("second", onlooker 1 "second"
          [(.beforeRender, ⟨false, [.raise (.raised .key "late")]⟩),
            (.dataFileLoaded, ⟨true, [.logData]⟩)])], []⟩ }

theorem failingPlugins_lookOn : ∀ plugin ∈ failingPlugins.attached, plugin.LooksOn := by
  have out : ∀ plugin ∈ failingPlugins.attached, ∀ entry ∈ plugin.scripts,
      entry.2.statements.all PluginStatement.staysOut = true := by
    decide +kernel
  exact fun plugin member => Plugin.looksOn_of_staysOut (out plugin member)

/-- A plugin that raises before the pass and a deferred script for data files leave the document as
it is, and one fault each. -/
theorem render_undisturbed_failingPlugins :
    failingPlugins.policy = .proceed ∧ (∀ plugin ∈ failingPlugins.attached, plugin.LooksOn) ∧
      (render (.named "page") (.value .null) failingPlugins).1 =
        (render (.named "page") (.value .null) failingPlugins.unattended).1 ∧
      (render (.named "page") (.value .null) failingPlugins).2.renderer.faults.map Fault.stage? =
        [some ("plugin-event", some "page", some .beforeRender),
          some ("plugin-event", none, some .dataFileLoaded)] := by
  obtain ⟨same, _⟩ :=
    render_undisturbed (.named "page") (.value .null) failingPlugins rfl failingPlugins_lookOn
  exact ⟨rfl, failingPlugins_lookOn, same, by decide +kernel⟩

end TemplateStream
