import TemplateStream.Proofs.Steps
import TemplateStream.Session.HelperModules
import TemplateStream.Session.PluginModules

/-!
# What attaching plugins keeps

The scripts of plugins may attach further plugins, whose scripts may attach others. A relation of
sessions that is kept when one plugin is made and attached, and that says nothing of what else
scripts may change, is kept by every script and by whatever attaches plugins, be it at any depth
and also when it fails.
-/

namespace TemplateStream

/-- What a blueprint offers as the name of a plugin that is made with settings. -/
def Blueprint.offered (blueprint : Blueprint) (settings : List (Value × Value)) :
    Except Fault Value :=
  blueprint.offeredName (Session.givenTo blueprint (blueprint.kept settings))

/-- The name that a blueprint gives a plugin that is made with settings. -/
def Blueprint.named (blueprint : Blueprint) (settings : List (Value × Value)) :
    Except Fault String := do
  acceptedName (← blueprint.offered settings)

namespace Session

/-- A session less the log and which modules are loaded. -/
def unloaded (session : Session) : Session :=
  { session with
    library := { session.library with loaded := [] }
    log := [] }

/-- A relation that says nothing of the log and of which modules are loaded. -/
structure Importing (relation : Session → Session → Prop) : Prop where
  trans : ∀ {first second third}, relation first second → relation second third →
    relation first third
  unloaded : ∀ {session after : Session}, after.unloaded = session.unloaded →
    relation session after

/-- A session less the log, the loaded modules and the registered helpers. -/
def settled (session : Session) : Session :=
  { session with
    library := {}
    log := []
    renderer := { session.renderer with helpers := {} } }

/-- A relation that says nothing of the log, the loaded modules and the registered helpers. -/
structure Tolerant (relation : Session → Session → Prop) : Prop extends Importing relation where
  settled : ∀ {session after : Session}, after.settled = session.settled → relation session after
  unloaded := fun {session after} same =>
    settled (show after.unloaded.settled = session.unloaded.settled by rw [same])

/-- A session less what scripts may change: also the registered templates, the stored data, the
state that plugins share and the settings that they start from. -/
def steady (session : Session) : Session :=
  { session.settled with
    renderer := { session.settled.renderer with
      state := []
      templates := {}
      data := {}
      roster := { session.settled.renderer.roster with settings := [] } } }

/-- A relation that says nothing of what scripts may change. -/
structure Lenient (relation : Session → Session → Prop) : Prop extends Tolerant relation where
  steady : ∀ {session after : Session}, after.steady = session.steady → relation session after

/-- A transitive relation of sessions that are the same less what scripts may change. -/
theorem Lenient.of_steady {relation : Session → Session → Prop}
    (trans : ∀ {first second third}, relation first second → relation second third →
      relation first third)
    (steady : ∀ {session after : Session}, after.steady = session.steady → relation session after) :
    Lenient relation where
  trans := trans
  settled := fun {session after} same => steady (by rw [Session.steady, Session.steady, same])
  steady := steady

/-- A session in which further things happened. -/
def recorded (session : Session) (news : List Happening) : Session :=
  { session with history := session.history ++ news }

/-- A step in a coroutine changes what it changes outside of one. -/
theorem keeps_inCoroutine {relation : Session → Session → Prop} {step : SessionM Unit}
    (kept : Keeps relation step) : Keeps relation (inCoroutine step) := kept

/-- A plugin that is called on an event does nothing, and then succeeds only if it does not handle
the event, or its call is remembered behind what it did. -/
def Hears (relation : Session → Session → Prop) (plugin : Plugin) (event : Event)
    (step : SessionM Unit) : Prop :=
  ∀ session, ((step session).2 = session ∧
      ((step session).1 = .ok () → plugin.handles event = false)) ∨
    plugin.handles event = true ∧ ∃ result middle, relation session middle ∧
      step session = (result, middle.recorded [.called plugin event result])

/-- A relation that is kept when one plugin is made and attached, if what the scripts of plugins
use is attached so. -/
structure Attending (relation : Session → Session → Prop) : Prop extends Lenient relation where
  factory : ∀ {attach : AttachSource}, (∀ source, Keeps relation (attach source)) →
    ∀ own factory, Keeps relation (attachFactory attach own factory)

namespace Importing

variable {relation : Session → Session → Prop} {α β : Type}

/-! ## Sequences -/

theorem refl (importing : Importing relation) (session : Session) : relation session session :=
  importing.unloaded rfl

/-- A step that changes nothing keeps the relation. -/
theorem unchanged (importing : Importing relation) {step : SessionM α}
    (same : ∀ session, (step session).2 = session) : Keeps relation step :=
  Keeps.unchanged importing.refl same

theorem pure (importing : Importing relation) (value : α) :
    Keeps relation (pure value : SessionM α) :=
  importing.unchanged fun _ => rfl

theorem throw (importing : Importing relation) (fault : Fault) :
    Keeps relation (throw fault : SessionM α) :=
  importing.unchanged fun _ => rfl

theorem lift (importing : Importing relation) (result : Except Fault α) :
    Keeps relation (liftExcept result : SessionM α) :=
  importing.unchanged fun session => by rw [liftExcept_step]

theorem get (importing : Importing relation) : Keeps relation (get : SessionM Session) :=
  importing.unchanged fun _ => rfl

/-- A change to the log and to which modules are loaded keeps the relation. -/
theorem loads (importing : Importing relation) {change : Session → Session}
    (same : ∀ session, (change session).unloaded = session.unloaded) :
    Keeps relation (modify change : SessionM Unit) :=
  fun session => importing.unloaded (same session)

theorem bind (importing : Importing relation) {step : SessionM α} {next : α → SessionM β}
    (first : Keeps relation step) (second : ∀ value, Keeps relation (next value)) :
    Keeps relation (step >>= next) :=
  Keeps.bind importing.trans first second

/-! ## Loading modules -/

theorem note (importing : Importing relation) (entry : Value) : Keeps relation (note entry) :=
  importing.loads fun _ => rfl

theorem loadModule (importing : Importing relation) (package : Option String) (name : String) :
    Keeps relation (loadModule package name) := by
  refine importing.bind importing.get fun session => ?_
  dsimp only
  split
  · exact importing.pure _
  · refine importing.bind (importing.lift _) fun content =>
      importing.bind (importing.note _) fun _ => ?_
    cases content with
    | failing fault => exact importing.throw fault
    | members _ => exact importing.loads fun _ => rfl

theorem loadModules (importing : Importing relation) (package : Option String)
    (names : List String) : Keeps relation (loadModules package names) := by
  induction names generalizing package with
  | nil => exact importing.pure _
  | cons name rest ih => exact importing.bind (importing.loadModule package name) fun _ => ih _

theorem importModule (importing : Importing relation) (name : String) :
    Keeps relation (importModule name) :=
  Keeps.guard (importing.throw _)
    (Keeps.guard (importing.throw _) (importing.loadModules _ _))

theorem memberOf (importing : Importing relation) (module name : String) :
    Keeps relation (memberOf module name) := by
  refine importing.bind importing.get fun session => ?_
  split
  · exact importing.pure _
  · exact importing.throw _

theorem factoryOf (importing : Importing relation) (loaded : Loaded) :
    Keeps relation (factoryOf loaded) := by
  cases loaded with
  | module name => exact importing.bind importing.get fun _ => importing.lift _
  | member member =>
    rw [Session.factoryOf]
    · split
      · exact importing.pure _
      · exact importing.throw _
    · nofun

theorem factoryAt (importing : Importing relation) (target : String) :
    Keeps relation (factoryAt target) := by
  refine importing.bind (importing.importModule _).attempt fun result => ?_
  cases result with
  | ok _ => exact importing.bind importing.get fun _ => importing.lift _
  | error fault => exact importing.throw _

mutual

/-- Importing the modules that a source consists of keeps the relation. -/
theorem prepare (importing : Importing relation) :
    ∀ source : PluginSource, Keeps relation (prepare source)
  | .module name => importing.importModule name
  | .sequence sources => importing.prepareEach sources
  | .configured source _ => importing.prepare source
  | .absent => importing.pure _
  | .target _ => importing.pure _
  | .blueprint _ => importing.pure _
  | .targets _ => importing.pure _
  | .inert _ => importing.pure _

/-- Importing the modules that sources consist of keeps the relation. -/
theorem prepareEach (importing : Importing relation) :
    ∀ sources : List PluginSource, Keeps relation (prepareEach sources)
  | [] => importing.pure _
  | first :: rest => importing.bind (importing.prepare first) fun _ => importing.prepareEach rest

end

end Importing

namespace Tolerant

variable {relation : Session → Session → Prop}

/-! ## Registering helpers -/

/-- A change to the log, the loaded modules and the registered helpers keeps the relation. -/
theorem aside (tolerant : Tolerant relation) {change : Session → Session}
    (same : ∀ session, (change session).settled = session.settled) :
    Keeps relation (modify change : SessionM Unit) :=
  fun session => tolerant.settled (same session)

theorem registerAll (tolerant : Tolerant relation) (helpers : List Helper) :
    Keeps relation (registerAll helpers) :=
  tolerant.bind tolerant.get fun _ => tolerant.bind (tolerant.aside fun _ => rfl) fun _ =>
    tolerant.lift _

theorem addFunction (tolerant : Tolerant relation) (id : String)
    (function : Option HelperFunction) : Keeps relation (addFunction id function) := by
  cases function with
  | none => exact tolerant.throw _
  | some function =>
    exact tolerant.bind tolerant.get fun _ => tolerant.bind (tolerant.lift _) fun _ =>
      tolerant.aside fun _ => rfl

theorem addFunctions (tolerant : Tolerant relation) (functions : List (Value × HelperFunction)) :
    Keeps relation (addFunctions functions) := by
  induction functions with
  | nil => exact tolerant.pure _
  | cons entry rest ih =>
    obtain ⟨id, function⟩ := entry
    unfold Session.addFunctions
    cases id.text? with
    | none => exact tolerant.throw _
    | some name => exact tolerant.bind (tolerant.addFunction name _) fun _ => ih

theorem applyModule (tolerant : Tolerant relation) (module : String) :
    Keeps relation (applyModule module) := by
  refine tolerant.bind tolerant.get fun session => ?_
  dsimp only
  split
  · exact tolerant.registerAll _
  · rename_i blueprint _
    refine tolerant.bind (tolerant.note _) fun _ => ?_
    cases blueprint.failure with
    | none => exact tolerant.pure _
    | some fault => exact tolerant.throw fault
  · split
    · exact tolerant.addFunctions _
    · exact tolerant.throw _

theorem loadHelperModules (tolerant : Tolerant relation) (modules : List Value) :
    Keeps relation (loadHelperModules modules) := by
  induction modules with
  | nil => exact tolerant.pure _
  | cons module rest ih =>
    exact tolerant.bind (tolerant.lift _) fun name =>
      tolerant.bind (tolerant.importModule name) fun _ =>
        tolerant.bind (tolerant.applyModule name) fun _ => ih

end Tolerant

namespace Lenient

variable {relation : Session → Session → Prop}

/-! ## Scripts -/

/-- A change to what scripts may change keeps the relation. -/
theorem beside (lenient : Lenient relation) {change : Session → Session}
    (same : ∀ session, (change session).steady = session.steady) :
    Keeps relation (modify change : SessionM Unit) :=
  fun session => lenient.steady (same session)

theorem addHelper (lenient : Lenient relation) (helper : Helper) :
    Keeps relation (addHelper helper) :=
  lenient.bind lenient.get fun _ => lenient.bind (lenient.lift _) fun _ =>
    lenient.beside fun _ => rfl

theorem addTemplate (lenient : Lenient relation) (name : String) (body : Body)
    (source : Option String) : Keeps relation (addTemplate name body source) := by
  refine lenient.bind lenient.get fun _ => lenient.bind (lenient.lift _) fun _ =>
    lenient.bind (lenient.beside fun _ => rfl) fun _ => ?_
  cases source with
  | none => exact lenient.pure _
  | some source =>
    exact lenient.bind lenient.get fun _ => lenient.bind (lenient.lift _) fun _ =>
      lenient.beside fun _ => rfl

theorem addReader (lenient : Lenient relation) (extension : String) (reader : DataReader) :
    Keeps relation (addReader extension reader) :=
  lenient.bind lenient.get fun _ => lenient.bind (lenient.lift _) fun _ =>
    lenient.beside fun _ => rfl

theorem store (lenient : Lenient relation) (key : String) (content : Value) :
    Keeps relation (store key content) :=
  lenient.beside fun _ => rfl

/-- Whatever a statement of a script does, if what it uses is attached so. -/
theorem statement (lenient : Lenient relation) {attach : AttachSource}
    (attached : ∀ source, Keeps relation (attach source)) (plugin : Plugin)
    (data : List (Value × Value)) (statement : PluginStatement) :
    Keeps relation (runStatement attach plugin data statement) := by
  cases statement with
  | log entry => exact lenient.note entry
  | logData => exact lenient.note _
  | logSettings => exact lenient.note _
  | set key content => exact lenient.beside fun _ => rfl
  | append key content =>
    intro session
    simp only [runStatement, bind_step, get_step, liftExcept_step, Renderer.appended]
    cases (Value.lookup key session.renderer.state).getD (.list []) with
    | list items => exact lenient.steady rfl
    | _ => exact lenient.refl session
  | raise fault => exact lenient.throw fault
  | pause => exact lenient.pure _
  | addHelper helper => exact lenient.addHelper helper
  | addTemplate name body => exact lenient.addTemplate name body none
  | addReader extension reader => exact lenient.addReader extension reader
  | store key content => exact lenient.store key content
  | use source => exact attached source

/-- Whatever a script does, if what it uses is attached so. -/
theorem statements (lenient : Lenient relation) {attach : AttachSource}
    (attached : ∀ source, Keeps relation (attach source)) (plugin : Plugin)
    (data : List (Value × Value)) (script : List PluginStatement) :
    Keeps relation (runStatements attach plugin data script) := by
  induction script with
  | nil => exact lenient.pure _
  | cons first rest ih =>
    exact lenient.bind (lenient.statement attached plugin data first) fun _ => ih

/-- A call that is remembered is heard. -/
theorem remembered_hears {plugin : Plugin} {event : Event} {step : SessionM Unit}
    (kept : Keeps relation step) (handles : plugin.handles event = true) :
    Hears relation plugin event (remembered plugin event step) := by
  refine fun session => .inr ⟨handles, (step session).1, (step session).2, kept session, ?_⟩
  simp only [remembered, bind_step, attempt_step, happen, modify_step, liftExcept_step, recorded]

/-- A script that is run logs its event first. -/
theorem runScript (lenient : Lenient relation) {attach : AttachSource}
    (attached : ∀ source, Keeps relation (attach source)) (plugin : Plugin) (event : Event)
    (data : List (Value × Value)) (script : EventScript) :
    Keeps relation (runScript attach plugin event data script) :=
  lenient.bind (lenient.note _) fun _ => lenient.statements attached plugin data _

/-- A plugin that is waited for is called if it handles the event. -/
theorem await_hears (lenient : Lenient relation) {attach : AttachSource}
    (attached : ∀ source, Keeps relation (attach source)) (plugin : Plugin) (event : Event)
    (data : Value) : Hears relation plugin event (await attach plugin event data) := by
  unfold await
  split
  · rename_i unheard
    exact fun session => .inl ⟨rfl, fun _ => by rw [Plugin.handles, unheard]; rfl⟩
  · rename_i script found
    have handles : plugin.handles event = true := by rw [Plugin.handles, found]; rfl
    cases data.optionalEntries with
    | error fault => exact fun session => .inl ⟨rfl, nofun⟩
    | ok entries =>
      exact remembered_hears
        (keeps_inCoroutine (lenient.runScript attached plugin event entries script)) handles

/-- A plugin that is not waited for is called if it handles the event. -/
theorem call_hears (lenient : Lenient relation) {attach : AttachSource}
    (attached : ∀ source, Keeps relation (attach source)) (plugin : Plugin) (event : Event)
    (data : Value) : Hears relation plugin event (call attach plugin event data) := by
  unfold call
  split
  · rename_i unheard
    exact fun session => .inl ⟨rfl, fun _ => by rw [Plugin.handles, unheard]; rfl⟩
  · rename_i script found
    have handles : plugin.handles event = true := by rw [Plugin.handles, found]; rfl
    cases data.optionalEntries with
    | error fault => exact fun session => .inl ⟨rfl, nofun⟩
    | ok entries =>
      have kept : Keeps relation
          (if script.deferred then throw (.plugin (.awaitable plugin.name event))
            else Session.runScript attach plugin event entries script) := by
        split
        · exact lenient.throw _
        · exact lenient.runScript attached plugin event entries script
      exact remembered_hears kept handles

/-- Calling a plugin keeps the relation if its call may be remembered. -/
theorem keeps_of_hears (lenient : Lenient relation) {plugin : Plugin} {event : Event}
    {step : SessionM Unit} (hears : Hears relation plugin event step)
    (heard : plugin.handles event = true → ∀ result,
      Keeps relation (happen (.called plugin event result))) : Keeps relation step := by
  intro session
  rcases hears session with ⟨same, _⟩ | ⟨handles, result, middle, kept, ran⟩
  · rw [same]
    exact lenient.refl session
  · rw [ran]
    exact lenient.trans kept (heard handles result middle)

end Lenient

/-! ## Attaching -/

/-- The plugin that is made of a blueprint with settings in a session, or the first fault that is
found with it. -/
def assembled (blueprint : Blueprint) (settings : List (Value × Value)) (session : Session) :
    Except Fault Plugin :=
  match blueprint.failure, blueprint.named settings with
  | some fault, _ | none, .error fault => .error fault
  | none, .ok name =>
    if session.renderer.roster.plugins.contains name then .error (.plugin (.duplicate name))
    else (blueprint.scripts name).map fun scripts =>
      { number := session.made, name, blueprint, given := givenTo blueprint settings,
        settings := blueprint.kept settings, scripts }

/-- The session in which it was noted that a plugin is to be made. -/
def noting (session : Session) (blueprint : Blueprint) (settings : List (Value × Value)) : Session :=
  { session with log := session.log ++ [constructEntry (givenTo blueprint settings)] }

/-- Making a plugin is noted, and it is counted when it is made. -/
theorem construct_step (blueprint : Blueprint) (settings : List (Value × Value))
    (session : Session) :
    construct blueprint settings session =
      match assembled blueprint settings session with
      | .error fault => (.error fault, session.noting blueprint settings)
      | .ok plugin =>
        (.ok plugin, { session.noting blueprint settings with made := session.made + 1 }) := by
  unfold construct assembled Blueprint.named Blueprint.offered
  simp only [note, bind_step, modify_step]
  cases blueprint.failure with
  | some fault => rfl
  | none =>
    simp only [bind_step, liftExcept_step, get_step]
    generalize (do acceptedName (← blueprint.offeredName _) : Except Fault String) = named
    cases named with
    | error fault => rfl
    | ok name =>
      by_cases taken : session.renderer.roster.plugins.contains name = true
      · simp only [if_pos taken]
        rfl
      · simp only [if_neg taken, bind_step, liftExcept_step, get_step]
        cases blueprint.scripts name <;> rfl

/-- A plugin that was made is the one that is assembled. -/
theorem assembled_of_construct {blueprint : Blueprint} {settings : List (Value × Value)}
    {session after : Session} {plugin : Plugin}
    (made : construct blueprint settings session = (.ok plugin, after)) :
    assembled blueprint settings session = .ok plugin ∧
      after = { session.noting blueprint settings with made := session.made + 1 } := by
  rw [construct_step] at made
  cases assembles : assembled blueprint settings session with
  | error fault =>
    rw [assembles] at made
    cases made
  | ok other =>
    rw [assembles] at made
    cases made
    exact ⟨rfl, rfl⟩

/-- What is known of a plugin that was made. -/
theorem assembled_ok {blueprint : Blueprint} {settings : List (Value × Value)} {session : Session}
    {plugin : Plugin} (made : assembled blueprint settings session = .ok plugin) :
    blueprint.failure = none ∧ blueprint.named settings = .ok plugin.name ∧
      session.renderer.roster.plugins.contains plugin.name = false ∧
      blueprint.scripts plugin.name = .ok plugin.scripts ∧
      plugin = { number := session.made, name := plugin.name, blueprint,
                 given := givenTo blueprint settings,
                 settings := blueprint.kept settings, scripts := plugin.scripts } := by
  unfold assembled at made
  split at made
  · cases made
  · cases made
  · rename_i name fine named
    split at made
    · cases made
    · rename_i free
      cases declared : blueprint.scripts name with
      | error fault =>
        rw [declared] at made
        cases made
      | ok scripts =>
        rw [declared] at made
        cases made
        exact ⟨fine, named, eq_false_of_ne_true free, declared, rfl⟩

/-- Making a plugin counts it and gives it the next number, or changes nothing but the log. -/
theorem construct_cases (blueprint : Blueprint) (settings : List (Value × Value))
    (session : Session) :
    (∃ fault after, construct blueprint settings session = (.error fault, after) ∧
        after.steady = session.steady) ∨
      ∃ plugin after, construct blueprint settings session = (.ok plugin, after) ∧
        plugin.number = session.made ∧
        after.steady = { session with made := session.made + 1 }.steady := by
  rw [construct_step]
  cases made : assembled blueprint settings session with
  | error fault => exact .inl ⟨fault, _, rfl, rfl⟩
  | ok plugin => exact .inr ⟨plugin, _, rfl, congrArg Plugin.number (assembled_ok made).2.2.2.2, rfl⟩

/-- A relation that is kept when a plugin is counted, called on being attached and put on the
roster is kept when one is made and attached. -/
theorem Lenient.attending {relation : Session → Session → Prop} (lenient : Lenient relation)
    (counted : ∀ session : Session, relation session { session with made := session.made + 1 })
    (called : ∀ plugin result, Keeps relation (happen (.called plugin .attach result)))
    (joined : ∀ plugin, Keeps relation (update fun renderer =>
      { renderer with roster := renderer.roster.attach plugin })) : Attending relation where
  toLenient := lenient
  factory := by
    intro attach attached own factory
    have constructed : ∀ blueprint settings, Keeps relation (construct blueprint settings) := by
      intro blueprint settings session
      rcases construct_cases blueprint settings session with
        ⟨fault, after, made, same⟩ | ⟨plugin, after, made, _, same⟩
      · exact made ▸ lenient.steady same
      · exact made ▸ lenient.trans (counted session) (lenient.steady same)
    cases factory with
    | registration helpers => exact lenient.throw _
    | blueprint blueprint =>
      exact lenient.bind lenient.get fun _ => lenient.bind (constructed _ _) fun plugin =>
        lenient.bind (lenient.keeps_of_hears (lenient.call_hears attached plugin .attach .null)
          fun _ => called plugin) fun _ =>
          lenient.bind (joined plugin) fun _ => lenient.pure _

namespace Attending

variable {relation : Session → Session → Prop}

/-- Attaching the plugins of targets keeps the relation. -/
theorem targets (attending : Attending relation) {attach : AttachSource}
    (attached : ∀ source, Keeps relation (attach source)) (settings : List (Value × Value))
    (entries : List (String × Value)) : Keeps relation (attachTargets attach settings entries) := by
  induction entries with
  | nil => exact attending.pure _
  | cons entry rest ih =>
    exact attending.bind (attending.lift _) fun own =>
      attending.bind (attending.factoryAt _) fun factory =>
        attending.bind (attending.factory attached _ factory) fun _ =>
          attending.bind ih fun _ => attending.pure _

mutual

/-- Attaching the plugins of a source keeps the relation. -/
theorem attachWith (attending : Attending relation) {attach : AttachSource}
    (attached : ∀ source, Keeps relation (attach source)) (settings : List (Value × Value)) :
    ∀ source : PluginSource, Keeps relation (attachWith attach settings source)
  | .absent => attending.throw _
  | .target path => attending.bind (attending.factoryAt path) fun factory =>
      attending.bind (attending.factory attached _ factory) fun _ => attending.pure _
  | .blueprint _ => attending.bind (attending.factory attached _ _) fun _ => attending.pure _
  | .module _ => attending.bind (attending.factoryOf _) fun factory =>
      attending.bind (attending.factory attached _ factory) fun _ => attending.pure _
  | .sequence sources => attending.attachEach attached settings sources
  | .configured inner _ => attending.attachWith attached _ inner
  | .targets entries => attending.targets attached settings entries
  | .inert _ => attending.throw _

/-- Attaching the plugins of sources in order keeps the relation. -/
theorem attachEach (attending : Attending relation) {attach : AttachSource}
    (attached : ∀ source, Keeps relation (attach source)) (settings : List (Value × Value)) :
    ∀ sources : List PluginSource, Keeps relation (attachEach attach settings sources)
  | [] => attending.pure _
  | first :: rest => attending.bind (attending.attachWith attached settings first) fun _ =>
      attending.bind (attending.attachEach attached settings rest) fun _ => attending.pure _

end

/-- Whatever the scripts of plugins use, to any depth. -/
theorem attachTo (attending : Attending relation) (depth : Nat) (source : PluginSource) :
    Keeps relation (attachTo depth source) := by
  induction depth generalizing source with
  | zero => exact attending.throw _
  | succ depth ih =>
    exact attending.bind (attending.prepare source) fun _ =>
      (attending.attachWith ih [] source).discard

/-- Whatever the scripts of plugins use. -/
theorem attachUsed (attending : Attending relation) (source : PluginSource) :
    Keeps relation (attachUsed source) :=
  attending.attachTo attachLimit source

/-- Attaching the plugins of a source with settings keeps the relation. -/
theorem attach (attending : Attending relation) (source : PluginSource)
    (settings shared : Value) : Keeps relation (attach source settings shared) := by
  have share : Keeps relation (shareSettings shared) :=
    attending.bind (attending.lift _) fun _ => attending.beside fun _ => rfl
  have join : Keeps relation (do
      Session.attachWith Session.attachUsed (← liftExcept settings.optionalEntries) source) :=
    attending.bind (attending.lift _) fun entries =>
      attending.attachWith attending.attachUsed entries source
  refine attending.bind (attending.prepare source) fun _ => ?_
  cases source with
  | absent => exact attending.throw _
  | _ =>
    dsimp only
    split
    · exact attending.bind share fun _ => join
    · exact join

/-- Attaching the plugin that a target names keeps the relation. -/
theorem loadPlugin (attending : Attending relation) (place target : String) :
    Keeps relation (loadPlugin place target) := by
  have found : Keeps relation (loadTarget target) := by
    refine attending.bind (attending.importModule _) fun _ => ?_
    split
    · exact attending.pure _
    · exact attending.memberOf _ _
  have loaded : Keeps relation (do
      let factory ← Session.factoryOf (← loadTarget target)
      discard (attachFactory Session.attachUsed [] factory)) :=
    attending.bind found fun loaded => attending.bind (attending.factoryOf loaded) fun factory =>
      (attending.factory attending.attachUsed _ factory).discard
  refine attending.bind loaded.attempt fun result => ?_
  cases result with
  | ok _ => exact attending.pure _
  | error fault =>
    dsimp only
    split
    · exact attending.pure _
    · exact attending.throw _

/-- Attaching the plugins that the options name keeps the relation. -/
theorem loadNamed (attending : Attending relation) (modules : List Value) :
    Keeps relation (loadNamed modules) := by
  induction modules with
  | nil => exact attending.pure _
  | cons value rest ih =>
    rw [Session.loadNamed]
    split
    · exact attending.throw _
    · exact attending.bind (attending.loadPlugin _ _) fun _ =>
        attending.bind ih fun _ => attending.pure _

/-- Attaching installed plugins keeps the relation. -/
theorem loadInstalled (attending : Attending relation) (entries : List (String × String)) :
    Keeps relation (loadInstalled entries) := by
  induction entries with
  | nil => exact attending.pure _
  | cons entry rest ih =>
    exact attending.bind (attending.loadPlugin _ _) fun _ =>
      attending.bind ih fun _ => attending.pure _

/-- Attaching the plugins of modules and the installed ones keeps the relation. -/
theorem loadPlugins (attending : Attending relation) (modules : List Value)
    (group : Option String) : Keeps relation (loadPlugins modules group) :=
  attending.bind (attending.loadNamed modules) fun _ => attending.bind attending.get fun _ =>
    attending.bind (attending.loadInstalled _) fun _ => attending.pure _

/-- Calling plugins in order keeps the relation if their calls may be remembered. -/
theorem callEach (attending : Attending relation) {event : Event} (data : Value)
    (heard : ∀ plugin result, Keeps relation (happen (.called plugin event result)))
    (plugins : List Plugin) : Keeps relation (callEach event data plugins) := by
  induction plugins with
  | nil => exact attending.pure _
  | cons plugin rest ih =>
    have hears := attending.call_hears attending.attachUsed plugin event data
    exact attending.bind (attending.keeps_of_hears hears fun _ => heard plugin) fun _ => ih

/-- Waiting for each of some plugins keeps the relation if their calls may be remembered. -/
theorem awaitEach (attending : Attending relation) {event : Event} (data : Value)
    (heard : ∀ plugin result, Keeps relation (happen (.called plugin event result)))
    (plugins : List Plugin) : Keeps relation (awaitEach event data plugins) := by
  induction plugins with
  | nil => exact attending.pure _
  | cons plugin rest ih =>
    have hears := attending.await_hears attending.attachUsed plugin event data
    exact attending.bind (attending.keeps_of_hears hears fun _ => heard plugin) fun _ => ih

end Attending

/-- Plugins are detached when all of them were told of it. -/
theorem detachAll_eq : detachAll = (do
    fire .detach
    let names := (← get).renderer.roster.names
    update fun renderer => { renderer with roster := renderer.roster.clear }
    pure names) := rfl

end Session

end TemplateStream
