import TemplateStream.Proofs.Course

/-!
# Plugins that look on

A plugin looks on when its scripts change nothing but the log and the state that plugins share,
whatever faults they raise. Plugins that look on are called in the order in which they were
attached, up to the first that fails, and leave a pass what it goes by: the files, the readers, the
options and the plugins themselves.
-/

namespace TemplateStream

namespace Session

/-- A session less what plugins that look on may change. -/
def bare (session : Session) : Session :=
  { session with
    log := []
    renderer := { session.renderer with state := [] } }

/-- The sessions are the same less what plugins that look on may change. -/
abbrev SameBare (session after : Session) : Prop := after.bare = session.bare

/-- The attached plugins, in the order in which they were attached. -/
def attached (session : Session) : List Plugin := session.renderer.roster.plugins.values

theorem recorded_recorded (session : Session) (news more : List Happening) :
    (session.recorded news).recorded more = session.recorded (news ++ more) := by
  simp only [recorded, List.append_assoc]

theorem recorded_nil (session : Session) : session.recorded [] = session := by
  simp only [recorded, List.append_nil]

/-- Sessions that are the same less what plugins that look on may change stay so. -/
theorem SameBare.recorded {session other : Session} (same : SameBare session other)
    (news : List Happening) : SameBare (session.recorded news) (other.recorded news) :=
  congrArg (fun bare : Session => bare.recorded news) same

end Session

open Session

/-- The scripts of a plugin change nothing but the log and the state that plugins share. -/
def Plugin.LooksOn (plugin : Plugin) : Prop :=
  ∀ {event script}, plugin.script? event = some script → ∀ entries,
    Keeps SameBare
      (runStatements attachUsed plugin entries script.statements)

/-- Whether a statement calls neither the renderer nor the roster. -/
def PluginStatement.staysOut : PluginStatement → Bool
  | .log _ | .logData | .logSettings | .set _ _ | .append _ _ | .raise _ | .pause => true
  | _ => false

/-- A plugin whose statements stay out looks on. -/
theorem Plugin.looksOn_of_staysOut {plugin : Plugin}
    (out : ∀ entry ∈ plugin.scripts, entry.2.statements.all PluginStatement.staysOut = true) :
    plugin.LooksOn := by
  intro event script found entries
  have member : (event, script) ∈ plugin.scripts := by
    obtain ⟨before, after, all, _⟩ := List.lookup_eq_some_iff.mp found
    exact all ▸ List.mem_append_right before List.mem_cons_self
  have out := out _ member
  generalize script.statements = statements at out
  induction statements with
  | nil => exact fun _ => rfl
  | cons statement rest ih =>
    rw [List.all_cons, Bool.and_eq_true] at out
    refine Keeps.bind (fun first second => second.trans first) ?_ fun _ => ih out.2
    cases statement with
    | append key content =>
      intro session
      simp only [runStatement, bind_step, get_step, liftExcept_step, Renderer.appended]
      cases (Value.lookup key session.renderer.state).getD (.list []) <;> rfl
    | log _ | logData | logSettings | set _ _ | raise _ | pause => exact fun _ => rfl
    | addHelper _ | addTemplate _ _ | addReader _ _ | store _ _ | use _ => cases out.1

/-- The calls by which plugins are told of an event, each after the one before it is done, and what
comes of them. The first plugin that fails is the last to be called. A script that is deferred
fails unless it is waited for. -/
inductive Calls (event : Event) (waits : Bool) :
    List Plugin → List Happening → Except Fault Unit → Prop where
  | done : Calls event waits [] [] (.ok ())
  | deaf {plugin : Plugin} {rest : List Plugin} {calls : List Happening}
      {result : Except Fault Unit} (unheard : plugin.script? event = none)
      (others : Calls event waits rest calls result) :
      Calls event waits (plugin :: rest) calls result
  | heeded {plugin : Plugin} {script : EventScript} {rest : List Plugin} {calls : List Happening}
      {result : Except Fault Unit} (found : plugin.script? event = some script)
      (awaited : waits = true ∨ script.deferred = false)
      (others : Calls event waits rest calls result) :
      Calls event waits (plugin :: rest) (.called plugin event (.ok ()) :: calls) result
  | failed {plugin : Plugin} {script : EventScript} {rest : List Plugin} {cause : Fault}
      (found : plugin.script? event = some script) :
      Calls event waits (plugin :: rest) [.called plugin event (.error cause)] (.error cause)

/-- A deferred script that is not waited for makes a telling fail. -/
theorem Calls.fails_of_deferred {event : Event} {plugins : List Plugin} {calls : List Happening}
    {result : Except Fault Unit} (calling : Calls event false plugins calls result)
    {plugin : Plugin} (member : plugin ∈ plugins) {script : EventScript}
    (found : plugin.script? event = some script) (deferred : script.deferred = true) :
    result ≠ .ok () := by
  induction calling with
  | done => cases member
  | deaf unheard _ ih =>
    rcases List.mem_cons.mp member with rfl | member
    · rw [found] at unheard
      cases unheard
    · exact ih member
  | heeded same awaited _ ih =>
    rcases List.mem_cons.mp member with rfl | member
    · rw [found] at same
      cases same
      rw [deferred] at awaited
      rcases awaited with never | never <;> cases never
    · exact ih member
  | failed _ => exact nofun

/-- Calls of plugins are no tellings. -/
theorem Calls.untold {event : Event} {waits : Bool} {plugins : List Plugin}
    {calls : List Happening} {result : Except Fault Unit}
    (calling : Calls event waits plugins calls result) :
    calls.filterMap Happening.telling? = [] := by
  induction calling with
  | done => rfl
  | deaf _ _ ih => exact ih
  | heeded _ _ _ ih => exact ih
  | failed _ => rfl

/-- A telling and the calls that it consists of are one telling. -/
theorem Calls.told (telling : Telling) {waits : Bool} {plugins : List Plugin}
    {calls : List Happening} (calling : Calls telling.event waits plugins calls telling.result) :
    (calls ++ [Happening.told telling.event telling.data telling.result]).filterMap
      Happening.telling? = [telling] := by
  rw [List.filterMap_append, calling.untold]
  rfl

/-- What happens in a pass in which some plugins look on: files are read, and the plugins are
called in order whenever they are told of something. They are waited for unless they are told of a
data file. -/
inductive Rounds (plugins : List Plugin) : List Happening → Prop where
  | quiet : Rounds plugins []
  | read {news : List Happening} (before : Rounds plugins news) (file : DataFile)
      (result : Except Fault Value) : Rounds plugins (news ++ [.read file result])
  | told {news calls : List Happening} (before : Rounds plugins news) (telling : Telling)
      (calling : Calls telling.event (telling.event != .dataFileLoaded) plugins calls
        telling.result) :
      Rounds plugins
        (news ++ (calls ++ [.told telling.event telling.data telling.result]))

/-- What happens in one part of a pass and then in another. -/
theorem Rounds.append {plugins : List Plugin} {news later : List Happening}
    (first : Rounds plugins news) (second : Rounds plugins later) :
    Rounds plugins (news ++ later) := by
  induction second with
  | quiet => exact (List.append_nil news).symm ▸ first
  | read _ file result ih => exact List.append_assoc .. ▸ ih.read file result
  | told _ telling calling ih => exact List.append_assoc .. ▸ ih.told telling calling

/-- A telling in such a part of a pass was done by calls of the plugins. -/
theorem Rounds.calls {plugins : List Plugin} {news : List Happening} (rounds : Rounds plugins news)
    {telling : Telling} (member : telling ∈ news.filterMap Happening.telling?) :
    ∃ calls, Calls telling.event (telling.event != .dataFileLoaded) plugins calls
      telling.result := by
  induction rounds with
  | quiet => cases member
  | read _ _ _ ih =>
    rw [List.filterMap_append] at member
    exact ih (by simpa [Happening.telling?] using member)
  | told _ other calling ih =>
    rw [List.filterMap_append, Calls.told other calling] at member
    rcases List.mem_append.mp member with member | member
    · exact ih member
    · cases List.mem_singleton.mp member
      exact ⟨_, calling⟩

namespace Session

/-- What becomes of a plugin that is told of an event: it has no script for it, or it is called. -/
def Answers (plugin : Plugin) (event : Event) (waits : Bool) (step : SessionM Unit) : Prop :=
  ∀ session, (plugin.script? event = none ∧ step session = (.ok (), session)) ∨
    ∃ script, plugin.script? event = some script ∧
      ((step session).1 = .ok () → waits = true ∨ script.deferred = false) ∧
      SameBare (session.recorded [.called plugin event (step session).1]) (step session).2

/-- A call that is remembered is what a plugin is asked for. -/
theorem remembered_answers {plugin : Plugin} {event : Event} {waits : Bool}
    {step : SessionM Unit} {script : EventScript} (found : plugin.script? event = some script)
    (kept : Keeps SameBare step)
    (awaited : ∀ session, (step session).1 = .ok () → waits = true ∨ script.deferred = false) :
    Answers plugin event waits (remembered plugin event step) := by
  intro session
  have ran : remembered plugin event step session = ((step session).1,
      (step session).2.recorded [.called plugin event (step session).1]) := by
    simp only [remembered, bind_step, attempt_step, happen, modify_step, liftExcept_step, recorded]
  rw [ran]
  exact .inr ⟨script, found, awaited session, SameBare.recorded (kept session) _⟩

/-- Running the script of a plugin that looks on changes nothing but the log. -/
theorem runScript_sameBare {plugin : Plugin} (looking : plugin.LooksOn) {event : Event}
    {script : EventScript} (found : plugin.script? event = some script)
    (entries : List (Value × Value)) :
    Keeps SameBare (runScript attachUsed plugin event entries script) :=
  Keeps.bind (fun first second => second.trans first) (fun _ => rfl) fun _ => looking found entries

/-- A plugin that looks on answers when it is waited for. -/
theorem await_answers {plugin : Plugin} (looking : plugin.LooksOn) (event : Event) {data : Value}
    {entries : List (Value × Value)} (readable : data.optionalEntries = .ok entries) :
    Answers plugin event true (await attachUsed plugin event data) := by
  unfold await
  split
  · rename_i unheard
    exact fun session => .inl ⟨unheard, rfl⟩
  · rename_i script found
    rw [readable]
    exact remembered_answers found (keeps_inCoroutine (runScript_sameBare looking found entries))
      fun _ _ => .inl rfl

/-- It also answers when it is not waited for, but then not with a deferred script. -/
theorem call_answers {plugin : Plugin} (looking : plugin.LooksOn) (event : Event) {data : Value}
    {entries : List (Value × Value)} (readable : data.optionalEntries = .ok entries) :
    Answers plugin event false (call attachUsed plugin event data) := by
  unfold call
  split
  · rename_i unheard
    exact fun session => .inl ⟨unheard, rfl⟩
  · rename_i script found
    rw [readable]
    cases deferred : script.deferred with
    | true =>
      have kept : Keeps SameBare
          (throw (.plugin (.awaitable plugin.name event)) : SessionM Unit) := fun _ => rfl
      exact remembered_answers found kept fun _ never => nomatch never
    | false =>
      exact remembered_answers found (runScript_sameBare looking found entries)
        fun _ _ => .inr deferred

/-- Plugins that are asked in order are called in order, up to the first that fails. -/
theorem calls_of_answers {event : Event} {waits : Bool} {one : Plugin → SessionM Unit}
    {plugins : List Plugin} (answers : ∀ plugin ∈ plugins, Answers plugin event waits (one plugin))
    (session : Session) :
    ∃ calls, Calls event waits plugins calls (plugins.forM one session).1 ∧
      SameBare (session.recorded calls) (plugins.forM one session).2 := by
  induction plugins generalizing session with
  | nil => exact ⟨[], .done, congrArg bare (recorded_nil session).symm⟩
  | cons plugin rest ih =>
    have later := ih fun other member => answers other (List.mem_cons_of_mem _ member)
    change ∃ calls, Calls event waits _ calls ((one plugin >>= fun _ => rest.forM one) session).1 ∧
      SameBare _ ((one plugin >>= fun _ => rest.forM one) session).2
    rw [bind_step]
    rcases answers plugin List.mem_cons_self session with
      ⟨unheard, same⟩ | ⟨script, found, awaited, same⟩
    · obtain ⟨calls, calling, after⟩ := later session
      rw [‹one plugin session = _›]
      exact ⟨calls, .deaf unheard calling, after⟩
    · rcases ran : one plugin session with ⟨cause | _, middle⟩
      · rw [ran] at same
        exact ⟨_, .failed found, same⟩
      · rw [ran] at awaited same
        obtain ⟨calls, calling, after⟩ := later middle
        refine ⟨_, .heeded found (awaited rfl) calling, after.trans ?_⟩
        rw [← List.singleton_append, ← recorded_recorded]
        exact SameBare.recorded same calls

/-- Telling plugins that look on calls them in order. -/
def Asks (event : Event) (waits : Bool) (step : List Plugin → SessionM Unit) : Prop :=
  ∀ plugins, (∀ plugin ∈ plugins, plugin.LooksOn) → ∀ session,
    ∃ calls, Calls event waits plugins calls (step plugins session).1 ∧
      SameBare (session.recorded calls) (step plugins session).2

theorem ofFields_optionalEntries (fields : List (String × Value)) :
    ∃ entries, (Value.ofFields fields).optionalEntries = .ok entries := by
  unfold Value.optionalEntries
  split
  · exact ⟨_, rfl⟩
  · exact ⟨_, rfl⟩

/-- Waiting for plugins is to wait for each in order. -/
theorem awaitEach_eq (event : Event) (data : Value) (plugins : List Plugin) :
    awaitEach event data plugins =
      plugins.forM fun plugin => await attachUsed plugin event data := by
  induction plugins with
  | nil => rfl
  | cons plugin rest ih => exact bind_congr fun _ => ih

/-- Calling plugins is to call each in order. -/
theorem callEach_eq (event : Event) (data : Value) (plugins : List Plugin) :
    callEach event data plugins =
      plugins.forM fun plugin => call attachUsed plugin event data := by
  induction plugins with
  | nil => rfl
  | cons plugin rest ih => exact bind_congr fun _ => ih

theorem awaitEach_asks (event : Event) (fields : List (String × Value)) :
    Asks event true (awaitEach event (.ofFields fields)) := by
  intro plugins looking session
  obtain ⟨entries, readable⟩ := ofFields_optionalEntries fields
  rw [awaitEach_eq]
  exact calls_of_answers (fun plugin member =>
    await_answers (looking plugin member) event readable) session

theorem callEach_asks (event : Event) (fields : List (String × Value)) :
    Asks event false (callEach event (.ofFields fields)) := by
  intro plugins looking session
  obtain ⟨entries, readable⟩ := ofFields_optionalEntries fields
  rw [callEach_eq]
  exact calls_of_answers (fun plugin member => call_answers (looking plugin member) event readable)
    session

/-- The plugins that are attached look on. -/
def Watched (session : Session) : Prop := ∀ plugin ∈ session.attached, plugin.LooksOn

/-- Plugins that look on are called in order when they are told of an event, and nothing else
comes of that but the fault that is put up with. -/
theorem inform_calls {event : Event} {waits : Bool} (data : Value)
    {step : List Plugin → SessionM Unit} {template : String}
    (silent : ∀ plugins, Keeps (Silent template) (step plugins)) (asks : Asks event waits step)
    {session : Session} (watched : session.Watched) :
    ∃ calls result after, Calls event waits session.attached calls result ∧
      inform (event.template? template) event data step session =
        (session.policy.reply template ⟨event, data, result⟩, after) ∧
      SameBare ((session.recorded calls).heard ⟨event, data, result⟩
        (session.policy.putUpWith template [⟨event, data, result⟩])) after := by
  obtain ⟨calls, calling, same⟩ := asks session.attached watched session
  refine ⟨calls, _, _, calling, inform_step silent session, ?_⟩
  exact congrArg (fun bare : Session => bare.heard _ _) same

/-! ## What plugins that look on leave a pass -/

/-- What a pass goes by as long as only plugins that look on are attached. -/
structure Scene where
  plugins : Table Plugin
  files : FileTree
  extensions : ExtensionTable
  load : String → Except Fault Value
  options : Options

/-- What a pass goes by in a session. -/
def scene (session : Session) : Scene where
  plugins := session.renderer.roster.plugins
  files := session.files
  extensions := session.renderer.data.extensions
  load := session.renderer.data.load
  options := session.renderer.options

theorem settled_scene (session : Session) : session.settled.scene = session.scene := rfl

theorem watched_of_scene {session after : Session} (same : after.scene = session.scene)
    (watched : session.Watched) : after.Watched := by
  have plugins : after.renderer.roster.plugins = session.renderer.roster.plugins :=
    congrArg Scene.plugins same
  rw [Watched, attached, plugins]
  exact watched

/-- A session in which the plugins look on keeps what a pass goes by, and what happens is told to
them by rounds of calls. -/
def Follows (session after : Session) : Prop :=
  session.Watched → after.scene = session.scene ∧
    ∃ news, after.history = session.history ++ news ∧ Rounds session.attached news

/-- A change to neither what a pass goes by nor to the history. -/
theorem follows_aside {session after : Session} (scene : after.scene = session.scene)
    (history : after.history = session.history) : Follows session after :=
  fun _ => ⟨scene, [], history.trans (List.append_nil _).symm, .quiet⟩

theorem follows_tolerant : Tolerant Follows where
  trans := by
    intro session middle after first second watched
    obtain ⟨scene, news, history, rounds⟩ := first watched
    obtain ⟨sceneToo, later, historyToo, roundsToo⟩ := second (watched_of_scene scene watched)
    have attached : middle.attached = session.attached :=
      congrArg (fun scene : Scene => scene.plugins.values) scene
    rw [attached] at roundsToo
    refine ⟨sceneToo.trans scene, news ++ later, ?_, rounds.append roundsToo⟩
    rw [historyToo, history, List.append_assoc]
  settled := fun {session after} same =>
    follows_aside (by rw [← settled_scene after, same, settled_scene]) (by
      have history : after.settled.history = session.settled.history := by rw [same]
      exact history)

/-- A telling follows the calls that it consists of, and changes nothing that a pass goes by. -/
theorem heard_of_bare {session after : Session} {calls : List Happening} {telling : Telling}
    {faults : List Fault} (same : SameBare ((session.recorded calls).heard telling faults) after) :
    after.scene = session.scene ∧ after.history = session.history ++
      (calls ++ [.told telling.event telling.data telling.result]) := by
  have scene : after.bare.scene = session.bare.scene := by
    rw [same]
    rfl
  have history : after.bare.history =
      session.history ++ calls ++ [.told telling.event telling.data telling.result] := by
    rw [same]
    rfl
  exact ⟨scene, history.trans (List.append_assoc ..)⟩

theorem inform_follows {event : Event} {waits : Bool} {data : Value}
    {step : List Plugin → SessionM Unit} {template : String}
    (silent : ∀ plugins, Keeps (Silent template) (step plugins)) (asks : Asks event waits step)
    (waited : waits = (event != .dataFileLoaded)) :
    Keeps Follows (inform (event.template? template) event data step) := by
  intro session watched
  obtain ⟨calls, result, after, calling, ran, same⟩ := inform_calls data silent asks watched
  obtain ⟨scene, history⟩ := heard_of_bare same
  rw [ran]
  refine ⟨scene, _, history, ?_⟩
  rw [waited] at calling
  exact Rounds.quiet.told ⟨event, data, result⟩ calling

theorem announce_follows {event : Event} {template : String}
    (named : event.template? template = some template) (data : List (String × Value)) :
    Keeps Follows (announce event template data) := by
  rw [announce_eq, ← named]
  refine inform_follows (silent_awaitEach template event _) (awaitEach_asks event data) ?_
  cases event <;> first | rfl | cases named

theorem announceFile_follows (file : DataFile) (key : String) (content : Value) :
    Keeps Follows (announceFile file key content) :=
  inform_follows (silent_callEach "" .dataFileLoaded _) (callEach_asks .dataFileLoaded _) rfl

/-! ## Passes -/

/-- Plugins that look on follow a pass. -/
theorem follows_passing : Passing Follows where
  trans := follows_tolerant.trans
  traveled := fun {session after} same =>
    have history : after.traveled.history = session.traveled.history := by rw [same]
    have scene : after.traveled.scene = session.traveled.scene := by rw [same]
    follows_aside scene history
  announced := fun member template => announce_follows (course_named template member)
  loaded := follows_tolerant.loadFile announceFile_follows
    (fun file result _ _ => ⟨rfl, _, rfl, Rounds.quiet.read file result⟩)
    fun _ _ _ => follows_aside rfl rfl

end Session

end TemplateStream
