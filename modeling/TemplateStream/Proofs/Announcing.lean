import TemplateStream.Proofs.Attending
import TemplateStream.Session.Rendering

/-!
# What plugins are told

The history of a session says what its plugins were told, in the order of time, and what its
readers made of data files. Over any stretch of a pass the faults of plugins that are put up with
are those of the tellings in it, and under the other policy the first telling that fails is the
last: the stretch ends with its fault. Whatever plugins do when they are told, they tell the
others nothing.
-/

namespace TemplateStream

/-- That the attached plugins were told of an event, and what came of it. -/
structure Telling where
  event : Event
  data : Value
  result : Except Fault Unit

/-- That a reader was applied to a data file, and what came of it. -/
structure Reading where
  file : DataFile
  result : Except Fault Value

/-- Whether a reader did not fail with a fault that looks like that of a pass. -/
def Reading.isPlain (reading : Reading) : Bool :=
  match reading.result with
  | .ok _ => true
  | .error fault => fault.kind != .render

namespace Happening

/-- The telling that happened, if it was one. -/
def telling? : Happening → Option Telling
  | .told event data result => some ⟨event, data, result⟩
  | _ => none

/-- The reading that happened, if it was one. -/
def reading? : Happening → Option Reading
  | .read file result => some ⟨file, result⟩
  | _ => none

end Happening

/-- The template that the fault of plugins on an event names in a pass over a template: none when
they were told of a data file. -/
def Event.template? (template : String) : Event → Option String
  | .dataFileLoaded => none
  | _ => some template

namespace Telling

/-- The fault that a telling is to a pass over a template, if plugins failed. -/
def failure? (template : String) (telling : Telling) : Option Fault :=
  match telling.result with
  | .ok () => none
  | .error cause =>
    some (.stage (.pluginEvent telling.event) (telling.event.template? template) cause)

end Telling

/-- The faults of tellings that are put up with in a pass over a template. -/
def PluginPolicy.putUpWith (policy : PluginPolicy) (template : String) (told : List Telling) :
    List Fault :=
  match policy with
  | .abort => []
  | .proceed => told.filterMap (Telling.failure? template)

/-- No telling ends a pass: none of them failed, or their faults are put up with. -/
def PluginPolicy.Bears (policy : PluginPolicy) (told : List Telling) : Prop :=
  policy = .abort → ∀ telling ∈ told, telling.result = .ok ()

/-- The last of some tellings ends a pass over a template: it failed as the first of them, and its
fault is not put up with. -/
def PluginPolicy.EndsBy (policy : PluginPolicy) (template : String) (told : List Telling)
    (fault : Fault) : Prop :=
  policy = .abort ∧ ∃ earlier last, told = earlier ++ [last] ∧
    (∀ telling ∈ earlier, telling.result = .ok ()) ∧ last.failure? template = some fault

/-- What a pass over a template makes of a telling: its fault, unless that is put up with. -/
def PluginPolicy.reply (policy : PluginPolicy) (template : String) (telling : Telling) :
    Except Fault Unit :=
  match policy, telling.failure? template with
  | .abort, some fault => .error fault
  | _, _ => .ok ()

/-- How a stretch of a pass over a template ends: a success no telling stood in the way of, the
fault of the last telling, or a fault of its own that no telling stood in the way of. -/
def PluginPolicy.Ends {α : Type} (policy : PluginPolicy) (template : String) (told : List Telling)
    (own : Fault → Prop) : Except Fault α → Prop
  | .ok _ => policy.Bears told
  | .error fault => policy.EndsBy template told fault ∨ policy.Bears told ∧ own fault

namespace PluginPolicy

variable {policy : PluginPolicy} {template : String} {told later : List Telling} {fault : Fault}

theorem putUpWith_append : policy.putUpWith template (told ++ later) =
    policy.putUpWith template told ++ policy.putUpWith template later := by
  cases policy with
  | abort => rfl
  | proceed => exact List.filterMap_append

theorem bears_nil : policy.Bears [] := fun _ _ member => nomatch member

theorem Bears.append (early : policy.Bears told) (late : policy.Bears later) :
    policy.Bears (told ++ later) := by
  intro abort telling member
  rcases List.mem_append.mp member with member | member
  · exact early abort telling member
  · exact late abort telling member

/-- A single telling ends a pass or not, as the reply to it is. -/
theorem reply_ends (policy : PluginPolicy) (template : String) (telling : Telling)
    (own : Fault → Prop) : policy.Ends template [telling] own (policy.reply template telling) := by
  cases policy with
  | proceed => exact nofun
  | abort =>
    rcases failed : telling.result with cause | done
    · have failure : telling.failure? template = some (.stage (.pluginEvent telling.event)
          (telling.event.template? template) cause) := by rw [Telling.failure?, failed]
      simp only [reply, failure]
      exact .inl ⟨rfl, [], telling, rfl, nofun, failure⟩
    · have fine : telling.failure? template = none := by rw [Telling.failure?, failed]
      simp only [reply, fine]
      intro _ other member
      rw [List.mem_singleton.mp member, failed]

/-- A pass that no telling ended so far may be ended by a later one. -/
theorem Bears.endsBy (early : policy.Bears told) (late : policy.EndsBy template later fault) :
    policy.EndsBy template (told ++ later) fault := by
  obtain ⟨abort, earlier, last, rfl, fine, failed⟩ := late
  refine ⟨abort, told ++ earlier, last, (List.append_assoc ..).symm, ?_, failed⟩
  intro telling member
  rcases List.mem_append.mp member with member | member
  · exact early abort telling member
  · exact fine telling member

/-- The telling that ends a pass is the only one that failed. -/
theorem EndsBy.of_failed (ends : policy.EndsBy template told fault) {telling : Telling}
    (member : telling ∈ told) {cause : Fault} (failed : telling.result = .error cause) :
    fault = .stage (.pluginEvent telling.event) (telling.event.template? template) cause := by
  obtain ⟨_, earlier, last, rfl, fine, ended⟩ := ends
  rcases List.mem_append.mp member with member | member
  · rw [fine telling member] at failed
    cases failed
  · rw [List.mem_singleton.mp member] at failed ⊢
    rw [Telling.failure?, failed] at ended
    exact (Option.some.inj ended).symm

/-- A telling that ends a pass failed, and the pass ends with its fault. -/
theorem EndsBy.exists_failed (ends : policy.EndsBy template told fault) :
    ∃ telling ∈ told, ∃ cause, telling.result = .error cause ∧
      fault = .stage (.pluginEvent telling.event) (telling.event.template? template) cause := by
  obtain ⟨_, earlier, last, rfl, _, ended⟩ := ends
  refine ⟨last, List.mem_append_right _ List.mem_cons_self, ?_⟩
  rw [Telling.failure?] at ended
  split at ended
  · cases ended
  · rename_i cause failed
    exact ⟨cause, failed, (Option.some.inj ended).symm⟩

theorem EndsBy.kind (ends : policy.EndsBy template told fault) : fault.kind = .render := by
  obtain ⟨_, _, _, _, rfl⟩ := ends.exists_failed
  rfl

/-- Where the faults of plugins are not put up with, a telling that failed ends the pass. -/
theorem Ends.of_failed {α : Type} {own : Fault → Prop} {result : Except Fault α}
    (ends : policy.Ends template told own result) (abort : policy = .abort) {telling : Telling}
    (member : telling ∈ told) {cause : Fault} (failed : telling.result = .error cause) :
    result = .error
      (.stage (.pluginEvent telling.event) (telling.event.template? template) cause) := by
  have unfit : ¬ policy.Bears told := fun bears => by
    rw [bears abort telling member] at failed
    cases failed
  cases result with
  | ok _ => exact absurd ends unfit
  | error fault =>
    have ended : policy.EndsBy template told fault := ends.resolve_right fun own => unfit own.1
    rw [ended.of_failed member failed]

end PluginPolicy

namespace Session

/-- What the plugins were told, in the order of time. -/
def tellings (session : Session) : List Telling := session.history.filterMap Happening.telling?

theorem tellings_of_history {session after : Session} {news : List Happening}
    (history : after.history = session.history ++ news) :
    after.tellings = session.tellings ++ news.filterMap Happening.telling? := by
  rw [tellings, history, List.filterMap_append, tellings]

/-- What was read of data files, in the order of time. -/
def readings (session : Session) : List Reading := session.history.filterMap Happening.reading?

/-- What becomes of a plugin's fault in this session. -/
def policy (session : Session) : PluginPolicy := session.renderer.options.pluginPolicy

/-- What plugins were told and what was read over a stretch of a pass over a template. -/
structure Stretch (template : String) (session after : Session) (told : List Telling)
    (read : List Reading) : Prop where
  options : after.renderer.options = session.renderer.options
  tellings : after.tellings = session.tellings ++ told
  readings : after.readings = session.readings ++ read
  faults : after.renderer.faults =
    session.renderer.faults ++ session.policy.putUpWith template told

namespace Stretch

variable {template : String} {session middle after : Session} {told later : List Telling}
  {read more : List Reading}

theorem policy_eq (stretch : Stretch template session after told read) :
    after.policy = session.policy :=
  congrArg Options.pluginPolicy stretch.options

theorem trans (first : Stretch template session middle told read)
    (second : Stretch template middle after later more) :
    Stretch template session after (told ++ later) (read ++ more) where
  options := second.options.trans first.options
  tellings := by rw [second.tellings, first.tellings, List.append_assoc]
  readings := by rw [second.readings, first.readings, List.append_assoc]
  faults := by
    rw [second.faults, first.faults, first.policy_eq, PluginPolicy.putUpWith_append,
      List.append_assoc]

theorem of_same (options : after.renderer.options = session.renderer.options)
    (history : after.history = session.history)
    (faults : after.renderer.faults = session.renderer.faults) :
    Stretch template session after [] [] where
  options := options
  tellings := by rw [Session.tellings, Session.tellings, history, List.append_nil]
  readings := by rw [Session.readings, Session.readings, history, List.append_nil]
  faults := by
    rw [faults]
    cases session.policy <;> exact (List.append_nil _).symm

end Stretch

/-- A stretch in which plugins are told nothing and nothing is read. -/
abbrev Silent (template : String) (session after : Session) : Prop :=
  Stretch template session after [] []

variable {template : String}

/-- A call of a plugin is neither a telling nor a reading. -/
theorem silent_called (plugin : Plugin) (event : Event) (result : Except Fault Unit) :
    Keeps (Silent template) (happen (.called plugin event result)) := by
  intro session
  refine ⟨rfl, ?_, ?_, ?_⟩
  · exact List.filterMap_append
  · exact List.filterMap_append
  · cases session.policy <;> exact (List.append_nil _).symm

/-- Attaching plugins tells those that are attached nothing. -/
theorem silent_attending (template : String) : Attending (Silent template) :=
  Lenient.attending
    (.of_steady (fun first second => first.trans second) fun {session after} same => by
      have options : after.steady.renderer.options = session.steady.renderer.options := by
        rw [same]
      have history : after.steady.history = session.steady.history := by rw [same]
      have faults : after.steady.renderer.faults = session.steady.renderer.faults := by rw [same]
      exact .of_same options history faults)
    (fun _ => .of_same rfl rfl rfl)
    (fun plugin result => silent_called plugin .attach result)
    (fun _ _ => .of_same rfl rfl rfl)

/-! ## Tellings -/

/-- A telling does what the plugins do, and is remembered. -/
theorem tell_step (event : Event) (data : Value) (step : List Plugin → SessionM Unit)
    (session : Session) :
    tell event data step session =
      let ran := step session.renderer.roster.plugins.values session
      (ran.1, { ran.2 with history := ran.2.history ++ [.told event data ran.1] }) := by
  simp only [tell, bind_step, get_step, attempt_step, happen, modify_step, liftExcept_step]

/-- What plugins do when they are called in order is silent. -/
theorem silent_callEach (template : String) (event : Event) (data : Value) (plugins : List Plugin) :
    Keeps (Silent template) (callEach event data plugins) :=
  (silent_attending template).callEach data (fun plugin => silent_called plugin event) plugins

/-- What plugins do when each is waited for is silent. -/
theorem silent_awaitEach (template : String) (event : Event) (data : Value)
    (plugins : List Plugin) : Keeps (Silent template) (awaitEach event data plugins) :=
  (silent_attending template).awaitEach data (fun plugin => silent_called plugin event) plugins

/-- Tells the plugins of an event in some way, and deals with their fault as the options say. -/
def inform (template : Option String) (event : Event) (data : Value)
    (step : List Plugin → SessionM Unit) : SessionM Unit := do
  match ← attempt (tell event data step) with
  | .ok () => pure ()
  | .error fault => pluginFailed event template fault

/-- Announcing an event tells the plugins of it and waits for them. -/
theorem announce_eq (event : Event) (data : List (String × Value)) :
    announce event template data =
      inform (some template) event (.ofFields data) (awaitEach event (.ofFields data)) := rfl

/-- What the plugins are told of a data file. -/
def fileData (file : DataFile) (key : String) (content : Value) : Value :=
  .ofFields [("file", .text file.path.text), ("key", .text key), ("data", content),
    ("data_manager", .text managerText)]

/-- Announcing a data file tells the plugins of it and cannot wait. -/
theorem announceFile_eq (file : DataFile) (key : String) (content : Value) :
    announceFile file key content = inform none .dataFileLoaded (fileData file key content)
      (callEach .dataFileLoaded (fileData file key content)) := rfl

/-- The session after a telling whose fault, if any, is put up with. -/
def heard (session : Session) (telling : Telling) (faults : List Fault) : Session :=
  { session with
    history := session.history ++ [.told telling.event telling.data telling.result]
    renderer := { session.renderer with faults := session.renderer.faults ++ faults } }

/-- What plugins do silently is followed by the telling and its fault. -/
theorem Stretch.heard {session middle : Session} (silent : Silent template session middle)
    (telling : Telling) :
    Stretch template session
      (middle.heard telling (session.policy.putUpWith template [telling])) [telling] [] where
  options := silent.options
  tellings := by
    have tellings := silent.tellings
    rw [List.append_nil] at tellings
    exact List.filterMap_append.trans (congrArg (· ++ [telling]) tellings)
  readings := List.filterMap_append.trans ((List.append_nil _).trans silent.readings)
  faults := by
    have faults := silent.faults
    have none : session.policy.putUpWith template [] = [] := by cases session.policy <;> rfl
    rw [none, List.append_nil] at faults
    exact congrArg (· ++ session.policy.putUpWith template [telling]) faults

/-- The plugins are told once, and what they do is what they would do by themselves. A fault of
theirs ends the pass or is put up with. -/
theorem inform_step {event : Event} {data : Value} {step : List Plugin → SessionM Unit}
    (silent : ∀ plugins, Keeps (Silent template) (step plugins)) (session : Session) :
    let ran := step session.renderer.roster.plugins.values session
    let telling : Telling := ⟨event, data, ran.1⟩
    inform (event.template? template) event data step session =
      (session.policy.reply template telling,
        ran.2.heard telling (session.policy.putUpWith template [telling])) := by
  have quiet := silent session.renderer.roster.plugins.values session
  rcases found : step session.renderer.roster.plugins.values session with ⟨result, middle⟩
  rw [found] at quiet
  have policy : middle.renderer.options.pluginPolicy = session.policy := quiet.policy_eq
  simp only [inform, bind_step, attempt_step, tell_step, found]
  cases result with
  | ok _ =>
    have fine : session.policy.putUpWith template [⟨event, data, .ok ()⟩] = [] := by
      cases session.policy <;> rfl
    have reply : session.policy.reply template ⟨event, data, .ok ()⟩ = .ok () := by
      cases session.policy <;> rfl
    simp only [pure_step, fine, reply, Session.heard, List.append_nil]
  | error fault =>
    simp only [pluginFailed, bind_step, get_step, policy]
    cases session.policy with
    | abort =>
      simp only [throw_step, PluginPolicy.reply, Telling.failure?, PluginPolicy.putUpWith,
        Session.heard, List.append_nil]
    | proceed => rfl

/-! ## Stretches of a pass -/

variable {α β : Type} {own : List Reading → Fault → Prop}

/-- A step of a pass over a template is a stretch of it, the faults of which are those of tellings
and its own, given what it read. -/
def Conducts (template : String) (own : List Reading → Fault → Prop) (step : SessionM α) : Prop :=
  ∀ session, ∃ told read, Stretch template session (step session).2 told read ∧
    session.policy.Ends template told (own read) (step session).1

/-- A step that tells nothing and reads nothing has its own faults only. -/
theorem Conducts.of_silent {step : SessionM α} (silent : Keeps (Silent template) step)
    (faults : ∀ session fault, (step session).1 = .error fault → own [] fault) :
    Conducts template own step := by
  intro session
  refine ⟨[], [], silent session, ?_⟩
  cases result : (step session).1 with
  | ok _ => exact PluginPolicy.bears_nil
  | error fault => exact .inr ⟨PluginPolicy.bears_nil, faults session fault result⟩

/-- A step has the faults of tellings and its own also when more are counted as its own. -/
theorem Conducts.mono {step : SessionM α} {other : List Reading → Fault → Prop}
    (conducts : Conducts template own step)
    (all : ∀ read fault, own read fault → other read fault) : Conducts template other step := by
  intro session
  obtain ⟨told, read, stretch, ends⟩ := conducts session
  refine ⟨told, read, stretch, ?_⟩
  cases result : (step session).1 with
  | ok _ =>
    rw [result] at ends
    exact ends
  | error fault =>
    rw [result] at ends
    exact ends.imp_right fun ⟨bears, owned⟩ => ⟨bears, all read fault owned⟩

/-- A sequence of stretches is a stretch, if what is read earlier makes no fault less its own. -/
theorem Conducts.bind {step : SessionM α} {next : α → SessionM β}
    (more : ∀ {read later fault}, own later fault → own (read ++ later) fault)
    (first : Conducts template own step) (second : ∀ value, Conducts template own (next value)) :
    Conducts template own (step >>= next) := by
  intro session
  obtain ⟨told, read, stretch, ends⟩ := first session
  rw [bind_step]
  rcases found : step session with ⟨fault | value, middle⟩
  · rw [found] at stretch ends
    exact ⟨told, read, stretch, ends⟩
  · rw [found] at stretch ends
    obtain ⟨later, rest, following, finish⟩ := second value middle
    rw [stretch.policy_eq] at finish
    refine ⟨told ++ later, read ++ rest, stretch.trans following, ?_⟩
    cases result : (next value middle).1 with
    | ok last =>
      rw [result] at finish
      exact PluginPolicy.Bears.append ends finish
    | error fault =>
      rw [result] at finish
      exact finish.imp (PluginPolicy.Bears.endsBy ends)
        fun ⟨bears, owned⟩ => ⟨PluginPolicy.Bears.append ends bears, more owned⟩

/-- Telling the plugins of an event has no faults but theirs. -/
theorem Conducts.inform (event : Event) {data : Value} {step : List Plugin → SessionM Unit}
    (silent : ∀ plugins, Keeps (Silent template) (step plugins)) :
    Conducts template own (inform (event.template? template) event data step) := by
  intro session
  rw [inform_step silent]
  exact ⟨_, _, (silent _ session).heard _, session.policy.reply_ends template _ _⟩

/-- Announcing an event of a pass has no faults but those of the plugins. -/
theorem announce_conducts {event : Event} (named : event.template? template = some template)
    (data : List (String × Value)) : Conducts template own (announce event template data) := by
  rw [announce_eq, ← named]
  exact .inform event (silent_awaitEach template event _)

/-- Announcing a data file has no faults but those of the plugins. -/
theorem announceFile_conducts (file : DataFile) (key : String) (content : Value) :
    Conducts template own (announceFile file key content) :=
  Conducts.inform .dataFileLoaded (silent_callEach template .dataFileLoaded _)

/-! ## Loading data -/

/-- A fault of loading data, given what was read: one that looks like that of a pass is that of a
reader. -/
def LoadFault (read : List Reading) (fault : Fault) : Prop :=
  fault.kind = .render → ∃ reading ∈ read, reading.result = .error fault

theorem LoadFault.more {read later : List Reading} {fault : Fault}
    (own : LoadFault later fault) : LoadFault (read ++ later) fault := by
  intro render
  obtain ⟨reading, member, failed⟩ := own render
  exact ⟨reading, List.mem_append_right _ member, failed⟩

/-- A result that is computed aside, the fault of which does not look like that of a pass. -/
theorem Conducts.lift {result : Except Fault α}
    (plain : ∀ {fault}, result = .error fault → fault.kind ≠ .render) :
    Conducts template LoadFault (liftExcept result : SessionM α) := by
  refine .of_silent ((silent_attending template).lift result) fun session fault failed => ?_
  rw [liftExcept_step] at failed
  exact fun render => (plain failed render).elim

theorem Conducts.throw {fault : Fault} (plain : fault.kind ≠ .render) :
    Conducts template LoadFault (throw fault : SessionM α) :=
  .of_silent ((silent_attending template).throw fault) fun _ _ failed => by
    cases failed
    exact fun render => (plain render).elim

theorem Conducts.pure (value : α) : Conducts template LoadFault (pure value : SessionM α) :=
  .of_silent ((silent_attending template).pure value) nofun

theorem resolve_plain {table : ExtensionTable} {extension : String} {path : Option String}
    {fault : Fault} (failed : table.resolve extension path = .error fault) :
    fault.kind ≠ .render := by
  unfold ExtensionTable.resolve at failed
  split at failed
  · cases failed
  · cases failed
    exact nofun

theorem splitStorageKey_plain {value : Value} {default : String} {fault : Fault}
    (failed : splitStorageKey value default = .error fault) : fault.kind ≠ .render := by
  unfold splitStorageKey at failed
  split at failed
  · split at failed
    · cases failed
    · split at failed
      · split at failed
        · cases failed
          exact nofun
        · cases failed
      · cases failed
        exact nofun
  · cases failed

theorem pathOf_plain {value : Value} {fault : Fault} (failed : pathOf value = .error fault) :
    fault.kind ≠ .render := by
  unfold pathOf at failed
  split at failed
  · cases failed
  · cases failed
    exact nofun

/-- A reading is remembered. Its fault is its own, and that of a result without a place to store
it does not look like that of a pass. -/
theorem Conducts.read (file : DataFile) (result : Except Fault Value) :
    Conducts template LoadFault (do
      happen (.read file result)
      liftExcept do splitStorageKey (← result) file.name) := by
  intro session
  simp only [bind_step, happen, modify_step, liftExcept_step]
  refine ⟨[], [⟨file, result⟩], ⟨rfl, ?_, ?_, ?_⟩, ?_⟩
  · exact List.filterMap_append
  · exact List.filterMap_append
  · cases session.policy <;> exact (List.append_nil _).symm
  · cases result with
    | error fault => exact .inr ⟨PluginPolicy.bears_nil, fun _ => ⟨_, List.mem_cons_self, rfl⟩⟩
    | ok value =>
      cases split : splitStorageKey value file.name with
      | ok stored => exact (congrArg _ split).mpr PluginPolicy.bears_nil
      | error fault =>
        refine (congrArg _ split).mpr (.inr ⟨PluginPolicy.bears_nil, fun render => ?_⟩)
        exact (splitStorageKey_plain split render).elim

/-- Loading a file is a stretch of a pass. -/
theorem loadFile_conducts (template : String) (path : Path) :
    Conducts template LoadFault (loadFile announceFile path) := by
  have silent := silent_attending template
  refine .bind .more (.of_silent silent.get nofun) fun session => ?_
  refine .bind .more (.lift resolve_plain) fun reader => ?_
  dsimp only
  rw [← bind_assoc]
  refine .bind .more (.read _ _) fun stored => ?_
  exact .bind .more (.of_silent (silent.store stored.1 stored.2) nofun) fun _ =>
    .bind .more (announceFile_conducts _ _ _) fun _ => .pure _

/-- Loading the files that have a reader is a stretch of a pass. -/
theorem loadFiles_conducts (template : String) (paths : List Path) :
    Conducts template LoadFault (loadFiles announceFile paths) := by
  have silent := silent_attending template
  induction paths with
  | nil => exact .pure _
  | cons path rest ih =>
    refine .bind .more (.of_silent silent.get nofun) fun session => ?_
    split
    · exact .bind .more (loadFile_conducts template path) fun _ => .bind .more ih fun _ => .pure _
    · exact ih

/-- Loading what lies at a path is a stretch of a pass. -/
theorem loadPath_conducts (template : String) (value : Value) :
    Conducts template LoadFault (loadPath announceFile value) := by
  have silent := silent_attending template
  refine .bind .more (.lift pathOf_plain) fun path => ?_
  refine .bind .more (.of_silent silent.get nofun) fun session => ?_
  dsimp only
  split
  · exact .bind .more (loadFile_conducts template path) fun _ => .pure _
  · split
    · exact loadFiles_conducts template _
    · exact .throw nofun

/-- Loading paths in order is a stretch of a pass. -/
theorem loadPaths_conducts (template : String) (paths : List Value) :
    Conducts template LoadFault (loadPaths announceFile paths) := by
  induction paths with
  | nil => exact .pure _
  | cons path rest ih =>
    exact .bind .more (loadPath_conducts template path) fun _ => .bind .more ih fun _ => .pure _

end Session

end TemplateStream
