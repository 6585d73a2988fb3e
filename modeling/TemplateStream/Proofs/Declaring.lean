import TemplateStream.Proofs.Retaining

/-!
# What plugins declare

A blueprint declares its scripts by the names of events, in a table that its plugin lists itself or
under names that the plugin is asked for one by one. Either way a plugin that is made of it has the
script for an event that the blueprint has under the name of that event, and none for any other.
The attached plugins are of this kind whatever is asked of the roster.
-/

namespace TemplateStream

/-! ## Tables of scripts -/

/-- The script that a blueprint declares for an event. -/
def Blueprint.declared (blueprint : Blueprint) (event : Event) : Option EventScript :=
  match blueprint.handlers.lookup event.name with
  | some (.scripted deferred statements) => some ⟨deferred, statements⟩
  | _ => none

/-- Events of one name are the same. -/
theorem Event.name_injective {event other : Event} (same : event.name = other.name) :
    event = other := by
  have found : Event.ofName? event.name = Event.ofName? other.name := congrArg Event.ofName? same
  rw [Event.ofName?_name, Event.ofName?_name] at found
  exact Option.some.inj found

/-- An event is found under no name but its own. -/
theorem Event.name_of_ofName? {name : String} {event : Event}
    (found : Event.ofName? name = some event) : event.name = name := by
  have same := List.find?_some found
  simpa using same

/-- A handler is listed when it is a script under the name of an event. -/
theorem listedScript_ok {plugin name : String} {handler : PluginHandler}
    {listed : Event × EventScript} (found : listedScript plugin name handler = .ok listed) :
    listed.1.name = name ∧ handler = .scripted listed.2.deferred listed.2.statements := by
  unfold listedScript at found
  cases named : Event.ofName? name with
  | none =>
    rw [named] at found
    cases found
  | some event =>
    rw [named] at found
    cases handler with
    | inert => cases found
    | scripted deferred statements =>
      cases found
      exact ⟨Event.name_of_ofName? named, rfl⟩

/-- A table that a plugin lists itself has the scripts under the names of the events. -/
theorem lookup_listed {plugin : String} {handlers : List (String × PluginHandler)}
    {scripts : List (Event × EventScript)}
    (listed : (handlers.mapM fun (name, handler) => listedScript plugin name handler) =
      .ok scripts) (event : Event) :
    scripts.lookup event = match handlers.lookup event.name with
      | some (.scripted deferred statements) => some ⟨deferred, statements⟩
      | _ => none := by
  induction handlers generalizing scripts with
  | nil =>
    cases listed
    rfl
  | cons entry rest ih =>
    obtain ⟨name, handler⟩ := entry
    rw [List.mapM_cons] at listed
    dsimp only at listed
    cases first : listedScript plugin name handler with
    | error fault =>
      rw [first] at listed
      cases listed
    | ok script =>
      cases others : rest.mapM fun (name, handler) => listedScript plugin name handler with
      | error fault =>
        rw [first, others] at listed
        cases listed
      | ok later =>
        rw [first, others] at listed
        cases listed
        obtain ⟨rfl, rfl⟩ := listedScript_ok first
        obtain ⟨other, script⟩ := script
        by_cases same : event = other
        · subst same
          simp only [List.lookup_cons, beq_self_eq_true]
        · have names : (event.name == other.name) = false :=
            beq_eq_false_iff_ne.mpr fun equal => same (Event.name_injective equal)
          have events : (event == other) = false := beq_eq_false_iff_ne.mpr same
          simp only [List.lookup_cons, names, events]
          exact ih others

/-- A table that is filled by asking for each of some events has what is found for them. -/
theorem lookup_asked (found : Event → Option EventScript) (events : List Event) (event : Event) :
    (events.filterMap fun other => (found other).map (other, ·)).lookup event =
      if event ∈ events then found event else none := by
  induction events with
  | nil => rfl
  | cons first rest ih =>
    rw [List.filterMap_cons]
    by_cases same : event = first
    · subst same
      rw [if_pos List.mem_cons_self]
      cases script : found event with
      | none =>
        rw [Option.map_none]
        show List.lookup event _ = none
        rw [ih, script, ite_self]
      | some script =>
        rw [Option.map_some]
        simp only [List.lookup_cons, beq_self_eq_true]
    · have apart : (event == first) = false := beq_eq_false_iff_ne.mpr same
      have inside : event ∈ first :: rest ↔ event ∈ rest := by
        rw [List.mem_cons, or_iff_right same]
      simp only [inside, ← ih]
      cases found first with
      | none => rfl
      | some script =>
        rw [Option.map_some]
        simp only [List.lookup_cons, apart]

/-- Every event is one of all. -/
theorem Event.mem_all (event : Event) : event ∈ Event.all := by
  cases event <;> decide

/-- The scripts of a blueprint are those that it declares, however it does. -/
theorem Blueprint.lookup_scripts {blueprint : Blueprint} {plugin : String}
    {scripts : List (Event × EventScript)} (found : blueprint.scripts plugin = .ok scripts)
    (event : Event) : scripts.lookup event = blueprint.declared event := by
  unfold Blueprint.scripts at found
  split at found
  · exact lookup_listed found event
  · have asked : askedScript? blueprint.handlers =
        fun other => (blueprint.declared other).map (other, ·) := by
      funext other
      unfold askedScript? Blueprint.declared
      cases blueprint.handlers.lookup other.name with
      | none => rfl
      | some handler => cases handler <;> rfl
    cases found
    rw [asked, lookup_asked, if_pos event.mem_all]

/-! ## Made plugins -/

/-- A plugin has the scripts that its blueprint declares. -/
def Plugin.Declares (plugin : Plugin) : Prop :=
  ∀ event, plugin.script? event = plugin.blueprint.declared event

namespace Session

variable {session after : Session} {blueprint : Blueprint} {settings : List (Value × Value)}
  {plugin : Plugin}

/-- What a plugin is that was made of a blueprint with settings, and what making it changes. -/
structure Made (blueprint : Blueprint) (settings : List (Value × Value)) (session : Session)
    (plugin : Plugin) (after : Session) : Prop where
  fine : blueprint.failure = none
  named : blueprint.named settings = .ok plugin.name
  free : session.stored? plugin.name = none
  scripts : blueprint.scripts plugin.name = .ok plugin.scripts
  number : plugin.number = session.made
  kind : plugin.blueprint = blueprint
  given : plugin.given = givenTo blueprint settings
  kept : plugin.settings = blueprint.kept settings
  left : after = { session with
    log := session.log ++ [constructEntry (givenTo blueprint settings)]
    made := session.made + 1 }

/-- A plugin that is made is made so. -/
theorem construct_made (made : construct blueprint settings session = (.ok plugin, after)) :
    Made blueprint settings session plugin after := by
  obtain ⟨assembles, left⟩ := assembled_of_construct made
  obtain ⟨fine, named, free, scripts, same⟩ := assembled_ok assembles
  exact ⟨fine, named, Table.not_contains_iff.mp free, scripts, congrArg Plugin.number same,
    congrArg Plugin.blueprint same, congrArg Plugin.given same, congrArg Plugin.settings same, left⟩

/-- A plugin that is made has the scripts that its blueprint declares. -/
theorem Made.declares (made : Made blueprint settings session plugin after) : plugin.Declares := by
  intro event
  rw [Plugin.script?, made.kind]
  exact Blueprint.lookup_scripts made.scripts event

/-! ## Attached plugins -/

/-- The attached plugins have the scripts that their blueprints declare. -/
def Declared (session : Session) : Prop := ∀ plugin ∈ session.attached, plugin.Declares

/-- The attached plugins still have the scripts that their blueprints declare. -/
def DeclaredStays (session after : Session) : Prop := session.Declared → after.Declared

/-- Sessions with the same plugins attached are alike. -/
theorem declaredStays_of_attached (same : after.attached = session.attached) :
    DeclaredStays session after := by
  intro declared plugin member
  exact declared plugin (same ▸ member)

theorem declaredStays_lenient : Lenient DeclaredStays :=
  .of_steady (fun first second declared => second (first declared)) fun same =>
    declaredStays_of_attached (same_of_steady same).2.2

/-- Attaching plugins, to any depth, keeps the scripts to those that are declared. -/
theorem declaredStays_attending : Attending DeclaredStays where
  toLenient := declaredStays_lenient
  factory := by
    intro attach attached own factory
    have lenient := declaredStays_lenient
    cases factory with
    | registration helpers => exact lenient.throw _
    | blueprint blueprint =>
      intro session
      rw [attachFactory_step, bind_step]
      rcases making : construct blueprint (session.renderer.roster.resolve own) session with
        ⟨fault | plugin, middle⟩
      · have same : middle.steady = session.steady := by
          rcases construct_cases blueprint (session.renderer.roster.resolve own) session with
            ⟨_, _, failed, same⟩ | ⟨_, _, succeeded, _⟩
          · rw [making] at failed
            cases failed
            exact same
          · rw [making] at succeeded
            cases succeeded
        exact lenient.steady same
      · have made := construct_made making
        have counted : DeclaredStays session middle := by
          rw [made.left]
          exact declaredStays_of_attached rfl
        have calls : Keeps DeclaredStays (call attach plugin .attach .null) :=
          lenient.keeps_of_hears (lenient.call_hears attached plugin .attach .null)
            fun _ _ _ => declaredStays_of_attached rfl
        have called := calls middle
        dsimp only
        rw [bind_step]
        rcases calling : call attach plugin .attach .null middle with ⟨fault | _, late⟩
        · rw [calling] at called
          exact lenient.trans counted called
        · rw [calling] at called
          intro declared other member
          have before : late.Declared := called (counted declared)
          rcases Table.mem_values_insert member with rfl | inside
          · exact made.declares
          · exact before other inside

/-- Telling plugins of an event keeps the scripts to those that are declared. -/
theorem tell_declared (event : Event) (data : Value) {step : List Plugin → SessionM Unit}
    (keeps : ∀ plugins, Keeps DeclaredStays (step plugins)) :
    Keeps DeclaredStays (tell event data step) := by
  have attending := declaredStays_attending
  refine attending.bind attending.get fun session => ?_
  refine attending.bind (keeps _).attempt fun result => ?_
  have remembered : Keeps DeclaredStays (happen (.told event data result)) :=
    fun _ => declaredStays_of_attached rfl
  exact attending.bind remembered fun _ => attending.lift result

/-- Whatever is asked of the roster keeps the scripts to those that are declared. -/
theorem manage_declared (request : RosterRequest) : Keeps DeclaredStays (manage request) := by
  have attending := declaredStays_attending
  have heard (event : Event) (plugin : Plugin) (result : Except Fault Unit) :
      Keeps DeclaredStays (happen (.called plugin event result)) :=
    fun _ => declaredStays_of_attached rfl
  have fires (event : Event) (data : Value) : Keeps DeclaredStays (Session.fire event data) :=
    tell_declared event data fun plugins => attending.callEach data (heard event) plugins
  have clears : Keeps DeclaredStays (do
      let names := (← get : Session).renderer.roster.names
      update fun renderer => { renderer with roster := renderer.roster.clear }
      pure names : SessionM (List String)) :=
    attending.bind attending.get fun _ =>
      attending.bind (fun _ _ => nofun) fun _ => attending.pure _
  cases request with
  | add source settings shared => exact (attending.attach source settings shared).discard
  | fire event data => exact fires event data
  | dispatch event data =>
    exact tell_declared event data fun plugins => attending.awaitEach data (heard event) plugins
  | clear quiet =>
    cases quiet with
    | true => exact clears.discard
    | false => exact (attending.bind (fires .detach .null) fun _ => clears).discard

/-- So do all requests in a row, whether or not some of them fail. -/
theorem manageAll_declared (requests : List RosterRequest) :
    Keeps DeclaredStays (manageAll requests) := by
  induction requests with
  | nil => exact declaredStays_attending.pure _
  | cons request rest ih =>
    exact declaredStays_attending.bind (manage_declared request).attempt.discard fun _ => ih

end Session

end TemplateStream
