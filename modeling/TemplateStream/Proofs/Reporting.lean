import TemplateStream.Proofs.Finding

/-!
# What loading reports

Plugins are loaded from one place after the other. A place that is passed gives one warning if it
gave no plugin and none if it did, and the first place that is not passed ends the loading with its
fault. Which of both happens goes by the kind of the fault alone: what is wrong with a place itself
is of kinds that are warned of, and a name that is taken is not, but a plugin that fails in being
called may fail with any kind, and is warned of as well if it is one of those.
-/

namespace TemplateStream

/-- A place that plugins are loaded from, and how warnings cite it. -/
structure Place where
  citation : String
  target : String

/-- A place that the options name. -/
def Place.named (target : String) : Place := ⟨target, target⟩

/-- The place of an installed plugin, given by its name and its target. -/
def Place.installed : String × String → Place
  | (name, target) => ⟨s!"{name} ({target})", target⟩

/-- The kinds of faults that loading warns of. -/
def forgivenKinds : List Kind := [.importing, .missingModule, .attribute, .invalidPlugin]

/-- Why no plugin is made of a blueprint with settings: making it fails, also for a setting that is
to be its name; or it has no name, or one that is taken, or a script for what is not an event. -/
inductive Blueprint.Unmade (blueprint : Blueprint) (settings : List (Value × Value))
    (session : Session) : Fault → Prop where
  | failing {fault : Fault} (failure : blueprint.failure = some fault) :
    Unmade blueprint settings session fault
  | unset {fault : Fault} (fine : blueprint.failure = none)
      (unset : blueprint.offered settings = .error fault) :
    Unmade blueprint settings session fault
  | nameless {offered : Value} {fault : Fault} (fine : blueprint.failure = none)
      (offers : blueprint.offered settings = .ok offered)
      (refused : acceptedName offered = .error fault) (kind : fault.kind ∈ forgivenKinds) :
    Unmade blueprint settings session fault
  | taken {name : String} (fine : blueprint.failure = none)
      (named : blueprint.named settings = .ok name) (taken : (session.stored? name).isSome) :
    Unmade blueprint settings session (.plugin (.duplicate name))
  | undeclared {name : String} {fault : Fault} (fine : blueprint.failure = none)
      (named : blueprint.named settings = .ok name) (free : session.stored? name = none)
      (undeclared : blueprint.scripts name = .error fault) (kind : fault.kind ∈ forgivenKinds) :
    Unmade blueprint settings session fault

namespace Session

/-- The places that plugins are loaded from: those that the options name, and then the installed
ones of a group. -/
def places (session : Session) (modules : List String) (group : Option String) : List Place :=
  modules.map .named ++ ((group.bind session.installed.get?).getD []).map .installed

/-- Loads plugins from places in order, and gives the warnings. -/
def loadPlaces : List Place → SessionM (List String)
  | [] => pure []
  | place :: rest => do
    let warning ← loadPlugin place.citation place.target
    pure (warning.toList ++ (← loadPlaces rest))

/-- What is wrong with a target before any plugin is called: its module is not imported, or there is
no factory, or none that makes a plugin, or it does not make this one. -/
inductive Flaw (target : String) (session : Session) : Fault → Session → Prop where
  | unimported {fault : Fault} {after : Session}
      (failed : importModule (splitTarget target).1 session = (.error fault, after)) :
    Flaw target session fault after
  | unfound {fault : Fault} {ready : Session}
      (imported : importModule (splitTarget target).1 session = (.ok (), ready))
      (unfound : factoryUnder ready.library (splitTarget target).1 (splitTarget target).2 =
        .error fault) (kind : fault.kind ∈ forgivenKinds) :
    Flaw target session fault ready
  | registering {helpers : List Helper} {ready : Session}
      (found : factoryLoaded target session = (.ok (.registration helpers), ready))
      (kind : (registrationFault helpers).kind ∈ forgivenKinds) :
    Flaw target session (registrationFault helpers) ready
  | unmade {blueprint : Blueprint} {fault : Fault} {ready : Session}
      (found : factoryLoaded target session = (.ok (.blueprint blueprint), ready))
      (unmade : blueprint.Unmade (ready.renderer.roster.resolve []) ready fault) :
    Flaw target session fault { ready with
      log := ready.log ++
        [constructEntry (givenTo blueprint (ready.renderer.roster.resolve []))] }

/-- What comes of loading from a target: a plugin that is attached behind the others, or none for a
flaw of the target, or one that is turned away since it failed in being called. -/
inductive Verdict (target : String) (session : Session) : Except Fault String → Session → Prop where
  | attached {plugin : Plugin} {ready counted after : Session}
      (found : factoryLoaded target session = (.ok (.blueprint plugin.blueprint), ready))
      (made : Made plugin.blueprint (ready.renderer.roster.resolve []) ready plugin counted)
      (called : call attachUsed plugin .attach .null counted = (.ok (), after)) :
    Verdict target session (.ok plugin.name) (after.joined plugin)
  | flawed {fault : Fault} {after : Session} (flaw : Flaw target session fault after)
      (stands : Stands session after) :
    Verdict target session (.error fault) after
  | unwilling {plugin : Plugin} {fault : Fault} {ready counted after : Session}
      (found : factoryLoaded target session = (.ok (.blueprint plugin.blueprint), ready))
      (made : Made plugin.blueprint (ready.renderer.roster.resolve []) ready plugin counted)
      (failed : call attachUsed plugin .attach .null counted = (.error fault, after)) :
    Verdict target session (.error fault) after

/-- Loading from one place, from a session to the next. -/
structure Trial where
  place : Place
  before : Session
  result : Except Fault String
  after : Session
  ran : loadedAt place.target before = (result, after)

/-- What came of a trial. -/
def Trial.Settles (trial : Trial) : Prop :=
  Verdict trial.place.target trial.before trial.result trial.after

/-- The warning that a trial gives if it is passed. -/
def Trial.warning? (trial : Trial) : Option String :=
  match trial.result with
  | .ok _ => none
  | .error fault => some (warning trial.place.citation fault)

/-- Loading goes on after a trial: it attached a plugin, or its fault is of a kind that is warned
of. -/
def Trial.Passes (trial : Trial) : Prop :=
  ∀ fault, trial.result = .error fault → fault.kind ∈ forgivenKinds

/-- Trials one after the other. -/
inductive Tries : Session → List Trial → Session → Prop where
  | nothing {session : Session} : Tries session [] session
  | first {trial : Trial} {others : List Trial} {final : Session} (settles : trial.Settles)
      (onwards : Tries trial.after others final) :
    Tries trial.before (trial :: others) final

section

variable {target : String} {session ready after final : Session} {fault : Fault}
  {blueprint : Blueprint} {settings : List (Value × Value)} {name : String}

/-! ## Which faults are warned of -/

/-- Loading warns of faults of certain kinds. -/
theorem isForgiven_iff : isForgiven fault = true ↔ fault.kind ∈ forgivenKinds := by
  rw [isForgiven, forgivenKinds]
  cases fault.kind <;> simp [Kind.isImport]

/-- A function for helpers that is called to make a plugin is warned of. -/
theorem registrationFault_kind (helpers : List Helper) :
    (registrationFault helpers).kind ∈ forgivenKinds := by
  cases helpers <;> simp [registrationFault, Fault.kind, PluginFault.kind, forgivenKinds]

/-- What is offered as a name and refused makes an invalid plugin. -/
theorem acceptedName_kind {offered : Value} (refused : acceptedName offered = .error fault) :
    fault.kind ∈ forgivenKinds := by
  unfold acceptedName at refused
  split at refused
  · split at refused
    · cases refused
      decide
    · cases refused
  · cases refused
    decide

/-- A script that cannot be listed makes an invalid plugin. -/
theorem listedScript_kind {event : String} {handler : PluginHandler}
    (failed : listedScript name event handler = .error fault) : fault.kind ∈ forgivenKinds := by
  unfold listedScript at failed
  split at failed
  · cases failed
    simp [Fault.kind, forgivenKinds]
  · cases handler with
    | scripted deferred statements => cases failed
    | inert =>
      cases failed
      simp [Fault.kind, PluginFault.kind, forgivenKinds]

/-- What is computed of each element of a list fails as it does of one of them. -/
theorem mapM_failed {α β : Type} {compute : α → Except Fault β} {list : List α}
    (failed : list.mapM compute = .error fault) :
    ∃ element ∈ list, compute element = .error fault := by
  induction list with
  | nil => cases failed
  | cons first rest ih =>
    rw [List.mapM_cons] at failed
    cases own : compute first with
    | error other =>
      rw [own] at failed
      cases failed
      exact ⟨first, List.mem_cons_self, own⟩
    | ok value =>
      cases others : rest.mapM compute with
      | error other =>
        rw [own, others] at failed
        cases failed
        obtain ⟨element, member, same⟩ := ih others
        exact ⟨element, List.mem_cons_of_mem first member, same⟩
      | ok values =>
        rw [own, others] at failed
        cases failed

/-- A blueprint that declares a script for what is not an event, or none for an event, makes an
invalid plugin. -/
theorem scripts_kind (failed : blueprint.scripts name = .error fault) :
    fault.kind ∈ forgivenKinds := by
  unfold Blueprint.scripts at failed
  split at failed
  · obtain ⟨_, _, own⟩ := mapM_failed failed
    exact listedScript_kind own
  · cases failed

/-! ## What comes of a target -/

/-- A blueprint that gives no name offers none, or one that no plugin can have. -/
theorem unmade_of_unnamed (fine : blueprint.failure = none)
    (unnamed : blueprint.named settings = .error fault) :
    blueprint.Unmade settings session fault := by
  have named : (blueprint.offered settings).bind acceptedName = .error fault := unnamed
  cases offers : blueprint.offered settings with
  | error own =>
    rw [offers] at named
    cases named
    exact .unset fine offers
  | ok offered =>
    rw [offers] at named
    exact .nameless fine offers named (acceptedName_kind named)

/-- A plugin is not assembled for one of the reasons that there are. -/
theorem unmade_of_assembled (failed : assembled blueprint settings session = .error fault) :
    blueprint.Unmade settings session fault := by
  unfold assembled at failed
  split at failed
  · rename_i failure
    cases failed
    exact .failing failure
  · rename_i fine unnamed
    cases failed
    exact unmade_of_unnamed fine unnamed
  · rename_i name fine named
    split at failed
    · rename_i present
      cases failed
      exact .taken fine named (Option.isSome_iff_exists.mpr (Table.contains_iff.mp present))
    · rename_i absent
      have free : session.stored? name = none :=
        Table.not_contains_iff.mp (eq_false_of_ne_true absent)
      cases scripts : blueprint.scripts name with
      | error own =>
        rw [scripts] at failed
        cases failed
        exact .undeclared fine named free scripts (scripts_kind scripts)
      | ok scripts =>
        rw [scripts] at failed
        cases failed

/-- Making a plugin fails for one of the reasons that there are, and then was only noted. -/
theorem construct_unmade
    (failed : construct blueprint settings session = (.error fault, after)) :
    blueprint.Unmade settings session fault ∧
      after = { session with
        log := session.log ++ [constructEntry (givenTo blueprint settings)] } := by
  rw [construct_step] at failed
  cases assembles : assembled blueprint settings session with
  | ok plugin =>
    rw [assembles] at failed
    cases failed
  | error own =>
    rw [assembles] at failed
    cases failed
    exact ⟨unmade_of_assembled assembles, rfl⟩

/-- What comes of loading from a target. -/
theorem loadedAt_verdict (target : String) (session : Session) :
    Verdict target session (loadedAt target session).1 (loadedAt target session).2 := by
  have keeps := stands_factoryLoaded target
  rw [loadedAt, bind_step]
  rcases finding : factoryLoaded target session with ⟨fault | factory, ready⟩
  · have stands : Stands session ready := keeps.after finding
    rw [factoryLoaded_step] at finding
    rcases importing : importModule (splitTarget target).1 session with ⟨other | _, middle⟩
    · rw [importing] at finding
      cases finding
      exact .flawed (.unimported importing) stands
    · rw [importing] at finding
      obtain ⟨unfound, rfl⟩ := Prod.mk.inj finding
      exact .flawed (.unfound importing unfound
        (isForgiven_iff.mp (factoryUnder_forgiven unfound))) stands
  · have stands : Stands session ready := keeps.after finding
    cases factory with
    | registration helpers =>
      exact .flawed (.registering finding (registrationFault_kind helpers)) stands
    | blueprint blueprint =>
      dsimp only
      rw [attachFactory_step, bind_step]
      have counts := stands_construct blueprint (ready.renderer.roster.resolve [])
      rcases making : construct blueprint (ready.renderer.roster.resolve []) ready with
        ⟨fault | plugin, counted⟩
      · obtain ⟨unmade, rfl⟩ := construct_unmade making
        exact .flawed (.unmade finding unmade) (stands.trans (counts.after making))
      · have made := construct_made making
        have kind := made.kind
        subst kind
        dsimp only
        rw [bind_step]
        rcases calling : call attachUsed plugin .attach .null counted with ⟨fault | _, after⟩
        · exact .unwilling finding made calling
        · exact .attached finding made calling

/-! ## One place after the other -/

theorem loadNamed_eq (modules : List String) :
    loadNamed (modules.map .text) = loadPlaces (modules.map .named) := by
  induction modules with
  | nil => rfl
  | cons module rest ih =>
    rw [List.map_cons, List.map_cons, loadNamed, loadPlaces, ← ih]
    rfl

theorem loadInstalled_eq (entries : List (String × String)) :
    loadInstalled entries = loadPlaces (entries.map .installed) := by
  induction entries with
  | nil => rfl
  | cons entry rest ih =>
    rw [List.map_cons, loadInstalled, loadPlaces, ← ih]
    rfl

theorem loadPlaces_append (early late : List Place) :
    loadPlaces (early ++ late) = (do
      let warnings ← loadPlaces early
      pure (warnings ++ (← loadPlaces late))) := by
  induction early with
  | nil => simp [loadPlaces]
  | cons place rest ih =>
    simp only [List.cons_append, loadPlaces, ih, bind_assoc, pure_bind, List.append_assoc]

/-- Loading plugins tries the places that there are when it begins. -/
theorem loadPlugins_eq (modules : List String) (group : Option String) (session : Session) :
    loadPlugins (modules.map .text) group session =
      loadPlaces (session.places modules group) session := by
  have lists : Lenient fun session after : Session => after.installed = session.installed :=
    .of_steady (fun early late => late.trans early) fun {session after} same =>
      show after.steady.installed = session.steady.installed from congrArg Session.installed same
  have kept := (lists.attending (fun _ => rfl) (fun _ _ _ => rfl) fun _ _ => rfl).loadNamed
    (modules.map .text) session
  rw [loadNamed_eq] at kept
  rw [loadPlugins, places, loadPlaces_append, loadNamed_eq, bind_step, bind_step]
  rcases ran : loadPlaces (modules.map .named) session with ⟨fault | warnings, middle⟩
  · rfl
  · rw [ran] at kept
    dsimp only
    rw [bind_step, get_step]
    dsimp only
    rw [kept, loadInstalled_eq]

/-- Every trial comes to something. -/
theorem Trial.settles (trial : Trial) : trial.Settles := by
  have verdict := loadedAt_verdict trial.place.target trial.before
  rwa [trial.ran] at verdict

/-- Loading from a place gives the warning of its trial, or fails as the trial did. -/
theorem Trial.loaded (trial : Trial) :
    (trial.Passes ∧ loadPlugin trial.place.citation trial.place.target trial.before =
        (.ok trial.warning?, trial.after)) ∨
      ∃ fault, trial.result = .error fault ∧ fault.kind ∉ forgivenKinds ∧
        loadPlugin trial.place.citation trial.place.target trial.before =
          (.error fault, trial.after) := by
  rw [loadPlugin_step, trial.ran, Trial.Passes, Trial.warning?]
  cases trial.result with
  | ok name => exact .inl ⟨nofun, rfl⟩
  | error fault =>
    by_cases kind : fault.kind ∈ forgivenKinds
    · refine .inl ⟨fun own same => ?_, ?_⟩
      · cases same
        exact kind
      · exact congrArg (·, trial.after) (if_pos (isForgiven_iff.mpr kind))
    · have stops : ¬ isForgiven fault = true := fun forgiven => kind (isForgiven_iff.mp forgiven)
      exact .inr ⟨fault, rfl, kind, congrArg (·, trial.after) (if_neg stops)⟩

/-- Places are tried in order up to the first that is not passed. -/
theorem loadPlaces_tries (places : List Place) (session : Session) :
    ∃ trials final, Tries session trials final ∧
      ((trials.map Trial.place = places ∧ (∀ trial ∈ trials, trial.Passes) ∧
          loadPlaces places session = (.ok (trials.filterMap Trial.warning?), final)) ∨
        ∃ front last fault, trials = front ++ [last] ∧ trials.map Trial.place <+: places ∧
          (∀ trial ∈ front, trial.Passes) ∧ last.result = .error fault ∧
          fault.kind ∉ forgivenKinds ∧ loadPlaces places session = (.error fault, final)) := by
  induction places generalizing session with
  | nil => exact ⟨[], session, .nothing, .inl ⟨rfl, List.forall_mem_nil _, rfl⟩⟩
  | cons place rest ih =>
    obtain ⟨trial, rfl, rfl⟩ : ∃ trial : Trial, trial.place = place ∧ trial.before = session :=
      ⟨⟨place, session, _, _, rfl⟩, rfl, rfl⟩
    rw [loadPlaces, bind_step]
    rcases trial.loaded with ⟨passes, loaded⟩ | ⟨fault, failed, kind, loaded⟩
    · rw [loaded]
      dsimp only
      rw [bind_step]
      obtain ⟨trials, final, tries, ends⟩ := ih trial.after
      refine ⟨trial :: trials, final, .first trial.settles tries, ?_⟩
      rcases ends with
        ⟨all, pass, done⟩ | ⟨front, last, fault, rfl, shown, pass, failed, kind, done⟩
      · refine .inl ⟨congrArg (trial.place :: ·) all, List.forall_mem_cons.mpr ⟨passes, pass⟩, ?_⟩
        rw [done, List.filterMap_cons]
        cases trial.warning? <;> rfl
      · refine .inr ⟨trial :: front, last, fault, rfl, List.cons_prefix_cons.mpr ⟨rfl, shown⟩,
          List.forall_mem_cons.mpr ⟨passes, pass⟩, failed, kind, ?_⟩
        rw [done]
    · rw [loaded]
      exact ⟨[trial], trial.after, .first trial.settles .nothing, .inr ⟨[], trial, fault, rfl,
        List.cons_prefix_cons.mpr ⟨rfl, List.nil_prefix⟩, List.forall_mem_nil _, failed, kind, rfl⟩⟩

end

end Session

open Session

/-- Plugins are loaded from the places in order, each from where the one before ended, up to the
first whose fault is not of a kind that is warned of, which is the fault of the loading then. If
there is none, each place that gave no plugin is warned of once, in order. A place gives none for a
flaw of its target, most of which are of those kinds, but not a name that is taken; or since its
plugin fails in being called, with a fault of any kind. -/
theorem loading_reported (modules : List String) (group : Option String) (session : Session) :
    ∃ trials final, Tries session trials final ∧
      ((trials.map Trial.place = session.places modules group ∧ (∀ trial ∈ trials, trial.Passes) ∧
          loadPlugins (modules.map .text) group session =
            (.ok (trials.filterMap Trial.warning?), final)) ∨
        ∃ front last fault, trials = front ++ [last] ∧
          trials.map Trial.place <+: session.places modules group ∧
          (∀ trial ∈ front, trial.Passes) ∧ last.result = .error fault ∧
          fault.kind ∉ forgivenKinds ∧
          loadPlugins (modules.map .text) group session = (.error fault, final)) := by
  rw [loadPlugins_eq]
  exact loadPlaces_tries (session.places modules group) session

/-- A plugin that fails in being called is warned of like a module that is not there, if it fails as
such a module does. -/
example :
    let refusal : List PluginStatement := [.raise (.raised .importing "not today")]
    let shy : Blueprint :=
      { tool "shy" with handlers := [(Event.name .attach, .scripted false refusal)] }
    let contents := workshop.library.contents.insert "shy"
      (.members [("Plugin", .factory (.blueprint shy))])
    let session : Session := { library := { contents } }
    let ran := loadPlugins (["shy", "tools", "lost"].map .text) none session
    ran.1.toOption = some ["warning: failed to load plugin 'shy': not today",
        "warning: failed to load plugin 'lost': No module named 'lost'"] ∧
      ran.2.renderer.roster.names = ["hammer"] := by
  decide +kernel

end TemplateStream
