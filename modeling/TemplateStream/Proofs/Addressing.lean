import TemplateStream.Proofs.Declaring
import TemplateStream.Proofs.Detaching

/-!
# Whom events reach

Whatever is asked of a session, and whether or not it fails, a plugin that is called is one that was
attached when it began or one that was made since, and so is every plugin that is attached when it
ends. A single call keeps this, so it holds of attaching plugins to any depth, of tellings, of
passes and of all requests in a row. A plugin that was made earlier and is not attached is never
called again.
-/

namespace TemplateStream

namespace Session

/-- A plugin was attached in a session or was made later. -/
def Knows (session : Session) (plugin : Plugin) : Prop :=
  plugin ∈ session.attached ∨ session.made ≤ plugin.number

/-- The attached plugins were made: their numbers are below that of the next one. -/
def Numbered (session : Session) : Prop := ∀ plugin ∈ session.attached, plugin.number < session.made

/-- Between two sessions no plugin was called that the first one does not know, and in the second
one no other is attached. -/
structure Familiar (session after : Session) : Prop where
  made : session.made ≤ after.made
  members : ∀ plugin ∈ after.attached, session.Knows plugin
  numbered : session.Numbered → after.Numbered
  calls : ∃ news, after.history = session.history ++ news ∧
    ∀ plugin event result, .called plugin event result ∈ news → session.Knows plugin

section

variable {session middle after : Session} {plugin : Plugin} {event : Event}

/-- What a later session knows was known before. -/
theorem Familiar.knows (familiar : Familiar session middle) (known : middle.Knows plugin) :
    session.Knows plugin :=
  known.elim (familiar.members plugin) fun number => .inr (Nat.le_trans familiar.made number)

theorem Familiar.trans (first : Familiar session middle) (second : Familiar middle after) :
    Familiar session after where
  made := Nat.le_trans first.made second.made
  members plugin member := first.knows (second.members plugin member)
  numbered numbered := second.numbered (first.numbered numbered)
  calls := by
    obtain ⟨news, history, known⟩ := first.calls
    obtain ⟨later, historyOn, knownOn⟩ := second.calls
    refine ⟨news ++ later, by rw [historyOn, history, List.append_assoc], ?_⟩
    intro plugin event result member
    rcases List.mem_append.mp member with member | member
    · exact known plugin event result member
    · exact first.knows (knownOn plugin event result member)

/-- Nothing is called between sessions with the same history, and nothing joins unless it is
attached in the second. -/
theorem Familiar.of_history (made : session.made ≤ after.made)
    (history : after.history = session.history)
    (members : ∀ plugin ∈ after.attached, plugin ∈ session.attached) : Familiar session after where
  made := made
  members plugin member := .inl (members plugin member)
  numbered numbered plugin member :=
    Nat.lt_of_lt_of_le (numbered plugin (members plugin member)) made
  calls := ⟨[], by rw [history, List.append_nil], nofun⟩

theorem Familiar.of_same (made : after.made = session.made)
    (history : after.history = session.history) (attached : after.attached = session.attached) :
    Familiar session after :=
  .of_history (Nat.le_of_eq made.symm) history fun _ member => attached ▸ member

/-- Something may happen if it is not the call of a plugin that is not known. -/
theorem Familiar.recorded (familiar : Familiar session middle) {happening : Happening}
    (known : ∀ plugin event result, happening = .called plugin event result →
      session.Knows plugin) : Familiar session (middle.recorded [happening]) where
  made := familiar.made
  members := familiar.members
  numbered := familiar.numbered
  calls := by
    obtain ⟨news, history, all⟩ := familiar.calls
    refine ⟨news ++ [happening], (congrArg (· ++ _) history).trans (List.append_assoc ..), ?_⟩
    intro other event result member
    rcases List.mem_append.mp member with member | last
    · exact all other event result member
    · exact known other event result (List.mem_singleton.mp last).symm

/-- A plugin that is known may be called. -/
theorem Familiar.called (familiar : Familiar session middle) (known : session.Knows plugin)
    (event : Event) (result : Except Fault Unit) :
    Familiar session (middle.recorded [.called plugin event result]) := by
  refine familiar.recorded fun other earlier outcome same => ?_
  cases same
  exact known

/-- A plugin that is known and was made may join the others. -/
theorem Familiar.joined (familiar : Familiar session middle) (known : session.Knows plugin)
    (counted : plugin.number < middle.made) : Familiar session (middle.joined plugin) where
  made := familiar.made
  members := by
    intro other member
    rcases Table.mem_values_insert member with rfl | inside
    · exact known
    · exact familiar.members other inside
  numbered := by
    intro numbered other member
    rcases Table.mem_values_insert member with rfl | inside
    · exact counted
    · exact familiar.numbered numbered other inside
  calls := familiar.calls

theorem familiar_lenient : Lenient Familiar :=
  .of_steady Familiar.trans fun same => by
    obtain ⟨made, history, attached⟩ := same_of_steady same
    exact .of_same made history attached

/-- A plugin that is known may hear of an event. -/
theorem Familiar.hears {step : SessionM Unit} (familiar : Familiar session middle)
    (known : session.Knows plugin) (hears : Hears Familiar plugin event step) :
    Familiar session (step middle).2 := by
  rcases hears middle with ⟨same, _⟩ | ⟨_, result, late, more, ran⟩
  · rw [same]
    exact familiar
  · rw [ran]
    exact (familiar.trans more).called known event result

/-- Plugins are counted on while one hears of an event. -/
theorem made_of_hears {step : SessionM Unit} (hears : Hears Familiar plugin event step)
    (session : Session) : session.made ≤ (step session).2.made := by
  rcases hears session with ⟨same, _⟩ | ⟨_, result, late, more, ran⟩
  · exact Nat.le_of_eq (congrArg Session.made same).symm
  · rw [ran]
    exact more.made

/-! ## Attaching and telling -/

/-- Attaching plugins, to any depth, calls and attaches only those that are made for it. -/
theorem familiar_attending : Attending Familiar where
  toLenient := familiar_lenient
  factory := by
    intro attach attached own factory
    have lenient := familiar_lenient
    cases factory with
    | registration helpers => exact lenient.throw _
    | blueprint blueprint =>
      intro session
      rw [attachFactory_step, bind_step]
      rcases construct_cases blueprint (session.renderer.roster.resolve own) session with
        ⟨fault, after, made, same⟩ | ⟨plugin, counted, made, number, same⟩
      · rw [made]
        exact lenient.steady same
      · have more : Familiar session { session with made := session.made + 1 } :=
          .of_history (Nat.le_succ _) rfl fun _ member => member
        have known : session.Knows plugin := .inr (Nat.le_of_eq number.symm)
        have hears := lenient.call_hears attached plugin .attach .null
        have called := (more.trans (lenient.steady same)).hears known hears
        have counts : counted.made ≤ (call attach plugin .attach .null counted).2.made :=
          made_of_hears hears counted
        have next : counted.made = session.made + 1 := (same_of_steady same).1
        rw [made]
        dsimp only
        rw [bind_step]
        rcases calling : call attach plugin .attach .null counted with ⟨fault | _, late⟩
        · rw [calling] at called
          exact called
        · rw [calling] at called counts
          have below : plugin.number < late.made := by
            dsimp only at counts
            omega
          exact called.joined known below

/-- Of plugins that are known each may hear of an event in turn. -/
theorem Familiar.round {one : Plugin → SessionM Unit}
    (hears : ∀ plugin, Hears Familiar plugin event (one plugin)) {plugins : List Plugin}
    (known : ∀ plugin ∈ plugins, session.Knows plugin) (familiar : Familiar session middle) :
    Familiar session (plugins.forM one middle).2 := by
  induction plugins generalizing middle with
  | nil => exact familiar
  | cons plugin rest ih =>
    obtain ⟨own, others⟩ := List.forall_mem_cons.mp known
    have first := familiar.hears own (hears plugin)
    have whole : (plugin :: rest).forM one = (do
        one plugin
        rest.forM one) := rfl
    rw [whole, bind_step]
    rcases ran : one plugin middle with ⟨fault | _, after⟩
    · rw [ran] at first
      exact first
    · rw [ran] at first
      exact ih others first

/-- Telling plugins of an event calls those that are attached, and what they attach. -/
theorem tell_familiar {event : Event} {data : Value} {step : List Plugin → SessionM Unit}
    {one : Plugin → SessionM Unit} (hears : ∀ plugin, Hears Familiar plugin event (one plugin))
    (each : ∀ plugins, step plugins = plugins.forM one) :
    Keeps Familiar (tell event data step) := by
  intro session
  rw [tell_step, each]
  have start : Familiar session session := familiar_lenient.refl session
  exact (start.round hears fun _ member => .inl member).recorded nofun

theorem fire_familiar (event : Event) (data : Value) : Keeps Familiar (Session.fire event data) :=
  tell_familiar (fun plugin => familiar_lenient.call_hears familiar_attending.attachUsed plugin
    event data) (callEach_eq event data)

theorem dispatch_familiar (event : Event) (data : Value) :
    Keeps Familiar (Session.dispatch event data) :=
  tell_familiar (fun plugin => familiar_lenient.await_hears familiar_attending.attachUsed plugin
    event data) (awaitEach_eq event data)

/-- Detaching all plugins calls those that are attached, and what they attach. -/
theorem detachAll_familiar (quiet : Bool) : Keeps Familiar (detachAll quiet) := by
  have lenient := familiar_lenient
  have clears : Keeps Familiar (do
      let names := (← get : Session).renderer.roster.names
      update fun renderer => { renderer with roster := renderer.roster.clear }
      pure names : SessionM (List String)) :=
    lenient.bind lenient.get fun _ =>
      lenient.bind (fun _ => .of_history (Nat.le_refl _) rfl nofun) fun _ => lenient.pure _
  cases quiet with
  | true => exact clears
  | false => exact lenient.bind (fire_familiar .detach .null) fun _ => clears

/-! ## Passes -/

theorem inform_familiar {template : Option String} {event : Event} {data : Value}
    {step : List Plugin → SessionM Unit} (tells : Keeps Familiar (tell event data step)) :
    Keeps Familiar (inform template event data step) := by
  have lenient := familiar_lenient
  refine lenient.bind tells.attempt fun result => ?_
  cases result with
  | ok _ => exact lenient.pure _
  | error fault =>
    refine lenient.bind lenient.get fun session => ?_
    cases session.renderer.options.pluginPolicy with
    | abort => exact lenient.throw _
    | proceed => exact fun _ => .of_same rfl rfl rfl

/-- A pass calls the plugins that are attached, and what they attach. -/
theorem familiar_passing : Passing Familiar where
  trans := familiar_lenient.trans
  traveled := fun {session after} same => by
    have made : after.traveled.made = session.traveled.made := by rw [same]
    have history : after.traveled.history = session.traveled.history := by rw [same]
    have attached : after.traveled.attached = session.traveled.attached := by rw [same]
    exact .of_same made history attached
  announced := fun {event} _ template data => by
    rw [announce_eq]
    exact inform_familiar (dispatch_familiar event (.ofFields data))
  loaded := familiar_lenient.loadFile
    (fun file key content => by
      rw [announceFile_eq]
      exact inform_familiar (fire_familiar .dataFileLoaded (fileData file key content)))
    (fun file result session => (familiar_lenient.refl session).recorded nofun)
    familiar_lenient.store

/-! ## Demands -/

/-- What may be asked of a session at any time: of its roster, of its renderer, or to load
plugins. -/
inductive Demand where
  | roster (request : RosterRequest)
  | renderer (request : Request)
  | load (modules : List Value) (group : Option String)

/-- Does what is asked. -/
def meet : Demand → SessionM Unit
  | .roster request => manage request
  | .renderer request => answer request
  | .load modules group => discard (loadPlugins modules group)

/-- Does all that is asked, whether or not some of it fails. -/
def meetAll : List Demand → SessionM Unit
  | [] => pure ()
  | demand :: rest => do
    discard (attempt (meet demand))
    meetAll rest

theorem manage_familiar (request : RosterRequest) : Keeps Familiar (manage request) := by
  cases request with
  | add source settings shared =>
    exact (familiar_attending.attach source settings shared).discard
  | fire event data => exact fire_familiar event data
  | dispatch event data => exact dispatch_familiar event data
  | clear quiet => exact (detachAll_familiar quiet).discard

theorem answer_familiar (request : Request) : Keeps Familiar (answer request) := by
  have lenient := familiar_lenient
  cases request with
  | use source settings shared =>
    exact (familiar_attending.attach source settings shared).discard
  | render target input => exact (familiar_passing.render target input).discard
  | close =>
    exact lenient.bind (detachAll_familiar false).discard fun _ _ => .of_same rfl rfl rfl
  | addHelper helper => exact lenient.addHelper helper
  | addTemplate name body source => exact lenient.addTemplate name body source
  | addReader extension reader => exact lenient.addReader extension reader

/-- Whatever is asked calls the plugins that are attached, and those that are made for it. -/
theorem meet_familiar (demand : Demand) : Keeps Familiar (meet demand) := by
  cases demand with
  | roster request => exact manage_familiar request
  | renderer request => exact answer_familiar request
  | load modules group => exact (familiar_attending.loadPlugins modules group).discard

theorem meetAll_familiar (demands : List Demand) : Keeps Familiar (meetAll demands) := by
  induction demands with
  | nil => exact familiar_lenient.pure _
  | cons demand rest ih =>
    exact familiar_lenient.bind (meet_familiar demand).attempt.discard fun _ => ih

end

end Session

end TemplateStream
