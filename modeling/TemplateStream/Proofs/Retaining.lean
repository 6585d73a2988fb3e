import TemplateStream.Proofs.Attachments
import TemplateStream.Proofs.Tables

/-!
# Plugins that stay attached

Attaching a plugin looks for its name first, runs its script for being attached after that, and
stores it last. Whatever scripts attach meanwhile, a plugin that is stored when something begins is
still stored when it ends, until all are detached, and while it is stored no other plugin of its
name can be attached. This is not so for a plugin that the script itself stored under the name of
the plugin that is being attached: it gives way to that one without a fault.
-/

namespace TemplateStream

namespace Session

variable {session middle after : Session} {name : String} {names later : List String}

/-- The plugin that is stored under a name. -/
def stored? (session : Session) (name : String) : Option Plugin :=
  session.renderer.roster.plugins.get? name

/-- No plugin that was stored is stored no more, or under another name, or replaced. -/
structure Retains (session after : Session) : Prop where
  made : session.made ≤ after.made
  stored : ∀ name plugin, session.stored? name = some plugin → after.stored? name = some plugin

/-- What attaching comes to when it gives names: they are different, nothing was stored under them,
and now there are plugins under them that were made since. -/
structure Attached (session after : Session) (names : List String) : Prop where
  distinct : names.Nodup
  free : ∀ name ∈ names, session.stored? name = none
  taken : ∀ name ∈ names, ∃ plugin, after.stored? name = some plugin ∧ session.made ≤ plugin.number

theorem Retains.trans (first : Retains session middle) (second : Retains middle after) :
    Retains session after where
  made := Nat.le_trans first.made second.made
  stored name plugin held := second.stored name plugin (first.stored name plugin held)

/-- What was free later was free before. -/
theorem Retains.free (retains : Retains session after) (free : after.stored? name = none) :
    session.stored? name = none := by
  cases held : session.stored? name with
  | none => rfl
  | some plugin =>
    rw [retains.stored name plugin held] at free
    cases free

namespace Attached

/-- What came before makes no difference to what was attached. -/
theorem before (retains : Retains session middle) (attached : Attached middle after names) :
    Attached session after names where
  distinct := attached.distinct
  free name member := retains.free (attached.free name member)
  taken name member := by
    obtain ⟨plugin, held, number⟩ := attached.taken name member
    exact ⟨plugin, held, Nat.le_trans retains.made number⟩

/-- What was attached is still attached later. -/
theorem behind (attached : Attached session middle names) (retains : Retains middle after) :
    Attached session after names where
  distinct := attached.distinct
  free := attached.free
  taken name member := by
    obtain ⟨plugin, held, number⟩ := attached.taken name member
    exact ⟨plugin, retains.stored name plugin held, number⟩

/-- What was attached in turn is attached together. -/
theorem append (first : Attached session middle names) (second : Attached middle after later)
    (before : Retains session middle) (behind : Retains middle after) :
    Attached session after (names ++ later) := by
  have early := first.behind behind
  have late := second.before before
  refine ⟨List.nodup_append.mpr ⟨first.distinct, second.distinct, ?_⟩, ?_, ?_⟩
  · rintro name member other memberToo rfl
    obtain ⟨plugin, held, _⟩ := first.taken name member
    rw [second.free name memberToo] at held
    cases held
  · intro name member
    exact (List.mem_append.mp member).elim (early.free name) (late.free name)
  · intro name member
    exact (List.mem_append.mp member).elim (early.taken name) (late.taken name)

end Attached

/-! ## Making a plugin -/

/-- A plugin of a name that is taken is not made. -/
theorem construct_taken {blueprint : Blueprint} {settings : List (Value × Value)}
    (fine : blueprint.failure = none) (named : blueprint.named settings = .ok name)
    (taken : (session.stored? name).isSome) :
    (construct blueprint settings session).1 = .error (.plugin (.duplicate name)) := by
  have present : session.renderer.roster.plugins.contains name = true :=
    Table.contains_iff.mpr (Option.isSome_iff_exists.mp taken)
  have refused : assembled blueprint settings session = .error (.plugin (.duplicate name)) := by
    simp only [assembled, fine, named, present, if_true]
  rw [construct_step, refused]

/-- A plugin that is made has a name that is free. -/
theorem construct_free {blueprint : Blueprint} {settings : List (Value × Value)} {plugin : Plugin}
    (made : construct blueprint settings session = (.ok plugin, after)) :
    session.stored? plugin.name = none := by
  obtain ⟨_, _, free, _⟩ := assembled_ok (assembled_of_construct made).1
  exact Table.not_contains_iff.mp free

/-! ## Attaching -/

theorem retains_lenient : Lenient Retains := by
  refine .of_steady Retains.trans fun {session after} same => ?_
  obtain ⟨made, _⟩ := same_of_steady same
  refine ⟨Nat.le_of_eq made.symm, fun name plugin held => ?_⟩
  exact (congrArg (fun table => table.get? name) (plugins_of_steady same)).trans held

/-- A plugin that was never seen stays where it is when another is called. -/
theorem retains_called (plugin : Plugin) (event : Event) (result : Except Fault Unit) :
    Keeps Retains (happen (.called plugin event result)) :=
  fun _ => ⟨Nat.le_refl _, fun _ _ held => held⟩

variable {attach : AttachSource}

/-- A plugin is made of a blueprint, called, and then joins those that are attached. -/
theorem attachFactory_step (blueprint : Blueprint) (own : List (Value × Value))
    (session : Session) :
    attachFactory attach own (.blueprint blueprint) session = (do
      let plugin ← construct blueprint (session.renderer.roster.resolve own)
      call attach plugin .attach .null
      update fun renderer => { renderer with roster := renderer.roster.attach plugin }
      pure plugin.name : SessionM String) session := by
  rw [attachFactory, bind_step, get_step]

/-- Making and attaching a plugin retains what was stored. When it completes, the plugin that was
made is stored under its name, which was free. -/
theorem attachFactory_retains (attached : ∀ source, Keeps Retains (attach source))
    (own : List (Value × Value)) (factory : Factory) (session : Session) :
    let ran := attachFactory attach own factory session
    Retains session ran.2 ∧ ∀ name, ran.1 = .ok name → session.stored? name = none ∧
      ∃ plugin, ran.2.stored? name = some plugin ∧ plugin.name = name ∧
        plugin.number = session.made := by
  intro ran
  cases factory with
  | registration helpers => exact ⟨retains_lenient.refl session, nofun⟩
  | blueprint blueprint =>
    have run : ran = _ := attachFactory_step blueprint own session
    rw [run, bind_step]
    rcases construct_cases blueprint (session.renderer.roster.resolve own) session with
      ⟨fault, after, made, same⟩ | ⟨plugin, counted, made, number, same⟩
    · rw [made]
      exact ⟨retains_lenient.steady same, nofun⟩
    · have free := construct_free made
      have counts : Retains session counted := by
        have more : Retains session { session with made := session.made + 1 } :=
          ⟨Nat.le_succ _, fun _ _ held => held⟩
        exact more.trans (retains_lenient.steady same)
      have calls : Keeps Retains (call attach plugin .attach .null) :=
        retains_lenient.keeps_of_hears (retains_lenient.call_hears attached plugin .attach .null)
          fun _ => retains_called plugin .attach
      rw [made]
      dsimp only
      rw [bind_step]
      have called := calls counted
      rcases calling : call attach plugin .attach .null counted with ⟨fault | _, late⟩
      · rw [calling] at called
        exact ⟨counts.trans called, nofun⟩
      · rw [calling] at called
        have kept := counts.trans called
        have joined : ∀ other, (late.joined plugin).stored? other =
            if other = plugin.name then some plugin else late.stored? other :=
          Table.get?_insert _ _ _
        refine ⟨⟨kept.made, fun other older held => ?_⟩, fun name done => ?_⟩
        · have apart : other ≠ plugin.name := by
            rintro rfl
            rw [free] at held
            cases held
          exact (joined other).trans ((if_neg apart).trans (kept.stored other older held))
        · cases done
          exact ⟨free, plugin, (joined _).trans (if_pos rfl), rfl, number⟩

/-- Attaching a plugin that would be good under a name that is taken fails as a duplicate. -/
theorem attachFactory_taken {blueprint : Blueprint} {own : List (Value × Value)}
    (fine : blueprint.failure = none)
    (named : blueprint.named (session.renderer.roster.resolve own) = .ok name)
    (taken : (session.stored? name).isSome) :
    (attachFactory attach own (.blueprint blueprint) session).1 =
      .error (.plugin (.duplicate name)) := by
  have refused : (construct blueprint (session.renderer.roster.resolve own) session).1 =
      .error (.plugin (.duplicate name)) := construct_taken fine named taken
  rw [attachFactory_step, bind_step]
  rcases made : construct blueprint (session.renderer.roster.resolve own) session with
    ⟨result, after⟩
  rw [made] at refused
  cases refused
  rfl

/-- Attaching, to any depth, retains what was stored. -/
theorem retains_attending : Attending Retains where
  toLenient := retains_lenient
  factory attached own factory session := (attachFactory_retains attached own factory session).1

/-- Attaching that succeeds gives the names of what is now attached. -/
def Gives (step : SessionM (List String)) : Prop :=
  ∀ session after names, step session = (.ok names, after) → Attached session after names

namespace Gives

variable {α : Type}

theorem nothing : Gives (pure []) := by
  intro session after names done
  cases done
  exact ⟨.nil, nofun, nofun⟩

theorem fails (fault : Fault) : Gives (throw fault) := by
  intro session after names done
  cases done

/-- What retains the plugins may come first. -/
theorem bind {first : SessionM α} {next : α → SessionM (List String)}
    (retains : Keeps Retains first) (gives : ∀ value, Gives (next value)) :
    Gives (first >>= next) := by
  intro session after names done
  obtain ⟨value, middle, ran, done⟩ := bind_ok done
  exact (gives value _ _ _ done).before (retains.after ran)

/-- Attaching in turn gives the names of both. -/
theorem append {first second : SessionM (List String)} (gives : Gives first)
    (givesToo : Gives second) (retains : Keeps Retains first) (retainsToo : Keeps Retains second) :
    Gives (do
      let names ← first
      pure (names ++ (← second))) := by
  intro session after names done
  obtain ⟨early, middle, ran, done⟩ := bind_ok done
  obtain ⟨late, last, ranToo, done⟩ := bind_ok done
  cases done
  exact (gives _ _ _ ran).append (givesToo _ _ _ ranToo) (retains.after ran)
    (retainsToo.after ranToo)

/-- Attaching one plugin gives its name. -/
theorem factory (attached : ∀ source, Keeps Retains (attach source)) (own : List (Value × Value))
    (factory : Factory) : Gives (do pure [← attachFactory attach own factory]) := by
  intro session after names done
  obtain ⟨name, middle, ran, done⟩ := bind_ok done
  cases done
  have completes := (attachFactory_retains attached own factory session).2 name
  rw [ran] at completes
  obtain ⟨free, plugin, held, _, number⟩ := completes rfl
  refine ⟨List.pairwise_singleton _ name, ?_, ?_⟩
  · intro other member
    rw [List.mem_singleton.mp member]
    exact free
  · intro other member
    rw [List.mem_singleton.mp member]
    exact ⟨plugin, held, Nat.le_of_eq number.symm⟩

/-- Attaching the plugins of targets gives their names. -/
theorem targets (attached : ∀ source, Keeps Retains (attach source))
    (settings : List (Value × Value)) (entries : List (String × Value)) :
    Gives (attachTargets attach settings entries) := by
  induction entries with
  | nil => exact nothing
  | cons entry rest ih =>
    obtain ⟨target, own⟩ := entry
    refine .bind (retains_attending.lift _) fun own => ?_
    refine .bind (retains_attending.factoryAt target) fun found => ?_
    have made := retains_attending.factory attached (Value.mergeEntries own settings) found
    have both := (Gives.factory attached (Value.mergeEntries own settings) found).append ih
      (retains_attending.bind made fun _ => retains_attending.pure _)
      (retains_attending.targets attached settings rest)
    simpa only [bind_assoc, pure_bind, List.singleton_append] using both

mutual

/-- Attaching the plugins of a source gives their names. -/
theorem source (attached : ∀ source, Keeps Retains (attach source))
    (settings : List (Value × Value)) :
    ∀ source : PluginSource, Gives (attachWith attach settings source)
  | .absent => fails _
  | .target path => .bind (retains_attending.factoryAt path) fun found =>
      .factory attached settings found
  | .blueprint blueprint => .factory attached settings (.blueprint blueprint)
  | .module name => .bind (retains_attending.factoryOf (.module name)) fun found =>
      .factory attached settings found
  | .sequence sources => sources_given attached settings sources
  | .configured inner own => source attached (Value.mergeEntries own settings) inner
  | .targets entries => .targets attached settings entries
  | .inert _ => fails _

/-- Attaching the plugins of sources in order gives their names. -/
theorem sources_given (attached : ∀ source, Keeps Retains (attach source))
    (settings : List (Value × Value)) :
    ∀ sources : List PluginSource, Gives (attachEach attach settings sources)
  | [] => nothing
  | first :: rest => (source attached settings first).append (sources_given attached settings rest)
      (retains_attending.attachWith attached settings first)
      (retains_attending.attachEach attached settings rest)

end

end Gives

/-- Attaching the plugins of a source with settings gives their names. -/
theorem attach_gives (source : PluginSource) (settings shared : Value) :
    Gives (Session.attach source settings shared) := by
  have join : Gives (do
      attachWith attachUsed (← liftExcept settings.optionalEntries) source) :=
    .bind (retains_attending.lift _) fun entries =>
      .source retains_attending.attachUsed entries source
  have share : Keeps Retains (shareSettings shared) :=
    retains_attending.bind (retains_attending.lift _) fun _ => retains_attending.beside fun _ => rfl
  refine .bind (retains_attending.prepare source) fun _ => ?_
  cases source with
  | absent => exact .fails _
  | _ =>
    dsimp only
    split
    · exact .bind share fun _ => join
    · exact join

/-! ## Requests -/

/-- What may be asked of the roster of a session. -/
inductive RosterRequest where
  | add (source : PluginSource) (settings shared : Value)
  | fire (event : Event) (data : Value)
  | dispatch (event : Event) (data : Value)
  | clear (quiet : Bool)

/-- Whether all plugins are to be detached. -/
def RosterRequest.clears : RosterRequest → Bool
  | .clear _ => true
  | _ => false

/-- Does what is asked of the roster. -/
def manage : RosterRequest → SessionM Unit
  | .add source settings shared => discard (Session.attach source settings shared)
  | .fire event data => Session.fire event data
  | .dispatch event data => Session.dispatch event data
  | .clear quiet => discard (detachAll quiet)

/-- Does all that is asked of the roster, whether or not some of it fails. -/
def manageAll : List RosterRequest → SessionM Unit
  | [] => pure ()
  | request :: rest => do
    discard (attempt (manage request))
    manageAll rest

/-- Telling plugins of an event retains what is stored. -/
theorem tell_retains (event : Event) (data : Value) {step : List Plugin → SessionM Unit}
    (retains : ∀ plugins, Keeps Retains (step plugins)) : Keeps Retains (tell event data step) := by
  refine retains_attending.bind retains_attending.get fun session => ?_
  refine retains_attending.bind (retains _).attempt fun result => ?_
  have remembered : Keeps Retains (happen (.told event data result)) :=
    fun _ => ⟨Nat.le_refl _, fun _ _ held => held⟩
  exact retains_attending.bind remembered fun _ => retains_attending.lift result

theorem fire_retains (event : Event) (data : Value) : Keeps Retains (Session.fire event data) :=
  tell_retains event data fun plugins =>
    retains_attending.callEach data (fun plugin => retains_called plugin event) plugins

theorem dispatch_retains (event : Event) (data : Value) :
    Keeps Retains (Session.dispatch event data) :=
  tell_retains event data fun plugins =>
    retains_attending.awaitEach data (fun plugin => retains_called plugin event) plugins

/-- What is asked retains what is stored, but for detaching all. -/
theorem manage_retains {request : RosterRequest} (stays : request.clears = false) :
    Keeps Retains (manage request) := by
  cases request with
  | add source settings shared => exact (retains_attending.attach source settings shared).discard
  | fire event data => exact fire_retains event data
  | dispatch event data => exact dispatch_retains event data
  | clear quiet => cases stays

theorem manageAll_retains {requests : List RosterRequest}
    (stays : ∀ request ∈ requests, request.clears = false) :
    Keeps Retains (manageAll requests) := by
  induction requests with
  | nil => exact retains_attending.pure _
  | cons request rest ih =>
    have ⟨first, others⟩ := List.forall_mem_cons.mp stays
    exact retains_attending.bind (manage_retains first).attempt.discard fun _ => ih others

/-- Detaching all that fails detaches none. -/
theorem detachAll_failed {quiet : Bool} {fault : Fault}
    (failed : (detachAll quiet session).1 = .error fault) :
    Retains session (detachAll quiet session).2 := by
  cases quiet with
  | true => cases failed
  | false =>
    rw [detachAll_eq, bind_step] at failed ⊢
    have retains := fire_retains .detach .null session
    rcases told : Session.fire .detach .null session with ⟨other | _, after⟩
    · rw [told] at retains
      exact retains
    · rw [told] at failed
      cases failed

end Session

open Session

/-- A stored plugin stays the one that is stored under its name, whatever is asked of the roster and
whatever scripts attach to any depth, until all plugins are detached, which none is if that fails.
Attaching a plugin that would be good under a name at which one is stored fails as a duplicate. When
an attachment completes its plugin is the one that is stored under its name, which was free when it
began, and so it is with all names that an addition gives. -/
theorem stored_stays (session : Session) :
    (∀ requests : List RosterRequest, (∀ request ∈ requests, request.clears = false) →
      Retains session (manageAll requests session).2) ∧
    (∀ quiet fault, (detachAll quiet session).1 = .error fault →
      Retains session (detachAll quiet session).2) ∧
    (∀ depth source, Retains session (attachTo depth source session).2) ∧
    (∀ depth own blueprint name, blueprint.failure = none →
      blueprint.named (session.renderer.roster.resolve own) = .ok name →
      (session.stored? name).isSome →
      (attachFactory (attachTo depth) own (.blueprint blueprint) session).1 =
        .error (.plugin (.duplicate name))) ∧
    (∀ depth own factory name,
      (attachFactory (attachTo depth) own factory session).1 = .ok name →
      session.stored? name = none ∧ ∃ plugin,
        (attachFactory (attachTo depth) own factory session).2.stored? name = some plugin ∧
          plugin.name = name ∧ plugin.number = session.made) ∧
    ∀ source settings shared names,
      (Session.attach source settings shared session).1 = .ok names →
      Attached session (Session.attach source settings shared session).2 names := by
  refine ⟨fun requests stays => manageAll_retains stays session,
    fun quiet fault failed => detachAll_failed failed,
    fun depth source => retains_attending.attachTo depth source session,
    fun depth own blueprint name fine named taken => attachFactory_taken fine named taken,
    fun depth own factory name done => ?_, fun source settings shared names done => ?_⟩
  · have attached := fun source => retains_attending.attachTo depth source
    exact (attachFactory_retains attached own factory session).2 name done
  · exact attach_gives source settings shared _ _ _ (Prod.ext done rfl)

/-- A plugin whose script attaches another of its own name takes the place of that one: two are
made, and the first is stored. -/
example :
    let inner : Blueprint := { (default : Blueprint) with name := .given (.text "a") }
    let outer : Blueprint :=
      { inner with handlers := [("on_attach", .scripted false [.use (.blueprint inner)])] }
    let after := (Session.attach (.blueprint outer) .null .null {}).2
    after.made = 2 ∧ (after.stored? "a").map Plugin.number = some 0 := by
  decide +kernel

end TemplateStream
