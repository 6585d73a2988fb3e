import Mathlib.Data.List.Induction
import TemplateStream.Proofs.Attachments

/-!
# Attached plugins from one request to the next

Between requests no plugin is attached that was told of being detached, unless plugins failed then.
Passes and attaching further plugins keep this, and so does closing a renderer, which forgets all
plugins when none of them fails. So the law of calls holds over all requests, be they successful or
not.
-/

namespace TemplateStream

namespace Session

/-- The law is obeyed, and none of the attached plugins was detached. -/
structure Attended (session : Session) : Prop where
  orderly : session.Orderly
  present : ∀ plugin ∈ session.attached, Present session.history plugin

section

variable {heard : Event → Prop} {session middle after : Session} {plugin : Plugin} {event : Event}

/-- A plugin stays attached while plugins are called on other events than being detached. -/
theorem present_grows (present : Present session.history plugin)
    (grows : Grows heard session after) (stays : ¬ heard .detach) :
    Present after.history plugin := by
  obtain ⟨news, history, calls⟩ := grows.news
  rw [history]
  refine present.append fun other result member => ?_
  rcases calls other .detach result member with never | ⟨never, _⟩
  · exact (stays never).elim
  · cases never

/-- Plugins that are attached meanwhile were not detached, nor are those that were attached. -/
theorem Attended.grows (attended : session.Attended) (orderly : after.Orderly)
    (grows : Grows heard session after) (stays : ¬ heard .detach) : after.Attended where
  orderly := orderly
  present := by
    intro plugin there
    refine present_grows ?_ grows stays
    rcases grows.members plugin there with there | above
    · exact attended.present plugin there
    · refine present_of_uncalled fun other event result called => ?_
      have counted := attended.orderly.counted other event result called
      omega

/-- What agrees on the plugins and the history with a session obeys the law as it does. -/
theorem Attended.of_same (attended : session.Attended) (made : after.made = session.made)
    (history : after.history = session.history) (attached : after.attached = session.attached) :
    after.Attended := by
  have grows : Grows (fun _ => False) session after :=
    .of_same (Nat.le_of_eq made.symm) history attached
  exact attended.grows (attended.orderly.of_same (Nat.le_of_eq made.symm) history attached) grows id

/-- What is not a call keeps the law. -/
theorem Orderly.uncalled (orderly : session.Orderly) {happening : Happening}
    (uncalled : ∀ plugin event result, happening ≠ .called plugin event result) :
    (session.recorded [happening]).Orderly := by
  have old {plugin event result}
      (called : .called plugin event result ∈ session.history ++ [happening]) :
      .called plugin event result ∈ session.history := by
    rcases List.mem_append.mp called with called | last
    · exact called
    · exact (uncalled _ _ _ (List.mem_singleton.mp last).symm).elim
  refine ⟨orderly.lawful.uncalled uncalled, fun _ _ _ called => orderly.counted _ _ _ (old called),
    fun plugin there => ?_, orderly.distinct⟩
  have known := orderly.members plugin there
  exact ⟨known.counted, fun handles => List.mem_append_left _ (known.attached handles),
    fun _ _ _ called => known.same _ _ _ (old called), known.alone⟩

theorem Attended.uncalled (attended : session.Attended) {happening : Happening}
    (uncalled : ∀ plugin event result, happening ≠ .called plugin event result) :
    (session.recorded [happening]).Attended where
  orderly := attended.orderly.uncalled uncalled
  present := fun plugin there => (attended.present plugin there).append fun _ _ member =>
    (uncalled _ _ _ (List.mem_singleton.mp member).symm).elim

/-! ## Tellings -/

/-- Attached plugins that are called in order on an event of a pass, or on being detached, obey the
law: what they are called on is only that, and plugins that they attach. -/
theorem round_grows (pass : event ≠ .attach) {one : Plugin → SessionM Unit}
    (hears : ∀ plugin, Hears Joins plugin event (one plugin)) {plugins : List Plugin}
    (orderly : middle.Orderly) (before : Grows (· = event) session middle)
    (members : ∀ plugin ∈ plugins, middle.Member plugin ∧ Present middle.history plugin)
    (distinct : plugins.Pairwise fun plugin other => plugin.number ≠ other.number) :
    (plugins.forM one middle).2.Orderly ∧
      Grows (· = event) session (plugins.forM one middle).2 := by
  induction plugins generalizing middle with
  | nil => exact ⟨orderly, before⟩
  | cons plugin rest ih =>
    obtain ⟨others, distinct⟩ := List.pairwise_cons.mp distinct
    have later := fun other inside => members other (List.mem_cons_of_mem _ inside)
    change ((one plugin >>= fun _ => rest.forM one) middle).2.Orderly ∧
      Grows _ _ ((one plugin >>= fun _ => rest.forM one) middle).2
    rw [bind_step]
    rcases hears plugin middle with ⟨same, _⟩ | ⟨handles, result, late, joins, ran⟩
    · rcases ran : one plugin middle with ⟨fault | _, after⟩
      · rw [ran] at same
        cases same
        exact ⟨orderly, before⟩
      · rw [ran] at same
        cases same
        exact ih orderly before later distinct
    · obtain ⟨attending, grows⟩ := joins orderly
      obtain ⟨member, present⟩ := members plugin List.mem_cons_self
      have member := member.grows grows
      have allowed : Allowed late.history plugin event :=
        ⟨handles, member.same, fun attach => (pass attach).elim, fun _ => member.attached,
          present_grows present grows id⟩
      have called := attending.recorded allowed member.counted member.alone result
      have whole : Grows (· = event) session (late.recorded [.called plugin event result]) :=
        (before.trans (grows.mono fun _ => False.elim)).recorded (.inl rfl) result
      rw [ran]
      cases result with
      | error fault => exact ⟨called, whole⟩
      | ok _ =>
        refine ih called whole (fun other inside => ?_) distinct
        obtain ⟨known, there⟩ := later other inside
        have apart := others other inside
        refine ⟨(known.grows grows).recorded (fun number => (apart number).elim) event (.ok ()), ?_⟩
        refine (present_grows there grows id).append fun another outcome last => ?_
        cases List.mem_singleton.mp last
        exact apart

/-- Telling the attached plugins of an event keeps the law. -/
theorem tell_grows (pass : event ≠ .attach) {data : Value} {step : List Plugin → SessionM Unit}
    {one : Plugin → SessionM Unit} (hears : ∀ plugin, Hears Joins plugin event (one plugin))
    (each : ∀ plugins, step plugins = plugins.forM one) (attended : session.Attended) :
    ∃ result after, after.Orderly ∧ Grows (· = event) session after ∧
      tell event data step session = (result, after.recorded [.told event data result]) := by
  have orderly := attended.orderly
  obtain ⟨kept, grows⟩ := round_grows pass hears orderly
    (.of_same (Nat.le_refl _) rfl rfl)
    (fun plugin there => ⟨orderly.members plugin there, attended.present plugin there⟩)
    orderly.distinct
  refine ⟨(session.attached.forM one session).1, _, kept, grows, ?_⟩
  rw [tell_step, each]
  rfl

end

/-- The law is still obeyed, and still none of the attached plugins was detached. -/
def Lasts (session after : Session) : Prop := session.Attended → after.Attended

theorem lasts_of_same {session after : Session} (made : after.made = session.made)
    (history : after.history = session.history) (attached : after.attached = session.attached) :
    Lasts session after :=
  fun attended => attended.of_same made history attached

theorem lasts_lenient : Lenient Lasts :=
  .of_steady (fun first second attended => second (first attended)) fun same => by
    obtain ⟨made, history, attached⟩ := same_of_steady same
    exact lasts_of_same made history attached

/-- What keeps the law by attaching plugins leaves none that is detached. -/
theorem lasts_of_joins {α : Type} {step : SessionM α} (joins : Keeps Joins step) :
    Keeps Lasts step := by
  intro session attended
  obtain ⟨orderly, grows⟩ := joins session attended.orderly
  exact attended.grows orderly grows id

/-- Telling the attached plugins of an event of a pass leaves none that is detached. -/
theorem tell_lasts {event : Event} (pass : event ≠ .attach) (stays : event ≠ .detach)
    {data : Value} {step : List Plugin → SessionM Unit} {one : Plugin → SessionM Unit}
    (hears : ∀ plugin, Hears Joins plugin event (one plugin))
    (each : ∀ plugins, step plugins = plugins.forM one) : Keeps Lasts (tell event data step) := by
  intro session attended
  obtain ⟨result, after, orderly, grows, ran⟩ := tell_grows pass hears each attended
  rw [ran]
  exact (attended.grows orderly grows fun same => stays same.symm).uncalled nofun

/-- Telling plugins of an event of a pass, and dealing with their fault. -/
theorem inform_lasts {template : Option String} {event : Event} (pass : event ≠ .attach)
    (stays : event ≠ .detach) {data : Value} {step : List Plugin → SessionM Unit}
    {one : Plugin → SessionM Unit} (hears : ∀ plugin, Hears Joins plugin event (one plugin))
    (each : ∀ plugins, step plugins = plugins.forM one) :
    Keeps Lasts (inform template event data step) := by
  have lenient := lasts_lenient
  refine lenient.bind (tell_lasts pass stays hears each).attempt fun result => ?_
  cases result with
  | ok _ => exact lenient.pure _
  | error fault =>
    refine lenient.bind lenient.get fun session => ?_
    cases session.renderer.options.pluginPolicy with
    | abort => exact lenient.throw _
    | proceed => exact fun _ => lasts_of_same rfl rfl rfl

theorem announce_lasts {event : Event} (member : .event event ∈ Leg.course) (template : String)
    (data : List (String × Value)) : Keeps Lasts (announce event template data) := by
  rw [announce_eq]
  refine inform_lasts ?_ ?_ (fun plugin => joins_lenient.await_hears joins_attending.attachUsed
    plugin event (.ofFields data)) (awaitEach_eq event _)
  · rintro rfl
    exact absurd member (by decide)
  · rintro rfl
    exact absurd member (by decide)

theorem announceFile_lasts (file : DataFile) (key : String) (content : Value) :
    Keeps Lasts (announceFile file key content) := by
  have pass : Event.dataFileLoaded ≠ .attach := by decide
  have stays : Event.dataFileLoaded ≠ .detach := by decide
  rw [announceFile_eq]
  exact inform_lasts pass stays (fun plugin => joins_lenient.call_hears
    joins_attending.attachUsed plugin .dataFileLoaded _) (callEach_eq .dataFileLoaded _)

/-! ## Requests -/

/-- A pass leaves no plugin attached that is detached. -/
theorem lasts_passing : Passing Lasts where
  trans := lasts_lenient.trans
  traveled := fun {session after} same => by
    have made : after.traveled.made = session.traveled.made := by rw [same]
    have history : after.traveled.history = session.traveled.history := by rw [same]
    have attached : after.traveled.attached = session.traveled.attached := by rw [same]
    exact lasts_of_same made history attached
  announced := announce_lasts
  loaded := lasts_lenient.loadFile announceFile_lasts
    (fun file result session attended => attended.uncalled nofun) lasts_lenient.store

/-- No plugin is left that could have been detached when all are forgotten. -/
theorem Orderly.emptied {session after : Session} (orderly : session.Orderly)
    (made : after.made = session.made) (history : after.history = session.history)
    (none : after.attached = []) : after.Attended where
  orderly := {
    lawful := history ▸ orderly.lawful
    counted := history ▸ made ▸ orderly.counted
    members := none ▸ nofun
    distinct := none ▸ .nil }
  present := none ▸ nofun

/-- Either all plugins are detached and forgotten, or none of them is detached. -/
theorem detachAll_lasts : Keeps Lasts detachAll := by
  have pass : Event.detach ≠ .attach := by decide
  intro session attended
  obtain ⟨result, after, orderly, _, ran⟩ := tell_grows pass
    (fun plugin => joins_lenient.call_hears joins_attending.attachUsed plugin .detach .null)
    (callEach_eq .detach .null) attended
  have fired : fire .detach .null session =
      (result, after.recorded [.told .detach .null result]) := ran
  have kept : (after.recorded [.told .detach .null result]).Orderly := orderly.uncalled nofun
  rw [detachAll_eq, bind_step, fired]
  cases result with
  | ok _ => exact kept.emptied rfl rfl rfl
  | error fault => exact ⟨kept, fun plugin _ => present_of_failed _ plugin .null fault⟩

/-- Closing a renderer leaves no plugin attached that is detached. -/
theorem close_lasts : Keeps Lasts close :=
  lasts_lenient.bind detachAll_lasts.discard fun _ _ => lasts_of_same rfl rfl rfl

/-- A renderer that is set up has no plugin attached that is detached. -/
theorem setUp_lasts (options : Options) (plugins : List PluginSource) (group : Option String) :
    Keeps Lasts (setUp options plugins group) := by
  have lenient := lasts_lenient
  have begun : Keeps Lasts (modify fun session => { session with renderer := { options } } :
      SessionM Unit) := fun session attended => attended.orderly.emptied rfl rfl rfl
  have each : Keeps Lasts (plugins.forM fun source => discard (attach source)) := by
    induction plugins with
    | nil => exact lenient.pure _
    | cons source rest ih =>
      exact lenient.bind (lasts_of_joins (joins_attending.attach source .null .null)).discard
        fun _ => ih
  exact lenient.bind begun fun _ => lenient.bind (lenient.prepareEach plugins) fun _ =>
    lenient.bind (lasts_of_joins (joins_attending.loadPlugins _ group)) fun _ =>
      lenient.bind each fun _ => lenient.pure _

end Session

/-- What can be asked of a renderer that was set up. -/
inductive Request where
  | use (source : PluginSource) (settings shared : Value)
  | render (target : RenderTarget) (input : RenderInput)
  | close
  | addHelper (helper : Helper)
  | addTemplate (name : String) (body : Body) (source : Option String)
  | addReader (extension : String) (reader : DataReader)

namespace Session

/-- Does what is asked. -/
def answer : Request → SessionM Unit
  | .use source settings shared => discard (attach source settings shared)
  | .render target input => discard (render target input)
  | .close => close
  | .addHelper helper => addHelper helper
  | .addTemplate name body source => addTemplate name body source
  | .addReader extension reader => addReader extension reader

/-- Does all that is asked, whether or not some of it fails. -/
def serve : List Request → SessionM Unit
  | [] => pure ()
  | request :: rest => do
    discard (attempt (answer request))
    serve rest

/-- Whatever is asked leaves no plugin attached that is detached. -/
theorem answer_lasts (request : Request) : Keeps Lasts (answer request) := by
  cases request with
  | use source settings shared =>
    exact (lasts_of_joins (joins_attending.attach source settings shared)).discard
  | render target input => exact (lasts_passing.render target input).discard
  | close => exact close_lasts
  | addHelper helper => exact lasts_lenient.addHelper helper
  | addTemplate name body source => exact lasts_lenient.addTemplate name body source
  | addReader extension reader => exact lasts_lenient.addReader extension reader

theorem serve_lasts (requests : List Request) : Keeps Lasts (serve requests) := by
  induction requests with
  | nil => exact lasts_lenient.pure _
  | cons request rest ih =>
    exact lasts_lenient.bind (answer_lasts request).attempt.discard fun _ => ih

end Session

/-! ## Lives -/

/-- The events on which the plugin of a number was called, in the order of time. -/
def heardBy (number : Nat) (history : List Happening) : List Event :=
  history.filterMap fun
    | .called plugin event _ => if plugin.number = number then some event else none
    | _ => none

/-- Being attached, events of passes, and being detached at the end, if at all. -/
def IsLife (events : List Event) : Prop :=
  ∃ first passes last, events = first ++ passes ++ last ∧ (first = [] ∨ first = [.attach]) ∧
    (∀ event ∈ passes, event ≠ .attach ∧ event ≠ .detach) ∧ (last = [] ∨ last = [.detach])

/-- An event that comes after others makes a life when it is the first, or when it is not that of
being attached and the plugin was not detached. -/
theorem IsLife.snoc {events : List Event} {event : Event} (life : IsLife events)
    (first : event = .attach → events = []) (present : .detach ∉ events) :
    IsLife (events ++ [event]) := by
  by_cases attach : event = .attach
  · rw [first attach, attach]
    exact ⟨[.attach], [], [], rfl, .inr rfl, nofun, .inl rfl⟩
  · obtain ⟨start, passes, last, rfl, starts, others, rfl | rfl⟩ := life
    · rw [List.append_nil]
      by_cases detach : event = .detach
      · exact ⟨start, passes, [event], rfl, starts, others, .inr (by rw [detach])⟩
      · refine ⟨start, passes ++ [event], [], by simp, starts, fun other member => ?_, .inl rfl⟩
        rcases List.mem_append.mp member with member | member
        · exact others other member
        · rw [List.mem_singleton.mp member]
          exact ⟨attach, detach⟩
    · exact (present (by simp)).elim

theorem mem_heardBy {number : Nat} {history : List Happening} {event : Event}
    (member : event ∈ heardBy number history) :
    ∃ plugin result, .called plugin event result ∈ history ∧ plugin.number = number := by
  obtain ⟨happening, inside, found⟩ := List.mem_filterMap.mp member
  split at found
  · split at found
    · cases found
      exact ⟨_, _, inside, ‹_›⟩
    · cases found
  · cases found

theorem heardBy_called (number : Nat) (history : List Happening) (plugin : Plugin) (event : Event)
    (result : Except Fault Unit) :
    heardBy number (history ++ [.called plugin event result]) =
      heardBy number history ++ if plugin.number = number then [event] else [] := by
  rw [heardBy, List.filterMap_append, ← heardBy]
  by_cases own : plugin.number = number <;> simp [own]

/-- What was lawful is so without the last thing that happened. -/
theorem Lawful.dropLast {history : List Happening} {last : Happening}
    (lawful : Lawful (history ++ [last])) : Lawful history := by
  intro before plugin event result after split
  refine lawful before plugin event result (after ++ [last]) ?_
  rw [split, List.append_assoc, List.cons_append]

/-- As long as no plugin fails when it is detached, what a plugin is called on is a life. -/
theorem Lawful.isLife {history : List Happening} (lawful : Lawful history)
    (fine : ∀ data fault, .told .detach data (.error fault) ∉ history) (number : Nat) :
    IsLife (heardBy number history) := by
  induction history using List.reverseRecOn with
  | nil => exact ⟨[], [], [], rfl, .inl rfl, nofun, .inl rfl⟩
  | append_singleton history last ih =>
    have life := ih lawful.dropLast fun data fault member =>
      fine data fault (List.mem_append_left _ member)
    cases last with
    | told _ _ _ | read _ _ =>
      rw [heardBy, List.filterMap_append, ← heardBy]
      exact (List.append_nil _).symm ▸ life
    | called plugin event result =>
      rw [heardBy_called]
      by_cases own : plugin.number = number
      · have allowed := lawful history plugin event result [] rfl
        rw [if_pos own]
        refine life.snoc (fun attach => ?_) fun detached => ?_
        · refine List.eq_nil_iff_forall_not_mem.mpr fun other member => ?_
          obtain ⟨earlier, outcome, called, same⟩ := mem_heardBy member
          exact allowed.first attach earlier other outcome called (same.trans own.symm)
        · obtain ⟨earlier, outcome, called, same⟩ := mem_heardBy detached
          obtain ⟨before, after, split⟩ := List.append_of_mem called
          obtain ⟨data, fault, failed⟩ :=
            allowed.present before earlier outcome after split (same.trans own.symm)
          refine fine data fault (List.mem_append_left _ ?_)
          rw [split]
          exact List.mem_append_right _ (List.mem_cons_of_mem _ failed)
      · rw [if_neg own, List.append_nil]
        exact life

open Session

/-- Whatever is asked of a renderer after it was set up, and whether or not it fails, a plugin is
called only on events that it handles, on being attached before anything else and only once, and
on other events only if being attached succeeded. After it was called on being detached it is
called again only if a plugin failed when they were told of that. So, as long as none fails then,
the events on which a plugin is called are that of being attached, events of passes, and at most
once, at the end, that of being detached. -/
theorem attachments_lawful (files : FileTree) (library : ModuleLibrary)
    (installed : Table (List (String × String))) (options : Options) (plugins : List PluginSource)
    (group : Option String) (requests : List Request) :
    let begun : Session := { files, library, installed }
    let session := (serve requests (setUp options plugins group begun).2).2
    Lawful session.history ∧
      ((∀ data fault, .told .detach data (.error fault) ∉ session.history) →
        ∀ number, IsLife (heardBy number session.history)) := by
  intro begun session
  have fresh : begun.Attended := ⟨⟨lawful_nil, nofun, nofun, .nil⟩, nofun⟩
  have attended : session.Attended :=
    serve_lasts requests _ (setUp_lasts options plugins group begun fresh)
  exact ⟨attended.orderly.lawful, attended.orderly.lawful.isLife⟩

/-- A blueprint of a plugin that handles being detached. -/
def detachable (name : String) (statements : List PluginStatement) : Blueprint :=
  { (default : Blueprint) with
    name := .given (.text name)
    listsHandlers := true
    handlers := [(Event.detach.name, .scripted false statements)] }

/-- When the second of two plugins fails as it is detached, the first is told of it twice. -/
example :
    let plugins : List PluginSource := [.blueprint (detachable "first" []),
      .blueprint (detachable "second" [.raise (.raised .value "boom")])]
    heardBy 0 (serve [.close, .close] (setUp {} plugins none {}).2).2.history =
      [.detach, .detach] := by
  decide +kernel

end TemplateStream
