import TemplateStream.Proofs.Declaring

/-!
# The order in which plugins are told of an event

Plugins are told of an event in turns. The plugins whose turn comes are those that were attached
when the telling began and that declare a script for the event, in the order in which they were
attached; each turn begins in the session that the turn before it left, and the first one that fails
is the last. This does not depend on what the scripts do to the roster meanwhile: a plugin that
they attach is not told, and one that they detach still is.
-/

namespace TemplateStream

/-- One turn of a telling: a plugin that was called, and what came of it. -/
structure Turn where
  plugin : Plugin
  before : Session
  result : Except Fault Unit
  after : Session

/-- The call of a plugin on an event that was remembered, and what came of it. -/
def Happening.calledOn? (event : Event) : Happening → Option (Plugin × Except Fault Unit)
  | .called plugin other result => if other = event then some (plugin, result) else none
  | _ => none

namespace Session

/-- Tells one plugin of an event, and waits for it or not. -/
def tellOne (attach : AttachSource) (waits : Bool) (event : Event) (data : Value)
    (plugin : Plugin) : SessionM Unit :=
  if waits then await attach plugin event data else call attach plugin event data

/-- Tells the plugins that are attached of an event, and waits for each of them or for none. What
their scripts attach, or do else to the session, is done as given. -/
def telling (attach : AttachSource) (waits : Bool) (event : Event) (data : Value) :
    SessionM Unit :=
  tell event data fun plugins => plugins.forM (tellOne attach waits event data)

/-- An event that cannot wait is told without waiting. -/
theorem fire_eq (event : Event) (data : Value) :
    fire event data = telling attachUsed false event data :=
  congrArg (tell event data) (funext (callEach_eq event data))

/-- An event that is dispatched is told with waiting. -/
theorem dispatch_eq (event : Event) (data : Value) :
    dispatch event data = telling attachUsed true event data :=
  congrArg (tell event data) (funext (awaitEach_eq event data))

/-- What a plugin does with its script in its turn: it logs the event and runs the statements to
their end, but for a deferred script that nobody waits for, which fails the turn. Whoever waits does
so in a coroutine. -/
def takeTurn (attach : AttachSource) (waits : Bool) (event : Event)
    (entries : List (Value × Value)) (plugin : Plugin) (script : EventScript) : SessionM Unit :=
  if waits then inCoroutine (runScript attach plugin event entries script)
  else if script.deferred then throw (.plugin (.awaitable plugin.name event))
  else runScript attach plugin event entries script

/-- A turn is taken with the script that the plugin declares for the event, and remembered. -/
def Taken (attach : AttachSource) (waits : Bool) (event : Event)
    (entries : List (Value × Value)) (turn : Turn) : Prop :=
  ∃ script left, turn.plugin.blueprint.declared event = some script ∧
    takeTurn attach waits event entries turn.plugin script turn.before = (turn.result, left) ∧
    turn.after = left.recorded [.called turn.plugin event turn.result]

/-- Turns follow each other from one session to another: each begins where the one before ended. -/
def Follow : Session → List Turn → Session → Prop
  | session, [], last => last = session
  | session, turn :: rest, last => turn.before = session ∧ Follow turn.after rest last

/-- How the turns of some plugins end: all of them were taken and succeeded, or the last one that
was taken failed as the first of them, with the fault that comes of it all. -/
def Concludes (plugins : List Plugin) (turns : List Turn) : Except Fault Unit → Prop
  | .ok () => turns.map Turn.plugin = plugins ∧ ∀ turn ∈ turns, turn.result = .ok ()
  | .error fault => turns.map Turn.plugin <+: plugins ∧ ∃ front last, turns = front ++ [last] ∧
      (∀ turn ∈ front, turn.result = .ok ()) ∧ last.result = .error fault

section turns

variable {attach : AttachSource} {waits : Bool} {event : Event} {data : Value}
  {entries : List (Value × Value)} {plugin : Plugin} {session : Session}

/-- A plugin without a script for an event is passed over. -/
theorem turn_silent (unheard : plugin.script? event = none) :
    tellOne attach waits event data plugin session = (.ok (), session) := by
  cases waits with
  | true =>
    show await attach plugin event data session = _
    rw [await, unheard]
    rfl
  | false =>
    show call attach plugin event data session = _
    rw [call, unheard]
    rfl

/-- A plugin with a script for an event takes its turn, which is remembered. -/
theorem turn_taken (readable : data.optionalEntries = .ok entries) {script : EventScript}
    (found : plugin.script? event = some script) {result : Except Fault Unit} {left : Session}
    (ran : takeTurn attach waits event entries plugin script session = (result, left)) :
    tellOne attach waits event data plugin session =
      (result, left.recorded [.called plugin event result]) := by
  have remembers {step : SessionM Unit} (ran : step session = (result, left)) :
      remembered plugin event step session =
        (result, left.recorded [.called plugin event result]) := by
    simp only [remembered, bind_step, attempt_step, happen, modify_step, liftExcept_step, recorded,
      ran]
  cases waits with
  | true =>
    have called : await attach plugin event data =
        remembered plugin event (inCoroutine (runScript attach plugin event entries script)) := by
      rw [await, found, readable]
      rfl
    show await attach plugin event data session = _
    rw [called]
    exact remembers ran
  | false =>
    have called : call attach plugin event data = remembered plugin event
        (if script.deferred then throw (.plugin (.awaitable plugin.name event))
          else runScript attach plugin event entries script) := by
      rw [call, found, readable]
      rfl
    show call attach plugin event data session = _
    rw [called]
    exact remembers ran

/-- Plugins that are asked in order take their turns in order, up to the first that fails. -/
theorem turns_taken (readable : data.optionalEntries = .ok entries) {plugins : List Plugin}
    (declares : ∀ plugin ∈ plugins, plugin.Declares) (session : Session) :
    ∃ turns result last,
      plugins.forM (tellOne attach waits event data) session = (result, last) ∧
      Follow session turns last ∧ (∀ turn ∈ turns, Taken attach waits event entries turn) ∧
      Concludes (plugins.filter fun plugin => (plugin.blueprint.declared event).isSome) turns
        result := by
  induction plugins generalizing session with
  | nil => exact ⟨[], .ok (), session, rfl, rfl, List.forall_mem_nil _, rfl, List.forall_mem_nil _⟩
  | cons plugin rest ih =>
    obtain ⟨declared, others⟩ := List.forall_mem_cons.mp declares
    have first : (plugin :: rest).forM (tellOne attach waits event data) = (do
        tellOne attach waits event data plugin
        rest.forM (tellOne attach waits event data)) := rfl
    rw [first, bind_step]
    cases found : plugin.script? event with
    | none =>
      have silent := @turn_silent attach waits event data plugin session found
      rw [silent]
      have passed : (plugin.blueprint.declared event).isSome = false := by
        rw [← declared event, found]
        rfl
      rw [List.filter_cons_of_neg (by rw [passed]; exact Bool.false_ne_true)]
      exact ih others session
    | some script =>
      have called : plugin.blueprint.declared event = some script :=
        (declared event).symm.trans found
      rw [List.filter_cons_of_pos (by rw [called]; rfl)]
      rcases ran : takeTurn attach waits event entries plugin script session with ⟨result, left⟩
      let turn : Turn :=
        ⟨plugin, session, result, left.recorded [.called plugin event result]⟩
      have own : Taken attach waits event entries turn := ⟨script, left, called, ran, rfl⟩
      rw [turn_taken readable found ran]
      cases result with
      | error fault =>
        have alone : [turn].map Turn.plugin <+:
            plugin :: rest.filter fun plugin => (plugin.blueprint.declared event).isSome :=
          List.cons_prefix_cons.mpr ⟨rfl, List.nil_prefix⟩
        have follow : Follow session [turn] turn.after := ⟨rfl, rfl⟩
        exact ⟨[turn], .error fault, turn.after, rfl, follow, List.forall_mem_singleton.mpr own,
          alone, [], turn, rfl, List.forall_mem_nil _, rfl⟩
      | ok _ =>
        obtain ⟨turns, result, last, ranOn, follow, all, concludes⟩ := ih others turn.after
        refine ⟨turn :: turns, result, last, ranOn, ⟨rfl, follow⟩,
          List.forall_mem_cons.mpr ⟨own, all⟩, ?_⟩
        cases result with
        | ok _ =>
          obtain ⟨same, fine⟩ := concludes
          exact ⟨congrArg (plugin :: ·) same, List.forall_mem_cons.mpr ⟨rfl, fine⟩⟩
        | error fault =>
          obtain ⟨within, front, final, rfl, fine, failed⟩ := concludes
          exact ⟨List.cons_prefix_cons.mpr ⟨rfl, within⟩, turn :: front, final, rfl,
            List.forall_mem_cons.mpr ⟨rfl, fine⟩, failed⟩

end turns

/-! ## The calls that are remembered -/

/-- No plugin is called on an event between two sessions. -/
def Uncalled (event : Event) (session after : Session) : Prop :=
  ∃ news, after.history = session.history ++ news ∧
    news.filterMap (Happening.calledOn? event) = []

section calls

variable {attach : AttachSource} {waits : Bool} {event : Event} {entries : List (Value × Value)}
  {session after last : Session}

theorem Uncalled.of_history (same : after.history = session.history) :
    Uncalled event session after :=
  ⟨[], by rw [same, List.append_nil], rfl⟩

theorem Uncalled.trans {middle : Session} (first : Uncalled event session middle)
    (second : Uncalled event middle after) : Uncalled event session after := by
  obtain ⟨news, history, none⟩ := first
  obtain ⟨later, historyOn, noneOn⟩ := second
  refine ⟨news ++ later, by rw [historyOn, history, List.append_assoc], ?_⟩
  rw [List.filterMap_append, none, noneOn]
  rfl

theorem uncalled_lenient (event : Event) : Lenient (Uncalled event) :=
  .of_steady Uncalled.trans fun same => .of_history (same_of_steady same).2.1

/-- What scripts attach, to any depth, is called on being attached and on nothing else. -/
theorem attachUsed_uncalled (other : event ≠ .attach) (source : PluginSource) :
    Keeps (Uncalled event) (attachUsed source) := by
  have attending : Attending (Uncalled event) := by
    refine (uncalled_lenient event).attending (fun _ => .of_history rfl) (fun plugin result => ?_)
      fun _ _ => .of_history rfl
    intro session
    refine ⟨[.called plugin .attach result], rfl, ?_⟩
    have apart : Happening.calledOn? event (.called plugin .attach result) = none :=
      if_neg other.symm
    rw [List.filterMap_cons, apart]
    rfl
  exact attending.attachUsed source

/-- In a turn nothing else is called on the event when what scripts attach is not. -/
theorem Taken.calls {turn : Turn} (quiet : ∀ source, Keeps (Uncalled event) (attach source))
    (taken : Taken attach waits event entries turn) :
    ∃ news, turn.after.history = turn.before.history ++ news ∧
      news.filterMap (Happening.calledOn? event) = [(turn.plugin, turn.result)] := by
  obtain ⟨script, left, _, ran, after⟩ := taken
  have lenient := uncalled_lenient event
  have keeps : Keeps (Uncalled event)
      (takeTurn attach waits event entries turn.plugin script) := by
    have runs := lenient.runScript quiet turn.plugin event entries script
    unfold takeTurn
    split
    · exact keeps_inCoroutine runs
    · split
      · exact lenient.throw _
      · exact runs
  obtain ⟨news, history, none⟩ := keeps.after ran
  refine ⟨news ++ [.called turn.plugin event turn.result], ?_, ?_⟩
  · rw [after, recorded, history, List.append_assoc]
  · have own : Happening.calledOn? event (.called turn.plugin event turn.result) =
        some (turn.plugin, turn.result) := if_pos rfl
    rw [List.filterMap_append, none, List.filterMap_cons, own]
    rfl

/-- Over turns that follow each other only they are called on the event. -/
theorem Follow.calls (quiet : ∀ source, Keeps (Uncalled event) (attach source))
    {turns : List Turn} (follow : Follow session turns last)
    (taken : ∀ turn ∈ turns, Taken attach waits event entries turn) :
    ∃ news, last.history = session.history ++ news ∧
      news.filterMap (Happening.calledOn? event) =
        turns.map fun turn => (turn.plugin, turn.result) := by
  induction turns generalizing session with
  | nil =>
    obtain rfl : last = session := follow
    exact ⟨[], (List.append_nil _).symm, rfl⟩
  | cons turn rest ih =>
    obtain ⟨own, others⟩ := List.forall_mem_cons.mp taken
    obtain ⟨rfl, followOn⟩ := follow
    obtain ⟨news, history, first⟩ := own.calls quiet
    obtain ⟨later, historyOn, rest⟩ := ih followOn others
    refine ⟨news ++ later, by rw [historyOn, history, List.append_assoc], ?_⟩
    rw [List.filterMap_append, first, rest]
    rfl

end calls

end Session

open Session

/-- Whatever the scripts of plugins do to the session when they are told of an event, those that are
called on it are the ones that were attached when the telling began and that declare a script for
it, in the order in which they were attached, each after the one before it is done with its script,
up to the first that fails, whose fault comes of it all. A deferred script is run to its end when
it is waited for, and fails when it is not. No other plugin is called on the event, if it is not
that of being attached, by what scripts attach. -/
theorem told_in_turns (attach : AttachSource) (waits : Bool) (event : Event) {data : Value}
    {entries : List (Value × Value)} (readable : data.optionalEntries = .ok entries)
    {session : Session} (declared : session.Declared) :
    (fire event data = telling attachUsed false event data ∧
      dispatch event data = telling attachUsed true event data ∧
      (event ≠ .attach → ∀ source, Keeps (Uncalled event) (attachUsed source))) ∧
    ∃ turns result last,
      telling attach waits event data session = (result, last.recorded [.told event data result]) ∧
      Follow session turns last ∧ (∀ turn ∈ turns, Taken attach waits event entries turn) ∧
      Concludes
        (session.attached.filter fun plugin => (plugin.blueprint.declared event).isSome) turns
        result ∧
      ((∀ source, Keeps (Uncalled event) (attach source)) →
        ∃ news, last.history = session.history ++ news ∧
          news.filterMap (Happening.calledOn? event) =
            turns.map fun turn => (turn.plugin, turn.result)) := by
  refine ⟨⟨fire_eq event data, dispatch_eq event data, attachUsed_uncalled⟩, ?_⟩
  obtain ⟨turns, result, last, ran, follow, taken, concludes⟩ :=
    @turns_taken attach waits event data entries readable session.attached declared session
  refine ⟨turns, result, last, ?_, follow, taken, concludes, fun quiet => follow.calls quiet taken⟩
  have told : telling attach waits event data session =
      let ran := session.attached.forM (tellOne attach waits event data) session
      (ran.1, ran.2.recorded [.told event data ran.1]) := tell_step event data _ session
  rw [told, ran]

/-- A way to attach plugins by which nothing detaches all plugins. -/
def clearing : AttachSource
  | .absent => discard (detachAll true)
  | source => attachUsed source

/-- A blueprint that lists one handler. -/
def listing (name : String) (event : Event) (deferred : Bool)
    (statements : List PluginStatement) : Blueprint :=
  { (default : Blueprint) with
    name := .given (.text name)
    listsHandlers := true
    handlers := [(event.name, .scripted deferred statements)] }

/-- The additions of a plugin that detaches all and attaches another one when it is told of the
beginning of a pass, of one that is not told of that, of one that fails then, and of one more. -/
def unrulyAdditions : List RosterRequest :=
  let late : Blueprint := listing "late" .beforeRender false []
  [.add (.blueprint (listing "clearing" .beforeRender false [.use .absent, .use (.blueprint late)]))
      .null .null,
    .add (.blueprint (listing "deaf" .afterRender false [])) .null .null,
    .add (.blueprint { listing "failing" .beforeRender false [.raise (.raised .value "boom")] with
      listsHandlers := false }) .null .null,
    .add (.blueprint (listing "waiting" .beforeRender true [])) .null .null]

/-- The session in which those plugins are attached. -/
def unruly : Session := (manageAll unrulyAdditions {}).2

/-- The first of them is called, and then the third, although all were detached meanwhile and
another one was attached. The fourth is not called, nor is that one. -/
theorem told_in_turns_unruly :
    let told := telling clearing true .beforeRender .null unruly
    Value.optionalEntries .null = .ok [] ∧ unruly.Declared ∧
      unruly.renderer.roster.names = ["clearing", "deaf", "failing", "waiting"] ∧
      told.2.renderer.roster.names = ["late"] ∧
      (told.2.history.filterMap (Happening.calledOn? .beforeRender)).map (fun call => call.1.name) =
        ["clearing", "failing"] ∧
      ∃ turns result last,
        told = (result, last.recorded [.told .beforeRender .null result]) ∧
        Follow unruly turns last ∧
        (∀ turn ∈ turns, Taken clearing true .beforeRender [] turn) ∧
        Concludes
          (unruly.attached.filter fun plugin =>
            (plugin.blueprint.declared .beforeRender).isSome) turns result := by
  intro told
  have declared : unruly.Declared :=
    manageAll_declared unrulyAdditions {} fun _ member => nomatch member
  obtain ⟨_, turns, result, last, ran, follow, taken, concludes, _⟩ :=
    @told_in_turns clearing true .beforeRender .null [] rfl unruly declared
  exact ⟨rfl, declared, by decide +kernel, by decide +kernel, by decide +kernel, turns, result,
    last, ran, follow, taken, concludes⟩

end TemplateStream
