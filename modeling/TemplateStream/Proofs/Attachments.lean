import TemplateStream.Proofs.Onlooking
import TemplateStream.Proofs.Tables

/-!
# The life of an attached plugin

A plugin is called for being attached before anything else, then on the events of passes, then for
being detached. After that it is not called any more if all plugins were detached without a fault.
If one of them fails they all stay attached, and those that were already told of being detached are
called again. The history of a renderer obeys this law whatever its plugins do: it is preserved by
every single call and therefore by all that is asked of the renderer.
-/

namespace TemplateStream

/-! ## Histories that obey the law -/

/-- A list that ends in something, split at an element: it is the last, or comes before the
last. -/
theorem split_concat {α : Type} {list before after : List α} {last element : α}
    (split : list ++ [last] = before ++ element :: after) :
    (after = [] ∧ list = before ∧ last = element) ∨
      ∃ rest, after = rest ++ [last] ∧ list = before ++ element :: rest := by
  rcases List.eq_nil_or_concat after with rfl | ⟨rest, final, rfl⟩
  · obtain ⟨same, final⟩ := List.append_inj' split rfl
    exact .inl ⟨rfl, same, List.singleton_inj.mp final⟩
  · rw [List.concat_eq_append, ← List.cons_append, ← List.append_assoc] at split
    obtain ⟨same, final⟩ := List.append_inj' split rfl
    cases List.singleton_inj.mp final
    exact .inr ⟨rest, List.concat_eq_append, same⟩

/-- A plugin that was called for being detached was told of it in vain since: some plugin
failed. -/
def Present (history : List Happening) (plugin : Plugin) : Prop :=
  ∀ before other result after, history = before ++ .called other .detach result :: after →
    other.number = plugin.number → ∃ data fault, .told .detach data (.error fault) ∈ after

/-- When a plugin may be called on an event, given what happened before: it handles the event, it
was called on being attached before and on nothing before that, and it was not detached. -/
structure Allowed (history : List Happening) (plugin : Plugin) (event : Event) : Prop where
  handles : plugin.handles event = true
  same : ∀ other earlier result, .called other earlier result ∈ history →
    other.number = plugin.number → other = plugin
  first : event = .attach → ∀ other earlier result, .called other earlier result ∈ history →
    other.number ≠ plugin.number
  attached : event ≠ .attach → plugin.handles .attach = true →
    .called plugin .attach (.ok ()) ∈ history
  present : Present history plugin

/-- Whenever a plugin was called it was allowed to be. -/
def Lawful (history : List Happening) : Prop :=
  ∀ before plugin event result after, history = before ++ .called plugin event result :: after →
    Allowed before plugin event

theorem lawful_nil : Lawful [] := by
  intro before plugin event result after split
  cases before <;> cases split

section

variable {history news : List Happening} {plugin : Plugin} {event : Event}

/-- A call that is allowed may follow. -/
theorem Lawful.called (lawful : Lawful history) (allowed : Allowed history plugin event)
    (result : Except Fault Unit) : Lawful (history ++ [.called plugin event result]) := by
  intro before other other_event other_result after split
  rcases split_concat split with ⟨_, rfl, same⟩ | ⟨rest, _, same⟩
  · cases same
    exact allowed
  · exact lawful _ _ _ _ _ same

/-- What is not a call may follow. -/
theorem Lawful.uncalled (lawful : Lawful history) {happening : Happening}
    (uncalled : ∀ plugin event result, happening ≠ .called plugin event result) :
    Lawful (history ++ [happening]) := by
  intro before other event result after split
  rcases split_concat split with ⟨_, _, same⟩ | ⟨rest, _, same⟩
  · exact (uncalled _ _ _ same).elim
  · exact lawful _ _ _ _ _ same

/-- A plugin that was never called is not detached. -/
theorem present_of_uncalled (uncalled : ∀ other event result,
    .called other event result ∈ history → other.number ≠ plugin.number) :
    Present history plugin := by
  rintro before other result after rfl same
  exact (uncalled _ _ _ (List.mem_append_right _ List.mem_cons_self) same).elim

/-- A plugin stays attached when it is not called for being detached. -/
theorem Present.append (present : Present history plugin)
    (stays : ∀ other result, .called other .detach result ∈ news → other.number ≠ plugin.number) :
    Present (history ++ news) plugin := by
  induction news generalizing history with
  | nil =>
    rw [List.append_nil]
    exact present
  | cons happening rest ih =>
    rw [List.append_cons]
    refine ih ?_ fun other result member => stays other result (List.mem_cons_of_mem _ member)
    intro before other result after split same
    rcases split_concat split with ⟨_, _, rfl⟩ | ⟨later, rfl, found⟩
    · exact (stays other result List.mem_cons_self same).elim
    · obtain ⟨data, fault, member⟩ := present before other result later found same
      exact ⟨data, fault, List.mem_append_left _ member⟩

/-- All plugins stay attached when being detached fails. -/
theorem present_of_failed (history : List Happening) (plugin : Plugin) (data : Value)
    (fault : Fault) : Present (history ++ [.told .detach data (.error fault)]) plugin := by
  intro before other result after split _
  rcases split_concat split with ⟨_, _, never⟩ | ⟨rest, rfl, _⟩
  · cases never
  · exact ⟨data, fault, List.mem_append_right _ List.mem_cons_self⟩

end

namespace Session

/-! ## Sessions that obey the law -/

/-- A plugin that was made and attached: it has a number of its own. -/
structure Member (session : Session) (plugin : Plugin) : Prop where
  counted : plugin.number < session.made
  attached : plugin.handles .attach = true →
    .called plugin .attach (.ok ()) ∈ session.history
  same : ∀ other event result, .called other event result ∈ session.history →
    other.number = plugin.number → other = plugin
  alone : ∀ other ∈ session.attached, other.number = plugin.number → other = plugin

/-- The history obeys the law, and the plugins that were called or attached have numbers of their
own. -/
structure Orderly (session : Session) : Prop where
  lawful : Lawful session.history
  counted : ∀ plugin event result, .called plugin event result ∈ session.history →
    plugin.number < session.made
  members : ∀ plugin ∈ session.attached, session.Member plugin
  distinct : session.attached.Pairwise fun plugin other => plugin.number ≠ other.number

/-- What happens between two sessions: plugins are called on certain events, and further plugins
are made and attached. -/
structure Grows (heard : Event → Prop) (session after : Session) : Prop where
  made : session.made ≤ after.made
  news : ∃ news, after.history = session.history ++ news ∧
    ∀ plugin event result, .called plugin event result ∈ news →
      heard event ∨ event = .attach ∧ session.made ≤ plugin.number
  members : ∀ plugin ∈ after.attached, plugin ∈ session.attached ∨ session.made ≤ plugin.number

section

variable {heard : Event → Prop} {session middle after : Session} {plugin : Plugin}

theorem Grows.trans (first : Grows heard session middle) (second : Grows heard middle after) :
    Grows heard session after where
  made := Nat.le_trans first.made second.made
  news := by
    obtain ⟨news, history, calls⟩ := first.news
    obtain ⟨later, historyToo, callsToo⟩ := second.news
    refine ⟨news ++ later, by rw [historyToo, history, List.append_assoc], ?_⟩
    intro plugin event result member
    rcases List.mem_append.mp member with member | member
    · exact calls plugin event result member
    · exact (callsToo plugin event result member).imp_right fun ⟨attach, number⟩ =>
        ⟨attach, Nat.le_trans first.made number⟩
  members := by
    intro plugin member
    rcases second.members plugin member with member | number
    · exact first.members plugin member
    · exact .inr (Nat.le_trans first.made number)

/-- What is expected of some events may be expected of more. -/
theorem Grows.mono {other : Event → Prop} (grows : Grows heard session after)
    (all : ∀ event, heard event → other event) : Grows other session after where
  made := grows.made
  news := by
    obtain ⟨news, history, calls⟩ := grows.news
    exact ⟨news, history, fun plugin event result member =>
      (calls plugin event result member).imp_left (all event)⟩
  members := grows.members

/-- Nothing happens between sessions that agree on the plugins and the history. -/
theorem Grows.of_same (made : session.made ≤ after.made) (history : after.history = session.history)
    (attached : after.attached = session.attached) : Grows heard session after where
  made := made
  news := ⟨[], history.trans (List.append_nil _).symm, nofun⟩
  members := fun _ member => .inl (attached ▸ member)

theorem Orderly.of_same (orderly : session.Orderly) (made : session.made ≤ after.made)
    (history : after.history = session.history) (attached : after.attached = session.attached) :
    after.Orderly where
  lawful := history ▸ orderly.lawful
  counted := fun plugin event result called =>
    Nat.lt_of_lt_of_le (orderly.counted plugin event result (history ▸ called)) made
  members := fun _ member => by
    have known := orderly.members _ (attached ▸ member)
    exact ⟨Nat.lt_of_lt_of_le known.counted made, history ▸ known.attached, history ▸ known.same,
      attached ▸ known.alone⟩
  distinct := attached ▸ orderly.distinct

/-- A plugin stays attached whatever other plugins are attached. -/
theorem Member.grows (member : session.Member plugin)
    (grows : Grows (fun _ => False) session after) : after.Member plugin where
  counted := Nat.lt_of_lt_of_le member.counted grows.made
  attached := by
    obtain ⟨news, history, _⟩ := grows.news
    intro handles
    rw [history]
    exact List.mem_append_left _ (member.attached handles)
  same := by
    obtain ⟨news, history, calls⟩ := grows.news
    intro other event result called number
    rw [history] at called
    rcases List.mem_append.mp called with called | called
    · exact member.same other event result called number
    · obtain ⟨_, above⟩ := (calls other event result called).resolve_left id
      exact absurd (number ▸ above) (Nat.not_le.mpr member.counted)
  alone := by
    intro other there number
    rcases grows.members other there with there | above
    · exact member.alone other there number
    · exact absurd (number ▸ above) (Nat.not_le.mpr member.counted)

end

/-- Attaching plugins keeps the law, and all that happens is that they are attached. -/
def Joins (session after : Session) : Prop :=
  session.Orderly → after.Orderly ∧ Grows (fun _ => False) session after

/-- Sessions that agree less what scripts may change have the same plugins on the roster. -/
theorem plugins_of_steady {session after : Session} (same : after.steady = session.steady) :
    after.renderer.roster.plugins = session.renderer.roster.plugins := by
  have plugins : after.steady.renderer.roster.plugins = session.steady.renderer.roster.plugins := by
    rw [same]
  exact plugins

/-- Sessions that agree less what scripts may change agree on the plugins and the history. -/
theorem same_of_steady {session after : Session} (same : after.steady = session.steady) :
    after.made = session.made ∧ after.history = session.history ∧
      after.attached = session.attached := by
  have made : after.steady.made = session.steady.made := by rw [same]
  have history : after.steady.history = session.steady.history := by rw [same]
  exact ⟨made, history, congrArg Table.values (plugins_of_steady same)⟩

theorem joins_lenient : Lenient Joins := by
  refine .of_steady (fun first second orderly => ?_) fun same orderly => ?_
  · obtain ⟨middle, grows⟩ := first orderly
    obtain ⟨after, more⟩ := second middle
    exact ⟨after, grows.trans more⟩
  · obtain ⟨made, history, attached⟩ := same_of_steady same
    have counted := Nat.le_of_eq made.symm
    exact ⟨orderly.of_same counted history attached, .of_same counted history attached⟩

/-! ## Calls -/

section

variable {heard : Event → Prop} {session middle after : Session} {plugin : Plugin} {event : Event}

/-- A plugin stays attached when it is called, or another one. -/
theorem Member.recorded {called : Plugin} (member : session.Member plugin)
    (same : called.number = plugin.number → called = plugin) (event : Event)
    (result : Except Fault Unit) :
    (session.recorded [.called called event result]).Member plugin where
  counted := member.counted
  attached := fun handles => List.mem_append_left _ (member.attached handles)
  same := by
    intro other earlier outcome inside number
    rcases List.mem_append.mp inside with inside | last
    · exact member.same other earlier outcome inside number
    · cases List.mem_singleton.mp last
      exact same number
  alone := member.alone

/-- A call that is allowed keeps the law. -/
theorem Orderly.recorded (orderly : session.Orderly)
    (allowed : Allowed session.history plugin event) (counted : plugin.number < session.made)
    (alone : ∀ other ∈ session.attached, other.number = plugin.number → other = plugin)
    (result : Except Fault Unit) :
    (session.recorded [.called plugin event result]).Orderly where
  lawful := orderly.lawful.called allowed result
  counted := by
    intro other earlier outcome inside
    rcases List.mem_append.mp inside with inside | last
    · exact orderly.counted other earlier outcome inside
    · cases List.mem_singleton.mp last
      exact counted
  members := fun other inside => (orderly.members other inside).recorded
    (fun number => (alone other inside number.symm).symm) event result
  distinct := orderly.distinct

/-- One more call is one more thing that happens. -/
theorem Grows.recorded (grows : Grows heard session middle)
    (expected : heard event ∨ event = .attach ∧ session.made ≤ plugin.number)
    (result : Except Fault Unit) :
    Grows heard session (middle.recorded [.called plugin event result]) where
  made := grows.made
  news := by
    obtain ⟨news, history, calls⟩ := grows.news
    refine ⟨news ++ [.called plugin event result],
      (congrArg (· ++ _) history).trans (List.append_assoc ..), ?_⟩
    intro other earlier outcome inside
    rcases List.mem_append.mp inside with inside | last
    · exact calls other earlier outcome inside
    · cases List.mem_singleton.mp last
      exact expected
  members := grows.members

/-! ## Attaching -/

/-- A plugin that was made, but was neither called nor attached. -/
structure Fresh (session : Session) (plugin : Plugin) : Prop where
  counted : plugin.number < session.made
  uncalled : ∀ other event result, .called other event result ∈ session.history →
    other.number ≠ plugin.number
  unattached : ∀ other ∈ session.attached, other.number ≠ plugin.number

/-- A plugin that was just made stays so whatever other plugins are attached. -/
theorem Fresh.grows (fresh : session.Fresh plugin)
    (grows : Grows (fun _ => False) session after) : after.Fresh plugin where
  counted := Nat.lt_of_lt_of_le fresh.counted grows.made
  uncalled := by
    obtain ⟨news, history, calls⟩ := grows.news
    intro other event result called number
    rw [history] at called
    rcases List.mem_append.mp called with called | called
    · exact fresh.uncalled other event result called number
    · obtain ⟨_, above⟩ := (calls other event result called).resolve_left id
      exact absurd (number ▸ above) (Nat.not_le.mpr fresh.counted)
  unattached := by
    intro other there number
    rcases grows.members other there with there | above
    · exact fresh.unattached other there number
    · exact absurd (number ▸ above) (Nat.not_le.mpr fresh.counted)

/-- A plugin may be called on being attached when it was just made. -/
theorem Fresh.allowed (fresh : session.Fresh plugin) (handles : plugin.handles .attach = true) :
    Allowed session.history plugin .attach where
  handles := handles
  same := fun other event result inside number =>
    (fresh.uncalled other event result inside number).elim
  first := fun _ => fresh.uncalled
  attached := nofun
  present := present_of_uncalled fresh.uncalled

/-- The session with a further plugin on the roster. -/
def joined (session : Session) (plugin : Plugin) : Session :=
  { session with
    renderer := { session.renderer with roster := session.renderer.roster.attach plugin } }

/-- A plugin that nothing else was called for joins the others. -/
theorem Orderly.join (orderly : session.Orderly) (counted : plugin.number < session.made)
    (attached : plugin.handles .attach = true →
      .called plugin .attach (.ok ()) ∈ session.history)
    (same : ∀ other event result, .called other event result ∈ session.history →
      other.number = plugin.number → other = plugin)
    (unattached : ∀ other ∈ session.attached, other.number ≠ plugin.number) :
    (session.joined plugin).Orderly where
  lawful := orderly.lawful
  counted := orderly.counted
  members := by
    intro other present
    rcases Table.mem_values_insert present with rfl | inside
    · refine ⟨counted, attached, same, fun another there number => ?_⟩
      rcases Table.mem_values_insert there with rfl | there
      · rfl
      · exact (unattached another there number).elim
    · have known := orderly.members other inside
      refine ⟨known.counted, known.attached, known.same, fun another there number => ?_⟩
      rcases Table.mem_values_insert there with rfl | there
      · exact (unattached other inside number.symm).elim
      · exact known.alone another there number
  distinct := Table.pairwise_insert orderly.distinct fun other inside =>
    ⟨unattached other inside, fun number => unattached other inside number.symm⟩

/-- Calling a plugin that was just made on being attached keeps the law. If the call succeeds the
plugin may join the others. -/
theorem Fresh.hears {step : SessionM Unit} (fresh : middle.Fresh plugin)
    (orderly : middle.Orderly) (before : Grows (fun _ => False) session middle)
    (number : session.made ≤ plugin.number) (hears : Hears Joins plugin .attach step) :
    (step middle).2.Orderly ∧ Grows (fun _ => False) session (step middle).2 ∧
      ((step middle).1 = .ok () → ((step middle).2.joined plugin).Orderly) := by
  rcases hears middle with ⟨same, silent⟩ | ⟨handles, result, late, joins, ran⟩
  · rw [same]
    refine ⟨orderly, before, fun done => ?_⟩
    refine orderly.join fresh.counted (fun handles => ?_) (fun other event result inside own => ?_)
      fresh.unattached
    · rw [silent done] at handles
      cases handles
    · exact (fresh.uncalled other event result inside own).elim
  · obtain ⟨later, grows⟩ := joins orderly
    have fresh := fresh.grows grows
    have called := later.recorded (fresh.allowed handles) fresh.counted
      (fun other there own => (fresh.unattached other there own).elim) result
    rw [ran]
    refine ⟨called, (before.trans grows).recorded (.inr ⟨rfl, number⟩) result, fun done => ?_⟩
    obtain rfl : result = .ok () := done
    refine called.join fresh.counted (fun _ => List.mem_append_right _ List.mem_cons_self)
      (fun other event result inside own => ?_) fresh.unattached
    rcases List.mem_append.mp inside with inside | last
    · exact (fresh.uncalled other event result inside own).elim
    · cases List.mem_singleton.mp last
      rfl

/-- A plugin that is made gets a number of its own. -/
theorem Orderly.construct (orderly : session.Orderly) (number : plugin.number = session.made)
    (made : after.made = session.made + 1) (history : after.history = session.history)
    (attached : after.attached = session.attached) :
    after.Orderly ∧ Grows heard session after ∧ after.Fresh plugin := by
  have more : session.made ≤ after.made := made ▸ Nat.le_succ _
  refine ⟨orderly.of_same more history attached, .of_same more history attached, ?_, ?_, ?_⟩
  · omega
  · intro other event result called own
    have counted := orderly.counted other event result (history ▸ called)
    omega
  · intro other there own
    have counted := (orderly.members other (attached ▸ there)).counted
    omega

/-- What attaches plugins keeps the law. -/
theorem joins_attending : Attending Joins where
  toLenient := joins_lenient
  factory := by
    intro attach attached own factory
    cases factory with
    | registration helpers => exact joins_lenient.throw _
    | blueprint blueprint =>
      refine joins_lenient.bind joins_lenient.get fun renderer => ?_
      intro session orderly
      rw [bind_step]
      rcases construct_cases blueprint (renderer.renderer.roster.resolve own) session with
        ⟨fault, after, ran, same⟩ | ⟨plugin, counted, ran, number, same⟩
      · rw [ran]
        exact joins_lenient.steady same orderly
      · obtain ⟨made, history, others⟩ := same_of_steady same
        obtain ⟨constructed, grows, fresh⟩ := orderly.construct number made history others
        obtain ⟨called, grows, join⟩ := fresh.hears constructed grows (Nat.le_of_eq number.symm)
          (joins_lenient.call_hears attached plugin .attach .null)
        rw [ran]
        dsimp only
        rw [bind_step]
        rcases calling : call attach plugin .attach .null counted with ⟨fault | _, late⟩
        · rw [calling] at called grows
          exact ⟨called, grows⟩
        · rw [calling] at grows join
          refine ⟨join rfl, grows.made, grows.news, fun other there => ?_⟩
          rcases Table.mem_values_insert there with rfl | there
          · exact .inr (Nat.le_of_eq number.symm)
          · exact grows.members other there

end

end Session

end TemplateStream
