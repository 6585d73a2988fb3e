import TemplateStream.Proofs.Addressing
import TemplateStream.Proofs.Descriptions

/-!
# Attaching one plugin

A plugin that attaches no others in being attached is attached as a whole or not at all. If that
fails, at whichever point, the roster holds the plugins that it held and no later event reaches the
plugin that was turned away. If it succeeds, one plugin stands behind the others, and it was called
once on being attached if it has a script for that.
-/

namespace TemplateStream

namespace Session

/-! ## What attaching one plugin comes to -/

/-- The call on being attached of a plugin that has a script for it. -/
def attachCalls (plugin : Plugin) : List Happening :=
  if plugin.handles .attach then [.called plugin .attach (.ok ())] else []

/-- One plugin was made, was called on being attached if it has a script for that, and stands behind
the others. -/
structure Gained (session : Session) (plugin : Plugin) (after : Session) : Prop where
  entries : after.renderer.roster.plugins.entries =
    session.renderer.roster.plugins.entries ++ [(plugin.name, plugin)]
  number : plugin.number = session.made
  made : after.made = session.made + 1
  history : after.history = session.history ++ attachCalls plugin

/-- The roster holds the plugins that it held. At most one was made, and if it was called then on
being attached, which failed. -/
structure Spurned (session : Session) (fault : Fault) (after : Session) : Prop where
  plugins : after.renderer.roster.plugins = session.renderer.roster.plugins
  made : session.made ≤ after.made
  history : after.history = session.history ∨ ∃ plugin : Plugin, plugin.number = session.made ∧
    after.made = session.made + 1 ∧
    after.history = session.history ++ [.called plugin .attach (.error fault)]

/-- Nothing changed but what scripts may change, and that was not what modules hold. -/
structure Idle (session after : Session) : Prop where
  steady : after.steady = session.steady
  contents : after.library.contents = session.library.contents

section

variable {session middle after : Session} {plugin : Plugin} {fault : Fault}
  {attach : AttachSource}

theorem Spurned.of_steady (same : after.steady = session.steady) (fault : Fault) :
    Spurned session fault after where
  plugins := plugins_of_steady same
  made := Nat.le_of_eq (same_of_steady same).1.symm
  history := .inl (same_of_steady same).2.1

/-- What left the plugins alone may come first. -/
theorem Spurned.before (same : middle.steady = session.steady)
    (spurned : Spurned middle fault after) : Spurned session fault after := by
  obtain ⟨made, history, _⟩ := same_of_steady same
  refine ⟨spurned.plugins.trans (plugins_of_steady same), made ▸ spurned.made, ?_⟩
  rw [← made, ← history]
  exact spurned.history

theorem Gained.before (same : middle.steady = session.steady)
    (gained : Gained middle plugin after) : Gained session plugin after := by
  obtain ⟨made, history, _⟩ := same_of_steady same
  refine ⟨?_, gained.number.trans made, gained.made.trans (congrArg (· + 1) made), ?_⟩
  · rw [gained.entries, plugins_of_steady same]
  · rw [gained.history, history]

theorem idle_importing : Importing Idle where
  trans first second :=
    ⟨second.steady.trans first.steady, second.contents.trans first.contents⟩
  unloaded := by
    intro session after same
    have steady : after.unloaded.steady = session.unloaded.steady := by rw [same]
    have contents : after.unloaded.library.contents = session.unloaded.library.contents := by
      rw [same]
    exact ⟨steady, contents⟩

/-! ## Scripts that attach nothing -/

/-- A script that attaches nothing does not depend on how that is done. -/
theorem runStatements_alone {script : List PluginStatement}
    (none : ∀ statement ∈ script, statement.uses = false) (attach other : AttachSource)
    (plugin : Plugin) (data : List (Value × Value)) :
    runStatements attach plugin data script = runStatements other plugin data script := by
  induction script with
  | nil => rfl
  | cons first rest ih =>
    obtain ⟨own, others⟩ := List.forall_mem_cons.mp none
    have same : runStatement attach plugin data first = runStatement other plugin data first := by
      cases first with
      | use source => cases own
      | _ => rfl
    rw [runStatements, runStatements, same, ih others]

/-- A plugin that attaches nothing is called on being attached in the same way however that would be
done. -/
theorem call_alone (declares : plugin.Declares) (alone : plugin.blueprint.Alone)
    (attach other : AttachSource) (data : Value) :
    call attach plugin .attach data = call other plugin .attach data := by
  unfold call
  split
  · rfl
  · rename_i script found
    have none := alone script ((declares .attach).symm.trans found)
    simp only [runScript, runStatements_alone none attach other]

/-- Calling a plugin that attaches nothing leaves the others alone. The call is remembered if the
plugin has a script for it. -/
theorem call_hears_alone (declares : plugin.Declares) (alone : plugin.blueprint.Alone)
    (data : Value) :
    Hears (fun session after => after.steady = session.steady) plugin .attach
      (call attach plugin .attach data) := by
  have lenient : Lenient fun session after : Session => after.steady = session.steady :=
    .of_steady (fun first second => second.trans first) id
  rw [call_alone declares alone attach fun _ => throw .tooDeep]
  exact lenient.call_hears (fun _ => lenient.throw _) plugin .attach data

/-! ## One plugin -/

/-- A plugin is made of a blueprint and attached behind the others, or the roster is as it was. -/
theorem attachFactory_alone {blueprint : Blueprint} (alone : blueprint.Alone)
    (own : List (Value × Value)) (session : Session) :
    (∃ fault after,
        attachFactory attach own (.blueprint blueprint) session = (.error fault, after) ∧
        Spurned session fault after) ∨
      ∃ plugin after, attachFactory attach own (.blueprint blueprint) session =
          (.ok plugin.name, after) ∧
        Gained session plugin after ∧ plugin.blueprint = blueprint ∧ plugin.Declares := by
  rw [attachFactory_step, bind_step]
  rcases making : construct blueprint (session.renderer.roster.resolve own) session with
    ⟨fault | plugin, counted⟩
  · rcases construct_cases blueprint (session.renderer.roster.resolve own) session with
      ⟨_, _, failed, same⟩ | ⟨_, _, made, _⟩
    · rw [making] at failed
      cases failed
      exact .inl ⟨fault, counted, rfl, .of_steady same fault⟩
    · rw [making] at made
      cases made
  · have made := construct_made making
    have kind := made.kind
    have number := made.number
    have left := made.left
    subst kind left
    dsimp only
    rw [bind_step]
    have joins {late : Session}
        (plugins : late.renderer.roster.plugins = session.renderer.roster.plugins) :
        (late.joined plugin).renderer.roster.plugins.entries =
          session.renderer.roster.plugins.entries ++ [(plugin.name, plugin)] := by
      have free : late.stored? plugin.name = none := by
        rw [stored?, plugins]
        exact made.free
      rw [← plugins]
      exact (gains_joined free).entries
    rcases @call_hears_alone plugin attach made.declares alone .null _ with
      ⟨same, silent⟩ | ⟨handles, result, late, same, ran⟩
    · rcases calling : call attach plugin .attach .null _ with ⟨fault | _, late⟩
      · rw [calling] at same
        cases same
        exact .inl ⟨fault, _, rfl, rfl, Nat.le_succ _, .inl rfl⟩
      · rw [calling] at same silent
        cases same
        have calls : attachCalls plugin = [] := by
          rw [attachCalls, silent rfl]
          rfl
        refine .inr ⟨plugin, _, rfl, ⟨joins rfl, number, rfl, ?_⟩, rfl, made.declares⟩
        rw [calls, List.append_nil]
    · obtain ⟨counts, history, _⟩ := same_of_steady same
      have plugins := plugins_of_steady same
      rw [ran]
      cases result with
      | error fault =>
        exact .inl ⟨fault, _, rfl, plugins, counts ▸ Nat.le_succ _,
          .inr ⟨plugin, number, counts, congrArg (· ++ _) history⟩⟩
      | ok _ =>
        have calls : attachCalls plugin = [.called plugin .attach (.ok ())] := by
          rw [attachCalls, handles]
          rfl
        refine .inr ⟨plugin, _, rfl, ⟨joins plugins, number, counts, ?_⟩, rfl, made.declares⟩
        rw [calls]
        exact congrArg (· ++ _) history

/-- A step attaches one plugin of a kind behind the others and gives its name, or leaves the roster
as it was. That takes plugins of that kind that attach no others. -/
def Whole (leads : Table ModuleContent → Blueprint → Prop) (step : SessionM (List String)) : Prop :=
  ∀ session : Session,
    (∀ blueprint, leads session.library.contents blueprint → blueprint.Alone) →
    (∃ fault after, step session = (.error fault, after) ∧ Spurned session fault after) ∨
      ∃ plugin after, step session = (.ok [plugin.name], after) ∧ Gained session plugin after ∧
        leads session.library.contents plugin.blueprint ∧ plugin.Declares

namespace Whole

variable {leads : Table ModuleContent → Blueprint → Prop} {α : Type}

theorem throw (fault : Fault) : Whole leads (throw fault) :=
  fun session _ => .inl ⟨fault, session, rfl, .of_steady rfl fault⟩

/-- What leaves the plugins and what modules hold alone may come first. -/
theorem bind {first : SessionM α} {next : α → SessionM (List String)} (idle : Keeps Idle first)
    (whole : ∀ value, Whole leads (next value)) : Whole leads (first >>= next) := by
  intro session alone
  have same := idle session
  rw [bind_step]
  rcases ran : first session with ⟨fault | value, middle⟩
  · rw [ran] at same
    exact .inl ⟨fault, middle, rfl, .of_steady same.steady fault⟩
  · rw [ran] at same
    rw [← same.contents] at alone ⊢
    rcases whole value middle alone with
      ⟨fault, after, failed, spurned⟩ | ⟨plugin, after, done, gained, kind⟩
    · exact .inl ⟨fault, after, failed, spurned.before same.steady⟩
    · exact .inr ⟨plugin, after, done, gained.before same.steady, kind⟩

end Whole

/-- Attaching a leaf attaches one plugin, or none. -/
theorem attachLeaf_whole (call : List (Value × Value)) (leaf : Leaf) :
    Whole leaf.origin.LeadsTo (do pure [← attachLeaf attach call leaf]) := by
  intro session alone
  have idle : Idle session (findFactory leaf.origin session).2 := by
    have importing := idle_importing
    cases leaf.origin with
    | blueprint blueprint => exact importing.refl session
    | target path => exact importing.factoryAt path session
    | module name => exact importing.factoryOf _ session
    | faulty fault => exact importing.refl session
  rw [bind_step, attachLeaf, bind_step]
  rcases finding : findFactory leaf.origin session with ⟨fault | factory, found⟩
  · rw [finding] at idle
    exact .inl ⟨fault, found, rfl, .of_steady idle.steady fault⟩
  · rw [finding] at idle
    cases factory with
    | registration helpers =>
      exact .inl ⟨registrationFault helpers, found, rfl, .of_steady idle.steady _⟩
    | blueprint blueprint =>
      have leads := findFactory_leads finding
      rcases @attachFactory_alone attach blueprint (alone blueprint leads)
          (leaf.layers.foldr Value.mergeEntries call) found with
        ⟨fault, after, failed, spurned⟩ | ⟨plugin, after, done, gained, kind, declares⟩
      · dsimp only
        rw [failed]
        exact .inl ⟨fault, after, rfl, spurned.before idle.steady⟩
      · dsimp only
        rw [done]
        exact .inr ⟨plugin, after, rfl, gained.before idle.steady, kind ▸ leads, declares⟩

/-- Attaching a source of one leaf with settings attaches one plugin, or none. -/
theorem attach_whole {source : PluginSource} {leaf : Leaf} (single : source.leaves = [leaf])
    (settings shared : Value) :
    Whole leaf.origin.LeadsTo (Session.attach source settings shared) := by
  have importing := idle_importing
  have join : Whole leaf.origin.LeadsTo (do
      attachWith attachUsed (← liftExcept settings.optionalEntries) source) := by
    refine .bind (importing.lift _) fun entries => ?_
    have leaves := @attachWith_eq_mapM attachUsed entries [] source
    rw [← PluginSource.leaves, single, mapM_attachLeaf_singleton] at leaves
    rw [← List.foldr_nil (f := Value.mergeEntries) (b := entries), leaves]
    exact attachLeaf_whole entries leaf
  have share : Keeps Idle (shareSettings shared) :=
    importing.bind (importing.lift _) fun _ _ => ⟨rfl, rfl⟩
  refine .bind (importing.prepare source) fun _ => ?_
  cases source with
  | absent => exact .throw _
  | _ =>
    dsimp only
    split
    · exact .bind share fun _ => join
    · exact join

/-! ## Later events -/

/-- Whoever is called after a plugin was turned away was attached before it came or is made later,
so that a plugin that was made meanwhile is not called again. -/
theorem Spurned.unreached (spurned : Spurned session fault after) (demands : List Demand) :
    ∃ news, (meetAll demands after).2.history = after.history ++ news ∧
      ∀ other event result, .called other event result ∈ news →
        (other ∈ session.attached ∨ after.made ≤ other.number) ∧
        (session.Numbered → other.number < session.made ∨ after.made ≤ other.number) := by
  have attached : after.attached = session.attached := congrArg Table.values spurned.plugins
  obtain ⟨news, history, calls⟩ := (meetAll_familiar demands after).calls
  refine ⟨news, history, fun other event result member => ?_⟩
  have known := calls other event result member
  rw [Knows, attached] at known
  exact ⟨known, fun numbered => known.imp_left (numbered other)⟩

end

end Session

open Session

/-- To attach a source that comes to one plugin is to attach the plugin as a whole or not at all, if
it attaches no others in being attached. When it fails, for whatever fault, the roster holds the
plugins that it held, in the same order and with the same settings and scripts, and whatever is
asked later, no plugin is called but those and the ones that are made after it, so not the one that
was turned away. When it succeeds, exactly one plugin was put behind the others, and if it has a
script for being attached, that was called exactly once. -/
theorem attached_whole_or_not_at_all {source : PluginSource} {leaf : Leaf}
    (single : source.leaves = [leaf]) (settings shared : Value) {session : Session}
    (alone : ∀ blueprint, leaf.origin.LeadsTo session.library.contents blueprint →
      blueprint.Alone) :
    (∃ fault after, Session.attach source settings shared session = (.error fault, after) ∧
        Spurned session fault after ∧
        ∀ demands : List Demand, ∃ news,
          (meetAll demands after).2.history = after.history ++ news ∧
          ∀ other event result, .called other event result ∈ news →
            (other ∈ session.attached ∨ after.made ≤ other.number) ∧
            (session.Numbered → other.number < session.made ∨ after.made ≤ other.number)) ∨
      ∃ plugin after, Session.attach source settings shared session = (.ok [plugin.name], after) ∧
        Gained session plugin after ∧
        leaf.origin.LeadsTo session.library.contents plugin.blueprint ∧ plugin.Declares := by
  rcases attach_whole single settings shared session alone with
    ⟨fault, after, failed, spurned⟩ | gained
  · exact .inl ⟨fault, after, failed, spurned, spurned.unreached⟩
  · exact .inr gained

/-- A blueprint whose plugin notes its settings in being attached and fails then. -/
def vase : Blueprint :=
  { tool "vase" with
    handlers := [(Event.name .attach,
      .scripted false [.logSettings, .raise (.raised .runtime "broken")])] }

/-- A session in which a saw is attached. -/
def shelf : Session := (meetAll [.roster (.add (.blueprint (tool "saw")) .null .null)] {}).2

/-- The vase is called and turned away, the saw stays alone, and the vase hears of nothing later. -/
theorem attached_whole_or_not_at_all_vase :
    let ran := Session.attach (.blueprint vase) .null .null shelf
    shelf.Numbered ∧ ran.2.renderer.roster.names = ["saw"] ∧
      ran.2.history.length = shelf.history.length + 1 ∧ ran.2.made = shelf.made + 1 ∧
      ∃ fault after, ran = (.error fault, after) ∧ Spurned shelf fault after ∧
        ∀ demands : List Demand, ∃ news,
          (meetAll demands after).2.history = after.history ++ news ∧
          ∀ other event result, .called other event result ∈ news →
            (other ∈ shelf.attached ∨ after.made ≤ other.number) ∧
            (shelf.Numbered → other.number < shelf.made ∨ after.made ≤ other.number) := by
  intro ran
  have numbered : shelf.Numbered :=
    (meetAll_familiar [.roster (.add (.blueprint (tool "saw")) .null .null)] {}).numbered nofun
  have failed : ran.1.toOption = none := by decide +kernel
  have alone : vase.Alone := by
    intro script found statement member
    cases found
    rcases List.mem_cons.mp member with rfl | last
    · rfl
    · cases List.mem_singleton.mp last
      rfl
  refine ⟨numbered, by decide +kernel, by decide +kernel, by decide +kernel, ?_⟩
  have attached := @attached_whole_or_not_at_all (.blueprint vase) ⟨.blueprint vase, []⟩ rfl .null
    .null shelf fun _ same => same ▸ alone
  rcases attached with stopped | ⟨plugin, after, done, _⟩
  · exact stopped
  · have ended : ran.1 = .ok [plugin.name] := congrArg Prod.fst done
    rw [ended] at failed
    cases failed

end TemplateStream
