import TemplateStream.Proofs.Declaring
import TemplateStream.Proofs.Leaves

/-!
# Attaching nested sources

A nested source is attached leaf by leaf. As long as no plugin attaches others in being attached,
each leaf that succeeds puts one plugin behind those on the roster, which has the settings of the
leaf, and a leaf that fails leaves the roster as it was. So a source that is attached puts the
plugins of its leaves on the roster from left to right, and one that fails stops at a leaf: the
plugins of the leaves to the left of it stay, and no others are there.
-/

namespace TemplateStream

/-- Whether a statement attaches further plugins. -/
def PluginStatement.uses : PluginStatement → Bool
  | .use _ => true
  | _ => false

/-- A blueprint whose plugins attach no others in being attached. -/
def Blueprint.Alone (blueprint : Blueprint) : Prop :=
  ∀ script, blueprint.declared .attach = some script →
    ∀ statement ∈ script.statements, statement.uses = false

/-- Modules hold a blueprint as the factory of one of some names. -/
def Holds (contents : Table ModuleContent) (module : String) (names : List String)
    (blueprint : Blueprint) : Prop :=
  ∃ members, contents.get? module = some (.members members) ∧
    ∃ name ∈ names, members.lookup name = some (.factory (.blueprint blueprint))

/-- The names under which a factory is looked for in a module. -/
def namesFor : Option String → List String
  | some name => [name]
  | none => factoryMembers

/-- The blueprints that a leaf can lead to, going by what the modules hold. -/
def Origin.LeadsTo (contents : Table ModuleContent) : Origin → Blueprint → Prop
  | .blueprint own, found => found = own
  | .target path, found =>
    Holds contents (Session.splitTarget path).1 (namesFor (Session.splitTarget path).2) found
  | .module name, found => Holds contents name (namesFor none) found
  | .faulty _, _ => False

namespace Session

/-! ## What leaves the roster alone -/

/-- The roster is as it was, and so is what the modules hold. -/
structure Stands (session after : Session) : Prop where
  roster : after.renderer.roster = session.renderer.roster
  contents : after.library.contents = session.library.contents

theorem Stands.trans {session middle after : Session} (early : Stands session middle)
    (late : Stands middle after) : Stands session after :=
  ⟨late.roster.trans early.roster, late.contents.trans early.contents⟩

section stands

/-- Which modules are loaded has nothing to do with the roster or with what modules hold. -/
theorem stands_importing : Importing Stands where
  trans := Stands.trans
  unloaded := by
    intro session after same
    have roster : after.unloaded.renderer.roster = session.unloaded.renderer.roster := by rw [same]
    have contents : after.unloaded.library.contents = session.unloaded.library.contents := by
      rw [same]
    exact ⟨roster, contents⟩

/-- A change to other things than the roster and what the modules hold. -/
theorem stands_aside {change : Session → Session}
    (aside : ∀ session, Stands session (change session)) :
    Keeps Stands (modify change : SessionM Unit) :=
  aside

theorem stands_findFactory (origin : Origin) : Keeps Stands (findFactory origin) := by
  have importing := stands_importing
  cases origin with
  | blueprint blueprint => exact importing.pure _
  | target path => exact importing.factoryAt path
  | module name => exact importing.factoryOf _
  | faulty fault => exact importing.throw fault

theorem stands_construct (blueprint : Blueprint) (settings : List (Value × Value)) :
    Keeps Stands (construct blueprint settings) := by
  have importing := stands_importing
  refine importing.bind (importing.note _) fun _ => ?_
  cases blueprint.failure with
  | some fault => exact importing.throw fault
  | none =>
    refine importing.bind (importing.lift _) fun name => importing.bind importing.get fun _ => ?_
    refine Keeps.guard (importing.throw _) ?_
    exact importing.bind (importing.lift _) fun _ => importing.bind importing.get fun _ =>
      importing.bind (stands_aside fun _ => ⟨rfl, rfl⟩) fun _ => importing.pure _

variable {attach : AttachSource}

/-- A statement that attaches nothing leaves the roster alone. -/
theorem stands_statement {statement : PluginStatement} (none : statement.uses = false)
    (plugin : Plugin) (data : List (Value × Value)) :
    Keeps Stands (runStatement attach plugin data statement) := by
  have importing := stands_importing
  have updated {change : Renderer → Renderer}
      (same : ∀ renderer, (change renderer).roster = renderer.roster) :
      Keeps Stands (update change) :=
    stands_aside fun session => ⟨same session.renderer, rfl⟩
  cases statement with
  | log entry => exact importing.note entry
  | logData => exact importing.note _
  | logSettings => exact importing.note _
  | set key content => exact updated fun _ => rfl
  | append key content =>
    intro session
    simp only [runStatement, bind_step, get_step, liftExcept_step, Renderer.appended]
    cases (Value.lookup key session.renderer.state).getD (.list []) with
    | list items => exact ⟨rfl, rfl⟩
    | _ => exact importing.refl session
  | raise fault => exact importing.throw fault
  | pause => exact importing.pure _
  | addHelper helper =>
    exact importing.bind importing.get fun _ => importing.bind (importing.lift _) fun _ =>
      updated fun _ => rfl
  | addTemplate name body =>
    exact importing.bind importing.get fun _ => importing.bind (importing.lift _) fun _ =>
      importing.bind (updated fun _ => rfl) fun _ => importing.pure _
  | addReader extension reader =>
    exact importing.bind importing.get fun _ => importing.bind (importing.lift _) fun _ =>
      updated fun _ => rfl
  | store key content => exact updated fun _ => rfl
  | use source => cases none

theorem stands_statements {script : List PluginStatement}
    (none : ∀ statement ∈ script, statement.uses = false) (plugin : Plugin)
    (data : List (Value × Value)) : Keeps Stands (runStatements attach plugin data script) := by
  induction script with
  | nil => exact stands_importing.pure _
  | cons first rest ih =>
    obtain ⟨own, others⟩ := List.forall_mem_cons.mp none
    exact stands_importing.bind (stands_statement own plugin data) fun _ => ih others

/-- A plugin that attaches no others leaves the roster alone when it is called. -/
theorem stands_call {plugin : Plugin} (declares : plugin.Declares) (alone : plugin.blueprint.Alone)
    (data : Value) : Keeps Stands (call attach plugin .attach data) := by
  have importing := stands_importing
  have remembers {step : SessionM Unit} (stands : Keeps Stands step) :
      Keeps Stands (remembered plugin .attach step) :=
    importing.bind stands.attempt fun _ =>
      importing.bind (stands_aside fun _ => ⟨rfl, rfl⟩) fun _ => importing.lift _
  unfold call
  split
  · exact importing.pure _
  · rename_i script found
    have none := alone script ((declares .attach).symm.trans found)
    refine importing.bind (importing.lift _) fun entries => remembers ?_
    split
    · exact importing.throw _
    · exact importing.bind (importing.note _) fun _ => stands_statements none plugin entries

end stands

/-! ## Single leaves -/

/-- A factory that is found in a module is one of those that it holds. -/
theorem factoryIn_holds {library : ModuleLibrary} {module : String} {name : Option String}
    {blueprint : Blueprint} (found : factoryIn library module name = .ok (.blueprint blueprint)) :
    Holds library.contents module (namesFor name) blueprint := by
  unfold factoryIn at found
  dsimp only at found
  split at found
  · cases found
  · split at found
    · rename_i factory first
      cases found
      obtain ⟨member, inside, loaded⟩ := List.exists_of_findSome?_eq_some first
      obtain ⟨holding, looked, called⟩ := Option.bind_eq_some_iff.mp loaded
      cases holding with
      | module inner => cases called
      | member held =>
        cases held with
        | functions _ => cases called
        | value _ => cases called
        | factory _ =>
          cases called
          rw [ModuleLibrary.lookup?] at looked
          split at looked
          · cases looked
          · split at looked
            · rename_i members contents
              obtain ⟨_, listed, same⟩ := Option.map_eq_some_iff.mp looked
              cases same
              exact ⟨members, contents, member, inside, listed⟩
            · cases looked
    · cases found

/-- A blueprint that is found for a leaf is one that it leads to. -/
theorem findFactory_leads {origin : Origin} {blueprint : Blueprint} {session after : Session}
    (found : findFactory origin session = (.ok (.blueprint blueprint), after)) :
    origin.LeadsTo session.library.contents blueprint := by
  cases origin with
  | blueprint own =>
    cases found
    rfl
  | faulty fault => cases found
  | module name =>
    have looked : findFactory (.module name) session =
        (factoryIn session.library name none, session) := by
      rw [findFactory, factoryOf, bind_step, get_step]
      exact liftExcept_step _ _
    rw [looked] at found
    exact factoryIn_holds (Prod.mk.inj found).1
  | target path =>
    have imported := stands_importing.importModule (splitTarget path).1 session
    rcases importing : importModule (splitTarget path).1 session with ⟨fault | _, middle⟩
    all_goals
      simp only [findFactory, factoryAt, bind_step, attempt_step, importing, get_step,
        liftExcept_step] at found
    · cases found
    · rw [importing] at imported
      have holds := factoryIn_holds (Prod.mk.inj found).1
      rwa [imported.contents] at holds

/-- Some plugins were put on the roster behind those that were there. -/
structure Gains (session : Session) (plugins : List Plugin) (after : Session) : Prop where
  entries : after.renderer.roster.plugins.entries =
    session.renderer.roster.plugins.entries ++ plugins.map fun plugin => (plugin.name, plugin)
  settings : after.renderer.roster.settings = session.renderer.roster.settings
  contents : after.library.contents = session.library.contents

theorem Stands.gains {session after : Session} (stands : Stands session after) :
    Gains session [] after where
  entries := by rw [stands.roster, List.map_nil, List.append_nil]
  settings := by rw [stands.roster]
  contents := stands.contents

theorem Gains.append {session middle after : Session} {plugins later : List Plugin}
    (early : Gains session plugins middle) (late : Gains middle later after) :
    Gains session (plugins ++ later) after where
  entries := by rw [late.entries, early.entries, List.map_append, List.append_assoc]
  settings := late.settings.trans early.settings
  contents := late.contents.trans early.contents

/-- A plugin of a name that is free joins the others at the end. -/
theorem gains_joined {session : Session} {plugin : Plugin}
    (free : session.stored? plugin.name = none) :
    Gains session [plugin] (session.joined plugin) where
  entries := by
    have absent : plugin.name ∉ session.renderer.roster.plugins.entries.map Prod.fst := by
      have lacking := Table.not_contains_iff.mpr free
      simpa [Table.contains, Table.keys] using lacking
    exact Table.entries_insert_new absent
  settings := rfl
  contents := rfl

/-- A plugin is what a leaf comes to: it is made of a blueprint that the leaf leads to with the
settings of the leaf, which it is given if it takes any. It reports what being made left of them,
if it reports no others. -/
structure Makes (contents : Table ModuleContent) (common call : List (Value × Value)) (leaf : Leaf)
    (plugin : Plugin) : Prop where
  origin : leaf.origin.LeadsTo contents plugin.blueprint
  given : plugin.given = givenTo plugin.blueprint (leaf.resolved common call)
  report : plugin.report = plugin.blueprint.reported.getD
    (.mapping (plugin.blueprint.kept (leaf.resolved common call)))

section leaves

variable {attach : AttachSource} {call : List (Value × Value)} {session : Session}

/-- A leaf is attached as one plugin behind the others, or leaves the roster alone. -/
theorem attachLeaf_cases {leaf : Leaf} (keyed : Value.Keyed call)
    (common : Value.Keyed session.renderer.roster.settings)
    (layered : ∀ layer ∈ leaf.layers, Value.IsDictionary layer)
    (alone : ∀ blueprint, leaf.origin.LeadsTo session.library.contents blueprint →
      blueprint.Alone) :
    (∃ plugin after, attachLeaf attach call leaf session = (.ok plugin.name, after) ∧
        Makes session.library.contents session.renderer.roster.settings call leaf plugin ∧
        Gains session [plugin] after) ∨
      ∃ fault after, attachLeaf attach call leaf session = (.error fault, after) ∧
        Stands session after := by
  have looked := stands_findFactory leaf.origin session
  rw [attachLeaf, bind_step]
  rcases finding : findFactory leaf.origin session with ⟨fault | factory, found⟩
  · rw [finding] at looked
    exact .inr ⟨fault, found, rfl, looked⟩
  · rw [finding] at looked
    cases factory with
    | registration helpers => exact .inr ⟨registrationFault helpers, found, rfl, looked⟩
    | blueprint blueprint =>
      have leads := findFactory_leads finding
      have resolves : found.renderer.roster.resolve (leaf.layers.foldr Value.mergeEntries call) =
          leaf.resolved session.renderer.roster.settings call := by
        rw [looked.roster]
        exact PluginRoster.resolve_layers common layered keyed
      dsimp only
      rw [attachFactory_step, resolves, bind_step]
      have counted := stands_construct blueprint
        (leaf.resolved session.renderer.roster.settings call) found
      rcases making : construct blueprint (leaf.resolved session.renderer.roster.settings call)
        found with ⟨fault | plugin, middle⟩
      · rw [making] at counted
        exact .inr ⟨fault, middle, rfl, looked.trans counted⟩
      · rw [making] at counted
        have made := construct_made making
        have kind := made.kind
        subst kind
        dsimp only
        rw [bind_step]
        have called := @stands_call attach plugin made.declares (alone _ leads) .null middle
        rcases calling : Session.call attach plugin .attach .null middle with ⟨fault | _, last⟩
        · rw [calling] at called
          exact .inr ⟨fault, last, rfl, (looked.trans counted).trans called⟩
        · rw [calling] at called
          have stands := (looked.trans counted).trans called
          have free : last.stored? plugin.name = none := by
            rw [stored?, (counted.trans called).roster]
            exact made.free
          refine .inl ⟨plugin, last.joined plugin, rfl, ⟨leads, made.given, ?_⟩,
            stands.gains.append (gains_joined free)⟩
          rw [Plugin.report, made.kept]

end leaves

/-! ## Leaves in order -/

/-- Leaves are attached from left to right, each as one plugin behind the others, and give the names
of these. -/
structure Attaches (attach : AttachSource) (call : List (Value × Value)) (session : Session)
    (leaves : List Leaf) (plugins : List Plugin) (after : Session) : Prop where
  ran : leaves.mapM (attachLeaf attach call) session = (.ok (plugins.map Plugin.name), after)
  makes : List.Forall₂ (Makes session.library.contents session.renderer.roster.settings call)
    leaves plugins
  gains : Gains session plugins after

/-- Of some leaves those before one of them are attached from left to right, and that one fails and
leaves the roster as they left it. -/
def Stops (attach : AttachSource) (call : List (Value × Value)) (session : Session)
    (leaves : List Leaf) (plugins : List Plugin) (fault : Fault) (after : Session) : Prop :=
  ∃ front leaf rest reached, leaves = front ++ leaf :: rest ∧
    Attaches attach call session front plugins reached ∧
    attachLeaf attach call leaf reached = (.error fault, after) ∧ Stands reached after

section order

variable {attach : AttachSource} {call : List (Value × Value)} {session middle after : Session}
  {leaf : Leaf} {rest : List Leaf} {plugin : Plugin} {plugins : List Plugin} {fault : Fault}

theorem Attaches.nil : Attaches attach call session [] [] session where
  ran := by
    rw [List.mapM_nil]
    rfl
  makes := .nil
  gains := (stands_importing.refl session).gains

/-- A leaf that is attached comes before others that are. -/
theorem Attaches.cons (ran : attachLeaf attach call leaf session = (.ok plugin.name, middle))
    (makes : Makes session.library.contents session.renderer.roster.settings call leaf plugin)
    (gains : Gains session [plugin] middle)
    (attaches : Attaches attach call middle rest plugins after) :
    Attaches attach call session (leaf :: rest) (plugin :: plugins) after where
  ran := by
    rw [List.mapM_cons, bind_step, ran]
    dsimp only
    rw [bind_step, attaches.ran]
    rfl
  makes := by
    have later := attaches.makes
    rw [gains.contents, gains.settings] at later
    exact .cons makes later
  gains := gains.append attaches.gains

/-- A leaf that is attached comes before others of which one fails. -/
theorem Stops.cons (ran : attachLeaf attach call leaf session = (.ok plugin.name, middle))
    (makes : Makes session.library.contents session.renderer.roster.settings call leaf plugin)
    (gains : Gains session [plugin] middle)
    (stops : Stops attach call middle rest plugins fault after) :
    Stops attach call session (leaf :: rest) (plugin :: plugins) fault after := by
  obtain ⟨front, last, back, reached, rfl, attaches, failed, stands⟩ := stops
  exact ⟨leaf :: front, last, back, reached, rfl, .cons ran makes gains attaches, failed, stands⟩

/-- Leaves are attached in order, up to the first that fails. -/
theorem attachLeaves_cases {leaves : List Leaf} (keyed : Value.Keyed call)
    (common : Value.Keyed session.renderer.roster.settings)
    (layered : ∀ leaf ∈ leaves, ∀ layer ∈ leaf.layers, Value.IsDictionary layer)
    (alone : ∀ leaf ∈ leaves, ∀ blueprint,
      leaf.origin.LeadsTo session.library.contents blueprint → blueprint.Alone) :
    (∃ plugins after, Attaches attach call session leaves plugins after) ∨
      ∃ plugins fault after,
        leaves.mapM (attachLeaf attach call) session = (.error fault, after) ∧
          Stops attach call session leaves plugins fault after := by
  induction leaves generalizing session with
  | nil => exact .inl ⟨[], session, .nil⟩
  | cons leaf rest ih =>
    obtain ⟨ownLayers, otherLayers⟩ := List.forall_mem_cons.mp layered
    obtain ⟨ownAlone, othersAlone⟩ := List.forall_mem_cons.mp alone
    rcases @attachLeaf_cases attach call session leaf keyed common ownLayers ownAlone with
      ⟨plugin, middle, ran, makes, gains⟩ | ⟨fault, after, failed, stands⟩
    · rw [← gains.settings] at common
      rw [← gains.contents] at othersAlone
      rcases ih common otherLayers othersAlone with
        ⟨plugins, after, attaches⟩ | ⟨plugins, fault, after, failed, stops⟩
      · exact .inl ⟨plugin :: plugins, after, .cons ran makes gains attaches⟩
      · refine .inr ⟨plugin :: plugins, fault, after, ?_, .cons ran makes gains stops⟩
        rw [List.mapM_cons, bind_step, ran]
        dsimp only
        rw [bind_step, failed]
    · refine .inr ⟨[], fault, after, ?_, [], leaf, rest, session, rfl, .nil, failed, stands⟩
      rw [List.mapM_cons, bind_step, failed]

end order

/-- A session with settings laid over those that all plugins start from. -/
def sharing (session : Session) (common : List (Value × Value)) : Session :=
  { session with
    renderer := { session.renderer with
      roster := { session.renderer.roster with
        settings := Value.mergeEntries session.renderer.roster.settings common } } }

/-- Attaching a source lays the shared settings over the others and then attaches the source with
the settings of the call. -/
theorem attach_step {source : PluginSource} {settings shared : Value} {session ready : Session}
    {call common : List (Value × Value)} (present : source ≠ .absent)
    (prepared : prepare source session = (.ok (), ready))
    (called : settings.optionalEntries = .ok call) (shares : shared.optionalEntries = .ok common) :
    attach source settings shared session =
      attachWith attachUsed call source (ready.sharing common) := by
  have join (reached : Session) : (do
      attachWith attachUsed (← liftExcept settings.optionalEntries) source) reached =
        attachWith attachUsed call source reached := by
    rw [called]
    rfl
  have ran : attach source settings shared session = (do
      if shared.isTruthy then shareSettings shared
      attachWith attachUsed (← liftExcept settings.optionalEntries) source : SessionM _) ready := by
    unfold attach
    rw [bind_step, prepared]
    cases source with
    | absent => exact absurd rfl present
    | _ => rfl
  rw [ran]
  unfold Value.optionalEntries at shares
  split at shares
  · rename_i truthy
    rw [if_pos truthy, bind_step]
    have shared_step : shareSettings shared ready = (.ok (), ready.sharing common) := by
      rw [shareSettings, shares]
      rfl
    rw [shared_step]
    exact join (ready.sharing common)
  · rename_i falsy
    rw [if_neg falsy]
    cases shares
    exact join ready

end Session

open Session

/-- Attaching a nested source puts the plugins of its leaves on the roster from left to right, and
gives their names in that order. If it fails, it fails as the first leaf that does, and the plugins
of the leaves to the left of that one are what it has put on the roster. Each plugin has the
settings of its leaf over the shared ones, which are those from before with the new ones laid over.
That takes plugins that attach no others in being attached. -/
theorem attached_leaf_by_leaf {source : PluginSource} {settings shared : Value}
    {session ready : Session} {call common : List (Value × Value)} (present : source ≠ .absent)
    (prepared : prepare source session = (.ok (), ready))
    (called : settings.optionalEntries = .ok call) (shares : shared.optionalEntries = .ok common)
    (starting : Value.Keyed session.renderer.roster.settings) (keyed : Value.Keyed call)
    (keyedToo : Value.Keyed common)
    (layered : ∀ leaf ∈ source.leaves, ∀ layer ∈ leaf.layers, Value.IsDictionary layer)
    (alone : ∀ leaf ∈ source.leaves, ∀ blueprint,
      leaf.origin.LeadsTo session.library.contents blueprint → blueprint.Alone) :
    Stands session ready ∧
      ((∃ plugins after,
          Session.attach source settings shared session = (.ok (plugins.map Plugin.name), after) ∧
          Attaches attachUsed call (ready.sharing common) source.leaves plugins after) ∨
        ∃ plugins fault after,
          Session.attach source settings shared session = (.error fault, after) ∧
          Stops attachUsed call (ready.sharing common) source.leaves plugins fault after) := by
  have stands : Stands session ready := (stands_importing.prepare source).after prepared
  have begun : Value.Keyed (ready.sharing common).renderer.roster.settings := by
    rw [sharing, stands.roster]
    exact starting.mergeEntries keyedToo
  rw [← stands.contents] at alone
  have ran : Session.attach source settings shared session =
      source.leaves.mapM (attachLeaf attachUsed call) (ready.sharing common) := by
    rw [attach_step present prepared called shares]
    exact congrFun (attachWith_eq_mapM [] source) _
  refine ⟨stands, ?_⟩
  rw [ran]
  rcases @attachLeaves_cases attachUsed call (ready.sharing common) source.leaves keyed begun
    layered alone with ⟨plugins, after, attaches⟩ | ⟨plugins, fault, after, failed, stops⟩
  · exact .inl ⟨plugins, after, attaches.ran, attaches⟩
  · exact .inr ⟨plugins, fault, after, failed, stops⟩

/-- A blueprint of a tool, whose plugin is given its settings and logs them when it is attached. -/
def tool (name : String) : Blueprint :=
  { (default : Blueprint) with
    name := .given (.text name)
    parameters := some [.positionalOrKeyword, .positionalOrKeyword]
    handlers := [(Event.name .attach, .scripted false [.logSettings])] }

/-- The members of a module of two tools. -/
def toolMembers : List (String × ModuleMember) :=
  [("Plugin", .factory (.blueprint (tool "hammer"))), ("Saw", .factory (.blueprint (tool "saw")))]

/-- A session with that module and a setting that all plugins start from. -/
def workshop : Session where
  library := { contents := Table.empty.insert "tools" (.members toolMembers) }
  renderer := { roster := { settings := [(.text "depth", .int 0)] } }

/-- A setting of how deep it lies. -/
def depthSetting (depth : Int) : Value × Value := (.text "depth", .int depth)

/-- A tool that takes a setting out of those that it is given. -/
def forgetful : Blueprint :=
  { tool "forgetful" with revise := Value.eraseEntry (.text "depth") }

/-- A tool with a parameter for its settings that is passed by keyword only. -/
def keyworded : Blueprint :=
  { tool "keyworded" with parameters := some [.positionalOrKeyword, .keywordOnly] }

/-- A tool that takes a setting out of those that it is given reports the rest only, and one whose
parameter for settings is passed by keyword is not given any. -/
theorem settings_neither_given_nor_reported :
    let attached (blueprint : Blueprint) : List Plugin :=
      (Session.attach (.blueprint blueprint) (.mapping [depthSetting 1]) .null {}).2.attached
    (attached forgetful).map Plugin.given = [some [depthSetting 1]] ∧
      (attached forgetful).map Plugin.report = [.mapping []] ∧
      (attached keyworded).map Plugin.given = [none] ∧
      (attached keyworded).map Plugin.report = [.mapping [depthSetting 1]] :=
  ⟨rfl, rfl, rfl, rfl⟩

/-- Two tools as targets, a third one with layers around it, the first one again and a fourth. -/
def tools : PluginSource :=
  .configured (.sequence
    [.targets [("tools:Saw", .mapping [depthSetting 1]), ("tools", .null)],
      .configured (.configured (.blueprint (tool "drill"))
        [(.text PluginRoster.sourceKey, .null), depthSetting 1, (.text "inner", .int 1)])
        [(.text "inner", .int 2), depthSetting 2],
      .target "tools:Saw", .blueprint (tool "plane")]) [(.text "outer", .int 3)]

/-- The first three are attached with their settings. The fourth fails for its name, which is taken,
and the fifth does not have its turn. -/
theorem attached_leaf_by_leaf_tools :
    let call : List (Value × Value) :=
      [(.text PluginRoster.sourceKey, .int 4), (.text "call", .int 4)]
    let ran := Session.attach tools (.mapping call) .null workshop
    ran.2.renderer.roster.names = ["saw", "hammer", "drill"] ∧
      Value.same (.list (ran.2.attached.map Plugin.report)) (.list
        [.mapping [depthSetting 1, (.text "outer", .int 3), (.text "call", .int 4)],
          .mapping [depthSetting 0, (.text "outer", .int 3), (.text "call", .int 4)],
          .mapping [depthSetting 2, (.text "inner", .int 2), (.text "outer", .int 3),
            (.text "call", .int 4)]]) = true ∧
      Stands workshop workshop ∧
      ((∃ plugins after, ran = (.ok (plugins.map Plugin.name), after) ∧
          Attaches attachUsed call (workshop.sharing []) tools.leaves plugins after) ∨
        ∃ plugins fault after, ran = (.error fault, after) ∧
          Stops attachUsed call (workshop.sharing []) tools.leaves plugins fault after) := by
  intro call ran
  refine ⟨by decide +kernel, by decide +kernel, ?_⟩
  have alone (name : String) : (tool name).Alone := by
    intro script found statement member
    cases found
    obtain rfl := List.mem_singleton.mp member
    rfl
  have held {module : String} {names : List String} {blueprint : Blueprint}
      (holds : Holds workshop.library.contents module names blueprint) :
      ∃ name, blueprint = tool name := by
    obtain ⟨members, contents, name, _, listed⟩ := holds
    rcases Table.mem_values_insert (Table.mem_values_of_get? contents) with same | inside
    · cases same
      obtain ⟨front, back, all, _⟩ := List.lookup_eq_some_iff.mp listed
      have member : (name, ModuleMember.factory (.blueprint blueprint)) ∈ toolMembers := by
        rw [all]
        exact List.mem_append_right front List.mem_cons_self
      rcases List.mem_cons.mp member with first | second
      · cases first
        exact ⟨"hammer", rfl⟩
      · cases List.mem_singleton.mp second
        exact ⟨"saw", rfl⟩
    · cases inside
  have leads : ∀ leaf ∈ tools.leaves, ∀ blueprint,
      leaf.origin.LeadsTo workshop.library.contents blueprint → ∃ name, blueprint = tool name := by
    refine List.forall_mem_cons.mpr ⟨fun _ => held, List.forall_mem_cons.mpr ⟨fun _ => held,
      List.forall_mem_cons.mpr ⟨fun _ same => ⟨_, same⟩, List.forall_mem_cons.mpr ⟨fun _ => held,
        List.forall_mem_singleton.mpr fun _ same => ⟨_, same⟩⟩⟩⟩⟩
  refine @attached_leaf_by_leaf tools (.mapping call) .null workshop workshop call [] nofun rfl rfl
    rfl (by decide) (by decide) (by decide) (by decide +kernel) ?_
  intro leaf member blueprint led
  obtain ⟨name, rfl⟩ := leads leaf member blueprint led
  exact alone name

end TemplateStream
