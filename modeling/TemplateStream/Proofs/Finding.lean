import TemplateStream.Proofs.Descriptions

/-!
# Two ways from a target to a factory

A target names a module or, behind a colon, something in it. A target that is attached and one that
plugins are loaded from import the same modules and, of a module alone, take the same factory or
none. They part at the colon: a target that is attached takes only a factory that the module holds,
and only if the module is made for the right version. Loading takes what the name stands for as it
is, so that it is not asked for which version the module was made, and goes on into a module in the
module.
-/

namespace TemplateStream

/-- A module says that it was made for the right version, or nothing about it. -/
def ModuleLibrary.Supports (library : ModuleLibrary) (module : String) : Prop :=
  (Session.versionOf library module).same (.int pluginVersion) = true

/-- A name in a module stands for a factory that only loading takes: the module is made for another
version, or the factory lies in a module in it. -/
inductive ModuleLibrary.Sidesteps (library : ModuleLibrary) (module name : String)
    (factory : Factory) : Prop where
  | version (other : ¬ library.Supports module)
      (held : library.lookup? module name = some (.member (.factory factory)))
  | inner {inside : String} (held : library.lookup? module name = some (.module inside))
      (found : Session.factoryIn library inside none = .ok factory)

namespace Session

/-- Finds the factory that plugins are loaded from at a target. -/
def factoryLoaded (target : String) : SessionM Factory := do
  factoryOf (← loadTarget target)

/-- Attaches the plugin that a target gives in loading. -/
def loadedAt (target : String) : SessionM String := do
  attachFactory attachUsed [] (← factoryLoaded target)

/-- What loading makes of a result at a place: a fault may be warned of. -/
def reported {α : Type} (place : String) : Except Fault α → Except Fault (Option String)
  | .ok _ => .ok none
  | .error fault => if isForgiven fault then .ok (some (warning place fault)) else .error fault

/-- The factory that loading takes in a module, or of what a name in it stands for. -/
def factoryUnder (library : ModuleLibrary) (module : String) : Option String → Except Fault Factory
  | none => factoryIn library module none
  | some name =>
    match library.lookup? module name with
    | none => .error (.importing (.noAttribute module name))
    | some (.module inside) => factoryIn library inside none
    | some (.member (.factory factory)) => .ok factory
    | some (.member _) => .error (.plugin .notPlugin)

section

variable {library : ModuleLibrary} {module name : String} {member : Option String}
  {factory : Factory} {fault : Fault}

/-! ## In a module -/

/-- A module has a factory under one of some names if it is made for the right version and holds
one there. -/
theorem factoryIn_ok_iff : factoryIn library module member = .ok factory ↔
    library.Supports module ∧
      (namesFor member).findSome? (fun name => (library.lookup? module name).bind Loaded.factory?) =
        some factory := by
  unfold factoryIn ModuleLibrary.Supports
  cases member
  all_goals
    dsimp only [namesFor]
    cases (versionOf library module).same (.int pluginVersion) with
    | false => simp
    | true =>
      cases List.findSome? (fun name => (library.lookup? module name).bind Loaded.factory?) _ <;>
        simp

/-- What a module lacks makes an invalid plugin. -/
theorem factoryIn_kind (failed : factoryIn library module member = .error fault) :
    fault.kind = .invalidPlugin := by
  unfold factoryIn at failed
  dsimp only at failed
  split at failed
  · cases failed
    rfl
  · split at failed
    · cases failed
    · cases failed
      rfl

/-- A name stands for a factory of a module itself. -/
theorem loaded_factory {found : Option Loaded} :
    found.bind Loaded.factory? = some factory ↔ found = some (.member (.factory factory)) := by
  cases found with
  | none => simp
  | some loaded =>
    cases loaded with
    | module inside => simp [Loaded.factory?]
    | member held => cases held <;> simp [Loaded.factory?]

/-- Behind a colon a module has the factory that it holds there, if it is made for the right
version. -/
theorem factoryIn_named : factoryIn library module (some name) = .ok factory ↔
    library.Supports module ∧
      library.lookup? module name = some (.member (.factory factory)) := by
  rw [factoryIn_ok_iff, ← loaded_factory, namesFor, List.findSome?_singleton]

/-- Loading takes the factory that a module has, and those that sidestep it. -/
theorem factoryUnder_ok_iff : factoryUnder library module member = .ok factory ↔
    factoryIn library module member = .ok factory ∨
      ∃ name, member = some name ∧ library.Sidesteps module name factory := by
  cases member with
  | none => simp [factoryUnder]
  | some name =>
    have taken : factoryUnder library module (some name) = .ok factory ↔
        library.lookup? module name = some (.member (.factory factory)) ∨
          ∃ inside, library.lookup? module name = some (.module inside) ∧
            factoryIn library inside none = .ok factory := by
      rw [factoryUnder]
      cases library.lookup? module name with
      | none => simp
      | some loaded =>
        cases loaded with
        | module inside => simp
        | member held => cases held <;> simp
    rw [taken, factoryIn_named]
    -- What loading takes besides is in a module of another version or in an inner module.
    constructor
    · rintro (held | ⟨inside, held, found⟩)
      · by_cases supports : library.Supports module
        · exact .inl ⟨supports, held⟩
        · exact .inr ⟨name, rfl, .version supports held⟩
      · exact .inr ⟨name, rfl, .inner held found⟩
    · rintro (⟨_, held⟩ | ⟨_, same, sidesteps⟩)
      · exact .inl held
      · cases same
        cases sidesteps with
        | version _ held => exact .inl held
        | inner held found => exact .inr ⟨_, held, found⟩

/-- What sidesteps a module is not in it, nor is anything else under that name. -/
theorem sidesteps_apart (sidesteps : library.Sidesteps module name factory) (other : Factory) :
    factoryIn library module (some name) ≠ .ok other := by
  intro found
  obtain ⟨supports, held⟩ := factoryIn_named.mp found
  cases sidesteps with
  | version wrong _ => exact wrong supports
  | inner inside _ =>
    rw [inside] at held
    cases held

/-- Where loading finds no factory in a module that was imported, it warns of that. -/
theorem factoryUnder_forgiven (failed : factoryUnder library module member = .error fault) :
    isForgiven fault = true := by
  have invalid {fault : Fault} (kind : fault.kind = .invalidPlugin) : isForgiven fault = true := by
    rw [isForgiven, kind]
    rfl
  cases member with
  | none =>
    rw [factoryUnder] at failed
    exact invalid (factoryIn_kind failed)
  | some name =>
    rw [factoryUnder] at failed
    split at failed
    · cases failed
      rfl
    · exact invalid (factoryIn_kind failed)
    · cases failed
    · cases failed
      rfl

/-! ## At a target -/

/-- To attach a target is to import its module and to take the factory that it has. -/
theorem factoryAt_step (target : String) (session : Session) :
    factoryAt target session =
      match importModule (splitTarget target).1 session with
      | (.ok (), ready) =>
        (factoryIn ready.library (splitTarget target).1 (splitTarget target).2, ready)
      | (.error fault, ready) =>
        (.error (if fault.kind.isImport then .pluginImport (splitTarget target).1 fault else fault),
          ready) := by
  unfold factoryAt
  rcases splitTarget target with ⟨module, member⟩
  dsimp only
  rw [bind_step, attempt_step]
  rcases importModule module session with ⟨fault | _, ready⟩
  · rfl
  · dsimp only
    rw [bind_step, get_step]
    exact liftExcept_step _ _

/-- To load plugins from a target is to import its module and to take what it stands for. -/
theorem factoryLoaded_step (target : String) (session : Session) :
    factoryLoaded target session =
      match importModule (splitTarget target).1 session with
      | (.ok (), ready) =>
        (factoryUnder ready.library (splitTarget target).1 (splitTarget target).2, ready)
      | (.error fault, ready) => (.error fault, ready) := by
  unfold factoryLoaded loadTarget
  rcases splitTarget target with ⟨module, member⟩
  dsimp only
  rw [bind_assoc, bind_step]
  rcases importModule module session with ⟨fault | _, ready⟩
  · rfl
  · dsimp only
    cases member with
    | none =>
      dsimp only [factoryUnder]
      rw [pure_bind, factoryOf, bind_step, get_step]
      exact liftExcept_step _ _
    | some name =>
      dsimp only [factoryUnder]
      rw [memberOf, bind_assoc, bind_step, get_step]
      dsimp only
      cases ready.library.lookup? module name with
      | none => rfl
      | some loaded =>
        dsimp only
        rw [pure_bind]
        cases loaded with
        | module inside =>
          rw [factoryOf, bind_step, get_step]
          exact liftExcept_step _ _
        | member held => cases held <;> rfl

/-- Finding a factory to load from leaves the roster alone. -/
theorem stands_factoryLoaded (target : String) : Keeps Stands (factoryLoaded target) := by
  intro session
  have kept := stands_importing.importModule (splitTarget target).1 session
  rw [factoryLoaded_step]
  rcases imported : importModule (splitTarget target).1 session with ⟨_ | _, ready⟩
  all_goals
    rw [imported] at kept
    exact kept

/-! ## What is attached -/

/-- To attach a target is to attach the factory that is found for it. -/
theorem attach_target_step (target : String) (session : Session) :
    Session.attach (.target target) .null .null session =
      match factoryAt target session with
      | (.ok factory, ready) => (do pure [← attachFactory attachUsed [] factory]) ready
      | (.error fault, ready) => (.error fault, ready) := by
  have step : Session.attach (.target target) .null .null =
      (do pure [← attachFactory attachUsed [] (← factoryAt target)]) := rfl
  rw [step, bind_step]
  rcases factoryAt target session with ⟨_ | _, _⟩ <;> rfl

/-- Loading from a place attaches the plugin that its target gives, or warns that it gives none. -/
theorem loadPlugin_step (place target : String) (session : Session) :
    loadPlugin place target session =
      Prod.map (reported place) id (loadedAt target session) := by
  have same : (do
      let factory ← factoryOf (← loadTarget target)
      discard (attachFactory attachUsed [] factory)) = discard (loadedAt target) := by
    change _ = (fun _ => PUnit.unit) <$> loadedAt target
    simp only [loadedAt, factoryLoaded, map_bind, bind_assoc]
    rfl
  rw [loadPlugin, same, bind_step, attempt_step, discard_step]
  rcases loadedAt target session with ⟨fault | _, after⟩
  · dsimp only [Prod.map, reported]
    cases isForgiven fault <;> rfl
  · rfl

/-- Loading plugins from one target. -/
theorem loadPlugins_target_step (target : String) (session : Session) :
    loadPlugins [.text target] none session =
      Prod.map (fun result => (reported target result).map Option.toList) id
        (loadedAt target session) := by
  rw [loadPlugins, loadNamed, Value.text?]
  simp only [bind_step, get_step, pure_step, loadNamed, Option.bind_none, Option.getD_none,
    loadInstalled, List.append_nil, loadPlugin_step]
  rcases loadedAt target session with ⟨result, after⟩
  dsimp only [Prod.map]
  cases reported target result <;> rfl

/-! ## Both ways -/

/-- Loading takes a factory at a target that the target is not attached by. -/
def Sidestepped (session : Session) (target : String) (factory : Factory) : Prop :=
  ∃ name ready, (splitTarget target).2 = some name ∧
    importModule (splitTarget target).1 session = (.ok (), ready) ∧
    ready.library.Sidesteps (splitTarget target).1 name factory

/-- Both ways from a target end in one session: what they find there, and what comes of it. -/
structure Parts (session : Session) (target : String) (added loaded : Except Fault Factory)
    (ready : Session) : Prop where
  stands : Stands session ready
  same : ∀ factory, loaded = .ok factory ↔
    added = .ok factory ∨ Sidestepped session target factory
  apart : ∀ factory other, Sidestepped session target factory → added ≠ .ok other
  supports : ∀ factory, added = .ok factory → ready.library.Supports (splitTarget target).1
  attaches : ∀ factory, added = .ok factory → Session.attach (.target target) .null .null session =
    (do pure [← attachFactory attachUsed [] factory]) ready
  loads : ∀ factory, loaded = .ok factory → loadPlugins [.text target] none session =
    Prod.map (fun result => (reported target result).map Option.toList) id
      (attachFactory attachUsed [] factory ready)
  fails : ∀ fault, loaded = .error fault → loadPlugins [.text target] none session =
    ((reported target (.error fault : Except Fault String)).map Option.toList, ready)
  refuses : ∀ fault, added = .error fault →
    Session.attach (.target target) .null .null session = (.error fault, ready)
  warns : ∀ fault, added = .error fault → fault.kind = .invalidPlugin →
    (∃ factory, Sidestepped session target factory) ∨
      ∃ own, loadPlugins [.text target] none session = (.ok [warning target own], ready)

/-- Loading that finds no factory comes to what its fault is reported as. -/
theorem loadPlugins_fails {target : String} {session ready : Session} {own : Fault}
    (failed : factoryLoaded target session = (.error own, ready)) :
    loadPlugins [.text target] none session =
      ((reported target (.error own : Except Fault String)).map Option.toList, ready) := by
  rw [loadPlugins_target_step, loadedAt, bind_step, failed]
  rfl

/-- Loading that finds no factory gives one warning, if it puts up with the fault. -/
theorem loadPlugins_warns {target : String} {session ready : Session} {own : Fault}
    (failed : factoryLoaded target session = (.error own, ready))
    (forgiven : isForgiven own = true) :
    loadPlugins [.text target] none session = (.ok [warning target own], ready) := by
  rw [loadPlugins_fails failed, reported, if_pos forgiven]
  rfl

/-- If the module of a target cannot be imported, both ways end there. -/
theorem parts_unimported {target : String} {session ready : Session} {fault : Fault}
    (failed : importModule (splitTarget target).1 session = (.error fault, ready)) :
    Parts session target
      (.error (if fault.kind.isImport then .pluginImport (splitTarget target).1 fault else fault))
      (.error fault) ready := by
  have none (factory : Factory) : ¬ Sidestepped session target factory := by
    rintro ⟨_, _, _, done, _⟩
    rw [failed] at done
    cases done
  have added := factoryAt_step target session
  have loaded := factoryLoaded_step target session
  rw [failed] at added loaded
  exact {
    stands := stands_importing.importModule _ |>.after failed
    same := fun factory => by simp [none factory]
    apart := fun factory _ sidestepped => absurd sidestepped (none factory)
    supports := nofun
    attaches := nofun
    loads := nofun
    fails := fun own same => by
      cases same
      exact loadPlugins_fails loaded
    refuses := fun own same => by
      cases same
      rw [attach_target_step, added]
    warns := fun own same kind => by
      refine .inr ⟨fault, loadPlugins_warns loaded ?_⟩
      cases same
      rw [isForgiven]
      split at kind
      · rename_i imports
        rw [imports]
        rfl
      · rw [kind]
        rfl }

/-- If the module of a target is there, the ways part in what they take from it. -/
theorem parts_imported {target : String} {session ready : Session}
    (done : importModule (splitTarget target).1 session = (.ok (), ready)) :
    Parts session target
      (factoryIn ready.library (splitTarget target).1 (splitTarget target).2)
      (factoryUnder ready.library (splitTarget target).1 (splitTarget target).2) ready := by
  have sidestepped (factory : Factory) : Sidestepped session target factory ↔
      ∃ name, (splitTarget target).2 = some name ∧
        ready.library.Sidesteps (splitTarget target).1 name factory := by
    constructor
    · rintro ⟨name, other, named, imported, sidesteps⟩
      rw [done] at imported
      cases imported
      exact ⟨name, named, sidesteps⟩
    · rintro ⟨name, named, sidesteps⟩
      exact ⟨name, ready, named, done, sidesteps⟩
  have added := factoryAt_step target session
  have loaded := factoryLoaded_step target session
  rw [done] at added loaded
  dsimp only at added loaded
  exact {
    stands := stands_importing.importModule _ |>.after done
    same := fun factory => by rw [factoryUnder_ok_iff, sidestepped]
    apart := fun factory other found => by
      obtain ⟨name, named, sidesteps⟩ := (sidestepped factory).mp found
      rw [named]
      exact sidesteps_apart sidesteps other
    supports := fun factory found => (factoryIn_ok_iff.mp found).1
    attaches := fun factory found => by rw [attach_target_step, added, found]
    loads := fun factory found => by
      rw [loadPlugins_target_step, loadedAt, bind_step, loaded, found]
    fails := fun fault failed => by
      rw [failed] at loaded
      exact loadPlugins_fails loaded
    refuses := fun fault failed => by rw [attach_target_step, added, failed]
    warns := fun fault failed _ => by
      rcases taken : factoryUnder ready.library (splitTarget target).1 (splitTarget target).2 with
        own | factory
      · rw [taken] at loaded
        exact .inr ⟨own, loadPlugins_warns loaded (factoryUnder_forgiven taken)⟩
      · rcases factoryUnder_ok_iff.mp taken with found | sidesteps
        · rw [failed] at found
          cases found
        · exact .inl ⟨factory, (sidestepped factory).mpr sidesteps⟩ }

end

end Session

open Session

/-- A target that is attached and one that plugins are loaded from import the same module, lead to
the same session, and to the same factory or to none, except that loading also takes a factory
behind a colon that lies in a module in the module, or in a module that is made for another version.
A factory that a target is attached by always comes of a module for the right version. Where
attaching finds an invalid plugin, and nothing sidesteps it, loading attaches nothing and gives one
warning. -/
theorem target_found_alike_unless_sidestepped (target : String) (session : Session) :
    ∃ added loaded ready, factoryAt target session = (added, ready) ∧
      factoryLoaded target session = (loaded, ready) ∧
      Parts session target added loaded ready := by
  have added := factoryAt_step target session
  have loaded := factoryLoaded_step target session
  rcases importing : importModule (splitTarget target).1 session with ⟨fault | _, ready⟩
  · rw [importing] at added loaded
    exact ⟨_, _, ready, added, loaded, parts_unimported importing⟩
  · rw [importing] at added loaded
    exact ⟨_, _, ready, added, loaded, parts_imported importing⟩

/-- A module that is made for another version: its factory is refused, except to loading by its
name. -/
example :
    let session : Session := { library := { contents := Table.empty.insert "old" (.members
      [(versionMember, .value (.int 2)), ("Plugin", .factory (.blueprint (tool "saw")))]) } }
    [factoryAt "old", factoryAt "old:Plugin", factoryLoaded "old", factoryLoaded "old:Plugin"].map
      (fun step => (step session).1.toOption.isSome) = [false, false, false, true] := by
  decide +kernel

end TemplateStream
