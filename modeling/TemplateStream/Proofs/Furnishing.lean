import TemplateStream.Proofs.Confined
import TemplateStream.Proofs.Forms
import TemplateStream.Proofs.Registering
import TemplateStream.Proofs.Steps
import TemplateStream.Session.HelperModules

/-!
# Where all keeps to itself

A registry keeps to itself when its helpers do, and a module when the helpers that it registers do.
When all helpers and modules of a session keep to themselves they still do after helper modules were
loaded, so bodies that are rendered in it call nothing else.
-/

namespace TemplateStream

/-- A registry whose helpers keep to themselves. -/
def HelperRegistry.Confined (registry : HelperRegistry) : Prop :=
  ∀ helper ∈ registry.helpers.values, helper.function.Confined

/-- A registry whose templates keep to themselves. -/
def TemplateRegistry.Confined (registry : TemplateRegistry) : Prop :=
  ∀ body ∈ registry.bodies.values, body.Confined

/-- A member of a module that keeps to itself: so do the helpers that it registers. -/
def ModuleMember.Confined : ModuleMember → Prop
  | .factory (.registration helpers) => ∀ helper ∈ helpers, helper.function.Confined
  | .functions named => ∀ entry ∈ named, entry.2.Confined
  | .factory (.blueprint _) | .value _ => True

/-- A library whose modules keep to themselves. -/
def ModuleLibrary.Confined (library : ModuleLibrary) : Prop :=
  ∀ members, .members members ∈ library.contents.values → ∀ member ∈ members, member.2.Confined

namespace HelperRegistry.Confined

variable {registry after : HelperRegistry} {helper : Helper} {replace : Bool}

/-- What is found in a registry that keeps to itself does so as well. -/
theorem get (confined : registry.Confined) {name : String}
    (found : registry.get name = .ok helper) : helper.function.Confined :=
  confined helper (HelperRegistry.mem_of_get found)

/-- A helper that keeps to itself may be registered. -/
theorem register (confined : registry.Confined) (fine : helper.function.Confined)
    (registered : registry.register helper replace = .ok after) : after.Confined := by
  obtain ⟨_, rfl⟩ := HelperRegistry.register_ok_iff.mp registered
  intro other member
  have inserted : other ∈ (registry.helpers.insert helper.key helper).values := member
  rcases Table.mem_values_insert inserted with rfl | before
  · exact fine
  · exact confined other before

/-- Helpers that keep to themselves may be registered, also when one of them is refused. -/
theorem registerAll (confined : registry.Confined) {helpers : List Helper}
    (fine : ∀ helper ∈ helpers, helper.function.Confined) :
    (registry.registerAll helpers).1.Confined := by
  induction helpers generalizing registry with
  | nil => exact confined
  | cons helper rest ih =>
    rw [HelperRegistry.registerAll]
    cases registered : registry.register helper with
    | error fault => exact confined
    | ok after =>
      exact ih (confined.register (fine helper List.mem_cons_self) registered) fun other member =>
        fine other (List.mem_cons_of_mem _ member)

/-- The helpers that a registry starts with keep to themselves. -/
theorem builtin : HelperRegistry.builtin.Confined := by
  refine registerAll (fun _ member => (List.not_mem_nil member).elim) ?_
  simp [builtinHelpers, HelperFunction.Confined]

end HelperRegistry.Confined

/-- What is found among templates that keep to themselves does so as well. -/
theorem TemplateRegistry.Confined.get {registry : TemplateRegistry} (confined : registry.Confined)
    {name : String} {body : Body} (found : registry.get name = .ok body) : body.Confined :=
  confined body (TemplateRegistry.mem_of_get found)

/-- A template that keeps to itself may be registered. -/
theorem TemplateRegistry.Confined.register {registry after : TemplateRegistry}
    (confined : registry.Confined) {name : String} {body : Body} (fine : body.Confined)
    (registered : registry.register name body = .ok after) : after.Confined := by
  rw [TemplateRegistry.register, guarded_ok_iff] at registered
  obtain ⟨_, registered⟩ := registered
  cases registered
  intro other member
  rcases Table.mem_values_insert member with rfl | before
  · exact fine
  · exact confined other before

/-- A member of a module that keeps to itself does so as well. -/
theorem ModuleLibrary.Confined.lookup {library : ModuleLibrary} (confined : library.Confined)
    {module name : String} {member : ModuleMember}
    (found : library.lookup? module name = some (.member member)) : member.Confined := by
  rw [ModuleLibrary.lookup?] at found
  split at found
  · cases found
  · split at found
    · rename_i members held
      obtain ⟨other, inside, same⟩ := Option.map_eq_some_iff.mp found
      cases same
      obtain ⟨front, back, rfl, _⟩ := List.lookup_eq_some_iff.mp inside
      exact confined _ (Table.mem_values_of_get? held) (name, member)
        (List.mem_append_right _ List.mem_cons_self)
    · cases found

namespace Session

/-- A session whose helpers and modules keep to themselves. -/
structure Furnished (session : Session) : Prop where
  helpers : session.renderer.helpers.Confined
  library : session.library.Confined

/-- A step after which helpers and modules still keep to themselves. -/
abbrev Furnishes (session after : Session) : Prop := session.Furnished → after.Furnished

theorem furnishes_trans {first second third : Session} (early : Furnishes first second)
    (late : Furnishes second third) : Furnishes first third := fun furnished =>
  late (early furnished)

/-- A change to other things than the helpers and the modules that there are. -/
theorem furnishes_aside {α : Type} {step : SessionM α}
    (helpers : ∀ session, (step session).2.renderer.helpers = session.renderer.helpers)
    (contents : ∀ session, (step session).2.library.contents = session.library.contents) :
    Keeps Furnishes step := by
  intro session furnished
  refine ⟨?_, ?_⟩
  · rw [helpers]
    exact furnished.helpers
  · rw [ModuleLibrary.Confined, contents]
    exact furnished.library

theorem furnishes_unchanged {α : Type} {step : SessionM α}
    (same : ∀ session, (step session).2 = session) : Keeps Furnishes step :=
  furnishes_aside (fun session => by rw [same]) fun session => by rw [same]

/-- What follows may rely on the session that it finds. -/
theorem furnishes_look {α : Type} {next : Session → SessionM α}
    (later : ∀ session, session.Furnished → Keeps Furnishes (next session)) :
    Keeps Furnishes (get >>= next) := fun session furnished =>
  later session furnished session furnished

theorem loadModule_furnishes (package : Option String) (name : String) :
    Keeps Furnishes (loadModule package name) := by
  refine Keeps.bind furnishes_trans (furnishes_unchanged fun _ => rfl) fun session => ?_
  dsimp only
  split
  · exact furnishes_unchanged fun _ => rfl
  · refine Keeps.bind furnishes_trans (furnishes_unchanged fun _ => by rw [liftExcept_step])
      fun content => Keeps.bind furnishes_trans (furnishes_aside (fun _ => rfl) fun _ => rfl)
        fun _ => ?_
    cases content with
    | failing fault => exact furnishes_unchanged fun _ => rfl
    | members _ => exact furnishes_aside (fun _ => rfl) fun _ => rfl

theorem importModule_furnishes (name : String) : Keeps Furnishes (importModule name) := by
  have loads (package : Option String) (names : List String) :
      Keeps Furnishes (loadModules package names) := by
    induction names generalizing package with
    | nil => exact furnishes_unchanged fun _ => rfl
    | cons name rest ih =>
      exact Keeps.bind furnishes_trans (loadModule_furnishes package name) fun _ => ih _
  have refused (fault : Fault) : Keeps Furnishes (throw fault : SessionM PUnit) :=
    furnishes_unchanged fun _ => rfl
  exact Keeps.guard (refused _) (Keeps.guard (refused _) (loads _ _))

theorem addFunctions_furnishes {functions : List (Value × HelperFunction)}
    (fine : ∀ entry ∈ functions, entry.2.Confined) : Keeps Furnishes (addFunctions functions) := by
  induction functions with
  | nil => exact furnishes_unchanged fun _ => rfl
  | cons entry rest ih =>
    obtain ⟨id, function⟩ := entry
    unfold addFunctions
    have later := ih fun other member => fine other (List.mem_cons_of_mem _ member)
    cases id.text? with
    | none => exact furnishes_unchanged fun _ => rfl
    | some name =>
      refine Keeps.bind furnishes_trans (fun session furnished => ?_) fun _ => later
      simp only [addFunction, bind_step, get_step, liftExcept_step]
      cases added : session.renderer.helpers.add name function with
      | error fault => exact furnished
      | ok helpers =>
        exact ⟨furnished.helpers.register (fine (id, function) List.mem_cons_self) added,
          furnished.library⟩

/-- The functions of a loaded member that keeps to itself do so as well. -/
theorem functionsOf_confined {loaded : Loaded} {functions : List (Value × HelperFunction)}
    (confined : ∀ member, loaded = .member member → member.Confined)
    (found : functionsOf? loaded = some functions) :
    ∀ entry ∈ functions, entry.2.Confined := by
  unfold functionsOf? at found
  split at found
  · rename_i held
    cases found
    intro entry member
    obtain ⟨other, inside, rfl⟩ := List.mem_map.mp member
    have fine : ∀ entry ∈ _, _ := confined _ rfl
    exact fine other inside
  · cases found
    intro entry member
    obtain ⟨other, inside, rfl⟩ := List.mem_map.mp member
    trivial
  · cases found

theorem applyModule_furnishes (module : String) : Keeps Furnishes (applyModule module) := by
  refine furnishes_look fun session furnished => ?_
  dsimp only
  split
  · rename_i helpers found
    have fine : ∀ helper ∈ helpers, helper.function.Confined := furnished.library.lookup found
    refine furnishes_look fun session furnished => ?_
    refine Keeps.bind furnishes_trans (fun other former => ?_) fun _ =>
      furnishes_unchanged fun _ => by rw [liftExcept_step]
    exact ⟨furnished.helpers.registerAll fine, former.library⟩
  · rename_i blueprint _
    refine Keeps.bind furnishes_trans (furnishes_aside (fun _ => rfl) fun _ => rfl) fun _ => ?_
    cases blueprint.failure with
    | none => exact furnishes_unchanged fun _ => rfl
    | some fault => exact furnishes_unchanged fun _ => rfl
  · split
    · rename_i functions found
      obtain ⟨loaded, there, found⟩ := Option.bind_eq_some_iff.mp found
      refine addFunctions_furnishes (functionsOf_confined (fun member same => ?_) found)
      rw [same] at there
      exact furnished.library.lookup there
    · exact furnishes_unchanged fun _ => rfl

/-- After helper modules were loaded all still keeps to itself. -/
theorem loadHelperModules_furnishes (modules : List Value) :
    Keeps Furnishes (loadHelperModules modules) := by
  induction modules with
  | nil => exact furnishes_unchanged fun _ => rfl
  | cons module rest ih =>
    refine Keeps.bind furnishes_trans (furnishes_unchanged fun _ => by rw [liftExcept_step])
      fun name => ?_
    exact Keeps.bind furnishes_trans (importModule_furnishes name) fun _ =>
      Keeps.bind furnishes_trans (applyModule_furnishes name) fun _ => ih

end Session

end TemplateStream
