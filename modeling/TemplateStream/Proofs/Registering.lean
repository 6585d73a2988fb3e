import TemplateStream.Proofs.Tables
import TemplateStream.Registry.Helpers

/-!
# The names of registered helpers

A registry holds helpers under their identifiers and keeps a second table of their aliases. Every
registration that is admitted keeps the two tables in step, whatever was registered before and
whatever was refused: a name stands for one helper at most, it does so exactly as long as the
helper of that identifier has it, and nobody else's registration can take it away.
-/

namespace TemplateStream

/-- A guard lets the rest run exactly when it does not refuse. -/
theorem guarded_ok_iff {α : Type} {refused : Bool} {fault : Fault}
    {rest : PUnit → Except Fault α} {result : α} :
    (if refused = true then (throw fault : Except Fault PUnit) >>= rest else rest ⟨⟩) =
      .ok result ↔ refused = false ∧ rest ⟨⟩ = .ok result := by
  cases refused with
  | true =>
    constructor
    · exact fun failed => nomatch failed
    · exact fun admitted => nomatch admitted.1
  | false => simp

/-- A sequence succeeds exactly when its first step does and the rest goes on from there. -/
theorem sequenced_ok_iff {α β : Type} {first : Except Fault α} {rest : α → Except Fault β}
    {result : β} : first >>= rest = .ok result ↔
      ∃ value, first = .ok value ∧ rest value = .ok result := by
  cases first with
  | error fault =>
    constructor
    · exact fun failed => nomatch failed
    · rintro ⟨value, done, -⟩
      cases done
  | ok value => exact ⟨fun done => ⟨value, rfl, done⟩, fun ⟨_, .refl _, done⟩ => done⟩

namespace Helper

/-- The identifier that a helper is registered under. -/
def key (helper : Helper) : String := Text.strip helper.id

/-- The aliases that a helper is registered with. -/
def aliasKeys (helper : Helper) : List String := helper.aliases.map Text.strip

end Helper

namespace HelperRegistry

variable {registry registered : HelperRegistry} {helper other : Helper} {replace : Bool}
  {name nickname id : String}

/-! ## One registration -/

/-- When a registry may give an alias to the helper of an identifier: it is not blank, it is no
identifier, neither this one nor another, and it is nobody else's alias. -/
structure AdmitsAlias (registry : HelperRegistry) (id nickname : String) : Prop where
  named : nickname.isEmpty = false
  distinct : nickname ≠ id
  free : registry.helpers.contains nickname = false
  unowned : ∀ owner, registry.aliases.get? nickname = some owner → owner = id

/-- When a registry may register a helper: its identifier is not blank and nobody's alias, it is
new if it may not be replaced, and it may have each of its aliases. -/
structure Admits (registry : HelperRegistry) (helper : Helper) (replace : Bool) : Prop where
  named : helper.key.isEmpty = false
  fresh : registry.helpers.contains helper.key = true → replace = true
  unaliased : registry.aliases.contains helper.key = false
  aliases : ∀ nickname ∈ helper.aliasKeys, registry.AdmitsAlias helper.key nickname

/-- The registry with a helper in place of any helper of its identifier. -/
def enrolled (registry : HelperRegistry) (helper : Helper) : HelperRegistry where
  helpers := registry.helpers.insert helper.key helper
  aliases := helper.aliasKeys.foldl (fun aliases nickname => aliases.insert nickname helper.key)
    (registry.aliases.filter fun _ owner => owner != helper.key)

/-- An alias is admitted less the blanks around it. -/
theorem admitAlias_ok_iff : registry.admitAlias id name = .ok nickname ↔
    nickname = Text.strip name ∧ registry.AdmitsAlias id nickname := by
  unfold admitAlias
  rw [guarded_ok_iff, guarded_ok_iff, guarded_ok_iff]
  constructor
  · rintro ⟨named, distinct, free, done⟩
    cases done
    rw [Bool.or_eq_false_iff] at free
    refine ⟨rfl, named, ne_of_beq_false distinct, free.1, fun owner owned => ?_⟩
    simpa [owned] using free.2
  · rintro ⟨rfl, admits⟩
    refine ⟨admits.named, beq_eq_false_iff_ne.mpr admits.distinct, ?_, rfl⟩
    rw [admits.free, Bool.false_or, Option.any_eq_false]
    intro owner owned
    simpa using admits.unowned owner owned

/-- Aliases are admitted together exactly when each of them is. -/
theorem mapM_admitAlias_ok_iff {names keys : List String} :
    names.mapM (registry.admitAlias id) = .ok keys ↔
      keys = names.map Text.strip ∧ ∀ nickname ∈ keys, registry.AdmitsAlias id nickname := by
  induction names generalizing keys with
  | nil =>
    constructor
    · intro done
      cases done
      exact ⟨rfl, fun _ inside => nomatch inside⟩
    · rintro ⟨rfl, -⟩
      rfl
  | cons name rest ih =>
    simp only [List.mapM_cons, sequenced_ok_iff, admitAlias_ok_iff, ih]
    constructor
    · rintro ⟨nickname, ⟨rfl, admits⟩, others, ⟨rfl, admitted⟩, done⟩
      cases done
      exact ⟨rfl, List.forall_mem_cons.mpr ⟨admits, admitted⟩⟩
    · rintro ⟨rfl, admitted⟩
      have ⟨admits, others⟩ := List.forall_mem_cons.mp admitted
      exact ⟨_, ⟨rfl, admits⟩, _, ⟨rfl, others⟩, rfl⟩

/-- A registration succeeds exactly when it is admitted, and enrols the helper. -/
theorem register_ok_iff : registry.register helper replace = .ok registered ↔
    registry.Admits helper replace ∧ registered = registry.enrolled helper := by
  unfold register
  rw [guarded_ok_iff, guarded_ok_iff, guarded_ok_iff, sequenced_ok_iff]
  constructor
  · rintro ⟨named, fresh, unaliased, keys, admitted, done⟩
    obtain ⟨rfl, aliases⟩ := mapM_admitAlias_ok_iff.mp admitted
    cases done
    refine ⟨⟨named, fun present => ?_, unaliased, aliases⟩, rfl⟩
    have present : registry.helpers.contains (Text.strip helper.id) = true := present
    simpa [present] using fresh
  · rintro ⟨admits, rfl⟩
    refine ⟨admits.named, ?_, admits.unaliased, helper.aliasKeys,
      mapM_admitAlias_ok_iff.mpr ⟨rfl, admits.aliases⟩, rfl⟩
    have fresh := admits.fresh
    cases replace with
    | true => simp
    | false => simpa [Helper.key] using fresh

/-! ## What a registration changes -/

/-- The helper is under its identifier afterwards, and under the others is what was there. -/
theorem enrolled_helpers (registry : HelperRegistry) (helper : Helper) (id : String) :
    (registry.enrolled helper).helpers.get? id =
      if id = helper.key then some helper else registry.helpers.get? id :=
  Table.get?_insert _ _ _ _

/-- A name that is given the same value again and again has it. -/
theorem get?_foldl_insert (names : List String) (id : String) (table : Table String)
    (name : String) : (names.foldl (fun table name => table.insert name id) table).get? name =
      if name ∈ names then some id else table.get? name := by
  induction names generalizing table with
  | nil => simp
  | cons first rest ih =>
    rw [List.foldl_cons, ih, Table.get?_insert]
    by_cases here : name = first
    · simp [here]
    · simp [here]

/-- The aliases of the helper stand for its identifier afterwards. What else stood for it stands for
nothing, and what stood for another identifier still does. -/
theorem enrolled_aliases (registry : HelperRegistry) (helper : Helper) (nickname : String) :
    (registry.enrolled helper).aliases.get? nickname =
      if nickname ∈ helper.aliasKeys then some helper.key
      else if registry.aliases.get? nickname = some helper.key then none
      else registry.aliases.get? nickname := by
  have kept := Table.get?_filter registry.aliases (fun _ owner => owner != helper.key) nickname
  rw [enrolled, get?_foldl_insert, kept]
  by_cases listed : nickname ∈ helper.aliasKeys
  · simp [listed]
  · cases owned : registry.aliases.get? nickname with
    | none => simp [listed]
    | some owner =>
      by_cases own : owner = helper.key
      · simp [listed, own]
      · simp [listed, own]

/-! ## Registries whose tables are in step -/

/-- A helper of a registry has a name: it is the helper's identifier or one of its aliases. -/
def Bears (registry : HelperRegistry) (id : String) (helper : Helper) (name : String) : Prop :=
  registry.helpers.get? id = some helper ∧ (name = id ∨ name ∈ helper.aliasKeys)

/-- The two tables of a registry are in step: helpers are under their own identifiers, no alias is
an identifier, and an alias stands for an identifier exactly when the helper there lists it. -/
structure Consistent (registry : HelperRegistry) : Prop where
  keyed : ∀ id helper, registry.helpers.get? id = some helper → helper.key = id
  apart : ∀ name, registry.helpers.contains name = true → registry.aliases.contains name = false
  listed : ∀ nickname id, registry.aliases.get? nickname = some id ↔
    ∃ helper, registry.helpers.get? id = some helper ∧ nickname ∈ helper.aliasKeys

/-- The empty registry is in step. -/
theorem consistent_empty : Consistent {} where
  keyed _ _ found := nomatch found
  apart _ _ := rfl
  listed _ _ := by simp

/-- An admitted registration keeps the tables in step. -/
theorem Consistent.enrolled (consistent : registry.Consistent)
    (admits : registry.Admits helper replace) : (registry.enrolled helper).Consistent where
  keyed id other held := by
    rw [enrolled_helpers] at held
    by_cases own : id = helper.key
    · rw [if_pos own, Option.some.injEq] at held
      rw [own, held]
    · rw [if_neg own] at held
      exact consistent.keyed id other held
  apart name present := by
    obtain ⟨held, found⟩ := Table.contains_iff.mp present
    rw [enrolled_helpers] at found
    have free : registry.aliases.get? name = none := by
      by_cases own : name = helper.key
      · exact own ▸ Table.not_contains_iff.mp admits.unaliased
      · rw [if_neg own] at found
        exact Table.not_contains_iff.mp (consistent.apart name (Table.contains_iff.mpr ⟨_, found⟩))
    have unlisted : name ∉ helper.aliasKeys := by
      intro listed
      have admitted := admits.aliases name listed
      rw [if_neg admitted.distinct, Table.not_contains_iff.mp admitted.free] at found
      cases found
    rw [Table.not_contains_iff, enrolled_aliases, if_neg unlisted, free, if_neg nofun]
  listed nickname id := by
    rw [enrolled_aliases, enrolled_helpers]
    by_cases own : id = helper.key
    · subst own
      by_cases inside : nickname ∈ helper.aliasKeys
      · simp [inside]
      · by_cases owned : registry.aliases.get? nickname = some helper.key
        · simp [inside, owned]
        · simp [inside, owned]
    · rw [if_neg own, ← consistent.listed]
      by_cases inside : nickname ∈ helper.aliasKeys
      · have unowned : registry.aliases.get? nickname ≠ some id := fun owned =>
          own ((admits.aliases nickname inside).unowned id owned)
        simp [inside, unowned, Ne.symm own]
      · by_cases owned : registry.aliases.get? nickname = some helper.key
        · simp [inside, owned, Ne.symm own]
        · simp [inside, owned]

/-- The identifier of a helper is no alias of a helper. -/
theorem Consistent.unlisted (consistent : registry.Consistent) {key : String}
    (held : registry.helpers.get? id = some helper)
    (heldToo : registry.helpers.get? key = some other) : id ∉ other.aliasKeys := by
  intro listed
  have absent := consistent.apart id (Table.contains_iff.mpr ⟨_, held⟩)
  rw [Table.not_contains_iff, (consistent.listed id key).mpr ⟨other, heldToo, listed⟩] at absent
  cases absent

/-- No two helpers of a registry that is in step have a name in common. -/
theorem Consistent.bears_unique (consistent : registry.Consistent) {key : String}
    (bears : registry.Bears id helper name) (bearsToo : registry.Bears key other name) :
    id = key ∧ helper = other := by
  obtain ⟨held, named⟩ := bears
  obtain ⟨heldToo, namedToo⟩ := bearsToo
  have same : id = key := by
    rcases named with rfl | listed
    · rcases namedToo with same | listedToo
      · exact same
      · exact absurd listedToo (consistent.unlisted held heldToo)
    · rcases namedToo with rfl | listedToo
      · exact absurd listed (consistent.unlisted heldToo held)
      · have stands := (consistent.listed name id).mpr ⟨helper, held, listed⟩
        have standsToo := (consistent.listed name key).mpr ⟨other, heldToo, listedToo⟩
        exact Option.some.inj (stands.symm.trans standsToo)
  subst same
  exact ⟨rfl, Option.some.inj (held.symm.trans heldToo)⟩

/-- A registry in step finds the identifier of the helper that has the name. -/
theorem Consistent.resolve_ok_iff (consistent : registry.Consistent) :
    registry.resolve name = .ok id ↔ ∃ helper, registry.Bears id helper name := by
  unfold resolve Bears
  by_cases present : registry.helpers.contains name = true
  · rw [if_pos present]
    obtain ⟨helper, held⟩ := Table.contains_iff.mp present
    constructor
    · intro found
      cases found
      exact ⟨helper, held, .inl rfl⟩
    · rintro ⟨other, heldToo, rfl | listed⟩
      · rfl
      · exact absurd listed (consistent.unlisted held heldToo)
  · rw [if_neg present]
    have alone : (∃ helper, registry.helpers.get? id = some helper ∧
        (name = id ∨ name ∈ helper.aliasKeys)) ↔ registry.aliases.get? name = some id := by
      rw [consistent.listed]
      constructor
      · rintro ⟨helper, held, rfl | listed⟩
        · exact absurd (Table.contains_iff.mpr ⟨_, held⟩) present
        · exact ⟨helper, held, listed⟩
      · rintro ⟨helper, held, listed⟩
        exact ⟨helper, held, .inr listed⟩
    rw [alone]
    cases registry.aliases.get? name with
    | none => simp
    | some owner => simp

/-- A registry in step gives the helper that has the name. -/
theorem Consistent.get_ok_iff (consistent : registry.Consistent) :
    registry.get name = .ok helper ↔ ∃ id, registry.Bears id helper name := by
  unfold get
  rw [sequenced_ok_iff]
  constructor
  · rintro ⟨id, found, given⟩
    obtain ⟨other, bears⟩ := consistent.resolve_ok_iff.mp found
    rw [bears.1] at given
    cases given
    exact ⟨id, bears⟩
  · rintro ⟨id, bears⟩
    refine ⟨id, consistent.resolve_ok_iff.mpr ⟨helper, bears⟩, ?_⟩
    rw [bears.1]
    rfl

/-- A registry in step contains a name exactly when it gives a helper of that name. -/
theorem Consistent.contains_iff (consistent : registry.Consistent) :
    registry.contains name = true ↔ ∃ helper, registry.get name = .ok helper := by
  simp only [consistent.get_ok_iff, contains, Bool.or_eq_true, Table.contains_iff,
    consistent.listed]
  constructor
  · rintro (⟨helper, held⟩ | ⟨id, helper, held, listed⟩)
    · exact ⟨helper, name, held, .inl rfl⟩
    · exact ⟨helper, id, held, .inr listed⟩
  · rintro ⟨helper, id, held, rfl | listed⟩
    · exact .inl ⟨helper, held⟩
    · exact .inr ⟨id, helper, held, listed⟩

/-- The helpers of other identifiers keep their names when a helper is registered. -/
theorem Bears.enrolled (bears : registry.Bears id other name) (apart : helper.key ≠ id) :
    (registry.enrolled helper).Bears id other name := by
  refine ⟨?_, bears.2⟩
  rw [enrolled_helpers, if_neg (Ne.symm apart)]
  exact bears.1

/-! ## Registries that are asked again and again -/

/-- What may be asked of a registry. -/
inductive Request where
  | register (helper : Helper) (replace : Bool)
  | registerAll (helpers : List Helper)
  | add (id : String) (function : HelperFunction) (description : String)

/-- The helpers that are accepted of those to be registered together: those before the first that
is refused. -/
def acceptedOf (registry : HelperRegistry) : List Helper → List Helper
  | [] => []
  | helper :: rest =>
    match registry.register helper with
    | .ok registered => helper :: registered.acceptedOf rest
    | .error _ => []

/-- The helpers that are accepted when something is asked. -/
def accepted (registry : HelperRegistry) : Request → List Helper
  | .register helper replace =>
    if (registry.register helper replace).isOk then [helper] else []
  | .registerAll helpers => registry.acceptedOf helpers
  | .add id function description =>
    if (registry.add id function description).isOk then [{ id, function, description }] else []

/-- What is left of a registry when something is asked. -/
def answer (registry : HelperRegistry) : Request → HelperRegistry
  | .register helper replace => (registry.register helper replace).toOption.getD registry
  | .registerAll helpers => (registry.registerAll helpers).1
  | .add id function description => (registry.add id function description).toOption.getD registry

/-- What is left of a registry when one thing is asked after another, whether or not it fails. -/
def serve (registry : HelperRegistry) (requests : List Request) : HelperRegistry :=
  requests.foldl answer registry

/-- All helpers that are accepted when one thing is asked after another. -/
def history (registry : HelperRegistry) : List Request → List Helper
  | [] => []
  | request :: rest => registry.accepted request ++ (registry.answer request).history rest

/-- A registry that comes of another by admitted registrations of some helpers in order. -/
inductive Enrols : HelperRegistry → List Helper → HelperRegistry → Prop where
  | nothing (registry : HelperRegistry) : Enrols registry [] registry
  | next {registry after : HelperRegistry} {helper : Helper} {replace : Bool}
    {rest : List Helper} (admits : registry.Admits helper replace)
    (later : Enrols (registry.enrolled helper) rest after) : Enrols registry (helper :: rest) after

namespace Enrols

variable {after final : HelperRegistry} {helpers others : List Helper}

/-- Registrations that follow others make one sequence with them. -/
theorem append (enrols : Enrols registry helpers after) (later : Enrols after others final) :
    Enrols registry (helpers ++ others) final := by
  induction enrols with
  | nothing => exact later
  | next admits _ ih => exact .next admits (ih later)

/-- Registrations keep the tables of a registry in step. -/
theorem consistent (enrols : Enrols registry helpers after) (consistent : registry.Consistent) :
    after.Consistent := by
  induction enrols with
  | nothing => exact consistent
  | next admits _ ih => exact ih (consistent.enrolled admits)

/-- Under an identifier is the helper that was registered last under it, or what was there. -/
theorem helpers_get? (enrols : Enrols registry helpers after) (id : String) :
    after.helpers.get? id =
      (helpers.reverse.find? (·.key == id)).or (registry.helpers.get? id) := by
  induction enrols with
  | nothing => rfl
  | @next registry after helper _ rest _ _ ih =>
    rw [ih, enrolled_helpers, List.reverse_cons, List.find?_append]
    cases rest.reverse.find? (·.key == id) with
    | some last => rfl
    | none =>
      by_cases own : id = helper.key
      · simp [own]
      · have apart : (helper.key == id) = false := beq_eq_false_iff_ne.mpr (Ne.symm own)
        simp [own, apart]

/-- A helper keeps its names as long as none is registered under its identifier. -/
theorem bears (enrols : Enrols registry helpers after) (bears : registry.Bears id other name)
    (apart : ∀ helper ∈ helpers, helper.key ≠ id) : after.Bears id other name := by
  induction enrols with
  | nothing => exact bears
  | next _ _ ih =>
    have ⟨here, later⟩ := List.forall_mem_cons.mp apart
    exact ih (bears.enrolled here) later

end Enrols

/-- A registration that is tried enrols the helper or changes nothing. -/
theorem register_enrols (registry : HelperRegistry) (helper : Helper) (replace : Bool) :
    Enrols registry (if (registry.register helper replace).isOk then [helper] else [])
      ((registry.register helper replace).toOption.getD registry) := by
  cases done : registry.register helper replace with
  | error fault => exact .nothing registry
  | ok registered =>
    obtain ⟨admits, rfl⟩ := register_ok_iff.mp done
    exact .next admits (.nothing _)

/-- Helpers that are registered together are enrolled up to the first that is refused. -/
theorem registerAll_enrols (registry : HelperRegistry) (helpers : List Helper) :
    Enrols registry (registry.acceptedOf helpers) (registry.registerAll helpers).1 := by
  induction helpers generalizing registry with
  | nil => exact .nothing registry
  | cons helper rest ih =>
    unfold acceptedOf registerAll
    cases done : registry.register helper with
    | error fault => exact .nothing registry
    | ok registered =>
      obtain ⟨admits, rfl⟩ := register_ok_iff.mp done
      exact .next admits (ih _)

/-- Whatever is asked enrols the helpers that are accepted. -/
theorem answer_enrols (registry : HelperRegistry) (request : Request) :
    Enrols registry (registry.accepted request) (registry.answer request) := by
  cases request with
  | register helper replace => exact registry.register_enrols helper replace
  | registerAll helpers => exact registry.registerAll_enrols helpers
  | add id function description => exact registry.register_enrols _ true

/-- All that is asked enrols the helpers that are accepted on the way. -/
theorem serve_enrols (registry : HelperRegistry) (requests : List Request) :
    Enrols registry (registry.history requests) (registry.serve requests) := by
  induction requests generalizing registry with
  | nil => exact .nothing registry
  | cons request rest ih => exact (registry.answer_enrols request).append (ih _)

/-- Whatever was asked of a registry that began empty, its tables are in step. Under an identifier
is the helper that was accepted last for it. A name is contained exactly when a helper is given for
it, which is the only one that has the name. Registering succeeds exactly when it is admitted, and
a registration that is refused leaves everything as it was. One that succeeds replaces the aliases
of its own identifier by those of the new helper and touches no other alias, and whatever else is
asked, a helper keeps its names until one is accepted under its own identifier. -/
theorem names_in_step (requests : List Request) :
    let registry := serve {} requests
    registry.Consistent ∧
    (∀ id, registry.helpers.get? id =
      (history {} requests).reverse.find? (·.key == id)) ∧
    (∀ name, registry.contains name = true ↔ ∃ helper, registry.get name = .ok helper) ∧
    (∀ name helper, registry.get name = .ok helper ↔ ∃ id, registry.Bears id helper name) ∧
    (∀ name id helper key other, registry.Bears id helper name → registry.Bears key other name →
      id = key ∧ helper = other) ∧
    (∀ helper replace, (∃ registered, registry.register helper replace = .ok registered) ↔
      registry.Admits helper replace) ∧
    (∀ helper replace fault, registry.register helper replace = .error fault →
      registry.answer (.register helper replace) = registry) ∧
    (∀ helper replace registered, registry.register helper replace = .ok registered →
      registry.answer (.register helper replace) = registered ∧
      (∀ id, registered.helpers.get? id =
        if id = helper.key then some helper else registry.helpers.get? id) ∧
      ∀ nickname, registered.aliases.get? nickname =
        if nickname ∈ helper.aliasKeys then some helper.key
        else if registry.aliases.get? nickname = some helper.key then none
        else registry.aliases.get? nickname) ∧
    ∀ more name id helper, registry.Bears id helper name →
      (∀ other ∈ registry.history more, other.key ≠ id) →
      (registry.serve more).get name = .ok helper := by
  intro registry
  have enrols : Enrols {} (history {} requests) registry := serve_enrols {} requests
  have consistent : registry.Consistent := enrols.consistent consistent_empty
  refine ⟨consistent, fun id => ?_, fun name => consistent.contains_iff,
    fun name helper => consistent.get_ok_iff,
    fun name id helper key other => consistent.bears_unique,
    fun helper replace => ?_, fun helper replace fault failed => ?_,
    fun helper replace registered done => ?_, fun more name id helper bears apart => ?_⟩
  · rw [enrols.helpers_get? id]
    simp
  · constructor
    · rintro ⟨registered, done⟩
      exact (register_ok_iff.mp done).1
    · exact fun admits => ⟨_, register_ok_iff.mpr ⟨admits, rfl⟩⟩
  · rw [answer, failed]
    rfl
  · obtain ⟨-, rfl⟩ := register_ok_iff.mp done
    exact ⟨by rw [answer, done]; rfl, registry.enrolled_helpers helper,
      registry.enrolled_aliases helper⟩
  · have later := registry.serve_enrols more
    have stays := later.bears bears apart
    exact (later.consistent consistent).get_ok_iff.mpr ⟨id, stays⟩

/-- A helper that is refused for the alias of another registers nothing, and a helper that replaces
another takes its aliases away and brings its own. -/
example :
    let registry := serve {} [
      .register { id := " one ", function := .builtin .upper, aliases := ["first"] } false,
      .register { id := "two", function := .builtin .lower, aliases := [" first"] } true,
      .register { id := "one", function := .builtin .eq, aliases := ["both "] } true]
    ["one", "two", "first", "both"].map registry.contains = [true, false, false, true] := by
  decide +kernel

end HelperRegistry

end TemplateStream
