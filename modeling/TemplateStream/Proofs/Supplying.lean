import TemplateStream.Parameter.Resolution
import TemplateStream.Proofs.Tables
import TemplateStream.Proofs.Keys
import Mathlib.Data.List.Nodup
import Mathlib.Data.List.Pairwise

/-!
# What a helper call supplies

Before the parameters of a helper call are matched with the declared ones, references among them are
looked up: the names stay as they are, and the first reference that cannot be looked up is what the
call fails with. The declared parameters are found under each of their names, as long as these
differ, and a value is admitted for a parameter if it converts, is one of the choices and lies
within the bounds.
-/

namespace TemplateStream

/-- The names of all parameters of a helper differ. -/
def Helper.Distinct (helper : Helper) : Prop := (helper.parameters.flatMap Parameter.keys).Nodup

namespace Parameter

/-! ## References -/

/-- A given value as it is looked up in a context, if there is one. -/
def looked (context : Option Context) (value : Value) : Except Fault Value :=
  match context, value with
  | some context, .reference path => context.get path
  | _, value => .ok value

/-- A given value and what it is looked up as, under one name. -/
def Looks (context : Option Context) (given supplied : String × Value) : Prop :=
  given.1 = supplied.1 ∧ looked context given.2 = .ok supplied.2

/-- The given values, looked up in a context, if there is one. -/
def supplied (given : Table Value) : Option Context → Except Fault (Table Value)
  | some context => resolveReferences context given
  | none => .ok given

/-- The first of some given values that cannot be looked up, and its fault. -/
def Misses (context : Option Context) (entries : List (String × Value)) (fault : Fault) : Prop :=
  ∃ front name value rest, entries = front ++ (name, value) :: rest ∧
    (∀ entry ∈ front, ∃ found, looked context entry.2 = .ok found) ∧
    looked context value = .error fault

section

variable {context : Option Context} {entry : String × Value} {entries : List (String × Value)}
  {fault : Fault}

theorem Misses.cons {found : Value} (own : looked context entry.2 = .ok found)
    (misses : Misses context entries fault) : Misses context (entry :: entries) fault := by
  obtain ⟨front, name, value, rest, rfl, fine, failed⟩ := misses
  exact ⟨entry :: front, name, value, rest, rfl, List.forall_mem_cons.mpr ⟨⟨found, own⟩, fine⟩,
    failed⟩

/-- Looking up references one after the other inserts what is found, up to the first that is not
found. -/
theorem lookUp_cases (context : Context) (entries : List (String × Value)) (table : Table Value) :
    let ran := entries.foldlM (fun table (entry : String × Value) => do
      let value ← looked (some context) entry.2
      pure (table.insert entry.1 value)) table
    (∃ values, List.Forall₂ (Looks (some context)) entries values ∧
        ran = .ok (table.insertAll values)) ∨
      ∃ fault, Misses (some context) entries fault ∧ ran = .error fault := by
  induction entries generalizing table with
  | nil => exact .inl ⟨[], .nil, rfl⟩
  | cons entry rest ih =>
    dsimp only
    rw [List.foldlM_cons]
    cases own : looked (some context) entry.2 with
    | error fault =>
      exact .inr ⟨fault, ⟨[], entry.1, entry.2, rest, rfl, List.forall_mem_nil _, own⟩, rfl⟩
    | ok value =>
      rcases ih (table.insert entry.1 value) with ⟨values, looks, ran⟩ | ⟨fault, misses, ran⟩
      · exact .inl ⟨(entry.1, value) :: values, .cons ⟨rfl, own⟩ looks, ran⟩
      · exact .inr ⟨fault, misses.cons own, ran⟩

theorem Looks.names {values : List (String × Value)}
    (looks : List.Forall₂ (Looks context) entries values) :
    values.map Prod.fst = entries.map Prod.fst := by
  induction looks with
  | nil => rfl
  | cons own _ ih => rw [List.map_cons, List.map_cons, ih, own.1]

/-- What a call supplies is what is given, looked up under the same names, or it fails as the first
reference that cannot be looked up. -/
theorem supplied_cases (given : Table Value) (context : Option Context) :
    (∃ values, List.Forall₂ (Looks context) given.entries values.entries ∧
        supplied given context = .ok values) ∨
      ∃ fault, Misses context given.entries fault ∧ supplied given context = .error fault := by
  cases context with
  | none =>
    exact .inl ⟨given, List.forall₂_same.mpr fun _ _ => ⟨rfl, rfl⟩, rfl⟩
  | some context =>
    have same : resolveReferences context given =
        given.entries.foldlM (fun table (entry : String × Value) => do
          let value ← looked (some context) entry.2
          pure (table.insert entry.1 value)) {} := by
      refine congrArg (fun step => given.entries.foldlM step (∅ : Table Value)) ?_
      funext table entry
      obtain ⟨_, value⟩ := entry
      cases value <;> rfl
    rw [supplied, same]
    rcases lookUp_cases context given.entries {} with ⟨values, looks, ran⟩ | failed
    · have fresh : (values.map Prod.fst).Nodup := (Looks.names looks).symm ▸ given.nodup
      refine .inl ⟨Table.insertAll ∅ values, ?_, ran⟩
      rwa [Table.entries_insertAll_empty fresh]
    · exact .inr failed

end

/-! ## Declared names -/

section

variable {helper : Helper} {parameter other : Parameter} {name : String}

/-- A name is that of one parameter at most. -/
theorem same_of_name (distinct : helper.Distinct) (member : parameter ∈ helper.parameters)
    (memberToo : other ∈ helper.parameters) (named : name ∈ parameter.keys)
    (namedToo : name ∈ other.keys) : parameter = other := by
  by_contra apart
  have symm : Std.Symm (Function.onFun List.Disjoint Parameter.keys) :=
    ⟨fun _ _ disjoint _ inside insideToo => disjoint insideToo inside⟩
  exact (List.nodup_flatMap.mp distinct).2.forall member memberToo apart named namedToo

/-- The keys of parameters differ. -/
theorem keys_apart (distinct : helper.Distinct) :
    helper.parameters.Pairwise fun parameter other => parameter.key ≠ other.key := by
  refine (List.nodup_flatMap.mp distinct).2.imp fun {parameter other} disjoint same => ?_
  have shared : parameter.key ∈ other.keys := same ▸ List.mem_cons_self
  exact disjoint List.mem_cons_self shared

/-- Parameters whose names are new are all found under their names. -/
theorem index_step {entries : List (String × Parameter)} {table : Table Parameter}
    (fresh : (table.entries.map Prod.fst ++ entries.map Prod.fst).Nodup) (id : String) :
    entries.foldlM (fun table (entry : String × Parameter) =>
      if table.contains entry.1 then
        Except.error (Fault.parameter (.duplicateKey entry.1 id))
      else .ok (table.insert entry.1 entry.2)) table = .ok (table.insertAll entries) := by
  induction entries generalizing table with
  | nil => rfl
  | cons entry rest ih =>
    obtain ⟨absent, still⟩ := Table.fresh_insert fresh
    have lacking : ¬ table.contains entry.1 = true := by
      rw [Table.contains, Table.keys, List.contains_iff_mem]
      exact absent
    rw [List.foldlM_cons, if_neg lacking]
    exact ih still

/-- Under each name there is the parameter that it is a name of. -/
theorem index_distinct (distinct : helper.Distinct) :
    ∃ declared, index helper = .ok declared ∧ ∀ name parameter,
      declared.get? name = some parameter ↔
        parameter ∈ helper.parameters ∧ name ∈ parameter.keys := by
  let entries := helper.parameters.flatMap fun parameter => parameter.keys.map (·, parameter)
  have names : entries.map Prod.fst = helper.parameters.flatMap Parameter.keys := by
    simp [entries, List.map_flatMap, Function.comp_def]
  have fresh : (entries.map Prod.fst).Nodup := names ▸ distinct
  refine ⟨Table.insertAll ∅ entries, @index_step entries ∅ fresh helper.id,
    fun name parameter => ?_⟩
  rw [Table.get?_eq_some_iff, Table.entries_insertAll_empty fresh]
  have listed : (name, parameter) ∈ entries ↔
      parameter ∈ helper.parameters ∧ name ∈ parameter.keys := by
    simp [entries]
  exact listed

/-- Under the key of a parameter there is its default, if it has one. -/
theorem get?_defaults (distinct : helper.Distinct) {key : String} {value : Value} :
    (defaults helper).get? key = some value ↔
      ∃ parameter ∈ helper.parameters, parameter.key = key ∧ parameter.default = some value := by
  let entries := helper.parameters.filterMap fun parameter =>
    parameter.default.map (parameter.key, ·)
  have step : defaults helper = helper.parameters.foldl (fun table parameter =>
      parameter.default.elim table (table.insert parameter.key)) ∅ := by
    refine congrArg (fun step => helper.parameters.foldl step (∅ : Table Value)) ?_
    funext table parameter
    cases parameter.default <;> rfl
  have inserts (parameters : List Parameter) (table : Table Value) :
      parameters.foldl (fun table parameter =>
        parameter.default.elim table (table.insert parameter.key)) table =
      table.insertAll (parameters.filterMap fun parameter =>
        parameter.default.map (parameter.key, ·)) := by
    induction parameters generalizing table with
    | nil => rfl
    | cons parameter rest ih =>
      rw [List.foldl_cons, ih, List.filterMap_cons]
      cases parameter.default <;> rfl
  have fresh : (entries.map Prod.fst).Nodup := by
    refine List.pairwise_map.mpr ((keys_apart distinct).filterMap _ ?_)
    intro parameter other apart entry own entryToo ownToo
    obtain ⟨_, _, rfl⟩ := Option.map_eq_some_iff.mp own
    obtain ⟨_, _, rfl⟩ := Option.map_eq_some_iff.mp ownToo
    exact apart
  have same : defaults helper = Table.insertAll ∅ entries :=
    step.trans (inserts helper.parameters ∅)
  rw [same, Table.get?_eq_some_iff, Table.entries_insertAll_empty fresh]
  have listed : (key, value) ∈ entries ↔
      ∃ parameter ∈ helper.parameters, parameter.key = key ∧ parameter.default = some value := by
    simp [entries, and_comm, Prod.ext_iff]
  exact listed

end

/-! ## Admitted values -/

/-- A value converts to another one for a parameter, which is one of the choices, if there are any,
and, if it is a number, not below the least or above the greatest. -/
structure Admits (parameter : Parameter) (helper : String) (raw value : Value) : Prop where
  converts : parameter.convert helper raw = .ok value
  chosen : parameter.choices = [] ∨ ∃ choice ∈ parameter.choices, value.same choice = true
  least : isNumber value = true → ∀ bound, parameter.minimum = some bound →
    isOutside .lt value bound = .ok false
  greatest : isNumber value = true → ∀ bound, parameter.maximum = some bound →
    isOutside .gt value bound = .ok false

section

variable {parameter : Parameter} {helper : String} {raw value : Value}

/-- A number passes a bound that it is not outside of. -/
theorem bounded_ok_iff {α : Type} {side : Ordering} {bound : Value} {fault : Fault}
    {rest : Except Fault α} {result : α} :
    (do
      if ← isOutside side value bound then
        throw fault
      rest) = .ok result ↔
      isOutside side value bound = .ok false ∧ rest = .ok result := by
  rcases isOutside side value bound with _ | _ | _ <;> simp [bind, Except.bind, throw]

/-- A value that is checked is one of the choices and within the bounds, and is left as it is. -/
theorem check_ok_iff : parameter.check helper raw = .ok value ↔
    raw = value ∧ (parameter.choices = [] ∨ ∃ choice ∈ parameter.choices, raw.same choice = true) ∧
      (isNumber raw = true → ∀ bound, parameter.minimum = some bound →
        isOutside .lt raw bound = .ok false) ∧
      (isNumber raw = true → ∀ bound, parameter.maximum = some bound →
        isOutside .gt raw bound = .ok false) := by
  rw [check]
  have chosen : (!parameter.choices.isEmpty && !parameter.choices.any (Value.same raw)) = true ↔
      ¬ (parameter.choices = [] ∨ ∃ choice ∈ parameter.choices, raw.same choice = true) := by
    simp
  -- Only numbers have bounds, and each bound may be there or not.
  by_cases fits : parameter.choices = [] ∨ ∃ choice ∈ parameter.choices, raw.same choice = true
  · rw [if_neg (fun refused => chosen.mp refused fits)]
    cases isNumber raw with
    | false => simp [fits, pure, Except.pure]
    | true =>
      rw [if_pos rfl]
      have done : (pure raw : Except Fault Value) = .ok value ↔ raw = value := by
        simp [pure, Except.pure]
      cases parameter.minimum with
      | none =>
        cases parameter.maximum with
        | none => simp [fits, done]
        | some greatest =>
          dsimp only
          rw [bounded_ok_iff, done]
          simp [fits, and_comm]
      | some least =>
        cases parameter.maximum with
        | none =>
          dsimp only
          rw [bounded_ok_iff, done]
          simp [fits, and_comm]
        | some greatest =>
          dsimp only
          rw [bounded_ok_iff, bounded_ok_iff, done]
          simp [fits, and_comm, and_assoc]
  · rw [if_pos (chosen.mpr fits)]
    exact iff_of_false nofun fun checked => fits checked.2.1

/-- A value is coerced to one that it is admitted as. -/
theorem coerce_ok_iff : parameter.coerce helper raw = .ok value ↔
    parameter.Admits helper raw value := by
  rw [coerce]
  cases converted : parameter.convert helper raw with
  | error fault =>
    refine iff_of_false nofun fun admits => ?_
    rw [admits.converts] at converted
    cases converted
  | ok other =>
    have checks : parameter.check helper other = .ok value ↔ _ := check_ok_iff
    refine checks.trans ⟨?_, fun admits => ?_⟩
    · rintro ⟨rfl, chosen, least, greatest⟩
      exact ⟨converted, chosen, least, greatest⟩
    · have same := admits.converts
      rw [converted] at same
      cases same
      exact ⟨rfl, admits.chosen, admits.least, admits.greatest⟩

/-- A value fails to be coerced when it is admitted as nothing. -/
theorem coerce_error_iff : (∃ fault, parameter.coerce helper raw = .error fault) ↔
    ∀ value, ¬ parameter.Admits helper raw value := by
  simp only [← coerce_ok_iff]
  cases parameter.coerce helper raw <;> simp

/-- Integers are compared as such. -/
theorem compareNumbers_int (number bound : Int) :
    (Value.int number).compareNumbers (.int bound) = some (compare number bound) := by
  have whole : (Decimal.Ratio.ofInt number).compare (.ofInt bound) = compare number bound := by
    simp [Decimal.Ratio.compare, Decimal.Ratio.ofInt]
  exact congrArg some whole

/-- What an integer parameter admits a value as is an integer within the bounds. -/
theorem Admits.within (admits : parameter.Admits helper raw value)
    (whole : parameter.type = .int) :
    ∃ number, value = .int number ∧
      (∀ bound, parameter.minimum = some (.int bound) → bound ≤ number) ∧
      ∀ bound, parameter.maximum = some (.int bound) → number ≤ bound := by
  obtain ⟨number, rfl⟩ : ∃ number, value = .int number := by
    have converts := admits.converts
    unfold convert at converts
    rw [whole] at converts
    dsimp only at converts
    split at converts
    · cases converts
      exact ⟨_, rfl⟩
    · cases converts
    · cases converts
  refine ⟨number, rfl, fun bound least => ?_, fun bound greatest => ?_⟩
  · have inside := Except.ok.inj (admits.least rfl _ least)
    rw [compareNumbers_int, beq_eq_false_iff_ne] at inside
    exact Int.not_lt.mp fun below => inside (congrArg some (Int.compare_eq_lt.mpr below))
  · have inside := Except.ok.inj (admits.greatest rfl _ greatest)
    rw [compareNumbers_int, beq_eq_false_iff_ne] at inside
    exact Int.not_lt.mp fun above => inside (congrArg some (Int.compare_eq_gt.mpr above))

end

end Parameter

end TemplateStream
