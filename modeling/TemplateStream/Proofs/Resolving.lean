import Mathlib.Data.String.Basic
import TemplateStream.Proofs.Supplying

/-!
# Resolving parameters

The values that a helper call supplies are taken one after the other. Each is passed over, since it
is null, or taken: for the parameter that has its name, as what that parameter admits it as, or
under its own name, if no parameter has it and the helper is not strict. A value that is neither
ends the resolution. So a parameter ends up with the last value that is supplied under one of its
names, else with its default, and a value that is superseded has to be admitted like any other.
-/

namespace TemplateStream.Parameter

/-- No parameter of a helper has a name. -/
def Undeclared (helper : Helper) (name : String) : Prop :=
  ∀ parameter ∈ helper.parameters, name ∉ parameter.keys

/-- A value that is supplied is taken under a key, as it is admitted or as it is. -/
inductive Takes (helper : Helper) : String × Value → String × Value → Prop where
  | declared {parameter : Parameter} {name : String} {raw value : Value}
      (member : parameter ∈ helper.parameters) (named : name ∈ parameter.keys)
      (given : raw ≠ .null) (admits : parameter.Admits helper.id raw value) :
    Takes helper (name, raw) (parameter.key, value)
  | undeclared {name : String} {value : Value} (lenient : helper.strict = false)
      (undeclared : Undeclared helper name) (given : value ≠ .null) :
    Takes helper (name, value) (name, value)

/-- A value that is supplied ends the resolution with a fault: the parameter that has its name does
not admit it, or none has its name, and the helper is strict. -/
inductive Offends (helper : Helper) : String × Value → Fault → Prop where
  | refused {parameter : Parameter} {name : String} {raw : Value} {fault : Fault}
      (member : parameter ∈ helper.parameters) (named : name ∈ parameter.keys)
      (given : raw ≠ .null) (refused : parameter.coerce helper.id raw = .error fault) :
    Offends helper (name, raw) fault
  | unknown {name : String} {value : Value} (strict : helper.strict = true)
      (undeclared : Undeclared helper name) (given : value ≠ .null) :
    Offends helper (name, value)
      (.parameter (.unknown name helper.id (helper.parameters.map Parameter.key)))

/-- No value among some supplied ones ends the resolution. -/
def AllFine (helper : Helper) (entries : List (String × Value)) : Prop :=
  ∀ entry ∈ entries, ∀ fault, ¬ Offends helper entry fault

/-- No value among some supplied ones is taken under a key. -/
def Untouched (helper : Helper) (entries : List (String × Value)) (key : String) : Prop :=
  ∀ entry ∈ entries, ∀ value, ¬ Takes helper entry (key, value)

/-- The last value among some supplied ones that is taken under a key is taken as a value. -/
def Last (helper : Helper) (entries : List (String × Value)) (key : String) (value : Value) :
    Prop :=
  ∃ front entry rest, entries = front ++ entry :: rest ∧ Takes helper entry (key, value) ∧
    Untouched helper rest key

section

variable {helper : Helper} {declared : Table Parameter} {entry : String × Value}
  {entries : List (String × Value)} {resolved : Table Value} {fault : Fault} {key : String}
  {value : Value}

/-! ## One value -/

/-- What a value is taken as is settled. -/
theorem Takes.unique (distinct : helper.Distinct) {first second : String × Value}
    (takes : Takes helper entry first) (takesToo : Takes helper entry second) : first = second := by
  cases takes with
  | declared member named given admits =>
    cases takesToo with
    | declared memberToo namedToo givenToo admitsToo =>
      obtain rfl := same_of_name distinct member memberToo named namedToo
      have same := (coerce_ok_iff.mpr admits).symm.trans (coerce_ok_iff.mpr admitsToo)
      rw [Except.ok.inj same]
    | undeclared _ undeclared _ => exact absurd named (undeclared _ member)
  | undeclared _ undeclared given =>
    cases takesToo with
    | declared member named _ _ => exact absurd named (undeclared _ member)
    | undeclared => rfl

/-- A value that is taken does not end the resolution. -/
theorem Takes.fine (distinct : helper.Distinct) {taken : String × Value}
    (takes : Takes helper entry taken) (fault : Fault) : ¬ Offends helper entry fault := by
  intro offends
  cases takes with
  | declared member named given admits =>
    cases offends with
    | refused memberToo namedToo _ refused =>
      obtain rfl := same_of_name distinct member memberToo named namedToo
      rw [coerce_ok_iff.mpr admits] at refused
      cases refused
    | unknown _ undeclared _ => exact undeclared _ member named
  | undeclared lenient undeclared given =>
    cases offends with
    | refused member named _ _ => exact undeclared _ member named
    | unknown strict _ _ => simp [strict] at lenient

/-- A value ends the resolution with one fault. -/
theorem Offends.unique (distinct : helper.Distinct) {other : Fault}
    (offends : Offends helper entry fault) (offendsToo : Offends helper entry other) :
    fault = other := by
  cases offends with
  | refused member named _ refused =>
    cases offendsToo with
    | refused memberToo namedToo _ refusedToo =>
      obtain rfl := same_of_name distinct member memberToo named namedToo
      rw [refused] at refusedToo
      exact Except.error.inj refusedToo
    | unknown _ undeclared _ => exact absurd named (undeclared _ member)
  | unknown _ undeclared _ =>
    cases offendsToo with
    | refused member named _ _ => exact absurd named (undeclared _ member)
    | unknown => rfl

/-- The first value that ends the resolution is one. -/
theorem offends_first {front rest others behind : List (String × Value)} {first : String × Value}
    {own other : Fault} (same : front ++ entry :: rest = others ++ first :: behind)
    (fine : AllFine helper front) (fineToo : AllFine helper others)
    (offends : Offends helper entry own) (offendsToo : Offends helper first other) :
    entry = first := by
  rcases List.append_eq_append_iff.mp same with ⟨left, rfl, split⟩ | ⟨left, rfl, split⟩
  · cases left with
    | nil => exact (List.cons.inj split).1
    | cons head tail =>
      obtain ⟨rfl, _⟩ := List.cons.inj split
      exact absurd offends (fineToo entry (by simp) own)
  · cases left with
    | nil => exact (List.cons.inj split).1.symm
    | cons head tail =>
      obtain ⟨rfl, _⟩ := List.cons.inj split
      exact absurd offendsToo (fine first (by simp) other)

/-- A null is passed over: it is not taken and does not end the resolution. -/
theorem null_passed (name : String) :
    (∀ taken, ¬ Takes helper (name, .null) taken) ∧
      ∀ fault, ¬ Offends helper (name, .null) fault := by
  refine ⟨fun taken takes => ?_, fun fault offends => ?_⟩
  · cases takes with
    | declared _ _ given _ => exact given rfl
    | undeclared _ _ given => exact given rfl
  · cases offends with
    | refused _ _ given _ => exact given rfl
    | unknown _ _ given => exact given rfl

/-- The value that comes next is passed over, or taken, or ends the resolution. -/
theorem accept_cases (finds : ∀ name parameter, declared.get? name = some parameter ↔
      parameter ∈ helper.parameters ∧ name ∈ parameter.keys)
    (resolved : Table Value) (entry : String × Value) :
    (entry.2 = .null ∧ accept helper declared resolved entry = .ok resolved) ∨
      (∃ taken, Takes helper entry taken ∧
        accept helper declared resolved entry = .ok (resolved.insert taken.1 taken.2)) ∨
      ∃ fault, Offends helper entry fault ∧
        accept helper declared resolved entry = .error fault := by
  obtain ⟨name, raw⟩ := entry
  by_cases given : raw = .null
  · subst given
    exact .inl ⟨rfl, rfl⟩
  · refine .inr ?_
    cases found : declared.get? name with
    | some parameter =>
      have step : accept helper declared resolved (name, raw) = (do
          pure (resolved.insert parameter.key (← parameter.coerce helper.id raw))) := by
        cases raw <;> first | exact absurd rfl given | simp only [accept, found]
      rw [step]
      obtain ⟨member, named⟩ := (finds name parameter).mp found
      cases coerced : parameter.coerce helper.id raw with
      | ok value =>
        exact .inl ⟨(parameter.key, value), .declared member named given (coerce_ok_iff.mp coerced),
          rfl⟩
      | error fault => exact .inr ⟨fault, .refused member named given coerced, rfl⟩
    | none =>
      have step : accept helper declared resolved (name, raw) =
          if helper.strict then
            .error (.parameter (.unknown name helper.id (helper.parameters.map Parameter.key)))
          else .ok (resolved.insert name raw) := by
        cases raw <;> first | exact absurd rfl given | simp only [accept, found]
      rw [step]
      have undeclared : Undeclared helper name := fun parameter member named => by
        rw [(finds name parameter).mpr ⟨member, named⟩] at found
        cases found
      cases strict : helper.strict with
      | true => exact .inr ⟨_, .unknown strict undeclared given, rfl⟩
      | false => exact .inl ⟨(name, raw), .undeclared strict undeclared given, rfl⟩

/-! ## All values -/

theorem last_cons : Last helper (entry :: entries) key value ↔
    Last helper entries key value ∨
      Takes helper entry (key, value) ∧ Untouched helper entries key := by
  constructor
  · rintro ⟨front, other, rest, split, takes, untouched⟩
    rcases List.cons_eq_append_iff.mp split with ⟨rfl, same⟩ | ⟨left, rfl, same⟩
    · cases same
      exact .inr ⟨takes, untouched⟩
    · exact .inl ⟨left, other, rest, same, takes, untouched⟩
  · rintro (⟨front, other, rest, rfl, takes, untouched⟩ | ⟨takes, untouched⟩)
    · exact ⟨entry :: front, other, rest, rfl, takes, untouched⟩
    · exact ⟨[], entry, entries, rfl, takes, untouched⟩

theorem untouched_cons : Untouched helper (entry :: entries) key ↔
    (∀ value, ¬ Takes helper entry (key, value)) ∧ Untouched helper entries key :=
  List.forall_mem_cons

/-- Under each key there is the last value that was taken there, or else what was there before. -/
def Settles (helper : Helper) (entries : List (String × Value)) (before after : Table Value) :
    Prop :=
  ∀ key value, after.get? key = some value ↔
    Last helper entries key value ∨ Untouched helper entries key ∧ before.get? key = some value

theorem settles_nil (table : Table Value) : Settles helper [] table table := by
  intro key value
  simp [Last, Untouched]

/-- A value that is passed over leaves everything to those behind it. -/
theorem Settles.passed {before after : Table Value} (passed : ∀ taken, ¬ Takes helper entry taken)
    (settles : Settles helper entries before after) :
    Settles helper (entry :: entries) before after := by
  intro key value
  rw [settles key value, last_cons, untouched_cons]
  simp [passed]

/-- A value that is taken stays if no other is taken in its place. -/
theorem Settles.taken (distinct : helper.Distinct) {before after : Table Value}
    {taken : String × Value} (takes : Takes helper entry taken)
    (settles : Settles helper entries (before.insert taken.1 taken.2) after) :
    Settles helper (entry :: entries) before after := by
  intro key value
  rw [settles key value, last_cons, untouched_cons, Table.get?_insert]
  by_cases here : key = taken.1
  · subst here
    have same : Takes helper entry (taken.1, value) ↔ taken.2 = value :=
      ⟨fun also => congrArg Prod.snd (takes.unique distinct also), fun same => same ▸ takes⟩
    have touched : ¬ ∀ value, ¬ Takes helper entry (taken.1, value) := fun none =>
      none taken.2 takes
    rw [if_pos rfl, same, Option.some.injEq]
    tauto
  · have elsewhere (value : Value) : ¬ Takes helper entry (key, value) := fun also =>
      here (congrArg Prod.fst (also.unique distinct takes))
    rw [if_neg here]
    simp [elsewhere]

/-- Either no value is taken under a key, or one of those that are is the last. -/
theorem untouched_or_last (entries : List (String × Value)) (key : String) :
    Untouched helper entries key ∨ ∃ value, Last helper entries key value := by
  induction entries with
  | nil => exact .inl (List.forall_mem_nil _)
  | cons entry rest ih =>
    rcases ih with untouched | ⟨value, last⟩
    · by_cases taken : ∃ value, Takes helper entry (key, value)
      · obtain ⟨value, takes⟩ := taken
        exact .inr ⟨value, last_cons.mpr (.inr ⟨takes, untouched⟩)⟩
      · exact .inl (untouched_cons.mpr ⟨not_exists.mp taken, untouched⟩)
    · exact .inr ⟨value, last_cons.mpr (.inl last)⟩

/-- The values that are supplied are taken one after the other, up to the first that ends the
resolution. -/
theorem acceptAll_cases (distinct : helper.Distinct)
    (finds : ∀ name parameter, declared.get? name = some parameter ↔
      parameter ∈ helper.parameters ∧ name ∈ parameter.keys)
    (entries : List (String × Value)) (resolved : Table Value) :
    (∃ settled, entries.foldlM (accept helper declared) resolved = .ok settled ∧
        AllFine helper entries ∧ Settles helper entries resolved settled) ∨
      ∃ front entry rest fault, entries = front ++ entry :: rest ∧ AllFine helper front ∧
        Offends helper entry fault ∧
        entries.foldlM (accept helper declared) resolved = .error fault := by
  induction entries generalizing resolved with
  | nil => exact .inl ⟨resolved, rfl, List.forall_mem_nil _, settles_nil resolved⟩
  | cons entry rest ih =>
    -- Whatever the first value comes to, the others go on from there.
    have onwards {next : Table Value} (fine : ∀ fault, ¬ Offends helper entry fault)
        (accepted : accept helper declared resolved entry = .ok next)
        (settling : ∀ {after}, Settles helper rest next after →
          Settles helper (entry :: rest) resolved after) :
        (∃ settled, (entry :: rest).foldlM (accept helper declared) resolved = .ok settled ∧
            AllFine helper (entry :: rest) ∧ Settles helper (entry :: rest) resolved settled) ∨
          ∃ front other behind fault, entry :: rest = front ++ other :: behind ∧
            AllFine helper front ∧ Offends helper other fault ∧
            (entry :: rest).foldlM (accept helper declared) resolved = .error fault := by
      have step : (entry :: rest).foldlM (accept helper declared) resolved =
          rest.foldlM (accept helper declared) next := by
        rw [List.foldlM_cons, accepted]
        rfl
      rw [step]
      rcases ih next with
        ⟨settled, ran, others, settles⟩ | ⟨front, other, behind, fault, rfl, others, offends, ran⟩
      · exact .inl ⟨settled, ran, List.forall_mem_cons.mpr ⟨fine, others⟩, settling settles⟩
      · exact .inr ⟨entry :: front, other, behind, fault, rfl,
          List.forall_mem_cons.mpr ⟨fine, others⟩, offends, ran⟩
    rcases accept_cases finds resolved entry with
      ⟨null, accepted⟩ | ⟨taken, takes, accepted⟩ | ⟨fault, offends, failed⟩
    · have passed := @null_passed helper entry.1
      rw [← null] at passed
      exact onwards passed.2 accepted fun settles => settles.passed passed.1
    · exact onwards (takes.fine distinct) accepted fun settles => settles.taken distinct takes
    · refine .inr ⟨[], entry, rest, fault, rfl, List.forall_mem_nil _, offends, ?_⟩
      rw [List.foldlM_cons, failed]
      rfl

/-! ## What is under a key -/

/-- No value among some supplied ones is given under a name of a parameter. -/
def Ungiven (parameter : Parameter) (entries : List (String × Value)) : Prop :=
  ∀ entry ∈ entries, entry.1 ∈ parameter.keys → entry.2 = .null

/-- The last value among some supplied ones that is given under a name of a parameter is admitted as
a value. -/
def Given (parameter : Parameter) (helper : String) (entries : List (String × Value))
    (value : Value) : Prop :=
  ∃ front name raw rest, entries = front ++ (name, raw) :: rest ∧ name ∈ parameter.keys ∧
    raw ≠ .null ∧ parameter.Admits helper raw value ∧ parameter.Ungiven rest

variable {parameter : Parameter}

theorem takes_key_iff (distinct : helper.Distinct) (member : parameter ∈ helper.parameters) :
    Takes helper entry (parameter.key, value) ↔
      entry.1 ∈ parameter.keys ∧ entry.2 ≠ .null ∧ parameter.Admits helper.id entry.2 value := by
  have own : parameter.key ∈ parameter.keys := List.mem_cons_self
  constructor
  · intro takes
    generalize taken : (parameter.key, value) = settled at takes
    cases takes with
    | declared memberToo named given admits =>
      obtain ⟨keys, rfl⟩ := Prod.mk.inj taken
      obtain rfl := same_of_name distinct member memberToo own (keys ▸ List.mem_cons_self)
      exact ⟨named, given, admits⟩
    | undeclared _ undeclared _ =>
      cases taken
      exact absurd own (undeclared parameter member)
  · rintro ⟨named, given, admits⟩
    exact .declared member named given admits

/-- Nothing is taken for a parameter that is not given. -/
theorem untouched_iff (distinct : helper.Distinct) (member : parameter ∈ helper.parameters)
    (fine : AllFine helper entries) :
    Untouched helper entries parameter.key ↔ parameter.Ungiven entries := by
  refine forall₂_congr fun entry inside => ?_
  constructor
  · intro untaken named
    by_contra given
    cases coerced : parameter.coerce helper.id entry.2 with
    | ok value =>
      exact untaken value ((takes_key_iff distinct member).mpr
        ⟨named, given, coerce_ok_iff.mp coerced⟩)
    | error fault => exact fine entry inside fault (.refused member named given coerced)
  · intro ungiven value takes
    obtain ⟨named, given, _⟩ := (takes_key_iff distinct member).mp takes
    exact given (ungiven named)

/-- What is taken last for a parameter is what is given last for it. -/
theorem last_iff (distinct : helper.Distinct) (member : parameter ∈ helper.parameters)
    (fine : AllFine helper entries) :
    Last helper entries parameter.key value ↔ parameter.Given helper.id entries value := by
  constructor
  · rintro ⟨front, ⟨name, raw⟩, rest, rfl, takes, untouched⟩
    obtain ⟨named, given, admits⟩ := (takes_key_iff distinct member).mp takes
    have others : AllFine helper rest := fun entry inside => fine entry (by simp [inside])
    exact ⟨front, name, raw, rest, rfl, named, given, admits,
      (untouched_iff distinct member others).mp untouched⟩
  · rintro ⟨front, name, raw, rest, rfl, named, given, admits, ungiven⟩
    have others : AllFine helper rest := fun entry inside => fine entry (by simp [inside])
    exact ⟨front, (name, raw), rest, rfl, .declared member named given admits,
      (untouched_iff distinct member others).mpr ungiven⟩

/-- What is taken under a name that no parameter has is what is supplied under it. -/
theorem takes_undeclared_iff (undeclared : Undeclared helper key) :
    Takes helper entry (key, value) ↔
      helper.strict = false ∧ entry = (key, value) ∧ value ≠ .null := by
  constructor
  · intro takes
    generalize taken : (key, value) = settled at takes
    cases takes with
    | declared member named given admits =>
      cases taken
      exact absurd List.mem_cons_self (undeclared _ member)
    | undeclared lenient _ given =>
      cases taken
      exact ⟨lenient, rfl, given⟩
  · rintro ⟨lenient, rfl, given⟩
    exact .undeclared lenient undeclared given

/-- Of different names, one is supplied once. -/
theorem last_undeclared_iff (nodup : (entries.map Prod.fst).Nodup)
    (undeclared : Undeclared helper key) :
    Last helper entries key value ↔
      helper.strict = false ∧ (key, value) ∈ entries ∧ value ≠ .null := by
  constructor
  · rintro ⟨front, entry, rest, rfl, takes, -⟩
    obtain ⟨lenient, rfl, given⟩ := (takes_undeclared_iff undeclared).mp takes
    exact ⟨lenient, by simp, given⟩
  · rintro ⟨lenient, inside, given⟩
    obtain ⟨front, rest, rfl⟩ := List.append_of_mem inside
    refine ⟨front, (key, value), rest, rfl, .undeclared lenient undeclared given, ?_⟩
    intro later behind other takes
    obtain ⟨_, rfl, _⟩ := (takes_undeclared_iff undeclared).mp takes
    rw [List.map_append, List.map_cons] at nodup
    have fresh : key ∉ rest.map Prod.fst := (List.nodup_cons.mp (List.nodup_append.mp nodup).2.1).1
    exact fresh (List.mem_map.mpr ⟨(key, other), behind, rfl⟩)

/-! ## What is missing -/

theorem eraseDups_of_nodup {names : List String} (nodup : names.Nodup) :
    names.eraseDups = names := by
  induction names with
  | nil => rfl
  | cons name rest ih =>
    obtain ⟨fresh, nodup⟩ := List.nodup_cons.mp nodup
    have others : rest.filter (fun other => !other == name) = rest := by
      refine List.filter_eq_self.mpr fun other member => ?_
      have apart : other ≠ name := fun same => fresh (same ▸ member)
      simp [apart]
    rw [List.eraseDups_cons, others, ih nodup]

/-- Names that differ are in strictly ascending order when they are sorted. -/
theorem sortedNames_strict {names : List String} (nodup : names.Nodup) :
    (sortedNames names).Pairwise (· < ·) := by
  have ordered (left right : String) : (!decide (right < left)) = true ↔ left ≤ right := by
    rw [Bool.not_eq_true', decide_eq_false_iff_not, not_lt]
  have sorted : (sortedNames names).Pairwise fun left right => (!decide (right < left)) = true := by
    refine List.pairwise_mergeSort (fun left middle right => ?_) (fun left right => ?_) names
    · rw [ordered, ordered, ordered]
      exact le_trans
    · rw [Bool.or_eq_true, ordered, ordered]
      exact le_total left right
  have differ : (sortedNames names).Nodup := (names.mergeSort_perm _).nodup_iff.mpr nodup
  refine (sorted.and differ).imp fun {left right} ⟨before, apart⟩ => ?_
  exact lt_of_le_of_ne ((ordered left right).mp before) apart

/-- A parameter that is required has neither a value nor a default. -/
structure Lacking (parameter : Parameter) (entries : List (String × Value)) : Prop where
  required : parameter.required = true
  ungiven : parameter.Ungiven entries
  plain : parameter.default = none

/-- The keys of required parameters that nothing is under are missing, in ascending order. -/
theorem missing_spec (distinct : helper.Distinct) (resolved : Table Value) :
    (missing helper resolved).Pairwise (· < ·) ∧ ∀ key, key ∈ missing helper resolved ↔
      ∃ parameter ∈ helper.parameters, parameter.key = key ∧ parameter.required = true ∧
        resolved.get? key = none := by
  have nodup : ((helper.parameters.filter Parameter.required).map Parameter.key).Nodup :=
    List.pairwise_map.mpr ((keys_apart distinct).sublist List.filter_sublist)
  rw [missing, eraseDups_of_nodup nodup]
  refine ⟨sortedNames_strict (nodup.sublist List.filter_sublist), fun key => ?_⟩
  rw [sortedNames, List.mem_mergeSort, List.mem_filter, Bool.not_eq_true', Table.not_contains_iff]
  simp only [List.mem_map, List.mem_filter]
  constructor
  · rintro ⟨⟨parameter, ⟨member, required⟩, rfl⟩, nothing⟩
    exact ⟨parameter, member, rfl, required, nothing⟩
  · rintro ⟨parameter, member, rfl, required, nothing⟩
    exact ⟨⟨parameter, ⟨member, required⟩, rfl⟩, nothing⟩

/-! ## Whole calls -/

/-- What is resolved from the values that a call supplies: what is under each key, if it succeeds,
and the fault, if it does not. -/
structure Resolved (helper : Helper) (values : Table Value) (result : Except Fault (Table Value)) :
    Prop where
  succeeds : (∃ resolved, result = .ok resolved) ↔ AllFine helper values.entries ∧
    ∀ parameter ∈ helper.parameters, ¬ parameter.Lacking values.entries
  holds : ∀ resolved, result = .ok resolved → ∀ key value, resolved.get? key = some value ↔
    (∃ parameter ∈ helper.parameters, parameter.key = key ∧
        (parameter.Given helper.id values.entries value ∨
          parameter.Ungiven values.entries ∧ parameter.default = some value)) ∨
      helper.strict = false ∧ Undeclared helper key ∧ values.get? key = some value ∧ value ≠ .null
  refuses : ∀ parameter ∈ helper.parameters, ∀ raw,
    (∃ fault, parameter.coerce helper.id raw = .error fault) ↔
      ∀ value, ¬ parameter.Admits helper.id raw value
  within : ∀ parameter ∈ helper.parameters, parameter.type = .int → ∀ value,
    parameter.Given helper.id values.entries value → ∃ number, value = .int number ∧
      (∀ bound, parameter.minimum = some (.int bound) → bound ≤ number) ∧
      ∀ bound, parameter.maximum = some (.int bound) → number ≤ bound
  offends : ∀ front entry rest fault, values.entries = front ++ entry :: rest →
    AllFine helper front → Offends helper entry fault → result = .error fault
  lacks : AllFine helper values.entries →
    (∃ parameter ∈ helper.parameters, parameter.Lacking values.entries) →
    ∃ keys, result = .error (.parameter (.missing helper.id keys)) ∧ keys.Pairwise (· < ·) ∧
      ∀ key, key ∈ keys ↔
        ∃ parameter ∈ helper.parameters, parameter.key = key ∧ parameter.Lacking values.entries

/-- Supplied values matched with the declared parameters. -/
def matched (helper : Helper) (values : Table Value) : Except Fault (Table Value) := do
  let declared ← index helper
  let resolved ← values.entries.foldlM (accept helper declared) (defaults helper)
  match missing helper resolved with
  | [] => pure resolved
  | keys => throw (.parameter (.missing helper.id keys))

theorem resolve_eq (declares : helper.parameters ≠ [] ∨ helper.strict = true) (given : Table Value)
    (context : Option Context) :
    resolve helper given context = supplied given context >>= matched helper := by
  have goesOn : ¬ (helper.parameters.isEmpty && !helper.strict) = true := by
    simpa [imp_iff_not_or] using declares
  unfold resolve
  simp only [if_neg goesOn]
  cases context <;> rfl

section settled

variable {values settled : Table Value}

/-- Under the key of a parameter there is what was given last for it, or its default. -/
theorem settled_declared (distinct : helper.Distinct) (fine : AllFine helper values.entries)
    (settles : Settles helper values.entries (defaults helper) settled)
    (member : parameter ∈ helper.parameters) :
    settled.get? parameter.key = some value ↔ parameter.Given helper.id values.entries value ∨
      parameter.Ungiven values.entries ∧ parameter.default = some value := by
  rw [settles, last_iff distinct member fine, untouched_iff distinct member fine,
    get?_defaults distinct]
  refine or_congr_right (and_congr_right fun _ => ⟨?_, fun own => ⟨parameter, member, rfl, own⟩⟩)
  rintro ⟨other, memberToo, keys, own⟩
  have shared : parameter.key ∈ other.keys := keys ▸ List.mem_cons_self
  obtain rfl := same_of_name distinct member memberToo List.mem_cons_self shared
  exact own

/-- Under a name that no parameter has there is what was supplied under it. -/
theorem settled_undeclared (distinct : helper.Distinct)
    (settles : Settles helper values.entries (defaults helper) settled)
    (undeclared : Undeclared helper key) :
    settled.get? key = some value ↔
      helper.strict = false ∧ values.get? key = some value ∧ value ≠ .null := by
  have plain : ¬ (defaults helper).get? key = some value := by
    rw [get?_defaults distinct]
    rintro ⟨parameter, member, rfl, _⟩
    exact undeclared parameter member List.mem_cons_self
  rw [settles, last_undeclared_iff values.nodup undeclared, ← Table.get?_eq_some_iff]
  exact or_iff_left fun held => plain held.2

/-- There is nothing under a name that a parameter has besides its key. -/
theorem settled_alias (distinct : helper.Distinct)
    (settles : Settles helper values.entries (defaults helper) settled)
    (member : parameter ∈ helper.parameters) (named : key ∈ parameter.keys)
    (other : ∀ parameter ∈ helper.parameters, parameter.key ≠ key) : settled.get? key = none := by
  refine Option.eq_none_iff_forall_ne_some.mpr fun value held => ?_
  rw [settles, get?_defaults distinct] at held
  rcases held with ⟨_, entry, _, _, takes, _⟩ | ⟨_, own, memberToo, keys, _⟩
  · generalize taken : (key, value) = settled at takes
    cases takes with
    | declared memberToo _ _ _ => exact other _ memberToo (congrArg Prod.fst taken).symm
    | undeclared _ undeclared _ =>
      cases taken
      exact undeclared parameter member named
  · exact other own memberToo keys

/-- Nothing is under the key of a parameter that has neither a value nor a default. -/
theorem settled_none (distinct : helper.Distinct) (fine : AllFine helper values.entries)
    (settles : Settles helper values.entries (defaults helper) settled)
    (member : parameter ∈ helper.parameters) :
    settled.get? parameter.key = none ↔
      parameter.Ungiven values.entries ∧ parameter.default = none := by
  have holds (value : Value) := @settled_declared helper value parameter values settled distinct
    fine settles member
  rw [Option.eq_none_iff_forall_ne_some]
  constructor
  · intro nothing
    -- Not to be given is more than to have no value: something has to have been taken otherwise.
    rcases @untouched_or_last helper values.entries parameter.key with untouched | ⟨value, last⟩
    · have ungiven := (untouched_iff distinct member fine).mp untouched
      refine ⟨ungiven, Option.eq_none_iff_forall_ne_some.mpr fun value own => ?_⟩
      exact nothing value ((holds value).mpr (.inr ⟨ungiven, own⟩))
    · exact absurd ((settles _ value).mpr (.inl last)) (nothing value)
  · rintro ⟨ungiven, plain⟩ value held
    rcases (holds value).mp held with ⟨front, name, raw, rest, split, named, given, _⟩ | ⟨_, own⟩
    · exact given (ungiven (name, raw) (by simp [split]) named)
    · rw [plain] at own
      cases own

/-- What is under a key when all values were taken. -/
theorem settled_holds (distinct : helper.Distinct) (fine : AllFine helper values.entries)
    (settles : Settles helper values.entries (defaults helper) settled) :
    settled.get? key = some value ↔
      (∃ parameter ∈ helper.parameters, parameter.key = key ∧
          (parameter.Given helper.id values.entries value ∨
            parameter.Ungiven values.entries ∧ parameter.default = some value)) ∨
        helper.strict = false ∧ Undeclared helper key ∧ values.get? key = some value ∧
          value ≠ .null := by
  -- A name is the key of a parameter, or one that no parameter has, or another name of one.
  by_cases declared : ∃ parameter ∈ helper.parameters, parameter.key = key
  · obtain ⟨parameter, member, rfl⟩ := declared
    rw [settled_declared distinct fine settles member]
    constructor
    · exact fun held => .inl ⟨parameter, member, rfl, held⟩
    · rintro (⟨other, memberToo, keys, held⟩ | ⟨_, undeclared, _⟩)
      · have shared : parameter.key ∈ other.keys := keys ▸ List.mem_cons_self
        obtain rfl := same_of_name distinct member memberToo List.mem_cons_self shared
        exact held
      · exact absurd List.mem_cons_self (undeclared parameter member)
  · have other : ∀ parameter ∈ helper.parameters, parameter.key ≠ key :=
      fun parameter member same => declared ⟨parameter, member, same⟩
    have none : ¬ ∃ parameter ∈ helper.parameters, parameter.key = key ∧
        (parameter.Given helper.id values.entries value ∨
          parameter.Ungiven values.entries ∧ parameter.default = some value) :=
      fun ⟨parameter, member, same, _⟩ => other parameter member same
    rw [or_iff_right none]
    by_cases undeclared : Undeclared helper key
    · rw [settled_undeclared distinct settles undeclared]
      exact and_congr_right fun _ => (and_iff_right undeclared).symm
    · obtain ⟨parameter, member, named⟩ :
          ∃ parameter ∈ helper.parameters, key ∈ parameter.keys := by
        simpa [Undeclared] using undeclared
      rw [settled_alias distinct settles member named other]
      exact iff_of_false nofun fun held => undeclared held.2.1

end settled

/-- When all values were taken, what is missing are the keys of the parameters that lack a value. -/
theorem missing_lacking {values settled : Table Value} (distinct : helper.Distinct)
    (fine : AllFine helper values.entries)
    (settles : Settles helper values.entries (defaults helper) settled) (key : String) :
    key ∈ missing helper settled ↔
      ∃ parameter ∈ helper.parameters, parameter.key = key ∧ parameter.Lacking values.entries := by
  rw [(missing_spec distinct settled).2]
  refine exists_congr fun parameter => and_congr_right fun member => and_congr_right fun own => ?_
  rw [← own, settled_none distinct fine settles member]
  exact ⟨fun ⟨required, ungiven, plain⟩ => ⟨required, ungiven, plain⟩,
    fun lacking => ⟨lacking.required, lacking.ungiven, lacking.plain⟩⟩

/-- An integer that is given lies within the bounds. -/
theorem Given.within (given : parameter.Given helper.id entries value)
    (whole : parameter.type = .int) :
    ∃ number, value = .int number ∧
      (∀ bound, parameter.minimum = some (.int bound) → bound ≤ number) ∧
      ∀ bound, parameter.maximum = some (.int bound) → number ≤ bound := by
  obtain ⟨_, _, _, _, _, _, _, admits, _⟩ := given
  exact admits.within whole

/-- Supplied values are matched with the declared parameters. -/
theorem matched_resolved (distinct : helper.Distinct) (values : Table Value) :
    Resolved helper values (matched helper values) := by
  obtain ⟨declared, indexed, finds⟩ := index_distinct distinct
  rw [matched, indexed]
  dsimp only [bind, Except.bind]
  rcases acceptAll_cases distinct finds values.entries (defaults helper) with
    ⟨settled, ran, fine, settles⟩ | ⟨front, entry, rest, fault, split, fine, offends, ran⟩
  · rw [ran]
    dsimp only
    have sorted := (missing_spec distinct settled).1
    have lacking := missing_lacking distinct fine settles
    have complete : missing helper settled = [] ↔
        ∀ parameter ∈ helper.parameters, ¬ parameter.Lacking values.entries := by
      rw [List.eq_nil_iff_forall_not_mem]
      constructor
      · exact fun empty parameter member lacks =>
          empty parameter.key ((lacking _).mpr ⟨parameter, member, rfl, lacks⟩)
      · rintro met key inside
        obtain ⟨parameter, member, _, lacks⟩ := (lacking key).mp inside
        exact met parameter member lacks
    cases absent : missing helper settled with
    | nil =>
      have met := complete.mp absent
      exact {
        succeeds := iff_of_true ⟨settled, rfl⟩ ⟨fine, met⟩
        holds := fun resolved same key value => by
          cases same
          exact settled_holds distinct fine settles
        refuses := fun _ _ _ => coerce_error_iff
        within := fun parameter _ whole value given => given.within whole
        offends := fun front entry rest fault split _ offends =>
          absurd offends (fine entry (by simp [split]) fault)
        lacks := fun _ ⟨parameter, member, lacks⟩ => absurd lacks (met parameter member) }
    | cons key keys =>
      rw [absent] at sorted lacking complete
      have unmet : ¬ ∀ parameter ∈ helper.parameters, ¬ parameter.Lacking values.entries :=
        fun met => List.cons_ne_nil key keys (complete.mpr met)
      exact {
        succeeds := iff_of_false (fun ⟨_, same⟩ => by cases same) fun all => unmet all.2
        holds := fun _ same => by cases same
        refuses := fun _ _ _ => coerce_error_iff
        within := fun parameter _ whole value given => given.within whole
        offends := fun front entry rest fault split _ offends =>
          absurd offends (fine entry (by simp [split]) fault)
        lacks := fun _ _ => ⟨key :: keys, rfl, sorted, lacking⟩ }
  · rw [ran]
    have offending : ¬ AllFine helper values.entries := fun all =>
      all entry (by simp [split]) fault offends
    exact {
      succeeds := iff_of_false (fun ⟨_, same⟩ => by cases same) fun all => offending all.1
      holds := fun _ same => by cases same
      refuses := fun _ _ _ => coerce_error_iff
      within := fun parameter _ whole value given => given.within whole
      offends := fun others first behind other splitToo fineToo offendsToo => by
        obtain rfl := offends_first (split.symm.trans splitToo) fine fineToo offends offendsToo
        exact congrArg Except.error (offends.unique distinct offendsToo)
      lacks := fun all => absurd all offending }

end

/-- The parameters of a helper whose parameters have different names are resolved from what a call
supplies, with references looked up, up to the first that cannot be: then each parameter has what
was given last under one of its names, as it is admitted, or its default, and what no parameter has
a name for is passed on, unless the helper is strict. A value that is not admitted, given or
superseded, or that has no parameter in a strict helper fails the call, the first of them with its
fault; and if there is none, so do the required parameters that have neither a value nor a
default. -/
theorem parameters_resolved {helper : Helper} (distinct : helper.Distinct)
    (declares : helper.parameters ≠ [] ∨ helper.strict = true) (given : Table Value)
    (context : Option Context) :
    (∃ values, List.Forall₂ (Looks context) given.entries values.entries ∧
        Resolved helper values (resolve helper given context)) ∨
      ∃ fault, Misses context given.entries fault ∧
        resolve helper given context = .error fault := by
  rw [resolve_eq declares]
  rcases supplied_cases given context with ⟨values, looks, ran⟩ | ⟨fault, misses, ran⟩
  · rw [ran]
    exact .inl ⟨values, looks, matched_resolved distinct values⟩
  · rw [ran]
    exact .inr ⟨fault, misses, rfl⟩

/-- A helper that takes one of two shades, which is also called a tone, and a depth. -/
def paint : Helper where
  id := "paint"
  function := .builtin .upper
  parameters := [
    { key := "shade", type := .text, default := some (.text "dark"), aliases := ["tone"],
      choices := [.text "dark", .text "light"] },
    { key := "depth", type := .int, required := true, minimum := some (.int 1),
      maximum := some (.int 9) }]

/-- A call that gives a depth as a text, a tone by reference and a size. -/
def painting : Table Value :=
  .ofList [("depth", .text "3"), ("tone", .reference "mood"), ("size", .int 2)]

/-- The call has the shade that its tone refers to, in the place of the default, and its depth and
size behind it. -/
theorem parameters_resolved_paint :
    let context : Context := { frames := [.mapping [(.text "mood", .text "light")]] }
    let ran := resolve paint painting (some context)
    paint.Distinct ∧ ran.toOption.map Table.keys = some ["shade", "depth", "size"] ∧
      (ran.toOption.bind (·.get? "shade")).bind Value.text? = some "light" ∧
      ((∃ values, List.Forall₂ (Looks (some context)) painting.entries values.entries ∧
          Resolved paint values ran) ∨
        ∃ fault, Misses (some context) painting.entries fault ∧ ran = .error fault) := by
  intro context ran
  have distinct : paint.Distinct := by
    unfold Helper.Distinct
    decide
  exact ⟨distinct, by decide +kernel, by decide +kernel,
    parameters_resolved distinct (.inl (List.cons_ne_nil _ _)) painting (some context)⟩

/-- A tone that is no choice fails a call, also if the shade supersedes it. -/
example :
    let given : Table Value :=
      .ofList [("depth", .int 3), ("tone", .text "pale"), ("shade", .text "light")]
    (resolve paint given none).toOption.isNone = true := by
  decide +kernel

end TemplateStream.Parameter
