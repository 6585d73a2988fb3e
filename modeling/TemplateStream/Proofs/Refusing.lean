import TemplateStream.Proofs.Overflow
import TemplateStream.Proofs.Resolving

/-!
# What parameters are refused with

Whatever a call supplies is refused as a value: it does not convert, is none of the choices, lies
outside the bounds, has no parameter in a strict helper, or is not there although it is required.
There are two exceptions. A number may have no counterpart of the type that a parameter asks for: an
infinity is no integer, and an integer may be too large for a floating-point number. And a bound may
be no number, so that numbers cannot be compared with it.
-/

namespace TemplateStream.Parameter

/-- A number that is too large for a type of parameters: an infinity where an integer is asked for,
or an integer that is rounded to infinity where a floating-point number is. -/
inductive Beyond : ParameterType → Value → Prop where
  | infinite {number : Float} (infinite : number.isInf = true) : Beyond .int (.float number)
  | large {number : Int} (large : Decimal.summit ≤ number.natAbs) : Beyond .float (.int number)

/-- A value is a bound that numbers can be compared with. -/
def IsMeasure : Value → Prop
  | .bool _ | .int _ | .float _ => True
  | _ => False

/-- The bounds of a parameter, if it has any, can be compared with numbers. -/
def Measured (parameter : Parameter) : Prop :=
  ∀ bound, parameter.minimum = some bound ∨ parameter.maximum = some bound → IsMeasure bound

/-- A fault with which a value may be refused for a parameter. -/
def Refuses (parameter : Parameter) (raw : Value) (fault : Fault) : Prop :=
  fault.kind = .value ∨ fault.kind = .overflow ∧ Beyond parameter.type raw ∨
    fault.kind = .type ∧ ¬ parameter.Measured

section

variable {parameter : Parameter} {helper : String} {raw value bound : Value} {fault : Fault}

/-! ## One value -/

/-- Only an infinity is refused by the conversion to integers itself. -/
theorem integer?_error_iff {cause : NumberFault} :
    integer? raw = .error cause ↔
      cause = .infinite ∧ ∃ number, raw = .float number ∧ number.isInf = true := by
  cases raw with
  | float number =>
    have infinite := Decimal.isInf_iff number
    have same : (∃ other, Value.float number = .float other ∧ other.isInf = true) ↔
        number.isInf = true := by simp
    rw [same, infinite]
    cases parts : Decimal.parts number with
    | nan =>
      have quantity : Decimal.quantity? number = none := by rw [Decimal.quantity?, parts]
      rw [integer?, quantity]
      exact iff_of_false nofun nofun
    | finite negative significand exponent =>
      have quantity : Decimal.quantity? number =
          some (.exactly (.ofBinary negative significand exponent)) := by
        rw [Decimal.quantity?, parts]
      rw [integer?, quantity]
      exact iff_of_false nofun nofun
    | infinite negative =>
      have quantity : Decimal.quantity? number =
          some (if negative then .belowAll else .aboveAll) := by
        rw [Decimal.quantity?, parts]
      have outcome : integer? (.float number) = .error .infinite := by
        rw [integer?, quantity]
        cases negative <;> rfl
      rw [outcome, Except.error.injEq]
      constructor
      · rintro rfl
        exact ⟨rfl, negative, rfl⟩
      · exact fun both => both.1.symm
  | _ => exact iff_of_false nofun nofun

/-- Only an integer that is too large is refused by the conversion to floating-point numbers
itself. -/
theorem float?_error_iff {cause : NumberFault} :
    float? raw = .error cause ↔
      cause = .tooLarge ∧ ∃ number, raw = .int number ∧ Decimal.summit ≤ number.natAbs := by
  cases raw with
  | int number =>
    have same : (∃ other, Value.int number = .int other ∧ Decimal.summit ≤ other.natAbs) ↔
        Decimal.summit ≤ number.natAbs := by simp
    rw [same, ← Decimal.ofInt?_eq_none_iff]
    cases found : Decimal.ofInt? number with
    | none =>
      have outcome : float? (.int number) = .error .tooLarge := by rw [float?, found]
      rw [outcome, Except.error.injEq]
      constructor
      · rintro rfl
        exact ⟨rfl, rfl⟩
      · exact fun both => both.1.symm
    | some nearest =>
      have outcome : float? (.int number) = .ok (some nearest) := by rw [float?, found]
      rw [outcome]
      exact iff_of_false nofun nofun
  | _ => exact iff_of_false nofun nofun

/-- A value that does not convert is refused as a value, or it is a number beyond the type. -/
theorem convert_error (refused : parameter.convert helper raw = .error fault) :
    fault.kind = .value ∨ fault.kind = .overflow ∧ Beyond parameter.type raw := by
  unfold convert at refused
  cases asked : parameter.type with
  | int =>
    rw [asked] at refused
    dsimp only at refused
    cases converted : integer? raw with
    | ok number => cases number <;> rw [converted] at refused <;> cases refused; exact .inl rfl
    | error cause =>
      rw [converted] at refused
      cases refused
      obtain ⟨rfl, number, rfl, infinite⟩ := integer?_error_iff.mp converted
      exact .inr ⟨rfl, .infinite infinite⟩
  | float =>
    rw [asked] at refused
    dsimp only at refused
    cases converted : float? raw with
    | ok number => cases number <;> rw [converted] at refused <;> cases refused; exact .inl rfl
    | error cause =>
      rw [converted] at refused
      cases refused
      obtain ⟨rfl, number, rfl, large⟩ := float?_error_iff.mp converted
      exact .inr ⟨rfl, .large large⟩
  | bool =>
    rw [asked] at refused
    dsimp only at refused
    cases read : boolean? raw with
    | none =>
      rw [read] at refused
      cases refused
      exact .inl rfl
    | some truth =>
      rw [read] at refused
      cases refused
  | text =>
    rw [asked] at refused
    cases refused
  | list =>
    rw [asked] at refused
    cases raw <;> cases refused <;> exact .inl rfl
  | mapping =>
    rw [asked] at refused
    cases raw <;> cases refused <;> exact .inl rfl

/-- A number beyond the type does not convert, and that is an overflow. -/
theorem convert_beyond (beyond : Beyond parameter.type raw) :
    ∃ fault, parameter.convert helper raw = .error fault ∧ fault.kind = .overflow := by
  unfold convert
  generalize parameter.type = asked at beyond
  cases beyond with
  | infinite infinite =>
    dsimp only
    rw [integer?_error_iff.mpr ⟨rfl, _, rfl, infinite⟩]
    exact ⟨_, rfl, rfl⟩
  | large large =>
    dsimp only
    rw [float?_error_iff.mpr ⟨rfl, _, rfl, large⟩]
    exact ⟨_, rfl, rfl⟩

/-- A number can be compared with a bound that is one. -/
theorem isOutside_error {side : Ordering} (refused : isOutside side value bound = .error fault) :
    fault.kind = .type ∧ ¬ IsMeasure bound := by
  cases bound <;> cases refused <;> exact ⟨rfl, not_false⟩

/-- A number passes a bound, or it is outside of it, or cannot be compared with it. -/
theorem bounded_error {α : Type} {side : Ordering} {own : Fault} {rest : Except Fault α}
    (refused : (do
      if ← isOutside side value bound then
        throw own
      rest) = .error fault) :
    fault = own ∨ (fault.kind = .type ∧ ¬ IsMeasure bound) ∨ rest = .error fault := by
  cases outside : isOutside side value bound with
  | error cause =>
    rw [outside] at refused
    cases refused
    exact .inr (.inl (isOutside_error outside))
  | ok beyond =>
    rw [outside] at refused
    cases beyond with
    | true =>
      cases refused
      exact .inl rfl
    | false => exact .inr (.inr refused)

/-- A value that is checked is refused as a value, unless a bound cannot be compared with. -/
theorem check_error (refused : parameter.check helper value = .error fault) :
    fault.kind = .value ∨ fault.kind = .type ∧ ¬ parameter.Measured := by
  -- Each bound that is there refuses as its own, or since it is no number, or goes on to the rest.
  have least {bound : Value} (own : parameter.minimum = some bound) (apart : ¬ IsMeasure bound) :
      ¬ parameter.Measured := fun measured => apart (measured bound (.inl own))
  have greatest {bound : Value} (own : parameter.maximum = some bound) (apart : ¬ IsMeasure bound) :
      ¬ parameter.Measured := fun measured => apart (measured bound (.inr own))
  rw [check] at refused
  split at refused
  · cases refused
    exact .inl rfl
  · cases number : isNumber value with
    | false =>
      rw [number] at refused
      cases refused
    | true =>
      rw [number, if_pos rfl] at refused
      cases minimum : parameter.minimum with
      | none =>
        rw [minimum] at refused
        cases maximum : parameter.maximum with
        | none =>
          rw [maximum] at refused
          cases refused
        | some bound =>
          rw [maximum] at refused
          rcases bounded_error refused with rfl | ⟨kind, apart⟩ | passed
          · exact .inl rfl
          · exact .inr ⟨kind, greatest maximum apart⟩
          · cases passed
      | some bound =>
        rw [minimum] at refused
        rcases bounded_error refused with rfl | ⟨kind, apart⟩ | passed
        · exact .inl rfl
        · exact .inr ⟨kind, least minimum apart⟩
        · cases maximum : parameter.maximum with
          | none =>
            rw [maximum] at passed
            cases passed
          | some bound =>
            rw [maximum] at passed
            rcases bounded_error passed with rfl | ⟨kind, apart⟩ | done
            · exact .inl rfl
            · exact .inr ⟨kind, greatest maximum apart⟩
            · cases done

/-- A value that is given for a parameter is refused as a value, or as a number beyond the type, or
since a bound cannot be compared with. -/
theorem coerce_refuses (refused : parameter.coerce helper raw = .error fault) :
    parameter.Refuses raw fault := by
  rw [coerce] at refused
  cases converted : parameter.convert helper raw with
  | error cause =>
    rw [converted] at refused
    cases refused
    rcases convert_error converted with value | beyond
    · exact .inl value
    · exact .inr (.inl beyond)
  | ok value =>
    rw [converted] at refused
    have checked : parameter.check helper value = .error fault := refused
    rcases check_error checked with value | unmeasured
    · exact .inl value
    · exact .inr (.inr unmeasured)

/-- A value fails for a parameter with an overflow when it is a number beyond the type. -/
theorem coerce_overflows_iff :
    (∃ fault, parameter.coerce helper raw = .error fault ∧ fault.kind = .overflow) ↔
      Beyond parameter.type raw := by
  constructor
  · rintro ⟨fault, refused, overflow⟩
    rcases coerce_refuses refused with value | ⟨_, beyond⟩ | ⟨type, _⟩
    · rw [value] at overflow
      cases overflow
    · exact beyond
    · rw [type] at overflow
      cases overflow
  · intro beyond
    obtain ⟨fault, converted, overflow⟩ := @convert_beyond parameter helper raw beyond
    refine ⟨fault, ?_, overflow⟩
    rw [coerce, converted]
    rfl

end

/-! ## Whole calls -/

/-- The first of the supplied values that ends the resolution is a number beyond the type of the
parameter that it is given for. -/
def Overflows (helper : Helper) (entries : List (String × Value)) : Prop :=
  ∃ front name raw rest parameter, entries = front ++ (name, raw) :: rest ∧
    AllFine helper front ∧ parameter ∈ helper.parameters ∧ name ∈ parameter.keys ∧
    Beyond parameter.type raw

section

variable {helper : Helper} {values : Table Value} {entry : String × Value} {fault : Fault}

/-- Names that are indexed one after the other are all new, or the first that is not is refused. -/
theorem index_run (entries : List (String × Parameter)) (table : Table Parameter) (id : String) :
    (table.entries.map Prod.fst ++ entries.map Prod.fst).Nodup ∨
      ∃ key, entries.foldlM (fun table (entry : String × Parameter) =>
        if table.contains entry.1 then
          Except.error (Fault.parameter (.duplicateKey entry.1 id))
        else .ok (table.insert entry.1 entry.2)) table =
          .error (.parameter (.duplicateKey key id)) := by
  induction entries generalizing table with
  | nil =>
    rw [List.map_nil, List.append_nil]
    exact .inl table.nodup
  | cons entry rest ih =>
    rw [List.foldlM_cons]
    by_cases present : table.contains entry.1 = true
    · rw [if_pos present]
      exact .inr ⟨entry.1, rfl⟩
    · rw [if_neg present]
      have absent : entry.1 ∉ table.entries.map Prod.fst := by
        rwa [Table.contains, Table.keys, List.contains_iff_mem] at present
      rcases ih (table.insert entry.1 entry.2) with fresh | ⟨key, failed⟩
      · rw [Table.entries_insert_new absent, List.map_append, List.append_assoc] at fresh
        exact .inl fresh
      · exact .inr ⟨key, failed⟩

/-- The names of all parameters differ, or one that occurs twice is refused. -/
theorem index_cases (helper : Helper) :
    helper.Distinct ∨
      ∃ key, index helper = .error (.parameter (.duplicateKey key helper.id)) := by
  have names : (helper.parameters.flatMap fun parameter =>
      parameter.keys.map (·, parameter)).map Prod.fst =
      helper.parameters.flatMap Parameter.keys := by
    simp [List.map_flatMap, Function.comp_def]
  rcases index_run (helper.parameters.flatMap fun parameter => parameter.keys.map (·, parameter)) ∅
    helper.id with fresh | failed
  · rw [names] at fresh
    exact .inl fresh
  · exact .inr failed

/-- What ends the resolution is refused as the value that it is, or since no parameter of a strict
helper has its name. -/
theorem Offends.kind (offends : Offends helper entry fault) :
    fault.kind = .value ∨
      (fault.kind = .overflow ∧ ∃ parameter ∈ helper.parameters, entry.1 ∈ parameter.keys ∧
        Beyond parameter.type entry.2) ∨
      fault.kind = .type ∧ ∃ parameter ∈ helper.parameters, ¬ parameter.Measured := by
  cases offends with
  | unknown strict undeclared given => exact .inl rfl
  | refused member named given refused =>
    rcases coerce_refuses refused with value | ⟨kind, beyond⟩ | ⟨kind, unmeasured⟩
    · exact .inl value
    · exact .inr (.inl ⟨kind, _, member, named, beyond⟩)
    · exact .inr (.inr ⟨kind, _, member, unmeasured⟩)

/-- Supplied values that are not matched with the parameters fail as the first of them that ends the
resolution, or since required ones are missing. -/
theorem matched_error (distinct : helper.Distinct) (failed : matched helper values = .error fault) :
    (∃ front entry rest, values.entries = front ++ entry :: rest ∧ AllFine helper front ∧
        Offends helper entry fault) ∨
      ∃ keys, fault = .parameter (.missing helper.id keys) := by
  obtain ⟨declared, indexed, finds⟩ := index_distinct distinct
  rw [matched, indexed] at failed
  dsimp only [bind, Except.bind] at failed
  rcases acceptAll_cases distinct finds values.entries (defaults helper) with
    ⟨settled, ran, _, _⟩ | ⟨front, entry, rest, own, split, fine, offends, ran⟩
  · rw [ran] at failed
    dsimp only at failed
    cases absent : missing helper settled with
    | nil =>
      rw [absent] at failed
      cases failed
    | cons key keys =>
      rw [absent] at failed
      cases failed
      exact .inr ⟨key :: keys, rfl⟩
  · rw [ran] at failed
    cases failed
    exact .inl ⟨front, entry, rest, split, fine, offends⟩

/-- Supplied values that are not matched with the parameters are refused as values, or as a number
beyond a type, or since a bound cannot be compared with. -/
theorem matched_kind (failed : matched helper values = .error fault) :
    fault.kind = .value ∨
      (fault.kind = .overflow ∧ helper.Distinct ∧ Overflows helper values.entries) ∨
      fault.kind = .type ∧ ∃ parameter ∈ helper.parameters, ¬ parameter.Measured := by
  rcases index_cases helper with distinct | ⟨key, refused⟩
  · rcases matched_error distinct failed with
      ⟨front, ⟨name, raw⟩, rest, split, fine, offends⟩ | ⟨keys, rfl⟩
    · rcases offends.kind with value | ⟨kind, parameter, member, named, beyond⟩ | unmeasured
      · exact .inl value
      · exact .inr (.inl ⟨kind, distinct, front, name, raw, rest, parameter, split, fine, member,
          named, beyond⟩)
      · exact .inr (.inr unmeasured)
    · exact .inl rfl
  · rw [matched, refused] at failed
    cases failed
    exact .inl rfl

/-- If the first of the supplied values that ends the resolution is a number beyond a type, the call
fails with an overflow. -/
theorem matched_overflows (distinct : helper.Distinct)
    (overflows : Overflows helper values.entries) :
    ∃ fault, matched helper values = .error fault ∧ fault.kind = .overflow := by
  obtain ⟨front, name, raw, rest, parameter, split, fine, member, named, beyond⟩ := overflows
  have given : raw ≠ .null := by
    rintro rfl
    generalize parameter.type = asked at beyond
    cases beyond
  obtain ⟨fault, refused, overflow⟩ := (@coerce_overflows_iff parameter helper.id raw).mpr beyond
  have offends : Offends helper (name, raw) fault := .refused member named given refused
  exact ⟨fault, (matched_resolved distinct values).offends front _ rest fault split fine offends,
    overflow⟩

/-- A helper that declares nothing and is not strict takes what a call supplies. -/
theorem resolve_undeclared (none : helper.parameters = []) (lenient : helper.strict = false)
    (given : Table Value) (context : Option Context) :
    resolve helper given context = supplied given context := by
  unfold resolve
  simp only [none, lenient]
  cases context with
  | none => rfl
  | some context => exact bind_pure _

end

/-- A call whose references can be looked up succeeds, or it is refused as a value, unless a number
is beyond its type or a bound is no number. It overflows exactly when the first supplied value that
ends the resolution is an infinity for an integer parameter, or an integer that is rounded to
infinity for a floating-point parameter. -/
theorem refused_for_value_unless_beyond {helper : Helper} {given : Table Value}
    {context : Option Context}
    (found : ∀ entry ∈ given.entries, ∃ value, looked context entry.2 = .ok value) :
    (∀ fault, resolve helper given context = .error fault →
      fault.kind = .value ∨ fault.kind = .overflow ∨
        fault.kind = .type ∧ ∃ parameter ∈ helper.parameters, ¬ parameter.Measured) ∧
    ∃ values : Table Value, List.Forall₂ (Looks context) given.entries values.entries ∧
      ((∃ fault, resolve helper given context = .error fault ∧ fault.kind = .overflow) ↔
        helper.Distinct ∧ Overflows helper values.entries) := by
  rcases supplied_cases given context with ⟨values, looks, ran⟩ | ⟨fault, misses, _⟩
  · by_cases declares : helper.parameters ≠ [] ∨ helper.strict = true
    · have same : resolve helper given context = matched helper values := by
        rw [resolve_eq declares, ran]
        rfl
      rw [same]
      constructor
      · intro fault failed
        rcases matched_kind failed with value | ⟨kind, _⟩ | unmeasured
        · exact .inl value
        · exact .inr (.inl kind)
        · exact .inr (.inr unmeasured)
      · refine ⟨values, looks, ?_, fun both => matched_overflows both.1 both.2⟩
        rintro ⟨fault, failed, overflow⟩
        rcases matched_kind failed with value | ⟨_, both⟩ | ⟨kind, _⟩
        · rw [value] at overflow
          cases overflow
        · exact both
        · rw [kind] at overflow
          cases overflow
    · obtain ⟨none, lenient⟩ : helper.parameters = [] ∧ helper.strict = false := by
        simpa using declares
      rw [resolve_undeclared none lenient, ran]
      refine ⟨nofun, values, looks, iff_of_false nofun ?_⟩
      rintro ⟨_, _, _, _, _, parameter, _, _, member, _⟩
      rw [none] at member
      cases member
  · obtain ⟨front, name, value, rest, split, _, failed⟩ := misses
    obtain ⟨other, looked⟩ := found (name, value) (by simp [split])
    rw [failed] at looked
    cases looked

/-- A depth that is infinite, behind a tone that is fine, is no whole number, and the call overflows
instead of being refused. -/
theorem refused_for_value_unless_beyond_paint :
    let given : Table Value := .ofList [("tone", .text "light"), ("depth", .float (1.0 / 0.0))]
    let ran := resolve paint given none
    (∀ entry ∈ given.entries, ∃ value, looked none entry.2 = .ok value) ∧
      (∃ fault, ran = .error fault ∧ fault.kind = .overflow) ∧
      (∀ fault, ran = .error fault →
        fault.kind = .value ∨ fault.kind = .overflow ∨
          fault.kind = .type ∧ ∃ parameter ∈ paint.parameters, ¬ parameter.Measured) ∧
      ∃ values : Table Value, List.Forall₂ (Looks none) given.entries values.entries ∧
        ((∃ fault, ran = .error fault ∧ fault.kind = .overflow) ↔
          paint.Distinct ∧ Overflows paint values.entries) := by
  intro given ran
  have found : ∀ entry ∈ given.entries, ∃ value, looked none entry.2 = .ok value :=
    fun entry _ => ⟨entry.2, rfl⟩
  have fails : ∃ fault, ran = .error fault ∧ fault.kind = .overflow :=
    ⟨.number .infinite, rfl, rfl⟩
  exact ⟨found, fails, refused_for_value_unless_beyond found⟩

end TemplateStream.Parameter
