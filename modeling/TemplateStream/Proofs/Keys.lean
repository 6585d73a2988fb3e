import Mathlib.Data.Rat.Defs
import TemplateStream.Value.Entries

/-!
# Equal keys

Values of different kinds can be equal: a number is equal to another one of the same magnitude,
whatever its type, and a text to markup of the same characters. A value that can be a key of a
mapping is equal to those that are the same key, so that among such values equality is symmetric
and transitive. It is not reflexive: a number that is none, or a record, is equal to nothing.
-/

namespace TemplateStream

/-- Both are known, and they are the same. -/
def Concur {α : Type} (first second : Option α) : Prop :=
  ∃ both, first = some both ∧ second = some both

section concur

variable {α β : Type} {first second third : Option α}

@[simp]
theorem concur_some {left right : α} : Concur (some left) (some right) ↔ left = right := by
  constructor
  · rintro ⟨both, known, known'⟩
    exact Option.some.inj (known.trans known'.symm)
  · rintro rfl
    exact ⟨left, rfl, rfl⟩

@[simp]
theorem not_concur_none_left : ¬Concur none second := by
  rintro ⟨both, known, _⟩
  cases known

@[simp]
theorem not_concur_none_right : ¬Concur first none := by
  rintro ⟨both, _, known⟩
  cases known

@[simp]
theorem concur_map_right {known : β} {change : α → β} :
    Concur (some known) (first.map change) ↔ ∃ held, first = some held ∧ change held = known := by
  cases first <;> simp [eq_comm]

@[simp]
theorem concur_map_left {known : β} {change : α → β} :
    Concur (first.map change) (some known) ↔ ∃ held, first = some held ∧ change held = known := by
  cases first <;> simp

@[simp]
theorem concur_map {γ : Type} {other : Option γ} {change : α → β} {also : γ → β} :
    Concur (first.map change) (other.map also) ↔
      ∃ held kept, first = some held ∧ other = some kept ∧ change held = also kept := by
  cases first <;> cases other <;> simp

theorem Concur.symm (concur : Concur first second) : Concur second first := by
  obtain ⟨both, left, right⟩ := concur
  exact ⟨both, right, left⟩

theorem Concur.trans (early : Concur first second) (late : Concur second third) :
    Concur first third := by
  obtain ⟨both, left, middle⟩ := early
  obtain ⟨other, middle', right⟩ := late
  obtain rfl : both = other := Option.some.inj (middle.symm.trans middle')
  exact ⟨both, left, right⟩

end concur

/-! ## Equal numbers -/

namespace Decimal

/-- A quantity, however it is written as a quotient. -/
inductive Magnitude where
  | belowAll
  | exactly (quotient : Rat)
  | aboveAll

namespace Quantity

/-- The magnitude of a quantity. -/
def magnitude : Quantity → Magnitude
  | .belowAll => .belowAll
  | .exactly ratio => .exactly (mkRat ratio.numerator ratio.denominator)
  | .aboveAll => .aboveAll

/-- A quantity whose denominator, if it has one, is not zero. -/
def IsProper : Quantity → Prop
  | .exactly ratio => ratio.denominator ≠ 0
  | _ => True

/-- Quantities compare as equal when their magnitudes are the same. -/
theorem compare_iff {left right : Quantity} (first : left.IsProper) (second : right.IsProper) :
    left.compare right = .eq ↔ left.magnitude = right.magnitude := by
  cases left with
  | exactly ratio =>
    cases right with
    | exactly other =>
      rw [magnitude, magnitude, Magnitude.exactly.injEq, Rat.mkRat_eq_iff first second]
      exact Std.compare_eq_iff_eq
    | belowAll | aboveAll => simp [compare, magnitude]
  | belowAll | aboveAll => cases right <;> simp [compare, magnitude]

end Quantity

end Decimal

namespace Value

/-- A quantity of a value is proper. -/
theorem isProper_of_quantity {value : Value} {quantity : Decimal.Quantity}
    (found : value.quantity? = some quantity) : quantity.IsProper := by
  cases value with
  | bool truth | int number =>
    cases found
    exact Nat.one_ne_zero
  | float number =>
    have found : Decimal.quantity? number = some quantity := found
    unfold Decimal.quantity? at found
    split at found
    · cases found
    · cases found
      split <;> trivial
    · cases found
      exact Nat.pos_iff_ne_zero.mp (Nat.pow_pos Nat.two_pos)
  | _ => cases found

/-- The magnitude of a number or truth value. -/
def magnitude? (value : Value) : Option Decimal.Magnitude :=
  value.quantity?.map Decimal.Quantity.magnitude

/-- Numbers are equal when their magnitudes are. -/
theorem sameQuantity_iff (first second : Value) :
    sameQuantity first second = true ↔ Concur first.magnitude? second.magnitude? := by
  unfold sameQuantity magnitude?
  cases left : first.quantity? with
  | none => simp
  | some quantity =>
    cases right : second.quantity? with
    | none => simp
    | some other =>
      have equal := Decimal.Quantity.compare_iff (isProper_of_quantity left)
        (isProper_of_quantity right)
      rw [Option.map_some, Option.map_some, concur_some, ← equal]
      exact beq_iff_eq

/-! ## Equal keys -/

/-- What a value is as a key of a mapping: equal values are the same key. -/
inductive Key where
  | null
  | number (magnitude : Decimal.Magnitude)
  | text (content : String)
  | tuple (items : List Key)
  | reference (path : String)
  | date (day : Date)
  /-- A moment by its instant, or by its calendar numbers when it has no offset. -/
  | moment (given : Int ⊕ Moment)
  | time (clock : TimeOfDay)
  | bytes (content : List UInt8)

/-- The instant of a moment with an offset, and any other moment as it is. -/
def placed (given : Moment) : Int ⊕ Moment :=
  if given.offset.isSome then .inl (Calendar.instant given) else .inr given

mutual

/-- The key that a value is, if it equals any. -/
def key? : Value → Option Key
  | .null => some .null
  | .bool value => (magnitude? (.bool value)).map .number
  | .int value => (magnitude? (.int value)).map .number
  | .float value => (magnitude? (.float value)).map .number
  | .text content | .markup content => some (.text content)
  | .tuple items => (keys? items).map .tuple
  | .reference path => some (.reference path)
  | .date day => some (.date day)
  | .moment given => some (.moment (placed given))
  | .time clock => some (.time clock)
  | .bytes content => some (.bytes content)
  | .list _ | .mapping _ | .record _ => none

/-- The keys that values are, if each equals any. -/
def keys? : List Value → Option (List Key)
  | [] => some []
  | item :: rest =>
    match key? item, keys? rest with
    | some key, some keys => some (key :: keys)
    | _, _ => none

end

/-- Moments are equal when they are placed the same. -/
theorem sameMoment_iff (first second : Moment) :
    sameMoment first second = true ↔ placed first = placed second := by
  unfold sameMoment placed
  cases left : first.offset <;> cases right : second.offset <;> simp

/-- Lists of keys are the same when the first keys are, and the others. -/
theorem concur_keys {first second : Value} {rest others : List Value} :
    Concur (keys? (first :: rest)) (keys? (second :: others)) ↔
      Concur first.key? second.key? ∧ Concur (keys? rest) (keys? others) := by
  simp only [keys?]
  cases first.key? <;> cases keys? rest <;> cases second.key? <;> cases keys? others <;> simp

/-- A value that can be a key and is no tuple equals those that are the same key. -/
theorem same_iff_simple {first : Value} (simple : ∀ items, first ≠ .tuple items) (second : Value)
    (keyed : first.unkeyed? = none) :
    same first second = true ↔ Concur first.key? second.key? := by
  cases first with
  | tuple items => exact (simple items rfl).elim
  | list items => cases keyed
  | mapping entries => cases keyed
  | _ =>
    cases second <;>
      simp [same, key?, text?, sameQuantity_iff, magnitude?, quantity?, sameMoment_iff]

mutual

/-- A value that can be a key equals those that are the same key. -/
theorem same_iff (first second : Value) (keyed : first.unkeyed? = none) :
    same first second = true ↔ Concur first.key? second.key? := by
  by_cases simple : ∀ items, first ≠ .tuple items
  · exact same_iff_simple simple second keyed
  · obtain ⟨items, tuple⟩ : ∃ items, first = .tuple items := by simpa using simple
    have keyedItems : unkeyedItems? items = none := by
      rw [tuple] at keyed
      exact keyed
    have both := fun others => sameItems_iff items others keyedItems
    rw [tuple]
    cases second with
    | tuple others =>
      simp only [same, key?, both]
      cases keys? items <;> cases keys? others <;> simp
    | _ => simp [same, key?, text?, sameQuantity_iff, magnitude?, quantity?]
termination_by sizeOf first
decreasing_by
  rw [tuple]
  simp

/-- Lists of values that can be keys equal those that are the same keys. -/
theorem sameItems_iff (first second : List Value) (keyed : unkeyedItems? first = none) :
    sameItems first second = true ↔ Concur (keys? first) (keys? second) := by
  match first, second, keyed with
  | [], [], _ => simp [sameItems, keys?]
  | [], other :: others, _ =>
    simp only [sameItems, keys?]
    cases other.key? <;> cases keys? others <;> simp
  | item :: rest, [], _ =>
    simp only [sameItems, keys?]
    cases item.key? <;> cases keys? rest <;> simp
  | item :: rest, other :: others, keyed =>
    obtain ⟨own, later⟩ := Option.or_eq_none_iff.mp keyed
    rw [concur_keys, sameItems, Bool.and_eq_true, same_iff item other own,
      sameItems_iff rest others later]
termination_by sizeOf first

end

/-- Keys that are equal are equal to the same keys. -/
theorem same_congr {entry key other : Value} (entryKeyed : entry.unkeyed? = none)
    (keyed : key.unkeyed? = none) (equal : same key other = true) :
    same entry key = same entry other := by
  have concur := (same_iff key other keyed).mp equal
  rw [Bool.eq_iff_iff, same_iff entry key entryKeyed, same_iff entry other entryKeyed]
  exact ⟨fun first => first.trans concur, fun second => second.trans concur.symm⟩

/-- A key is equal to those that are equal to it. -/
theorem same_comm {key other : Value} (keyed : key.unkeyed? = none)
    (otherKeyed : other.unkeyed? = none) : same key other = same other key := by
  rw [Bool.eq_iff_iff, same_iff key other keyed, same_iff other key otherKeyed]
  exact ⟨Concur.symm, Concur.symm⟩

end Value

end TemplateStream
