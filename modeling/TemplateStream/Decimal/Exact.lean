/-!
# Floating-point numbers as exact quantities

A finite floating-point number is a whole number of powers of two. Comparison with integers,
truncation and the choice of the nearest number are decided on that exact quantity, never by
rounding first.
-/

namespace TemplateStream.Decimal

/-- A power of two. -/
def twoTo (exponent : Nat) : Nat := Nat.pow 2 exponent

/-- A power of ten. -/
def tenTo (exponent : Nat) : Nat := Nat.pow 10 exponent

/-- A floating-point number taken apart. -/
inductive Parts where
  | nan
  | infinite (negative : Bool)
  /-- The number `significand · 2 ^ exponent`, with its sign. -/
  | finite (negative : Bool) (significand : Nat) (exponent : Int)

/-- The parts of a floating-point number. -/
def parts (x : Float) : Parts :=
  let bits := x.toBits.toNat
  let negative := bits / twoTo 63 == 1
  let field : Nat := bits / twoTo 52 % twoTo 11
  let fraction : Nat := bits % twoTo 52
  if field == 2047 then
    if fraction == 0 then .infinite negative else .nan
  else if field == 0 then .finite negative fraction (-1074)
  else .finite negative (fraction + twoTo 52) ((field : Int) - 1075)

/-- A quotient of integers with a positive denominator. -/
structure Ratio where
  numerator : Int
  denominator : Nat

/-- The order of two quotients. -/
def Ratio.compare (left right : Ratio) : Ordering :=
  Ord.compare (left.numerator * right.denominator) (right.numerator * left.denominator)

/-- The quotient nearest to zero that is whole. -/
def Ratio.truncate (ratio : Ratio) : Int :=
  Int.tdiv ratio.numerator ratio.denominator

/-- An integer as a quotient. -/
def Ratio.ofInt (value : Int) : Ratio := ⟨value, 1⟩

/-- The quantity `significand · 2 ^ exponent` with a sign. -/
def Ratio.ofBinary (negative : Bool) (significand : Nat) (exponent : Int) : Ratio :=
  let magnitude : Nat := significand * twoTo exponent.toNat
  ⟨if negative then -magnitude else magnitude, twoTo (-exponent).toNat⟩

/-- A number for comparison: the infinities lie beyond every quotient. -/
inductive Quantity where
  | belowAll
  | exactly (ratio : Ratio)
  | aboveAll

/-- The order of two quantities. -/
def Quantity.compare : Quantity → Quantity → Ordering
  | .exactly left, .exactly right => left.compare right
  | .belowAll, .belowAll => .eq
  | .aboveAll, .aboveAll => .eq
  | .belowAll, _ => .lt
  | _, .aboveAll => .lt
  | .aboveAll, _ => .gt
  | _, .belowAll => .gt

/-- The quantity of a floating-point number, unless it is no number. -/
def quantity? (x : Float) : Option Quantity :=
  match parts x with
  | .nan => none
  | .infinite negative => some (if negative then .belowAll else .aboveAll)
  | .finite negative significand exponent =>
    some (.exactly (.ofBinary negative significand exponent))

/-- The half to even of a quotient: the nearest whole number, a tie going to the even one. -/
def roundQuotient (numerator denominator : Nat) : Nat :=
  let below := numerator / denominator
  match Ord.compare (2 * (numerator % denominator)) denominator with
  | .lt => below
  | .gt => below + 1
  | .eq => if below % 2 == 0 then below else below + 1

/-- The floating-point number nearest to a quotient, infinity when that is too large. -/
def nearest (numerator denominator : Nat) : Float :=
  if numerator == 0 || denominator == 0 then 0.0
  else
    let estimate : Int := max ((numerator.log2 : Int) - denominator.log2 - 53) (-1074)
    let scaled (exponent : Int) : Nat × Nat :=
      (numerator * twoTo (-exponent).toNat, denominator * twoTo exponent.toNat)
    let first := scaled estimate
    let exponent := if first.1 / first.2 < twoTo 53 then estimate else estimate + 1
    let (top, bottom) := scaled exponent
    let significand := roundQuotient top bottom
    let bits : Int :=
      if significand < twoTo 52 then significand
      else (exponent + 1075) * twoTo 52 + (significand - twoTo 52)
    if bits < 2047 * twoTo 52 then Float.ofBits (UInt64.ofNat bits.toNat)
    else Float.ofBits (UInt64.ofNat (2047 * twoTo 52))

/-- The floating-point number nearest to `significand · 10 ^ exponent`. Exponents so far out that
the answer is zero or infinity are not raised to a power. -/
def ofScientific (significand : Nat) (exponent : Int) : Float :=
  if significand == 0 then 0.0
  else
    let magnitude : Int := (Nat.toDigits 10 significand).length + exponent
    if magnitude > 310 then Float.ofBits (UInt64.ofNat (2047 * twoTo 52))
    else if magnitude < -330 then 0.0
    else nearest (significand * tenTo exponent.toNat) (tenTo (-exponent).toNat)

/-- The floating-point number nearest to an integer, or nothing when it is too large for one. -/
def ofInt? (value : Int) : Option Float :=
  let magnitude := nearest value.natAbs 1
  if magnitude.isInf then none
  else some (if value < 0 then -magnitude else magnitude)

end TemplateStream.Decimal
