import TemplateStream.Decimal.Exact

/-!
# Shortest decimal text

A floating-point number is written with the fewest digits that read back as the same number,
and of those with the digits nearest to it. The numbers that read back as a given one form an
interval around it. On the grid of each number of digits only the two neighbours of the number
have to be tried, so the search is over at the first grid with a neighbour in the interval.
-/

namespace TemplateStream.Decimal

/-- Decimal digits and the power of ten of the last of them. -/
structure Digits where
  significand : Nat
  exponent : Int

/-- The interval that reads back as a number: the number and its two ends, in common units of
`numerator / denominator`. -/
structure Interval where
  low : Nat
  value : Nat
  high : Nat
  exponent : Int
  closed : Bool

/-- The interval of `significand · 2 ^ exponent`, in units of a quarter of the last binary
place. Its lower half is shorter at a power of two, where the spacing of the numbers changes. -/
def Interval.ofBinary (significand : Nat) (exponent : Int) : Interval where
  low := 4 * significand - (if significand == twoTo 52 && exponent > -1074 then 1 else 2)
  value := 4 * significand
  high := 4 * significand + 2
  exponent := exponent - 2
  closed := significand % 2 == 0

/-- The units of an interval and those of the grid of multiples of `10 ^ place`, brought to a
common measure. -/
def Interval.measures (interval : Interval) (place : Int) : Nat × Nat :=
  (twoTo interval.exponent.toNat * tenTo (-place).toNat,
    twoTo (-interval.exponent).toNat * tenTo place.toNat)

/-- The least exponent of ten that exceeds the value of an interval. -/
def Interval.magnitude (interval : Interval) : Int :=
  let estimate := Int.fdiv ((interval.value.log2 + interval.exponent) * 30103) 100000
  let reaches (place : Int) : Bool :=
    let (unit, step) := interval.measures place
    step ≤ interval.value * unit
  if reaches (estimate + 1) then estimate + 2
  else if reaches estimate then estimate + 1
  else estimate

/-- The grid point nearest to the value among its two neighbours in the interval, a tie going
to the even one. -/
def Interval.pointOn? (interval : Interval) (place : Int) : Option Nat :=
  let (unit, step) := interval.measures place
  let value := interval.value * unit
  let inside (point : Nat) : Bool :=
    if interval.closed then
      interval.low * unit ≤ point * step && point * step ≤ interval.high * unit
    else interval.low * unit < point * step && point * step < interval.high * unit
  let below := value / step
  match inside below && below != 0, inside (below + 1) with
  | true, true =>
    match compare (value - below * step) ((below + 1) * step - value) with
    | .lt => some below
    | .gt => some (below + 1)
    | .eq => some (if below % 2 == 0 then below else below + 1)
  | true, false => some below
  | false, true => some (below + 1)
  | false, false => none

/-- The digits less the zeros at their end. -/
def Digits.trimmed (digits : Digits) : Digits :=
  let zeros := ((Nat.toDigits 10 digits.significand).reverse.takeWhile (· == '0')).length
  ⟨digits.significand / tenTo zeros, digits.exponent + zeros⟩

/-- The fewest digits that read back as `significand · 2 ^ exponent`. -/
def shortest (significand : Nat) (exponent : Int) : Digits :=
  let interval := Interval.ofBinary significand exponent
  let magnitude := interval.magnitude
  let candidates := (List.range 17).filterMap fun (count : Nat) =>
    let place : Int := magnitude - (count + 1 : Nat)
    (interval.pointOn? place).map fun point => Digits.mk point place
  match candidates with
  | digits :: _ => digits.trimmed
  | [] => ⟨0, 0⟩

/-- How the digits of a number are laid out. -/
structure Layout where
  /-- Numbers below ten to this power are written with an exponent. -/
  least : Int
  /-- Numbers from ten to this power on are written with an exponent. -/
  limit : Int
  /-- The least number of digits of an exponent. -/
  exponentWidth : Nat
  nan : String
  infinity : String

/-- Numbers from a ten-thousandth to below ten to the sixteenth are written positionally, and
always with a fraction; an exponent has a sign and at least two digits. -/
def Layout.standard : Layout where
  least := -4
  limit := 16
  exponentWidth := 2
  nan := "nan"
  infinity := "inf"

/-- A list of digits with a point before the place given, zeros filling what is missing. -/
def positional (digits : List Char) (point : Int) : String :=
  if point ≤ 0 then
    "0." ++ String.ofList (List.replicate (-point).toNat '0' ++ digits)
  else
    let padded := digits ++ List.replicate (point.toNat - digits.length) '0'
    let fraction := padded.drop point.toNat
    String.ofList (padded.take point.toNat) ++ "." ++
      (if fraction.isEmpty then "0" else String.ofList fraction)

/-- A list of digits with a point after the first one, and an exponent of ten. -/
def withExponent (layout : Layout) (digits : List Char) (exponent : Int) : String :=
  let mantissa := match digits with
    | [] => ""
    | [lead] => String.singleton lead
    | lead :: rest => String.singleton lead ++ "." ++ String.ofList rest
  let power := Nat.toDigits 10 exponent.natAbs
  mantissa ++ "e" ++ (if exponent < 0 then "-" else "+") ++
    String.ofList (List.replicate (layout.exponentWidth - power.length) '0' ++ power)

/-- The text of a floating-point number in a layout. -/
def Layout.text (layout : Layout) (x : Float) : String :=
  match parts x with
  | .nan => layout.nan
  | .infinite negative => (if negative then "-" else "") ++ layout.infinity
  | .finite negative significand exponent =>
    (if negative then "-" else "") ++
      if significand == 0 then "0.0"
      else
        let digits := shortest significand exponent
        let chars := Nat.toDigits 10 digits.significand
        let point : Int := chars.length + digits.exponent
        if layout.least < point && point ≤ layout.limit then positional chars point
        else withExponent layout chars (point - 1)

/-- The text of a floating-point number. -/
def text (x : Float) : String := Layout.standard.text x

end TemplateStream.Decimal
