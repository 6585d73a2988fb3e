import TemplateStream.Decimal.Exact

/-!
# Numbers without a counterpart

The infinities are the floating-point numbers whose exponent field is full and whose fraction is
zero; every other word of bits is read as another number. An integer is rounded to infinity from
half a place above the greatest floating-point number on, where the tie goes up.
-/

namespace TemplateStream.Decimal

open Float.Model (Format UnpackedFloat)
open Float.Model.UnpackedFloat

/-! ## Words of bits -/

/-- The exponent field of a word, as a number. -/
theorem unpackExponent_toNat (bits : UInt64) :
    (@unpackExponent Format.binary64 bits.toBitVec).toNat =
      bits.toNat / twoTo 52 % twoTo 11 := by
  change bits.toNat >>> 52 % 2 ^ 11 = _
  rw [Nat.shiftRight_eq_div_pow]
  rfl

/-- The fraction of a word, as a number. -/
theorem unpackMantissa_toNat (bits : UInt64) :
    (@unpackMantissa Format.binary64 bits.toBitVec).toNat = bits.toNat % twoTo 52 := by
  change bits.toNat >>> 0 % 2 ^ 52 = _
  rw [Nat.shiftRight_zero]
  rfl

/-- The exponent field is full when it is the number 2047. -/
theorem full_iff (field : BitVec 11) : field = -1#11 ↔ field.toNat = 2047 := by
  rw [← BitVec.toNat_inj]
  rfl

/-- The fraction is zero when it is as a number. -/
theorem zero_iff (fraction : BitVec 52) : fraction = 0#52 ↔ fraction.toNat = 0 := by
  rw [← BitVec.toNat_inj]
  rfl

/-- What a word whose exponent field has room stands for: a zero, or a number with a bounded
exponent. -/
def Bounded : UnpackedFloat → Prop
  | .zero _ => True
  | .finite _ _ exponent _ => exponent ≤ 971
  | _ => False

/-- A word whose exponent field has room stands for a bounded number. -/
theorem bounded_of_room {bits : BitVec 64}
    (room : @unpackExponent Format.binary64 bits ≠ -1#11) :
    Bounded (unpack Format.binary64 bits) := by
  have below : (@unpackExponent Format.binary64 bits).toNat < 2047 := by
    have bound : (@unpackExponent Format.binary64 bits).toNat < 2048 := BitVec.isLt _
    have apart : (@unpackExponent Format.binary64 bits).toNat ≠ 2047 :=
      fun full => room ((full_iff _).mpr full)
    omega
  have subnormal (field : Nat) (zero : field = 0) : (field : Int) - (1023 + 52) + 1 ≤ 971 := by
    omega
  have normal (field : Nat) (below : field < 2047) : (field : Int) - (1023 + 52) ≤ 971 := by
    omega
  unfold unpack
  dsimp only
  rw [if_neg room]
  by_cases empty : @unpackExponent Format.binary64 bits = 0#11
  · rw [if_pos empty]
    by_cases zero : @unpackMantissa Format.binary64 bits = 0#52
    · rw [dif_pos zero]
      trivial
    · rw [dif_neg zero]
      exact subnormal _ (congrArg BitVec.toNat empty)
  · rw [if_neg empty]
    exact normal _ below

/-- What is bounded is no infinity. -/
theorem Bounded.isInf_eq {number : UnpackedFloat} (bounded : Bounded number) :
    number.isInf = false := by
  cases number with
  | zero | finite => rfl
  | _ => exact bounded.elim

/-- A word stands for an infinity when its exponent field is full and its fraction is zero. -/
theorem unpack_isInf_iff (bits : BitVec 64) :
    (unpack Format.binary64 bits).isInf = true ↔
      @unpackExponent Format.binary64 bits = -1#11 ∧
        @unpackMantissa Format.binary64 bits = 0#52 := by
  by_cases full : @unpackExponent Format.binary64 bits = -1#11
  · unfold unpack
    dsimp only
    rw [if_pos full]
    by_cases zero : @unpackMantissa Format.binary64 bits = 0#52
    · rw [if_pos zero]
      exact iff_of_true rfl ⟨full, zero⟩
    · rw [if_neg zero]
      exact iff_of_false Bool.false_ne_true fun both => zero both.2
  · rw [(bounded_of_room full).isInf_eq]
    exact iff_of_false Bool.false_ne_true fun both => full both.1

/-- A number whose exponent field has room is packed into a word whose exponent field has. -/
theorem room_of_pack {sign : Sign} {significand : Nat} {exponent : Int} (positive : 0 < significand)
    (bounded : exponent ≤ 971) :
    @unpackExponent Format.binary64
      (pack Format.binary64 (.finite sign significand exponent positive)) ≠ -1#11 := by
  have biased : (exponent + 1023 + 52).toNat ≤ 2046 := by omega
  have room : ¬ 2048 ≤ (exponent + 1023 + 52).toNat + 1 := by omega
  have field : (BitVec.ofNat 11 (exponent + 1023 + 52).toNat).toNat =
      (exponent + 1023 + 52).toNat := by
    rw [BitVec.toNat_ofNat]
    exact Nat.mod_eq_of_lt (by omega)
  unfold pack
  change unpackExponent (if 2048 ≤ (exponent + 1023 + 52).toNat + 1 then _ else _) ≠ _
  rw [if_neg room]
  -- The field is the biased exponent, or zero for a significand without its highest place.
  split
  · rw [unpackExponent_packComponents, Ne, full_iff]
    change (BitVec.ofNat 11 (exponent + 1023 + 52).toNat).toNat ≠ 2047
    omega
  · rw [unpackExponent_packComponents, Ne, full_iff]
    decide

/-- The number of a word whose exponent field has room is no infinity. -/
theorem isInf_ofBits_of_room {bits : UInt64}
    (room : @unpackExponent Format.binary64 bits.toBitVec ≠ -1#11) :
    (Float.ofBits bits).isInf = false := by
  have bounded := bounded_of_room room
  -- A number that is made from a word is packed, and unpacked again to be looked at.
  change (unpack Format.binary64 (pack Format.binary64
    (unpack Format.binary64 bits.toBitVec))).isInf = false
  rw [← Bool.not_eq_true, unpack_isInf_iff]
  rintro ⟨full, _⟩
  cases found : unpack Format.binary64 bits.toBitVec with
  | zero sign =>
    rw [found] at full
    change unpackExponent (packedZero Format.binary64 sign) = -1#11 at full
    rw [packedZero, unpackExponent_packComponents] at full
    exact absurd full (by decide)
  | finite sign significand exponent positive =>
    rw [found] at full bounded
    exact room_of_pack positive bounded full
  | infinity sign =>
    rw [found] at bounded
    exact bounded
  | notANumber =>
    rw [found] at bounded
    exact bounded

/-- A number is infinite when its parts are those of an infinity. -/
theorem isInf_iff (number : Float) :
    number.isInf = true ↔ ∃ negative, parts number = .infinite negative := by
  have bits := unpack_isInf_iff number.toBits.toBitVec
  rw [full_iff, zero_iff, unpackExponent_toNat, unpackMantissa_toNat] at bits
  change number.isInf = true ↔ _ at bits
  rw [bits, parts]
  split
  · rename_i full
    split
    · rename_i zero
      exact iff_of_true ⟨beq_iff_eq.mp full, beq_iff_eq.mp zero⟩ ⟨_, rfl⟩
    · rename_i zero
      exact iff_of_false (fun both => zero (beq_iff_eq.mpr both.2)) nofun
  · rename_i full
    refine iff_of_false (fun both => full (beq_iff_eq.mpr both.1)) ?_
    split <;> nofun

/-! ## Rounding to infinity -/

theorem twoTo_pos (exponent : Nat) : 0 < twoTo exponent := Nat.two_pow_pos exponent

/-- Powers of two are multiplied by adding their exponents. -/
theorem twoTo_add (left right : Nat) : twoTo (left + right) = twoTo left * twoTo right :=
  Nat.pow_add 2 left right

theorem twoTo_le {left right : Nat} (ordered : left ≤ right) : twoTo left ≤ twoTo right :=
  Nat.pow_le_pow_right Nat.two_pos ordered

/-- A quotient is rounded to one of the two whole numbers next to it. -/
theorem roundQuotient_cases (numerator denominator : Nat) :
    roundQuotient numerator denominator = numerator / denominator ∨
      roundQuotient numerator denominator = numerator / denominator + 1 := by
  unfold roundQuotient
  dsimp only
  split
  · exact .inl rfl
  · exact .inr rfl
  · split
    · exact .inl rfl
    · exact .inr rfl

/-- A quotient above an odd number is rounded up from one half on. -/
theorem roundQuotient_up_iff {numerator denominator : Nat}
    (odd : numerator / denominator % 2 = 1) :
    roundQuotient numerator denominator = numerator / denominator + 1 ↔
      denominator ≤ 2 * (numerator % denominator) := by
  unfold roundQuotient
  dsimp only
  split
  · rename_i below
    have below := Nat.compare_eq_lt.mp below
    omega
  · rename_i above
    have above := Nat.compare_eq_gt.mp above
    omega
  · rename_i tie
    have tie := Nat.compare_eq_eq.mp tie
    have up : ¬ (numerator / denominator % 2 == 0) = true := by
      rw [odd]
      decide
    rw [if_neg up]
    omega

/-- Half a place above the greatest floating-point number. -/
def summit : Nat := (twoTo 54 - 1) * twoTo 970

/-- The quotient of which the significand of an integer is the nearest whole number. -/
def quotientOf (number : Nat) : Nat × Nat :=
  (number * twoTo (52 - number.log2), twoTo (number.log2 - 52))

section

variable {number : Nat}

theorem log2_bounds (positive : number ≠ 0) :
    twoTo number.log2 ≤ number ∧ number < twoTo (number.log2 + 1) :=
  ⟨Nat.log2_self_le positive, Nat.lt_log2_self⟩

/-- The quotient has 53 binary places before the point. -/
theorem quotientOf_bounds (positive : number ≠ 0) :
    twoTo 52 ≤ (quotientOf number).1 / (quotientOf number).2 ∧
      (quotientOf number).1 / (quotientOf number).2 < twoTo 53 := by
  obtain ⟨least, greatest⟩ := log2_bounds positive
  unfold quotientOf
  generalize number.log2 = places at least greatest
  dsimp only
  rw [Nat.le_div_iff_mul_le (twoTo_pos _), Nat.div_lt_iff_lt_mul (twoTo_pos _), ← twoTo_add,
    ← twoTo_add]
  rcases Nat.le_total places 52 with few | many
  · have lower := Nat.mul_le_mul_right (twoTo (52 - places)) least
    have upper := Nat.mul_lt_mul_of_pos_right greatest (twoTo_pos (52 - places))
    rw [← twoTo_add] at lower upper
    rw [show places + (52 - places) = 52 + (places - 52) by omega] at lower
    rw [show places + 1 + (52 - places) = 53 + (places - 52) by omega] at upper
    exact ⟨lower, upper⟩
  · have plain : number * twoTo (52 - places) = number := by
      rw [Nat.sub_eq_zero_of_le many]
      exact Nat.mul_one number
    rw [plain, show 52 + (places - 52) = places by omega,
      show 53 + (places - 52) = places + 1 by omega]
    exact ⟨least, greatest⟩

/-- The exponent of a significand is estimated by the places of the number, which leaves one place
too many for an integer. -/
theorem estimate_whole (positive : number ≠ 0) :
    max ((number.log2 : Int) - (Nat.log2 1 : Nat) - 53) (-1074) = (number.log2 : Int) - 53 ∧
      twoTo 53 ≤ number * twoTo (-((number.log2 : Int) - 53)).toNat /
        (1 * twoTo ((number.log2 : Int) - 53).toNat) := by
  have one : Nat.log2 1 = 0 := by decide
  have least := (log2_bounds positive).1
  constructor
  · omega
  · generalize number.log2 = places at least
    have multiplied : (-((places : Int) - 53)).toNat = 53 - places := by omega
    have divided : ((places : Int) - 53).toNat = places - 53 := by omega
    have scaled := Nat.mul_le_mul_right (twoTo (53 - places)) least
    rw [← twoTo_add] at scaled
    rw [multiplied, divided, Nat.one_mul, Nat.le_div_iff_mul_le (twoTo_pos _), ← twoTo_add,
      show 53 + (places - 53) = places + (53 - places) by omega]
    exact scaled

/-- An integer is rounded by its binary places: the bits of the nearest number are counted up from
those of its power of two, and beyond the greatest number there is infinity. -/
theorem nearest_whole (positive : number ≠ 0) :
    nearest number 1 =
      let bits := (number.log2 + 1022) * twoTo 52 +
        roundQuotient (quotientOf number).1 (quotientOf number).2
      if bits < 2047 * twoTo 52 then Float.ofBits (UInt64.ofNat bits)
      else Float.ofBits (UInt64.ofNat (2047 * twoTo 52)) := by
  have unit : twoTo 52 = 4503599627370496 := by decide
  have bounds := quotientOf_bounds positive
  have proper : ¬ (number == 0 || (1 : Nat) == 0) = true := by simp [positive]
  obtain ⟨estimate, roomy⟩ := estimate_whole positive
  have above : ¬ roundQuotient (quotientOf number).1 (quotientOf number).2 < twoTo 52 := by
    have pieces := roundQuotient_cases (quotientOf number).1 (quotientOf number).2
    omega
  have multiplied : (-((number.log2 : Int) - 53 + 1)).toNat = 52 - number.log2 := by omega
  have divided : ((number.log2 : Int) - 53 + 1).toNat = number.log2 - 52 := by omega
  have pair : quotientOf number =
      (number * twoTo (52 - number.log2), 1 * twoTo (number.log2 - 52)) := by
    rw [Nat.one_mul]
    rfl
  unfold nearest
  rw [if_neg proper]
  dsimp only
  rw [estimate, if_neg (Nat.not_lt.mpr roomy)]
  rw [pair] at above ⊢
  simp only [multiplied, divided, if_neg above]
  generalize roundQuotient (number * twoTo (52 - number.log2)) (1 * twoTo (number.log2 - 52)) =
    significand at above ⊢
  have bits : ((number.log2 : Int) - 53 + 1 + 1075) * (twoTo 52 : Nat) +
      ((significand : Int) - (twoTo 52 : Nat)) =
      (((number.log2 + 1022) * twoTo 52 + significand : Nat) : Int) := by
    rw [unit]
    omega
  have ordered : (((number.log2 + 1022) * twoTo 52 + significand : Nat) : Int) <
      2047 * (twoTo 52 : Nat) ↔
        (number.log2 + 1022) * twoTo 52 + significand < 2047 * twoTo 52 := by
    rw [unit]
    omega
  simp only [bits, ordered, Int.toNat_natCast]

/-- Among the numbers of 1024 places the significand is rounded up to another place from half a
place above the greatest number on. -/
theorem roundQuotient_summit_iff (places : number.log2 = 1023) :
    2 * twoTo 52 ≤ roundQuotient (quotientOf number).1 (quotientOf number).2 ↔
      summit ≤ number := by
  have unit : twoTo 52 = 4503599627370496 := by decide
  have whole : twoTo 53 = 9007199254740992 := by decide
  have double : twoTo 54 = 18014398509481984 := by decide
  have positive : number ≠ 0 := by
    rintro rfl
    exact absurd places (by decide)
  have bounds := quotientOf_bounds positive
  have pieces := roundQuotient_cases (quotientOf number).1 (quotientOf number).2
  have up := @roundQuotient_up_iff (quotientOf number).1 (quotientOf number).2
  have pair : quotientOf number = (number, 2 * twoTo 970) := by
    have one : twoTo 1 = 2 := by decide
    have none : number * twoTo 0 = number := Nat.mul_one number
    rw [quotientOf, places, show 52 - 1023 = 0 by omega, show 1023 - 52 = 1 + 970 by omega,
      twoTo_add, one, none]
  rw [pair] at bounds pieces up ⊢
  rw [unit, summit, double]
  rw [unit, whole] at bounds
  dsimp only at bounds pieces up ⊢
  have positiveHalf := twoTo_pos 970
  generalize twoTo 970 = half at bounds pieces up positiveHalf ⊢
  have parts := Nat.div_add_mod number (2 * half)
  -- Below the last significand of 53 places, which is odd, rounding up stays within 53 places.
  by_cases last : number / (2 * half) = 9007199254740991
  · rw [last] at parts pieces up
    have up := up (by decide)
    omega
  · have below : number / (2 * half) < 9007199254740991 := by omega
    rw [Nat.div_lt_iff_lt_mul (Nat.mul_pos Nat.two_pos positiveHalf)] at below
    exact iff_of_false (by omega) (by omega)

/-- The bits of a rounded integer reach those of infinity from half a place above the greatest
number on. -/
theorem infinite_bits_iff (positive : number ≠ 0) :
    2047 * twoTo 52 ≤ (number.log2 + 1022) * twoTo 52 +
        roundQuotient (quotientOf number).1 (quotientOf number).2 ↔
      summit ≤ number := by
  have unit : twoTo 52 = 4503599627370496 := by decide
  have half : twoTo 53 = 9007199254740992 := by decide
  have whole : twoTo 54 = 18014398509481984 := by decide
  have bounds := quotientOf_bounds positive
  have pieces := roundQuotient_cases (quotientOf number).1 (quotientOf number).2
  obtain ⟨least, greatest⟩ := log2_bounds positive
  have low : twoTo (53 + 970) = twoTo 53 * twoTo 970 := twoTo_add 53 970
  have high : twoTo (54 + 970) = twoTo 54 * twoTo 970 := twoTo_add 54 970
  -- Rounding adds one place at most, so it decides only among the numbers of 1024 places.
  rcases Nat.lt_trichotomy number.log2 1023 with few | places | many
  · have short : number < twoTo (53 + 970) :=
      Nat.lt_of_lt_of_le greatest (twoTo_le (by omega))
    rw [low, half] at short
    rw [unit, summit, whole]
    omega
  · rw [← roundQuotient_summit_iff places, places]
    omega
  · have long : twoTo (54 + 970) ≤ number := Nat.le_trans (twoTo_le (by omega)) least
    rw [high, whole] at long
    rw [unit, summit, whole]
    omega

/-- The number of fewer bits than those of infinity is no infinity. -/
theorem isInf_ofBits_below {bits : Nat} (below : bits < 2047 * twoTo 52) :
    (Float.ofBits (UInt64.ofNat bits)).isInf = false := by
  have unit : twoTo 52 = 4503599627370496 := by decide
  have fields : twoTo 11 = 2048 := by decide
  have word : (UInt64.ofNat bits).toNat = bits := by
    rw [UInt64.toNat_ofNat']
    exact Nat.mod_eq_of_lt (by omega)
  apply isInf_ofBits_of_room
  rw [Ne, full_iff, unpackExponent_toNat, word, unit, fields]
  omega

end

/-- An integer is rounded to infinity from half a place above the greatest floating-point number
on. -/
theorem nearest_isInf_iff (number : Nat) :
    (nearest number 1).isInf = true ↔ summit ≤ number := by
  by_cases positive : number = 0
  · subst positive
    have above : 0 < summit := Nat.mul_pos (by decide) (twoTo_pos 970)
    exact iff_of_false (by decide) (Nat.not_le.mpr above)
  · rw [nearest_whole positive, ← infinite_bits_iff positive]
    dsimp only
    split
    · rename_i below
      rw [isInf_ofBits_below below]
      exact iff_of_false nofun (Nat.not_le.mpr below)
    · rename_i above
      exact iff_of_true (by decide) (Nat.not_lt.mp above)

/-- An integer has no floating-point number when its magnitude lies half a place above the greatest
one, or beyond. -/
theorem ofInt?_eq_none_iff (number : Int) : ofInt? number = none ↔ summit ≤ number.natAbs := by
  rw [← nearest_isInf_iff, ofInt?]
  split
  · rename_i infinite
    exact iff_of_true rfl infinite
  · rename_i finite
    exact iff_of_false nofun finite

end TemplateStream.Decimal
