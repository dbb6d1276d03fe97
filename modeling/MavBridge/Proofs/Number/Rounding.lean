import MavBridge.Proofs.Number.Value

/-!
# Rounding a double to a float

A double is rounded to an integer multiple of the unit that floats of its size have.  It is kept
exactly if any float denotes its number, and an integer stays one.
-/

namespace MavBridge

/-! ## Rounding a natural number -/

theorem roundShift_eq (numerator shift : ℕ) :
    roundShift numerator shift = numerator / 2 ^ shift ∨
      roundShift numerator shift = numerator / 2 ^ shift + 1 := by
  unfold roundShift
  rw [Nat.shiftRight_eq_div_pow]
  dsimp only
  split
  · exact .inr rfl
  · exact .inl rfl

theorem roundShift_mul_two_pow (quotient shift : ℕ) :
    roundShift (quotient * 2 ^ shift) shift = quotient := by
  have positive := Nat.two_pow_pos shift
  simp [roundShift, Nat.shiftRight_eq_div_pow, Nat.mul_div_cancel _ positive, positive.ne]

theorem abs_scaled (negative : Bool) (significand : ℕ) (scale : ℤ) :
    |scaled negative significand scale| = significand * 2 ^ scale := by
  have nonneg : (0 : ℚ) ≤ significand * 2 ^ scale := by positivity
  cases negative <;> simp [scaled, abs_of_nonneg nonneg]

/-! ## The bits of a float -/

namespace Binary32

/-- The bits of a sign, an exponent and a fraction. -/
def ofFields (negative : Bool) (exponent fraction : ℕ) : Binary32 :=
  ⟨UInt32.ofNat ((if negative then 0x80000000 else 0) + (exponent * 2 ^ 23 + fraction))⟩

section Fields

variable (negative : Bool) {exponent fraction : ℕ} (exponentLt : exponent < 255)
  (fractionLt : fraction < 2 ^ 23)
include exponentLt fractionLt

theorem toNat_ofFields : (ofFields negative exponent fraction).bits.toNat =
    (if negative then 0x80000000 else 0) + (exponent * 2 ^ 23 + fraction) := by
  refine UInt32.toNat_ofNat_of_lt' ?_
  have size : UInt32.size = 0x100000000 := rfl
  rw [size]
  split <;> omega

theorem sign_ofFields : (ofFields negative exponent fraction).sign = negative := by
  rw [sign, toNat_ofFields negative exponentLt fractionLt]
  cases negative
  · simp
    omega
  · simp

theorem exponent_ofFields : (ofFields negative exponent fraction).exponent = exponent := by
  rw [Binary32.exponent, toNat_ofFields negative exponentLt fractionLt, Nat.shiftRight_eq_div_pow]
  split <;> omega

theorem fraction_ofFields : (ofFields negative exponent fraction).fraction = fraction := by
  rw [Binary32.fraction, toNat_ofFields negative exponentLt fractionLt]
  split <;> omega

theorem value_ofFields : (ofFields negative exponent fraction).isFinite = true ∧
    (ofFields negative exponent fraction).value =
      scaled negative (if exponent = 0 then fraction else fraction + 0x800000)
        ((max exponent 1 : ℕ) - 150) := by
  rw [isFinite, value, significand, scale, sign_ofFields negative exponentLt fractionLt,
    exponent_ofFields negative exponentLt fractionLt,
    fraction_ofFields negative exponentLt fractionLt]
  exact ⟨by simpa using exponentLt.ne, rfl⟩

end Fields

end Binary32

/-- A float denotes the number. -/
def IsFloat (number : ℚ) : Prop := ∃ x : Binary32, x.isFinite = true ∧ x.value = number

namespace Binary64

/-! ## The unit of a double among floats -/

/-- The scale of the float that a double is rounded to. -/
def unit (x : Binary64) : ℤ := max (-149) (x.scale + x.significand.log2 - 23)

/-- How many binary places of the significand a float has no room for. -/
def spare (x : Binary64) : ℕ := (x.unit - x.scale).toNat

/-- The significand of the float that a double is rounded to. -/
def rounded (x : Binary64) : ℕ := roundShift x.significand x.spare

theorem scale_add_spare (x : Binary64) : x.scale + x.spare = x.unit := by
  have finer : x.scale ≤ x.unit := by
    have fractionLt := x.fraction_lt
    unfold unit
    by_cases small : x.exponent = 0
    · have lowest : x.scale = -1074 := by rw [scale, small]; rfl
      omega
    · have large : 52 ≤ x.significand.log2 := by
        have lead : 2 ^ 52 ≤ x.significand := by
          rw [significand, if_neg small]
          omega
        exact (Nat.le_log2 (by omega)).mpr lead
      omega
  unfold spare
  omega

theorem log2_lt_spare (x : Binary64) : x.significand.log2 < 24 + x.spare := by
  have := x.scale_add_spare
  unfold unit at this
  omega

theorem rounded_le (x : Binary64) : x.rounded ≤ 2 ^ 24 := by
  have bound : x.significand / 2 ^ x.spare < 2 ^ 24 := by
    rw [Nat.div_lt_iff_lt_mul (Nat.two_pow_pos _), ← Nat.pow_add]
    exact Nat.lt_log2_self.trans_le (Nat.pow_le_pow_right (by decide) x.log2_lt_spare)
  unfold rounded
  rcases roundShift_eq x.significand x.spare with down | up <;> omega

/-- Only the smallest floats have a leading bit of zero. -/
theorem le_rounded {x : Binary64} (normal : -149 < x.unit) : 2 ^ 23 ≤ x.rounded := by
  have places : x.significand.log2 = 23 + x.spare := by
    have := x.scale_add_spare
    unfold unit at this normal
    omega
  have nonzero : x.significand ≠ 0 := by
    intro zero
    rw [zero, Nat.log2_zero] at places
    omega
  have bound : 2 ^ 23 ≤ x.significand / 2 ^ x.spare := by
    rw [Nat.le_div_iff_mul_le (Nat.two_pow_pos _), ← Nat.pow_add, ← places]
    exact Nat.log2_self_le nonzero
  unfold rounded
  rcases roundShift_eq x.significand x.spare with down | up <;> omega

/-! ## The float -/

theorem narrow_eq {x : Binary64} (finite : x.isFinite = true) :
    x.narrow = ⟨UInt32.ofNat ((if x.sign then 0x80000000 else 0) +
      if x.rounded < 0x800000 then x.rounded
      else min 0x7F800000 ((x.unit + 150).toNat * 2 ^ 23 + (x.rounded - 0x800000)))⟩ := by
  have listed : x.exponent ≠ 2047 := by simpa [isFinite] using finite
  simp only [narrow, listed, if_false, Nat.shiftLeft_eq, rounded, spare, unit]
  rfl

/-- A double that is not too large becomes a float of the rounded significand. -/
theorem value_narrow {x : Binary64} (finite : x.isFinite = true) (fits : x.unit ≤ 103) :
    x.narrow.isFinite = true ∧ x.narrow.value = scaled x.sign x.rounded x.unit := by
  have atMost := x.rounded_le
  have atLeast : -149 ≤ x.unit := le_max_left _ _
  rw [narrow_eq finite]
  by_cases subnormal : x.rounded < 0x800000
  · have lowest : x.unit = -149 := by
      by_contra normal
      have := le_rounded (lt_of_le_of_ne atLeast (Ne.symm normal))
      omega
    have placed : x.rounded = 0 * 2 ^ 23 + x.rounded := by omega
    have shown := @Binary32.value_ofFields x.sign 0 x.rounded (by decide) subnormal
    rw [Binary32.ofFields, ← placed] at shown
    rw [if_pos subnormal, lowest]
    exact shown
  · obtain ⟨exponent, biased⟩ := Int.eq_ofNat_of_zero_le (show 0 ≤ x.unit + 150 by omega)
    rw [if_neg subnormal, biased, Int.toNat_natCast]
    by_cases carried : x.rounded = 2 ^ 24
    · have placed : min 0x7F800000 (exponent * 2 ^ 23 + (x.rounded - 0x800000)) =
          (exponent + 1) * 2 ^ 23 + 0 := by omega
      have shown := @Binary32.value_ofFields x.sign (exponent + 1) 0 (by omega) (by decide)
      rw [Binary32.ofFields, ← placed, if_neg exponent.succ_ne_zero] at shown
      refine ⟨shown.1, shown.2.trans ?_⟩
      have whole : x.rounded = (0 + 0x800000) * 2 ^ 1 := by omega
      have scale : ((max (exponent + 1) 1 : ℕ) : ℤ) - 150 = x.unit + (1 : ℕ) := by omega
      rw [whole, scaled_mul_two_pow, scale]
    · have placed : min 0x7F800000 (exponent * 2 ^ 23 + (x.rounded - 0x800000)) =
          exponent * 2 ^ 23 + (x.rounded - 0x800000) := by omega
      have normal : exponent ≠ 0 := by omega
      have shown := @Binary32.value_ofFields x.sign exponent (x.rounded - 0x800000) (by omega)
        (by omega)
      rw [Binary32.ofFields, ← placed, if_neg normal] at shown
      refine ⟨shown.1, shown.2.trans ?_⟩
      have scale : ((max exponent 1 : ℕ) : ℤ) - 150 = x.unit := by omega
      rw [Nat.sub_add_cancel (Nat.le_of_not_lt subnormal), scale]

/-! ## What is kept exactly -/

theorem abs_value (x : Binary64) : |x.value| = x.significand * 2 ^ x.scale := abs_scaled _ _ _

theorem value_narrow_of_dvd {x : Binary64} (finite : x.isFinite = true) (fits : x.unit ≤ 103)
    (divides : 2 ^ x.spare ∣ x.significand) : x.narrow.value = x.value := by
  obtain ⟨quotient, factored⟩ := divides
  rw [Nat.mul_comm] at factored
  have kept : x.rounded = quotient := by rw [rounded, factored, roundShift_mul_two_pow]
  rw [(value_narrow finite fits).2, kept, value, factored, scaled_mul_two_pow, scale_add_spare]

/-- The significand of a number that is a float as well has zeros where a float has no room. -/
theorem two_pow_spare_dvd {x : Binary64} (isFloat : IsFloat x.value) :
    2 ^ x.spare ∣ x.significand := by
  obtain ⟨single, -, same⟩ := isFloat
  have sizes : (single.significand * 2 ^ single.scale : ℚ) = x.significand * 2 ^ x.scale := by
    rw [← abs_value, ← same]
    exact (abs_scaled _ _ _).symm
  by_cases coarse : x.unit ≤ single.scale
  · obtain ⟨more, further⟩ := Int.le.dest coarse
    rw [← further, ← scale_add_spare, add_assoc, ← Nat.cast_add, zpow_add₀ two_ne_zero,
      mul_left_comm, mul_comm (x.significand : ℚ), zpow_natCast] at sizes
    have whole := mul_left_cancel₀ (zpow_ne_zero _ two_ne_zero) sizes
    have factored : single.significand * 2 ^ (x.spare + more) = x.significand := by
      exact_mod_cast whole
    rw [← factored, Nat.pow_add]
    exact (Nat.dvd_mul_right _ _).mul_left _
  · -- A finer float has too few digits to be as large as the double.
    rcases Nat.eq_zero_or_pos x.significand with zero | positive
    · rw [zero]
      exact dvd_zero _
    · have finest : -149 ≤ single.scale := by
        unfold Binary32.scale
        omega
      have lead : x.unit = x.scale + x.significand.log2 - 23 := by
        unfold unit at coarse ⊢
        omega
      have atLeast : (2 : ℚ) ^ (x.unit + 23) ≤ x.significand * 2 ^ x.scale := by
        have power : (2 : ℚ) ^ (x.unit + 23) = 2 ^ x.significand.log2 * 2 ^ x.scale := by
          rw [← zpow_natCast, ← zpow_add₀ two_ne_zero]
          congr 1
          omega
        rw [power]
        refine mul_le_mul_of_nonneg_right ?_ (by positivity)
        exact_mod_cast Nat.log2_self_le positive.ne'
      have below : (single.significand * 2 ^ single.scale : ℚ) < 2 ^ (x.unit + 23) := by
        have digits : (single.significand : ℚ) < 2 ^ (24 : ℤ) := by
          exact_mod_cast single.significand_lt
        calc (single.significand * 2 ^ single.scale : ℚ)
            < 2 ^ (24 : ℤ) * 2 ^ single.scale := mul_lt_mul_of_pos_right digits (by positivity)
          _ = 2 ^ (24 + single.scale) := (zpow_add₀ two_ne_zero _ _).symm
          _ ≤ 2 ^ (x.unit + 23) := zpow_le_zpow_right₀ one_le_two (by omega)
      rw [sizes] at below
      exact absurd below (not_lt.mpr atLeast)

theorem isFloat_iff {x : Binary64} (finite : x.isFinite = true) (fits : x.unit ≤ 103) :
    IsFloat x.value ↔ x.narrow.value = x.value := by
  constructor
  · intro isFloat
    exact value_narrow_of_dvd finite fits (two_pow_spare_dvd isFloat)
  · intro same
    exact ⟨x.narrow, (value_narrow finite fits).1, same⟩

/-! ## Integers -/

theorem unit_le_of_abs_le {x : Binary64} (bounded : |x.value| ≤ 2 ^ 64) : x.unit ≤ 103 := by
  have leading : x.scale + x.significand.log2 ≤ 64 := by
    rcases Nat.eq_zero_or_pos x.significand with zero | positive
    · have subnormal : x.exponent = 0 := by
        by_contra normal
        rw [significand, if_neg normal] at zero
        omega
      rw [zero, scale, subnormal]
      decide
    · have power : (2 : ℚ) ^ (x.scale + x.significand.log2) ≤ 2 ^ (64 : ℤ) := by
        refine le_trans ?_ bounded
        rw [abs_value, add_comm, zpow_add₀ two_ne_zero, zpow_natCast]
        refine mul_le_mul_of_nonneg_right ?_ (by positivity)
        exact_mod_cast Nat.log2_self_le positive.ne'
      exact (zpow_le_zpow_iff_right₀ one_lt_two).mp power
  unfold unit
  omega

theorem unit_le_of_intCast {x : Binary64} {number : ℤ} (denotes : x.value = number)
    (least : -2 ^ 64 ≤ number) (greatest : number ≤ 2 ^ 64) : x.unit ≤ 103 := by
  apply unit_le_of_abs_le
  rw [denotes, ← Int.cast_abs]
  exact_mod_cast abs_le.mpr ⟨least, greatest⟩

/-- An integer is rounded to an integer. -/
theorem exists_value_narrow_eq {x : Binary64} (finite : x.isFinite = true) (fits : x.unit ≤ 103)
    {number : ℤ} (denotes : x.value = number) : ∃ near : ℤ, x.narrow.value = near := by
  rcases Int.le_total 0 x.unit with whole | fractional
  · obtain ⟨count, unit⟩ := Int.eq_ofNat_of_zero_le whole
    refine ⟨(if x.sign then -1 else 1) * (x.rounded * 2 ^ count), ?_⟩
    rw [(value_narrow finite fits).2, unit, scaled, zpow_natCast]
    push_cast
    rfl
  · -- There is no place for a float to lose below the units.
    obtain ⟨count, unit⟩ := Int.eq_ofNat_of_zero_le (show 0 ≤ -x.unit by omega)
    refine ⟨number, (value_narrow_of_dvd finite fits ?_).trans denotes⟩
    have scale : x.scale = -((x.spare + count : ℕ) : ℤ) := by
      have := x.scale_add_spare
      omega
    have size := x.abs_value
    rw [denotes, scale, zpow_neg, zpow_natCast, ← div_eq_mul_inv,
      eq_div_iff (pow_ne_zero _ two_ne_zero)] at size
    have factored : number.natAbs * 2 ^ (x.spare + count) = x.significand := by
      rw [← Int.cast_abs, Int.abs_eq_natAbs] at size
      exact_mod_cast size
    rw [← factored, Nat.pow_add]
    exact (Nat.dvd_mul_right _ _).mul_left _

/-! ## Rounding before the integer is taken -/

theorem isFloat_least : IsFloat ((-2 ^ 63 : ℤ) : ℚ) := by
  obtain ⟨finite, shown⟩ := @Binary32.value_ofFields true 190 0 (by decide) (by decide)
  refine ⟨_, finite, shown.trans ?_⟩
  norm_num [scaled]

/-- No double is the greatest 64-bit integer. -/
theorem integerPart_ne_greatest (x : Binary64) : integerPart x.value ≠ 2 ^ 63 - 1 := by
  rw [← truncate_eq_integerPart, truncate]
  have odd := @magnitude_ne_of_odd x (2 ^ 63 - 1) (by decide) (by decide)
  split <;> omega

/-- An integer of 64 signed bits is the same integer once it has been a float exactly if a float
denotes it. -/
theorem toInt64_widen_narrow_iff {x : Binary64} (finite : x.isFinite = true) {number : ℤ}
    (denotes : x.value = number) (least : -2 ^ 63 ≤ number) (below : number < 2 ^ 63) :
    x.toInt64 = x.narrow.widen.toInt64 ↔ IsFloat number := by
  have fits : x.unit ≤ 103 := unit_le_of_intCast denotes (by omega) (by omega)
  obtain ⟨near, rounds⟩ := exists_value_narrow_eq finite fits denotes
  obtain ⟨widens, widened⟩ := Binary32.value_widen (value_narrow finite fits).1
  rw [toInt64_of_isFinite finite, toInt64_of_isFinite widens, widened, rounds, denotes,
    integerPart_intCast, integerPart_intCast]
  have greatest := x.integerPart_ne_greatest
  rw [denotes, integerPart_intCast] at greatest
  have exact := isFloat_iff finite fits
  rw [denotes, rounds, Int.cast_inj] at exact
  unfold saturated
  constructor
  · intro same
    -- A number that is rounded to one beyond the range can only be the least in it.
    by_cases beyond : near < -2 ^ 63
    · have isLeast : number = -2 ^ 63 := by omega
      rw [isLeast]
      exact isFloat_least
    · exact exact.mpr (by omega)
  · intro isFloat
    rw [exact.mp isFloat]

end Binary64

end MavBridge
