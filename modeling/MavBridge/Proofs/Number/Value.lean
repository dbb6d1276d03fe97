import MavBridge.Number.Binary
import Mathlib.Algebra.Order.Field.Power
import Mathlib.Data.Rat.Floor
import Mathlib.Tactic.Linarith
import Mathlib.Tactic.Positivity
import Mathlib.Tactic.Ring

/-!
# The numbers that floats denote

A finite float of either format is an exact rational number.  Widening keeps it, and turning a
double into an integer takes it toward zero, and to the nearest end of 64 signed bits.
-/

namespace MavBridge

/-- The integer that is next to a number toward zero. -/
def integerPart (number : ℚ) : ℤ := if 0 ≤ number then ⌊number⌋ else ⌈number⌉

/-- A sign, and an integer multiple of a power of two. -/
def scaled (negative : Bool) (significand : ℕ) (scale : ℤ) : ℚ :=
  (if negative then -1 else 1) * (significand * 2 ^ scale)

theorem integerPart_neg (number : ℚ) : integerPart (-number) = -integerPart number := by
  unfold integerPart
  rcases lt_trichotomy number 0 with negative | rfl | positive
  · rw [if_pos (by linarith), if_neg (by linarith), Int.floor_neg]
  · simp
  · rw [if_neg (by linarith), if_pos positive.le, Int.ceil_neg]

theorem integerPart_intCast (number : ℤ) : integerPart number = number := by
  simp [integerPart]

/-- A factor of two in the significand is one in the scale. -/
theorem scaled_mul_two_pow (negative : Bool) (significand count : ℕ) (scale : ℤ) :
    scaled negative (significand * 2 ^ count) scale =
      scaled negative significand (scale + count) := by
  rw [scaled, scaled, zpow_add₀ two_ne_zero, zpow_natCast]
  push_cast
  ring

/-! ## Doubles -/

namespace Binary64

/-- The number that a finite double denotes. -/
def value (x : Binary64) : ℚ := scaled x.sign x.significand x.scale

theorem magnitude_eq_floor (x : Binary64) :
    (x.magnitude : ℤ) = ⌊(x.significand * 2 ^ x.scale : ℚ)⌋ := by
  unfold magnitude
  split
  next whole =>
    obtain ⟨count, scale⟩ := Int.eq_ofNat_of_zero_le whole
    rw [scale, Int.toNat_natCast, Nat.pow_eq, zpow_natCast]
    norm_cast
  next fractional =>
    obtain ⟨count, scale⟩ := Int.eq_ofNat_of_zero_le (show 0 ≤ -x.scale by omega)
    rw [scale, Int.toNat_natCast, Nat.pow_eq, ← neg_neg x.scale, scale, zpow_neg, zpow_natCast,
      ← div_eq_mul_inv, ← Nat.cast_ofNat (R := ℚ), ← Nat.cast_pow, Rat.floor_natCast_div_natCast]
    norm_cast

/-- What is read off the bits is the integer part of the number. -/
theorem truncate_eq_integerPart (x : Binary64) : x.truncate = integerPart x.value := by
  have nonneg : (0 : ℚ) ≤ x.significand * 2 ^ x.scale := by positivity
  have part : integerPart (x.significand * 2 ^ x.scale) = x.magnitude := by
    rw [integerPart, if_pos nonneg, magnitude_eq_floor]
  unfold truncate value scaled
  split
  · rw [neg_one_mul, integerPart_neg, part]
  · rw [one_mul, part]

/-- The nearest of the 64-bit signed integers. -/
def saturated (number : ℤ) : ℤ := max (-0x8000000000000000) (min 0x7FFFFFFFFFFFFFFF number)

theorem toInt64_of_isFinite {x : Binary64} (finite : x.isFinite = true) :
    x.toInt64 = saturated (integerPart x.value) := by
  have number : x.isNaN = false := by
    have listed : x.exponent ≠ 2047 := by simpa [isFinite] using finite
    simp [isNaN, listed]
  rw [toInt64, number, if_neg Bool.false_ne_true, if_pos finite, truncate_eq_integerPart, saturated]

theorem fraction_lt (x : Binary64) : x.fraction < 2 ^ 52 := Nat.mod_lt _ (by decide)

theorem significand_lt (x : Binary64) : x.significand < 2 ^ 53 := by
  have := x.fraction_lt
  unfold significand
  split <;> omega

/-- A double that is not below 2 ^ 53 is an even number, or has no fractional part to lose. -/
theorem magnitude_ne_of_odd (x : Binary64) {number : ℕ} (large : 2 ^ 53 ≤ number)
    (odd : number % 2 = 1) : x.magnitude ≠ number := by
  have small := x.significand_lt
  unfold magnitude
  split
  next whole =>
    obtain ⟨count, scale⟩ := Int.eq_ofNat_of_zero_le whole
    rw [scale, Int.toNat_natCast, Nat.pow_eq]
    rintro rfl
    cases count with
    | zero => omega
    | succ count =>
        rw [Nat.pow_succ, ← Nat.mul_assoc, Nat.mul_mod_left] at odd
        cases odd
  next fractional =>
    rw [Nat.pow_eq]
    intro same
    have := Nat.div_le_self x.significand (2 ^ (-x.scale).toNat)
    omega

/-- The bits of a sign, an exponent and a fraction. -/
def ofFields (negative : Bool) (exponent fraction : ℕ) : Binary64 :=
  ⟨UInt64.ofNat ((if negative then 0x8000000000000000 else 0) + (exponent * 2 ^ 52 + fraction))⟩

section Fields

variable (negative : Bool) {exponent fraction : ℕ} (exponentLt : exponent < 2048)
  (fractionLt : fraction < 2 ^ 52)
include exponentLt fractionLt

theorem toNat_ofFields : (ofFields negative exponent fraction).bits.toNat =
    (if negative then 0x8000000000000000 else 0) + (exponent * 2 ^ 52 + fraction) := by
  refine UInt64.toNat_ofNat_of_lt' ?_
  have size : UInt64.size = 0x10000000000000000 := rfl
  rw [size]
  split <;> omega

theorem sign_ofFields : (ofFields negative exponent fraction).sign = negative := by
  have top : ((ofFields negative exponent fraction).bits >>> 63).toNat =
      if negative then 1 else 0 := by
    rw [UInt64.toNat_shiftRight, toNat_ofFields negative exponentLt fractionLt]
    have count : (63 : UInt64).toNat % 64 = 63 := rfl
    rw [count, Nat.shiftRight_eq_div_pow]
    split <;> omega
  have same : ∀ bit : UInt64, bit.toNat = (if negative then 1 else 0) → (bit == 1) = negative := by
    intro bit read
    cases negative
    · rw [← UInt64.ofNat_toNat (x := bit), read]
      rfl
    · rw [← UInt64.ofNat_toNat (x := bit), read]
      rfl
  exact same _ top

theorem exponent_ofFields : (ofFields negative exponent fraction).exponent = exponent := by
  rw [Binary64.exponent, toNat_ofFields negative exponentLt fractionLt, Nat.shiftRight_eq_div_pow]
  split <;> omega

theorem fraction_ofFields : (ofFields negative exponent fraction).fraction = fraction := by
  rw [Binary64.fraction, toNat_ofFields negative exponentLt fractionLt]
  split <;> omega

theorem isFinite_ofFields (listed : exponent ≠ 2047) :
    (ofFields negative exponent fraction).isFinite = true := by
  rw [isFinite, exponent_ofFields negative exponentLt fractionLt]
  simpa using listed

theorem value_ofFields : (ofFields negative exponent fraction).value =
    scaled negative (if exponent = 0 then fraction else fraction + 0x10000000000000)
      ((max exponent 1 : ℕ) - 1075) := by
  rw [value, significand, scale, sign_ofFields negative exponentLt fractionLt,
    exponent_ofFields negative exponentLt fractionLt,
    fraction_ofFields negative exponentLt fractionLt]

end Fields

end Binary64

/-! ## Floats -/

namespace Binary32

def sign (x : Binary32) : Bool := decide (0x80000000 ≤ x.bits.toNat)

/-- The biased exponent. -/
def exponent (x : Binary32) : ℕ := (x.bits.toNat >>> 23) % 256

def fraction (x : Binary32) : ℕ := x.bits.toNat % 0x800000

def isFinite (x : Binary32) : Bool := x.exponent != 255

/-- A finite float is `significand * 2 ^ scale`, up to its sign. -/
def significand (x : Binary32) : ℕ :=
  if x.exponent = 0 then x.fraction else x.fraction + 0x800000

def scale (x : Binary32) : ℤ := (max x.exponent 1 : ℕ) - 150

/-- The number that a finite float denotes. -/
def value (x : Binary32) : ℚ := scaled x.sign x.significand x.scale

theorem fraction_lt (x : Binary32) : x.fraction < 2 ^ 23 := Nat.mod_lt _ (by decide)

theorem significand_lt (x : Binary32) : x.significand < 2 ^ 24 := by
  have := x.fraction_lt
  unfold significand
  split <;> omega

/-- Widening a subnormal float moves its leading bit to where it is not written. -/
theorem widen_of_subnormal {x : Binary32} (small : x.exponent = 0) (nonzero : x.fraction ≠ 0) :
    x.widen = .ofFields x.sign (x.fraction.log2 + 874)
      ((x.fraction - 2 ^ x.fraction.log2) * 2 ^ (52 - x.fraction.log2)) := by
  unfold exponent at small
  unfold fraction at nonzero ⊢
  simp only [widen, small, nonzero, if_true, if_false, Binary64.ofFields, sign, Nat.shiftLeft_eq,
    Nat.pow_eq, decide_eq_true_eq, ge_iff_le, OfNat.zero_ne_ofNat]

theorem widen_of_normal {x : Binary32} (finite : x.isFinite = true) (normal : x.exponent ≠ 0) :
    x.widen = .ofFields x.sign (x.exponent + 896) (x.fraction * 2 ^ 29) := by
  have listed : x.exponent ≠ 255 := by simpa [isFinite] using finite
  unfold exponent at listed normal ⊢
  unfold fraction
  simp only [widen, listed, normal, if_false, Binary64.ofFields, sign, Nat.shiftLeft_eq,
    decide_eq_true_eq, ge_iff_le]

theorem widen_of_zero {x : Binary32} (small : x.exponent = 0) (zero : x.fraction = 0) :
    x.widen = .ofFields x.sign 0 0 := by
  unfold exponent at small
  unfold fraction at zero
  simp only [widen, small, zero, if_true, if_false, Binary64.ofFields, sign, decide_eq_true_eq,
    ge_iff_le, OfNat.zero_ne_ofNat, Nat.zero_mul, Nat.add_zero]

/-- Widening keeps the number. -/
theorem value_widen {x : Binary32} (finite : x.isFinite = true) :
    x.widen.isFinite = true ∧ x.widen.value = x.value := by
  have fractionLt := x.fraction_lt
  by_cases small : x.exponent = 0
  · by_cases zero : x.fraction = 0
    · rw [widen_of_zero small zero]
      refine ⟨Binary64.isFinite_ofFields _ (by decide) (by decide) (by decide), ?_⟩
      rw [Binary64.value_ofFields _ (by decide) (by decide), value, significand, if_pos small, zero]
      simp [scaled]
    · rw [widen_of_subnormal small zero, value, significand, if_pos small, scale, small]
      have low := Nat.log2_self_le zero
      have high := Nat.lt_log2_self (n := x.fraction)
      have lead : x.fraction.log2 < 23 := (Nat.log2_lt zero).mpr fractionLt
      rw [Nat.pow_succ] at high
      generalize x.fraction.log2 = top at low high lead
      have shifted : 2 ^ top * 2 ^ (52 - top) = 2 ^ 52 := by
        rw [← Nat.pow_add]
        congr 1
        omega
      have fits : (x.fraction - 2 ^ top) * 2 ^ (52 - top) < 2 ^ 52 := by
        rw [← shifted]
        exact Nat.mul_lt_mul_of_pos_right (by omega) (Nat.two_pow_pos _)
      have whole : (x.fraction - 2 ^ top) * 2 ^ (52 - top) + 0x10000000000000 =
          x.fraction * 2 ^ (52 - top) := by
        have hidden : (0x10000000000000 : ℕ) = 2 ^ top * 2 ^ (52 - top) := shifted.symm
        rw [hidden, ← Nat.add_mul, Nat.sub_add_cancel low]
      refine ⟨Binary64.isFinite_ofFields _ (by omega) fits (by omega), ?_⟩
      have scale : ((max (top + 874) 1 : ℕ) : ℤ) - 1075 + (52 - top : ℕ) =
          ((max 0 1 : ℕ) : ℤ) - 150 := by omega
      rw [Binary64.value_ofFields _ (by omega) fits, if_neg (by omega), whole, scaled_mul_two_pow,
        scale]
  · rw [widen_of_normal finite small, value, significand, if_neg small, scale]
    have listed : x.exponent < 256 := Nat.mod_lt _ (by decide)
    have fits : x.fraction * 2 ^ 29 < 2 ^ 52 := by omega
    have whole : x.fraction * 2 ^ 29 + 0x10000000000000 = (x.fraction + 0x800000) * 2 ^ 29 := by
      omega
    refine ⟨Binary64.isFinite_ofFields _ (by omega) fits (by omega), ?_⟩
    have scale : ((max (x.exponent + 896) 1 : ℕ) : ℤ) - 1075 + (29 : ℕ) =
        ((max x.exponent 1 : ℕ) : ℤ) - 150 := by omega
    rw [Binary64.value_ofFields _ (by omega) fits, if_neg (by omega), whole, scaled_mul_two_pow,
      scale]

end Binary32

end MavBridge
