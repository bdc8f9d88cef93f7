import Mathlib.Algebra.Order.Field.Power
import Mathlib.Data.Rat.Cast.Order
import Mathlib.Tactic.FieldSimp
import Mathlib.Tactic.Linarith
import Mathlib.Tactic.NormNum
import Mathlib.Tactic.Positivity
import Mathlib.Tactic.Ring
import RegistryLoad.Decimal.Binary64

/-!
# Rounding keeps the order

The numbers of the 64-bit binary format are ordered as their bits are, and a quotient that is not
larger than another one is not rounded to a larger number.  So bounds for products and quotients
follow from bounds for their arguments, although every one of them was rounded.

## Definitions

* `Binary64.value`: the magnitude of a number, exactly.

## Results

* `roundHalfEven_mono`, `magnitudeOf_mono`: rounding keeps the order.
* `value_mono`: so does the way from the bits to the value.
-/

namespace RegistryLoad

/-! ## Rounding a quotient -/

theorem roundHalfEven_one (k : Nat) : roundHalfEven k 1 = k := by
  simp [roundHalfEven, Nat.mod_one]

theorem div_le_roundHalfEven (a b : Nat) : a / b ≤ roundHalfEven a b := by
  unfold roundHalfEven
  dsimp only
  split_ifs <;> omega

theorem roundHalfEven_le_div (a b : Nat) : roundHalfEven a b ≤ a / b + 1 := by
  unfold roundHalfEven
  dsimp only
  split_ifs <;> omega

/-- **A smaller quotient is not rounded to a larger integer.** -/
theorem roundHalfEven_mono {a b c d : Nat} (hb : 0 < b) (hd : 0 < d) (h : a * d ≤ c * b) :
    roundHalfEven a b ≤ roundHalfEven c d := by
  have floors : a / b ≤ c / d := by
    rw [Nat.le_div_iff_mul_le hd]
    refine Nat.le_of_mul_le_mul_right ?_ hb
    calc a / b * d * b = a / b * b * d := Nat.mul_right_comm _ _ _
      _ ≤ a * d := Nat.mul_le_mul_right d (Nat.div_mul_le_self a b)
      _ ≤ c * b := h
  rcases floors.lt_or_eq with less | same
  · exact (roundHalfEven_le_div a b).trans (less.trans_le (div_le_roundHalfEven c d))
  · -- Of two quotients with one integral part, the remainders decide.
    have rests : a % b * d ≤ c % d * b := by
      have ha : b * (c / d) * d + a % b * d = a * d := by
        rw [← Nat.add_mul, ← same, Nat.div_add_mod]
      have hc : b * (c / d) * d + c % d * b = c * b := by
        rw [Nat.mul_comm b, Nat.mul_assoc, Nat.mul_comm b, ← Nat.mul_assoc, ← Nat.add_mul,
          Nat.mul_comm (c / d), Nat.div_add_mod]
      rw [← ha, ← hc] at h
      exact Nat.le_of_add_le_add_left h
    have up : 2 * (c % d) ≤ d → 2 * (a % b) ≤ b := by
      intro half
      refine Nat.le_of_mul_le_mul_right ?_ hd
      calc 2 * (a % b) * d = 2 * (a % b * d) := Nat.mul_assoc _ _ _
        _ ≤ 2 * (c % d * b) := Nat.mul_le_mul_left 2 rests
        _ = 2 * (c % d) * b := (Nat.mul_assoc _ _ _).symm
        _ ≤ d * b := Nat.mul_le_mul_right b half
        _ = b * d := Nat.mul_comm d b
    have down : 2 * (c % d) < d → 2 * (a % b) < b := by
      intro half
      refine Nat.lt_of_mul_lt_mul_right (a := d) ?_
      calc 2 * (a % b) * d = 2 * (a % b * d) := Nat.mul_assoc _ _ _
        _ ≤ 2 * (c % d * b) := Nat.mul_le_mul_left 2 rests
        _ = 2 * (c % d) * b := (Nat.mul_assoc _ _ _).symm
        _ < d * b := Nat.mul_lt_mul_of_pos_right half hb
        _ = b * d := Nat.mul_comm d b
    unfold roundHalfEven
    dsimp only
    rw [same]
    split_ifs <;> omega

/-! ## Powers and quotients -/

/-- A power is a quotient of two natural ones. -/
theorem zpow_eq_toNat_div {b : ℚ} (hb : b ≠ 0) (k : ℤ) :
    b ^ k = b ^ k.toNat / b ^ (-k).toNat := by
  have parts : k = (k.toNat : ℤ) - ((-k).toNat : ℤ) := by omega
  nth_rewrite 1 [parts]
  rw [zpow_sub₀ hb, zpow_natCast, zpow_natCast]

namespace Binary64

/-- A quotient scaled by a power of two, as the roundings do it. -/
theorem scaled_eq (num den : Nat) (k : ℤ) :
    ((num * Nat.pow 2 (-k).toNat : Nat) : ℚ) / ((den * Nat.pow 2 k.toNat : Nat) : ℚ)
      = (num / den : ℚ) / 2 ^ k := by
  rw [zpow_eq_toNat_div two_ne_zero]
  simp only [Nat.pow_eq, Nat.cast_mul, Nat.cast_pow, Nat.cast_ofNat]
  field_simp

theorem scaled_den_pos {den : Nat} (h : 0 < den) (k : ℤ) : 0 < den * Nat.pow 2 k.toNat :=
  Nat.mul_pos h (Nat.two_pow_pos _)

/-- Quotients of natural numbers are compared crosswise. -/
theorem div_le_div_iff_cross {a b c d : Nat} (hb : 0 < b) (hd : 0 < d) :
    (a : ℚ) / b ≤ c / d ↔ a * d ≤ c * b := by
  rw [div_le_div_iff₀ (by exact_mod_cast hb) (by exact_mod_cast hd)]
  exact_mod_cast Iff.rfl

theorem lt_zpow_iff (num : Nat) {den : Nat} (h : 0 < den) (k : ℤ) :
    num * Nat.pow 2 (-k).toNat < den * Nat.pow 2 k.toNat ↔ (num / den : ℚ) < 2 ^ k := by
  have pos : (0 : ℚ) < ((den * Nat.pow 2 k.toNat : Nat) : ℚ) := by
    exact_mod_cast scaled_den_pos h k
  rw [← @Nat.cast_lt ℚ, ← div_lt_one pos, scaled_eq, div_lt_one (by positivity)]

/-! ## The leading place -/

/-- **The leading exponent** is that of the power of two below the quotient. -/
theorem leadingExponent_spec {num den : Nat} (hn : 0 < num) (hd : 0 < den) :
    (2 : ℚ) ^ leadingExponent num den ≤ num / den ∧
      (num / den : ℚ) < 2 ^ (leadingExponent num den + 1) := by
  have posDen : (0 : ℚ) < den := by exact_mod_cast hd
  have numLow : (2 : ℚ) ^ (num.log2 : ℤ) ≤ num := by
    rw [zpow_natCast]
    exact_mod_cast Nat.log2_self_le hn.ne'
  have numHigh : (num : ℚ) < 2 ^ ((num.log2 : ℤ) + 1) := by
    exact_mod_cast Nat.lt_log2_self
  have denLow : (2 : ℚ) ^ (den.log2 : ℤ) ≤ den := by
    rw [zpow_natCast]
    exact_mod_cast Nat.log2_self_le hd.ne'
  have denHigh : (den : ℚ) < 2 ^ ((den.log2 : ℤ) + 1) := by
    exact_mod_cast Nat.lt_log2_self
  -- The difference of the two logarithms is right, or one too high.
  have low : (2 : ℚ) ^ ((num.log2 : ℤ) - den.log2 - 1) ≤ num / den := by
    rw [le_div_iff₀ posDen]
    calc (2 : ℚ) ^ ((num.log2 : ℤ) - den.log2 - 1) * den
        ≤ 2 ^ ((num.log2 : ℤ) - den.log2 - 1) * 2 ^ ((den.log2 : ℤ) + 1) := by gcongr
      _ = 2 ^ (num.log2 : ℤ) := by
        rw [← zpow_add₀ two_ne_zero]
        congr 1
        ring
      _ ≤ num := numLow
  have high : (num / den : ℚ) < 2 ^ ((num.log2 : ℤ) - den.log2 + 1) := by
    rw [div_lt_iff₀ posDen]
    calc (num : ℚ) < 2 ^ ((num.log2 : ℤ) + 1) := numHigh
      _ = 2 ^ ((num.log2 : ℤ) - den.log2 + 1) * 2 ^ (den.log2 : ℤ) := by
        rw [← zpow_add₀ two_ne_zero]
        congr 1
        ring
      _ ≤ 2 ^ ((num.log2 : ℤ) - den.log2 + 1) * den := by gcongr
  unfold leadingExponent
  dsimp only
  split_ifs with below
  · rw [lt_zpow_iff num hd] at below
    exact ⟨low, by rwa [Int.sub_add_cancel]⟩
  · rw [lt_zpow_iff num hd] at below
    exact ⟨not_lt.mp below, high⟩

/-- A larger quotient has no smaller leading exponent. -/
theorem leadingExponent_mono {num den num' den' : Nat} (hn : 0 < num) (hn' : 0 < num')
    (hd : 0 < den) (hd' : 0 < den') (h : (num / den : ℚ) ≤ num' / den') :
    leadingExponent num den ≤ leadingExponent num' den' := by
  have low := (leadingExponent_spec hn hd).1
  have high := (leadingExponent_spec hn' hd').2
  have powers := (low.trans h).trans_lt high
  rw [zpow_lt_zpow_iff_right₀ one_lt_two] at powers
  omega

theorem lastPlace_mono {num den num' den' : Nat} (hn : 0 < num) (hn' : 0 < num')
    (hd : 0 < den) (hd' : 0 < den') (h : (num / den : ℚ) ≤ num' / den') :
    lastPlace num den ≤ lastPlace num' den' := by
  have leading := leadingExponent_mono hn hn' hd hd' h
  unfold lastPlace
  omega

/-! ## Rounded mantissas -/

theorem exponentUnit_eq : exponentUnit = 2 ^ 52 := by decide

/-- A rounded mantissa has at most fifty-three places, or is the first number with one more. -/
theorem roundedMantissa_le {num den : Nat} (hn : 0 < num) (hd : 0 < den) :
    roundedMantissa num den ≤ 2 * exponentUnit := by
  have high := (leadingExponent_spec hn hd).2
  have place : leadingExponent num den + 1 ≤ 53 + lastPlace num den := by
    unfold lastPlace
    omega
  have bound : (num / den : ℚ) ≤ 2 ^ (53 : ℤ) * 2 ^ lastPlace num den := by
    rw [← zpow_add₀ two_ne_zero]
    exact high.le.trans (zpow_le_zpow_right₀ one_le_two place)
  have rounded := roundHalfEven_mono (a := num * Nat.pow 2 (-lastPlace num den).toNat)
    (c := 2 * exponentUnit) (scaled_den_pos hd (lastPlace num den)) one_pos
  rw [roundHalfEven_one] at rounded
  apply rounded
  rw [← div_le_div_iff_cross (scaled_den_pos hd _) one_pos, scaled_eq, Nat.cast_one, div_one,
    div_le_iff₀ (by positivity), exponentUnit_eq]
  refine bound.trans (le_of_eq ?_)
  norm_num

/-- Above the smallest exponent, a rounded mantissa has at least fifty-three places. -/
theorem le_roundedMantissa {num den : Nat} (hn : 0 < num) (hd : 0 < den)
    (h : minExponent < lastPlace num den) : exponentUnit ≤ roundedMantissa num den := by
  have low := (leadingExponent_spec hn hd).1
  have place : 52 + lastPlace num den = leadingExponent num den := by
    unfold lastPlace at h ⊢
    omega
  have bound : 2 ^ (52 : ℤ) * 2 ^ lastPlace num den ≤ (num / den : ℚ) := by
    rw [← zpow_add₀ two_ne_zero, place]
    exact low
  have rounded := roundHalfEven_mono (a := exponentUnit)
    (c := num * Nat.pow 2 (-lastPlace num den).toNat) one_pos
    (scaled_den_pos hd (lastPlace num den))
  rw [roundHalfEven_one] at rounded
  apply rounded
  rw [← div_le_div_iff_cross one_pos (scaled_den_pos hd _), scaled_eq, Nat.cast_one, div_one,
    le_div_iff₀ (by positivity), exponentUnit_eq]
  refine le_trans (le_of_eq ?_) bound
  norm_num

/-! ## Rounding to the format -/

/-- **A smaller quotient is not rounded to a larger number of the format.** -/
theorem magnitudeOf_mono {num den num' den' : Nat} (hd : 0 < den) (hd' : 0 < den')
    (h : (num / den : ℚ) ≤ num' / den') : magnitudeOf num den ≤ magnitudeOf num' den' := by
  unfold magnitudeOf
  rcases Nat.eq_zero_or_pos num with rfl | hn
  · exact Nat.zero_le _
  have hn' : 0 < num' := by
    have pos : (0 : ℚ) < num / den := by positivity
    rw [Nat.pos_iff_ne_zero]
    rintro rfl
    rw [Nat.cast_zero, zero_div] at h
    exact absurd pos (not_lt.mpr h)
  rw [if_neg hn.ne', if_neg hn'.ne']
  apply min_le_min_left
  rcases (lastPlace_mono hn hn' hd hd' h).eq_or_lt with same | less
  · -- One place: the rounded mantissas decide.
    rw [same]
    apply Nat.add_le_add_left
    unfold roundedMantissa
    rw [same]
    apply roundHalfEven_mono (scaled_den_pos hd _) (scaled_den_pos hd' _)
    rw [← div_le_div_iff_cross (scaled_den_pos hd _) (scaled_den_pos hd' _), scaled_eq, scaled_eq]
    gcongr
  · -- A higher place makes up for any mantissa.
    have least : minExponent ≤ lastPlace num den := le_max_right _ _
    have small := roundedMantissa_le hn hd
    have large := le_roundedMantissa hn' hd' (least.trans_lt less)
    have places : (lastPlace num den - minExponent).toNat + 1
        ≤ (lastPlace num' den' - minExponent).toNat := by omega
    have units := Nat.mul_le_mul_right exponentUnit places
    rw [Nat.add_mul, Nat.one_mul] at units
    omega

/-! ## The value of a number -/

/-- The magnitude of a number as it is, if the number is finite. -/
def value (x : Binary64) : ℚ := x.numerator / x.denominator

theorem value_eq (x : Binary64) : x.value = x.mantissa * 2 ^ x.exponent := by
  rw [value, numerator, denominator, zpow_eq_toNat_div two_ne_zero]
  simp only [Nat.pow_eq, Nat.cast_mul, Nat.cast_pow, Nat.cast_ofNat]
  ring

theorem mantissa_lt (x : Binary64) : x.mantissa < 2 * exponentUnit := by
  have rest : x.magnitude % exponentUnit < exponentUnit := Nat.mod_lt _ (by decide)
  unfold mantissa
  dsimp only
  split_ifs <;> omega

/-- **Larger bits, larger value.** -/
theorem value_mono {x y : Binary64} (h : x.magnitude ≤ y.magnitude) : x.value ≤ y.value := by
  have fields : x.biasedExponent ≤ y.biasedExponent := Nat.div_le_div_right h
  have hx := Nat.div_add_mod x.magnitude exponentUnit
  have hy := Nat.div_add_mod y.magnitude exponentUnit
  have rest : x.magnitude % exponentUnit < exponentUnit := Nat.mod_lt _ (by decide)
  rw [value_eq, value_eq]
  rcases fields.eq_or_lt with same | less
  · -- One exponent: the mantissas decide.
    have mantissas : x.mantissa ≤ y.mantissa := by
      have fractions : x.magnitude % exponentUnit ≤ y.magnitude % exponentUnit := by
        unfold biasedExponent at same
        rw [same] at hx
        omega
      unfold mantissa
      dsimp only
      rw [same]
      split_ifs <;> omega
    have exponents : x.exponent = y.exponent := by rw [exponent, exponent, same]
    rw [exponents]
    gcongr
  · have normal : exponentUnit ≤ y.mantissa := by
      unfold mantissa
      dsimp only
      rw [if_neg (by omega)]
      omega
    rcases Nat.eq_zero_or_pos x.biasedExponent with below | above
    · -- Below the normal numbers the mantissa has a place less.
      have small : x.mantissa ≤ exponentUnit := by
        unfold mantissa
        dsimp only
        rw [if_pos below]
        exact rest.le
      have exponents : x.exponent ≤ y.exponent := by
        unfold exponent
        omega
      have powers := zpow_le_zpow_right₀ (one_le_two : (1 : ℚ) ≤ 2) exponents
      have mantissas : (x.mantissa : ℚ) ≤ y.mantissa := by exact_mod_cast small.trans normal
      gcongr
    · have exponents : 1 + x.exponent ≤ y.exponent := by
        unfold exponent
        omega
      have powers := zpow_le_zpow_right₀ (one_le_two : (1 : ℚ) ≤ 2) exponents
      have large : (x.mantissa : ℚ) ≤ exponentUnit * 2 := by
        have bound := x.mantissa_lt
        rw [Nat.mul_comm] at bound
        exact_mod_cast bound.le
      calc (x.mantissa : ℚ) * 2 ^ x.exponent ≤ exponentUnit * 2 * 2 ^ x.exponent := by gcongr
        _ = exponentUnit * 2 ^ (1 + x.exponent) := by
          rw [zpow_add₀ two_ne_zero, zpow_one, mul_assoc]
        _ ≤ y.mantissa * 2 ^ y.exponent := by gcongr

/-! ## Results of operations -/

theorem magnitudeOf_le (num den : Nat) : magnitudeOf num den ≤ infiniteBits := by
  unfold magnitudeOf
  split_ifs
  · exact Nat.zero_le _
  · exact min_le_left _ _

theorem magnitude_ofMagnitude (negative : Bool) {m : Nat} (h : m < signUnit) :
    (ofMagnitude negative m).magnitude = m := by
  unfold ofMagnitude magnitude
  rw [UInt64.toNat_ofNat']
  unfold signUnit at h ⊢
  cases negative <;> simp <;> omega

theorem magnitude_ofRatio (negative : Bool) (num den : Nat) :
    (ofRatio negative num den).magnitude = magnitudeOf num den :=
  magnitude_ofMagnitude negative ((magnitudeOf_le num den).trans_lt (by decide))

theorem isFinite_iff (x : Binary64) : x.isFinite = true ↔ x.magnitude < infiniteBits :=
  decide_eq_true_iff

/-- No result of rounding lacks a value, so it is finite unless it is infinite. -/
theorem isFinite_ofRatio (negative : Bool) (num den : Nat) :
    (ofRatio negative num den).isFinite = !(ofRatio negative num den).isInfinite := by
  have le := magnitudeOf_le num den
  unfold isFinite isInfinite
  rw [magnitude_ofRatio]
  rcases le.eq_or_lt with same | less
  · simp [same]
  · simp [less, less.ne]

theorem isNaN_of_isFinite {x : Binary64} (h : x.isFinite = true) : x.isNaN = false := by
  rw [isFinite_iff] at h
  exact decide_eq_false (Nat.lt_asymm h)

theorem isInfinite_of_isFinite {x : Binary64} (h : x.isFinite = true) : x.isInfinite = false := by
  rw [isFinite_iff] at h
  exact beq_eq_false_iff_ne.mpr h.ne

/-- A number below a finite one is finite. -/
theorem isFinite_of_le {x y : Binary64} (h : x.magnitude ≤ y.magnitude)
    (hy : y.isFinite = true) : x.isFinite = true := by
  rw [isFinite_iff] at hy ⊢
  exact h.trans_lt hy

theorem isFinite_neg {x : Binary64} (h : x.isFinite = true) : x.neg.isFinite = true := by
  rw [isFinite_iff] at h ⊢
  rw [neg, magnitude_ofMagnitude _ (h.trans (by decide))]
  exact h

/-- The product of finite numbers is rounded from the exact product. -/
theorem mul_of_isFinite {x y : Binary64} (hx : x.isFinite = true) (hy : y.isFinite = true) :
    x.mul y = ofRatio (x.isNegative != y.isNegative) (x.numerator * y.numerator)
      (x.denominator * y.denominator) := by
  simp [mul, isNaN_of_isFinite, isInfinite_of_isFinite, hx, hy]

theorem value_mul_value (x y : Binary64) :
    ((x.numerator * y.numerator : Nat) : ℚ) / (x.denominator * y.denominator : Nat)
      = x.value * y.value := by
  rw [value, value, Nat.cast_mul, Nat.cast_mul, div_mul_div_comm]

theorem value_nonneg (x : Binary64) : 0 ≤ x.value := by
  unfold value
  positivity

/-- **A product does not shrink when its factors grow.** -/
theorem magnitude_mul_mono {x x' y y' : Binary64} (hx : x'.isFinite = true)
    (hy : y'.isFinite = true) (hxx : x.magnitude ≤ x'.magnitude)
    (hyy : y.magnitude ≤ y'.magnitude) :
    (x.mul y).magnitude ≤ (x'.mul y').magnitude := by
  rw [mul_of_isFinite (isFinite_of_le hxx hx) (isFinite_of_le hyy hy), mul_of_isFinite hx hy,
    magnitude_ofRatio, magnitude_ofRatio]
  refine magnitudeOf_mono (Nat.mul_pos x.denominator_pos y.denominator_pos)
    (Nat.mul_pos x'.denominator_pos y'.denominator_pos) ?_
  rw [value_mul_value, value_mul_value]
  exact mul_le_mul (value_mono hxx) (value_mono hyy) y.value_nonneg x'.value_nonneg

theorem value_eq_zero {x : Binary64} (h : x.isZero = true) : x.value = 0 := by
  have zero : x.magnitude = 0 := eq_of_beq h
  have mantissa : x.mantissa = 0 := by
    unfold mantissa biasedExponent
    rw [zero]
    rfl
  rw [value_eq, mantissa, Nat.cast_zero, zero_mul]

/-- **A quotient by at least one** stays below what bounds the dividend. -/
theorem magnitude_div_le {x y : Binary64} {n : Nat} (hx : x.isFinite = true)
    (hy : y.isFinite = true) (one : 1 ≤ y.value) (h : x.value ≤ n) :
    (x.div y).magnitude ≤ (ofNat n).magnitude := by
  have nonzero : y.isZero = false := by
    rw [← Bool.not_eq_true]
    intro zero
    rw [value_eq_zero zero] at one
    exact absurd one (by decide)
  have num : 0 < y.numerator := by
    rw [Nat.pos_iff_ne_zero]
    intro zero
    rw [value, zero, Nat.cast_zero, zero_div] at one
    exact absurd one (by decide)
  have quotient : x.div y = ofRatio (x.isNegative != y.isNegative)
      (x.numerator * y.denominator) (x.denominator * y.numerator) := by
    simp [div, isNaN_of_isFinite, isInfinite_of_isFinite, hx, hy, nonzero]
  rw [quotient, ofNat, magnitude_ofRatio, magnitude_ofRatio]
  refine magnitudeOf_mono (Nat.mul_pos x.denominator_pos num) one_pos ?_
  calc ((x.numerator * y.denominator : Nat) : ℚ) / (x.denominator * y.numerator : Nat)
      = x.value / y.value := by
        rw [value, value, Nat.cast_mul, Nat.cast_mul, div_div_div_eq]
    _ ≤ x.value := div_le_self x.value_nonneg one
    _ ≤ n / (1 : Nat) := by rwa [Nat.cast_one, div_one]

theorem magnitude_ofNat_mono {m n : Nat} (h : m ≤ n) :
    (ofNat m).magnitude ≤ (ofNat n).magnitude := by
  rw [ofNat, ofNat, magnitude_ofRatio, magnitude_ofRatio]
  refine magnitudeOf_mono one_pos one_pos ?_
  rw [Nat.cast_one, div_one, div_one]
  exact_mod_cast h

end Binary64

end RegistryLoad
