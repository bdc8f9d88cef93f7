import Mathlib.Data.List.TakeWhile
import RegistryLoad.Decimal.Shortest
import RegistryLoad.Proofs.Decimal.Rounding
import RegistryLoad.Proofs.Text.Numeral

/-!
# How large shortest decimals are

A shortest decimal lies no further above its number than half of the last place.  For the largest
number that is not good enough to tell that it can be read again, so that one is computed.

## Definitions

* `Decimal.value`: the number that a decimal denotes.
* `belowLargest`: half a place above the largest number but one.

## Results

* `shortest_pos`, `value_shortest_le`, `shortest_largest`: the size of shortest decimals.
* `significant_spec`: the digits that are written are all but the zeros at the end.
-/

namespace RegistryLoad.Binary64

open RegistryLoad.Text

/-! ## Decimals on a grid -/

/-- The number that a decimal denotes. -/
def Decimal.value (d : Decimal) : ℚ := d.digits * 10 ^ d.power

theorem Interval.le_of_holds {i : Interval} {scale a : Nat} (h : i.holds scale a = true) :
    a ≤ i.high * scale := by
  unfold Interval.holds at h
  split at h
  · simp only [Bool.and_eq_true, decide_eq_true_eq] at h
    exact h.2
  · simp only [Bool.and_eq_true, decide_eq_true_eq] at h
    exact h.2.le

/-- A decimal within the bounds of a number is at most half a place above it. -/
theorem value_le_of_holds {x : Binary64} {digits : Nat} {power : ℤ}
    (h : digits * (Nat.pow 2 (-(x.exponent - 2)).toNat * Nat.pow 10 power.toNat)
      ≤ x.interval.high * (Nat.pow 2 (x.exponent - 2).toNat * Nat.pow 10 (-power).toNat)) :
    Decimal.value ⟨digits, power⟩ ≤ x.value + 2 ^ (x.exponent - 1) := by
  have half : x.value + 2 ^ (x.exponent - 1) = (4 * x.mantissa + 2) * 2 ^ (x.exponent - 2) := by
    have place : x.exponent = 2 + (x.exponent - 2) := by ring
    have middle : x.exponent - 1 = 1 + (x.exponent - 2) := by ring
    rw [value_eq, middle, zpow_add₀ two_ne_zero]
    nth_rewrite 1 [place]
    rw [zpow_add₀ two_ne_zero]
    norm_num
    ring
  have high : x.interval.high = 4 * x.mantissa + 2 := rfl
  rw [half, Decimal.value, zpow_eq_toNat_div (by norm_num), zpow_eq_toNat_div two_ne_zero,
    ← mul_div_assoc, ← mul_div_assoc, div_le_div_iff₀ (by positivity) (by positivity)]
  rw [high] at h
  simp only [Nat.pow_eq] at h
  have cast : (digits * (2 ^ (-(x.exponent - 2)).toNat * 10 ^ power.toNat) : ℚ)
      ≤ (4 * x.mantissa + 2) * (2 ^ (x.exponent - 2).toNat * 10 ^ (-power).toNat) := by
    exact_mod_cast h
  linarith

/-- **A decimal on a grid** is not zero, and at most half a place above its number. -/
theorem onGrid?_spec {x : Binary64} {power : ℤ} {d : Decimal} (h : x.onGrid? power = some d) :
    0 < d.digits ∧ d.value ≤ x.value + 2 ^ (x.exponent - 1) := by
  unfold onGrid? at h
  dsimp only at h
  generalize hunit : Nat.pow 2 (-(x.exponent - 2)).toNat * Nat.pow 10 power.toNat = unit at h
  generalize hquarter : Nat.pow 2 (x.exponent - 2).toNat * Nat.pow 10 (-power).toNat = quarter at h
  generalize hscaled : x.interval.value * quarter = scaled at h
  have bound {digits a : Nat} (le : digits ≤ a)
      (holds : x.interval.holds quarter (a * unit) = true) :
      Decimal.value ⟨digits, power⟩ ≤ x.value + 2 ^ (x.exponent - 1) := by
    apply value_le_of_holds
    rw [hunit, hquarter]
    exact (Nat.mul_le_mul_right unit le).trans (Interval.le_of_holds holds)
  split at h
  · rename_i both
    obtain rfl := Option.some.inj h
    simp only [Bool.and_eq_true, decide_eq_true_eq] at both
    exact ⟨both.1.1.trans_le (div_le_roundHalfEven _ _), bound (roundHalfEven_le_div _ _) both.2⟩
  · split at h
    · rename_i hitBelow
      obtain rfl := Option.some.inj h
      simp only [Bool.and_eq_true, decide_eq_true_eq] at hitBelow
      exact ⟨hitBelow.1, bound le_rfl hitBelow.2⟩
    · split at h
      · rename_i hitAbove
        obtain rfl := Option.some.inj h
        exact ⟨Nat.succ_pos _, bound le_rfl hitAbove⟩
      · cases h

/-! ## Shortest decimals -/

theorem mantissa_pos {x : Binary64} (h : x.isZero = false) : 0 < x.mantissa := by
  have nonzero : x.magnitude ≠ 0 := beq_eq_false_iff_ne.mp h
  have parts := Nat.div_add_mod x.magnitude exponentUnit
  unfold mantissa
  dsimp only
  split_ifs with below
  · unfold biasedExponent at below
    rw [below, Nat.mul_zero] at parts
    omega
  · have unit : 0 < exponentUnit := by decide
    omega

/-- A shortest decimal comes from a grid, unless no grid has one. -/
theorem shortest_cases (x : Binary64) :
    (∃ power, x.onGrid? power = some x.shortest) ∨ x.shortest = ⟨x.mantissa, 0⟩ := by
  unfold shortest
  dsimp only
  cases found : List.findSome? x.onGrid? ((List.range maxDigits).map fun (k : Nat) =>
    leadingPower x.numerator x.denominator - (k : Int)) with
  | none => exact .inr rfl
  | some d =>
    obtain ⟨power, -, hit⟩ := List.exists_of_findSome?_eq_some found
    exact .inl ⟨power, hit⟩

theorem shortest_pos {x : Binary64} (h : x.isZero = false) : 0 < x.shortest.digits := by
  rcases shortest_cases x with ⟨power, hit⟩ | rest
  · exact (onGrid?_spec hit).1
  · rw [rest]
    exact mantissa_pos h

/-- Half a place above the largest number but one. -/
def belowLargest : Nat := (2 ^ 54 - 3) * 2 ^ 970

theorem size_le_belowLargest : UInt64.size ≤ belowLargest := by decide +kernel

/-- **The size of a shortest decimal**, the one of the largest number apart. -/
theorem value_shortest_le {x : Binary64} (h : x.magnitude < infiniteBits - 1) :
    x.shortest.value ≤ belowLargest := by
  rcases shortest_cases x with ⟨power, hit⟩ | rest
  · refine (onGrid?_spec hit).2.trans ?_
    -- The largest number but one is `(2 ^ 53 - 2) * 2 ^ 971`.
    have second : (⟨UInt64.ofNat (infiniteBits - 2)⟩ : Binary64).value
        = ((2 ^ 54 - 4) * 2 ^ 970 : Nat) := by
      have num : (⟨UInt64.ofNat (infiniteBits - 2)⟩ : Binary64).numerator
          = (2 ^ 54 - 4) * 2 ^ 970 := by decide +kernel
      have den : (⟨UInt64.ofNat (infiniteBits - 2)⟩ : Binary64).denominator = 1 := by
        decide
      rw [value, num, den, Nat.cast_one, div_one]
    have below : x.value ≤ ((2 ^ 54 - 4) * 2 ^ 970 : Nat) := by
      rw [← second]
      apply value_mono
      have bits : (⟨UInt64.ofNat (infiniteBits - 2)⟩ : Binary64).magnitude = infiniteBits - 2 := by
        decide
      rw [bits]
      omega
    have place : x.exponent - 1 ≤ 970 := by
      have field : x.biasedExponent ≤ 2046 := by
        have top : (infiniteBits - 1) / exponentUnit = 2046 := by decide
        rw [← top]
        exact Nat.div_le_div_right h.le
      unfold exponent minExponent
      omega
    have half := zpow_le_zpow_right₀ (one_le_two : (1 : ℚ) ≤ 2) place
    calc x.value + 2 ^ (x.exponent - 1)
        ≤ ((2 ^ 54 - 4) * 2 ^ 970 : Nat) + 2 ^ (970 : ℤ) := add_le_add below half
      _ = belowLargest := by
        have sum : (2 ^ 54 - 4) * 2 ^ 970 + 2 ^ 970 = belowLargest := by decide +kernel
        rw [← sum, Nat.cast_add, Nat.cast_pow, Nat.cast_ofNat]
        rfl
  · have word : x.mantissa ≤ UInt64.size := x.mantissa_lt.le.trans (by decide)
    have small := word.trans size_le_belowLargest
    rw [rest, Decimal.value, zpow_zero, mul_one]
    exact_mod_cast small

/-- The sign of a number does not show in its shortest decimal. -/
theorem shortest_congr {x y : Binary64} (h : x.magnitude = y.magnitude) :
    x.shortest = y.shortest := by
  have fields : x.biasedExponent = y.biasedExponent := congrArg (· / exponentUnit) h
  have mantissas : x.mantissa = y.mantissa := by
    unfold mantissa
    rw [h, fields]
  have exponents : x.exponent = y.exponent := by rw [exponent, exponent, fields]
  have grids : x.onGrid? = y.onGrid? := by
    funext power
    unfold onGrid? interval
    rw [mantissas, exponents]
  unfold shortest numerator denominator
  rw [mantissas, exponents, grids]

/-- **The largest number** is written with seventeen digits. -/
theorem shortest_largest {x : Binary64} (h : x.magnitude = infiniteBits - 1) :
    x.shortest = ⟨17976931348623157, 292⟩ := by
  have bits : (⟨UInt64.ofNat (infiniteBits - 1)⟩ : Binary64).magnitude = infiniteBits - 1 := by
    decide
  rw [shortest_congr (h.trans bits.symm)]
  have num : (decimal (⟨UInt64.ofNat (infiniteBits - 1)⟩ : Binary64).numerator).length = 309 :=
    length_decimal_eq (k := 308) (by decide +kernel) (by decide +kernel)
  have den : (decimal (⟨UInt64.ofNat (infiniteBits - 1)⟩ : Binary64).denominator).length = 1 :=
    length_decimal_eq (k := 0) (by decide) (by decide)
  have lead : leadingPower (⟨UInt64.ofNat (infiniteBits - 1)⟩ : Binary64).numerator
      (⟨UInt64.ofNat (infiniteBits - 1)⟩ : Binary64).denominator = 308 := by
    unfold leadingPower
    rw [num, den]
    decide +kernel
  unfold shortest
  rw [lead]
  decide +kernel

/-! ## Significant digits -/

/-- **The significant digits** of a positive number are all but some zeros at the end. -/
theorem significant_spec {n : Nat} (h : 0 < n) :
    significant n ≠ [] ∧ ∃ k, decimal n = significant n ++ List.replicate k '0' := by
  have zeros : (decimal n).reverse.takeWhile (· == '0')
      = List.replicate ((decimal n).reverse.takeWhile (· == '0')).length '0' := by
    rw [List.eq_replicate_iff]
    exact ⟨rfl, fun c known => by simpa using List.mem_takeWhile_imp known⟩
  have parts := congrArg List.reverse
    (List.takeWhile_append_dropWhile (p := (· == '0')) (l := (decimal n).reverse))
  rw [List.reverse_append, List.reverse_reverse, zeros, List.reverse_replicate] at parts
  unfold significant
  split
  · rename_i none
    -- Nothing but zeros: the first digit would be one.
    rw [none, List.reverse_nil, List.nil_append] at parts
    have head := head?_decimal h
    rw [← parts] at head
    cases k : ((decimal n).reverse.takeWhile (· == '0')).length with
    | zero =>
      rw [k] at parts
      exact absurd parts.symm (decimal_ne_nil n)
    | succ k' =>
      rw [k] at head
      exact absurd rfl head
  · rename_i nonempty
    exact ⟨by simpa using nonempty, _, parts.symm⟩

end RegistryLoad.Binary64
