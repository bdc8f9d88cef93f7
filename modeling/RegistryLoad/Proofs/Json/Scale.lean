import RegistryLoad.Json.Number
import RegistryLoad.Proofs.Decimal.Shortest

/-!
# Which numbers the format can hold

A number is read by scaling its digits by a power of ten, with a rounding at every step.  What is
read is finite, and whatever lies below the largest number but one is read.

* `isFinite_of_scale`: what is read is finite.
* `scale_of_nonpos`, `scale_of_le`: what can be read.
-/

namespace RegistryLoad.Json

open RegistryLoad.Binary64

/-! ## Powers of ten -/

theorem isFinite_ofNat_word {n : Nat} (h : n ≤ UInt64.size) : (ofNat n).isFinite = true := by
  have largest : (ofNat UInt64.size).isFinite = true := by decide
  exact isFinite_of_le (magnitude_ofNat_mono h) largest

theorem magnitude_powerOfTen_mono {m n : Nat} (h : m ≤ n) :
    (powerOfTen m).magnitude ≤ (powerOfTen n).magnitude :=
  magnitude_ofNat_mono (Nat.pow_le_pow_right (by decide) h)

theorem isFinite_powerOfTen {n : Nat} (h : n ≤ maxPower) : (powerOfTen n).isFinite = true := by
  have largest : (powerOfTen maxPower).isFinite = true := by decide +kernel
  exact isFinite_of_le (magnitude_powerOfTen_mono h) largest

theorem one_le_value_powerOfTen (n : Nat) : 1 ≤ (powerOfTen n).value := by
  have one : (powerOfTen 0).value = 1 := by
    have num : (powerOfTen 0).numerator = (powerOfTen 0).denominator := by decide
    rw [value, num]
    exact div_self (by exact_mod_cast (powerOfTen 0).denominator_pos.ne')
  rw [← one]
  exact value_mono (magnitude_powerOfTen_mono n.zero_le)

theorem value_ofNat_word : (ofNat UInt64.size).value = (UInt64.size : Nat) := by
  have num : (ofNat UInt64.size).numerator = UInt64.size := by decide
  have den : (ofNat UInt64.size).denominator = 1 := by decide
  rw [value, num, den, Nat.cast_one, div_one]

/-- A number of at most 64 bits stays one when it is divided by a power of ten. -/
theorem magnitude_div_powerOfTen_le {x : Binary64} {n : Nat} (hn : n ≤ maxPower)
    (h : x.magnitude ≤ (ofNat UInt64.size).magnitude) :
    (x.div (powerOfTen n)).magnitude ≤ (ofNat UInt64.size).magnitude := by
  refine magnitude_div_le (isFinite_of_le h (isFinite_ofNat_word le_rfl)) (isFinite_powerOfTen hn)
    (one_le_value_powerOfTen n) ?_
  rw [← value_ofNat_word]
  exact value_mono h

/-! ## What is read -/

/-- **Every number that is read is finite.** -/
theorem isFinite_of_scale {digits : Nat} {power : ℤ} {x : Binary64}
    (word : digits < UInt64.size) (h : scale digits power = .ok x) : x.isFinite = true := by
  have start := magnitude_ofNat_mono word.le
  have finite : (ofNat digits).isFinite = true := isFinite_ofNat_word word.le
  have small {y : Binary64} (le : y.magnitude ≤ (ofNat UInt64.size).magnitude) :
      y.isFinite = true := isFinite_of_le le (isFinite_ofNat_word le_rfl)
  unfold scale at h
  dsimp only at h
  split at h
  · split at h
    · obtain rfl := Except.ok.inj h
      exact finite
    · split at h
      · cases h
      · rename_i tens
        split at h
        · cases h
        · rename_i bounded
          obtain rfl := Except.ok.inj h
          have power10 : (powerOfTen power.toNat).isFinite = true :=
            isFinite_powerOfTen (by omega)
          rw [Bool.not_eq_true, mul_of_isFinite finite power10] at bounded
          rw [mul_of_isFinite finite power10, isFinite_ofRatio, bounded]
          rfl
  · split at h
    · rename_i tens
      obtain rfl := Except.ok.inj h
      exact small (magnitude_div_powerOfTen_le tens start)
    · split at h
      · rename_i tens
        obtain rfl := Except.ok.inj h
        exact small (magnitude_div_powerOfTen_le (by omega)
          (magnitude_div_powerOfTen_le le_rfl start))
      · obtain rfl := Except.ok.inj h
        decide

/-! ## What can be read -/

/-- Products that the format can hold.  Up to `10 ^ 288` any 64 bits will do; above, the digits
are fewer the higher the power. -/
theorem isFinite_mul_powerOfTen {digits power : Nat} (word : digits < UInt64.size)
    (tens : power ≤ maxPower) (h : digits * 10 ^ power ≤ belowLargest) :
    ((ofNat digits).mul (powerOfTen power)).isFinite = true := by
  rcases Nat.lt_or_ge power 289 with low | high
  · have bound : ((ofNat UInt64.size).mul (powerOfTen 288)).isFinite = true := by decide +kernel
    refine isFinite_of_le (magnitude_mul_mono (isFinite_ofNat_word le_rfl)
      (isFinite_powerOfTen (by decide)) (magnitude_ofNat_mono word.le) ?_) bound
    exact magnitude_powerOfTen_mono (by omega)
  · have bounds : ∀ k : Fin 20, belowLargest / Nat.pow 10 (289 + k) < UInt64.size ∧
        ((ofNat (belowLargest / Nat.pow 10 (289 + k))).mul (powerOfTen (289 + k))).isFinite
          = true := by decide +kernel
    obtain ⟨k, rfl⟩ := Nat.exists_eq_add_of_le high
    have last : k < 20 := by
      unfold maxPower at tens
      omega
    obtain ⟨fits, bound⟩ := bounds ⟨k, last⟩
    have digitsLe : digits ≤ belowLargest / Nat.pow 10 (289 + k) :=
      (Nat.le_div_iff_mul_le (Nat.pow_pos (by decide))).mpr h
    exact isFinite_of_le (magnitude_mul_mono (isFinite_ofNat_word fits.le)
      (isFinite_powerOfTen tens) (magnitude_ofNat_mono digitsLe) le_rfl) bound

/-- **Digits that are moved up can be read** as long as they stay below the largest number but
one. -/
theorem scale_of_le {digits power : Nat} (word : digits < UInt64.size)
    (h : digits * 10 ^ power ≤ belowLargest) : ∃ x, scale digits power = .ok x := by
  have nonneg : (0 : ℤ) ≤ power := Int.natCast_nonneg power
  unfold scale
  dsimp only
  rw [if_pos nonneg]
  split
  · exact ⟨_, rfl⟩
  · rename_i nonzero
    -- A power above the largest one leaves no digits but zero.
    have tens : power ≤ maxPower := by
      by_contra above
      have positive : 0 < digits := by
        rw [Nat.pos_iff_ne_zero]
        rintro rfl
        exact nonzero (by decide)
      have large : 10 ^ (maxPower + 1) ≤ digits * 10 ^ power :=
        (Nat.pow_le_pow_right (by decide) (by omega)).trans (Nat.le_mul_of_pos_left _ positive)
      have exceeded : belowLargest < 10 ^ (maxPower + 1) := by decide +kernel
      omega
    have limit : ¬ (maxPower : ℤ) < power := by omega
    have product := isFinite_mul_powerOfTen word tens h
    rw [if_neg limit, Int.toNat_natCast, isInfinite_of_isFinite product]
    exact ⟨_, rfl⟩

/-- Digits that are not moved up can be read. -/
theorem scale_of_nonpos {digits : Nat} {power : ℤ} (word : digits < UInt64.size)
    (h : power ≤ 0) : ∃ x, scale digits power = .ok x := by
  rcases h.eq_or_lt with rfl | negative
  · have small := size_le_belowLargest
    exact @scale_of_le digits 0 word (by omega)
  · unfold scale
    dsimp only
    rw [if_neg negative.not_ge]
    split
    · exact ⟨_, rfl⟩
    · split
      · exact ⟨_, rfl⟩
      · exact ⟨_, rfl⟩

end RegistryLoad.Json
