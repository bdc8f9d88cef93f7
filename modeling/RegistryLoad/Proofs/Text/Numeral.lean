import Mathlib.Data.List.Basic
import Mathlib.Data.Nat.Digits.Defs
import Mathlib.Tactic.Ring
import RegistryLoad.Text.Numeral

/-!
# Numerals are read back

The digits of a number tell the number, whatever zeros stand before them.

* `digitsValue`: the value of digits.
* `natural?_decimalPadded`: a numeral is read as the number that it was written for.
* `decimalPadded_injective`: different numbers have different numerals.
* `foldlM_pushDigit?_eq_some_iff`: what is read behind a number.
* `length_decimal_eq`: how many digits a number has.
-/

namespace RegistryLoad.Text

/-- What stands for a digit below ten is read as that digit. -/
theorem digit?_digitChar {d : Nat} (h : d < 10) : digit? (digitChar d) = some d := by
  have all : ∀ d : Fin 10, digit? (digitChar d.val) = some d.val := by decide
  exact all ⟨d, h⟩

theorem pushDigit?_digitChar (n : Nat) {d : Nat} (h : d < 10) :
    pushDigit? n (digitChar d) = some (10 * n + d) := by
  rw [pushDigit?, digit?_digitChar h, Option.map_some]

theorem foldlM_decimal (n : Nat) : (decimal n).foldlM pushDigit? 0 = some n := by
  induction n using decimal.induct with
  | case1 n small =>
    rw [decimal, if_pos small]
    simp [pushDigit?_digitChar 0 small]
  | case2 n large ih =>
    rw [decimal, if_neg large, List.foldlM_append, ih]
    have last : n % 10 < 10 := Nat.mod_lt n (by omega)
    simp only [Option.bind_eq_bind, Option.bind_some, List.foldlM_cons, List.foldlM_nil,
      pushDigit?_digitChar _ last, Option.pure_def, Option.some.injEq]
    omega

theorem decimal_injective : Function.Injective decimal := by
  intro m n same
  have read := foldlM_decimal m
  rw [same, foldlM_decimal] at read
  exact (Option.some.inj read).symm

/-- Zeros in front of a number leave its value. -/
theorem foldlM_replicate_zero (k : Nat) (text : List Char) :
    (List.replicate k '0' ++ text).foldlM pushDigit? 0 = text.foldlM pushDigit? 0 := by
  induction k with
  | zero => rfl
  | succ k ih =>
    rw [List.replicate_succ, List.cons_append, List.foldlM_cons]
    have zero : pushDigit? 0 '0' = some 0 := by decide
    rw [zero, Option.bind_eq_bind, Option.bind_some, ih]

theorem decimalPadded_ne_nil (width n : Nat) : decimalPadded width n ≠ [] := by
  simp [decimalPadded, decimal_ne_nil]

theorem natural?_eq_foldlM {text : List Char} (h : text ≠ []) :
    natural? text = text.foldlM pushDigit? 0 := by
  cases text with
  | nil => contradiction
  | cons c rest => rfl

/-- **A padded numeral is read as its number.** -/
theorem natural?_decimalPadded (width n : Nat) : natural? (decimalPadded width n) = some n := by
  rw [natural?_eq_foldlM (decimalPadded_ne_nil width n), decimalPadded, foldlM_replicate_zero,
    foldlM_decimal]

theorem decimalPadded_injective (width : Nat) : Function.Injective (decimalPadded width) := by
  intro m n same
  have read := natural?_decimalPadded width m
  rw [same, natural?_decimalPadded] at read
  exact (Option.some.inj read).symm

theorem digit?_of_mem_decimal {n : Nat} {c : Char} (h : c ∈ decimal n) : (digit? c).isSome := by
  induction n using decimal.induct with
  | case1 n small =>
    rw [decimal, if_pos small, List.mem_singleton] at h
    rw [h, digit?_digitChar small]
    rfl
  | case2 n large ih =>
    rw [decimal, if_neg large, List.mem_append, List.mem_singleton] at h
    rcases h with before | last
    · exact ih before
    · rw [last, digit?_digitChar (Nat.mod_lt n (by omega))]
      rfl

/-- A padded numeral consists of digits. -/
theorem digit?_of_mem_decimalPadded {width n : Nat} {c : Char} (h : c ∈ decimalPadded width n) :
    (digit? c).isSome := by
  rw [decimalPadded, List.mem_append] at h
  rcases h with zero | digit
  · rw [List.eq_of_mem_replicate zero]
    decide
  · exact digit?_of_mem_decimal digit

/-! ## Values -/

theorem digit?_lt {c : Char} {d : Nat} (h : digit? c = some d) : d < 10 := by
  unfold digit? at h
  split at h
  · rename_i range
    obtain rfl := Option.some.inj h
    have top : c.toNat ≤ '9'.toNat := range.2
    have nine : '9'.toNat = 57 := rfl
    have zero : '0'.toNat = 48 := rfl
    omega
  · cases h

/-- The value of digits, the most significant one first. -/
def digitsValue (digits : List Char) : Nat :=
  Nat.ofDigits 10 (digits.map fun c => c.toNat - '0'.toNat).reverse

theorem digitsValue_cons (c : Char) (digits : List Char) :
    digitsValue (c :: digits) =
      (c.toNat - '0'.toNat) * 10 ^ digits.length + digitsValue digits := by
  rw [digitsValue, digitsValue, List.map_cons, Nat.ofDigits_reverse_cons, List.length_map]
  ring

theorem digit?_eq_some_iff {c : Char} {d : Nat} :
    digit? c = some d ↔ c.isDigit = true ∧ c.toNat - '0'.toNat = d := by
  simp only [digit?, Char.isDigit, Bool.and_eq_true, decide_eq_true_eq,
    Option.ite_none_right_eq_some, Option.some.injEq]
  rfl

theorem digitsValue_lt {digits : List Char} (h : ∀ c ∈ digits, c.isDigit = true) :
    digitsValue digits < 10 ^ digits.length := by
  have small : ∀ d ∈ (digits.map fun c => c.toNat - '0'.toNat).reverse, d < 10 := by
    intro d known
    obtain ⟨c, mem, rfl⟩ := List.mem_map.mp (List.mem_reverse.mp known)
    exact digit?_lt (digit?_eq_some_iff.mpr ⟨h c mem, rfl⟩)
  have bound := Nat.ofDigits_lt_base_pow_length (by decide) small
  rwa [List.length_reverse, List.length_map] at bound

/-- **Digits and nothing else are read behind a number**, and they stand behind it. -/
theorem foldlM_pushDigit?_eq_some_iff {digits : List Char} {n v : Nat} :
    digits.foldlM pushDigit? n = some v ↔
      (∀ c ∈ digits, c.isDigit = true) ∧ n * 10 ^ digits.length + digitsValue digits = v := by
  induction digits generalizing n with
  | nil => simp [digitsValue]
  | cons c digits ih =>
    rw [List.foldlM_cons, pushDigit?, List.forall_mem_cons, List.length_cons, digitsValue_cons]
    cases known : digit? c with
    | none =>
      have other : ¬ c.isDigit = true := by
        intro digit
        rw [digit?_eq_some_iff.mpr ⟨digit, rfl⟩] at known
        cases known
      simp [other]
    | some d =>
      obtain ⟨digit, rfl⟩ := digit?_eq_some_iff.mp known
      have place : n * 10 ^ (digits.length + 1)
            + ((c.toNat - '0'.toNat) * 10 ^ digits.length + digitsValue digits)
          = (10 * n + (c.toNat - '0'.toNat)) * 10 ^ digits.length + digitsValue digits := by
        ring
      rw [Option.map_some, Option.bind_eq_bind, Option.bind_some, ih, place]
      simp [digit]

/-- A digit read behind a number, and the digits behind it. -/
theorem foldlM_pushDigit?_cons {n v : Nat} {c : Char} {digits : List Char}
    (h : (c :: digits).foldlM pushDigit? n = some v) :
    ∃ d < 10, pushDigit? n c = some (10 * n + d) ∧
      digits.foldlM pushDigit? (10 * n + d) = some v := by
  rw [List.foldlM_cons] at h
  obtain ⟨next, pushed, rest⟩ := Option.bind_eq_some_iff.mp h
  obtain ⟨d, hd, rfl⟩ := Option.map_eq_some_iff.mp pushed
  exact ⟨d, digit?_lt hd, pushed, rest⟩

/-- Digits read behind a number move it up by as many places. -/
theorem le_foldlM_pushDigit? {n v : Nat} {digits : List Char}
    (h : digits.foldlM pushDigit? n = some v) : n * 10 ^ digits.length ≤ v := by
  obtain ⟨-, rfl⟩ := foldlM_pushDigit?_eq_some_iff.mp h
  exact Nat.le_add_right _ _

/-- Digits read behind a number do not reach the next one. -/
theorem foldlM_pushDigit?_lt {n v : Nat} {digits : List Char}
    (h : digits.foldlM pushDigit? n = some v) : v < (n + 1) * 10 ^ digits.length := by
  obtain ⟨all, rfl⟩ := foldlM_pushDigit?_eq_some_iff.mp h
  rw [Nat.add_mul, Nat.one_mul]
  exact Nat.add_lt_add_left (digitsValue_lt all) _

/-- Digits can be read behind any number. -/
theorem exists_foldlM_pushDigit? {digits : List Char} (h : ∀ c ∈ digits, (digit? c).isSome)
    (n : Nat) : ∃ v, digits.foldlM pushDigit? n = some v := by
  refine ⟨_, foldlM_pushDigit?_eq_some_iff.mpr ⟨fun c known => ?_, rfl⟩⟩
  obtain ⟨d, value⟩ := Option.isSome_iff_exists.mp (h c known)
  exact (digit?_eq_some_iff.mp value).1

/-- Zeros behind a number move it up. -/
theorem foldlM_pushDigit?_zeros (n k : Nat) :
    (List.replicate k '0').foldlM pushDigit? n = some (n * 10 ^ k) := by
  induction k generalizing n with
  | zero => simp
  | succ k ih =>
    have zero : pushDigit? n '0' = some (10 * n) := rfl
    rw [List.replicate_succ, List.foldlM_cons, zero, Option.bind_eq_bind, Option.bind_some, ih]
    congr 1
    ring

/-! ## First digits and lengths -/

/-- Only zero begins with a zero. -/
theorem head?_decimal {n : Nat} (h : 0 < n) : (decimal n).head? ≠ some '0' := by
  induction n using decimal.induct with
  | case1 n small =>
    rw [decimal, if_pos small]
    intro zero
    have same : digitChar n = '0' := Option.some.inj zero
    have value := digit?_digitChar small
    rw [same] at value
    have none : digit? '0' = some 0 := rfl
    rw [none, Option.some.injEq] at value
    omega
  | case2 n large ih =>
    rw [decimal, if_neg large, List.head?_append_of_ne_nil _ (decimal_ne_nil _)]
    exact ih (by omega)

/-- **The number of digits** tells between which powers of ten a number lies. -/
theorem length_decimal_eq {n k : Nat} (low : 10 ^ k ≤ n) (high : n < 10 ^ (k + 1)) :
    (decimal n).length = k + 1 := by
  induction n using decimal.induct generalizing k with
  | case1 n small =>
    rw [decimal, if_pos small]
    cases k with
    | zero => rfl
    | succ k =>
      have large : 10 ^ 1 ≤ 10 ^ (k + 1) := Nat.pow_le_pow_right (by decide) (by omega)
      omega
  | case2 n large ih =>
    cases k with
    | zero => omega
    | succ k =>
      rw [Nat.pow_succ] at low high
      rw [decimal, if_neg large, List.length_append, ih (k := k) (by omega) (by omega)]
      rfl

end RegistryLoad.Text
