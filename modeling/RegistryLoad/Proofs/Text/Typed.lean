import Mathlib.Data.List.TakeWhile
import RegistryLoad.Proofs.Text.Numeral
import RegistryLoad.Text.Blank

/-!
# Typed texts

What users type has blanks around it, and numerals in it.  Both are described here without the
functions that read them.

## Definitions

* `Stripped`: a text without the blanks around it.
* `IsNumeral`: what a numeral of a number looks like.

## Results

* `trim_eq_iff`: blanks are taken away at both ends and nowhere else.
* `word?_eq_some_iff`: the texts that are read as a number.
-/

namespace RegistryLoad.Text

/-! ## Blanks -/

/-- The text is `inner` between blanks, and `inner` neither begins nor ends with one. -/
structure Stripped (text inner : List Char) : Prop where
  between : ∃ before after, text = before ++ inner ++ after ∧
    (∀ c ∈ before, isBlank c = true) ∧ ∀ c ∈ after, isBlank c = true
  first : ∀ c ∈ inner.head?, isBlank c = false
  last : ∀ c ∈ inner.getLast?, isBlank c = false

variable {text inner before after : List Char}

theorem not_isBlank_of_mem_head? {c : Char} (h : c ∈ (text.dropWhile isBlank).head?) :
    isBlank c = false := by
  have stop := List.head?_dropWhile_not isBlank text
  rwa [h] at stop

theorem dropWhile_isBlank (first : ∀ c ∈ text.head?, isBlank c = false) :
    text.dropWhile isBlank = text := by
  cases text with
  | nil => rfl
  | cons c rest => rw [List.dropWhile_cons_of_neg (by simp [first c rfl])]

/-- What `trim` leaves is the text without the blanks around it. -/
theorem stripped_trim (text : List Char) : Stripped text (trim text) := by
  obtain ⟨front, front_eq⟩ : ∃ front, front = text.dropWhile isBlank := ⟨_, rfl⟩
  obtain ⟨back, back_eq⟩ : ∃ back, back = front.reverse.dropWhile isBlank := ⟨_, rfl⟩
  have trimmed : trim text = back.reverse := by rw [back_eq, front_eq]; rfl
  have whole : text.takeWhile isBlank ++ front = text := by
    rw [front_eq, List.takeWhile_append_dropWhile]
  have rest : back.reverse ++ (front.reverse.takeWhile isBlank).reverse = front := by
    rw [back_eq, ← List.reverse_append, List.takeWhile_append_dropWhile, List.reverse_reverse]
  rw [trimmed]
  refine ⟨⟨text.takeWhile isBlank, (front.reverse.takeWhile isBlank).reverse, ?_, ?_, ?_⟩, ?_, ?_⟩
  · rw [List.append_assoc, rest, whole]
  · exact fun c known => List.mem_takeWhile_imp known
  · exact fun c known => List.mem_takeWhile_imp (List.mem_reverse.mp known)
  · intro c known
    have first : c ∈ front.head? := by
      rw [← rest]
      exact List.mem_head?_append_of_mem_head? known
    rw [front_eq] at first
    exact not_isBlank_of_mem_head? first
  · intro c known
    rw [List.getLast?_reverse, back_eq] at known
    exact not_isBlank_of_mem_head? known

/-- **A text has one part between its blanks**, and `trim` finds it. -/
theorem trim_eq_iff : trim text = inner ↔ Stripped text inner := by
  constructor
  · rintro rfl
    exact stripped_trim text
  · rintro ⟨⟨before, after, rfl, blankBefore, blankAfter⟩, first, last⟩
    rw [List.append_assoc, trim, List.dropWhile_append_of_pos blankBefore]
    cases inner with
    | nil =>
      -- Between the blanks there is nothing, so that the front takes them all.
      rw [List.nil_append, ← after.append_nil, List.dropWhile_append_of_pos blankAfter]
      rfl
    | cons c rest =>
      rw [dropWhile_isBlank (by simpa using first), trimEnd, List.reverse_append,
        List.dropWhile_append_of_pos (by simpa using blankAfter), dropWhile_isBlank,
        List.reverse_reverse]
      rwa [List.head?_reverse]

/-- A text without any blank in it, between blanks. -/
theorem stripped_of_dense (blankBefore : ∀ c ∈ before, isBlank c = true)
    (blankAfter : ∀ c ∈ after, isBlank c = true) (dense : ∀ c ∈ inner, isBlank c = false) :
    Stripped (before ++ inner ++ after) inner where
  between := ⟨before, after, rfl, blankBefore, blankAfter⟩
  first := fun c known => dense c (List.mem_of_mem_head? known)
  last := fun c known => dense c (List.mem_of_mem_getLast? known)

theorem stripped_self (dense : ∀ c ∈ inner, isBlank c = false) : Stripped inner inner := by
  have bare : inner = [] ++ inner ++ [] := by simp
  nth_rewrite 1 [bare]
  exact stripped_of_dense (by simp) (by simp) dense

/-- The part between the blanks has none around it. -/
theorem Stripped.again (h : Stripped text inner) : Stripped inner inner :=
  ⟨⟨[], [], by simp, by simp, by simp⟩, h.first, h.last⟩

/-- A text that does not begin with a blank has its blanks behind the part between them. -/
theorem Stripped.exists_behind (h : Stripped text inner)
    (first : ∀ c ∈ text.head?, isBlank c = false) :
    ∃ after, text = inner ++ after ∧ ∀ c ∈ after, isBlank c = true := by
  obtain ⟨before, after, rfl, blankBefore, blankAfter⟩ := h.between
  cases before with
  | nil => exact ⟨after, rfl, blankAfter⟩
  | cons c before =>
    have blank := blankBefore c List.mem_cons_self
    rw [first c rfl] at blank
    cases blank

/-! ## Numerals -/

/-- A numeral of `n`: one or more ASCII digits of that value, perhaps behind a `+`.  Zeros may
stand in front. -/
def IsNumeral (text : List Char) (n : Nat) : Prop :=
  ∃ digits : List Char, (text = digits ∨ text = '+' :: digits) ∧ digits ≠ [] ∧
    (∀ c ∈ digits, c.isDigit = true) ∧ digitsValue digits = n

theorem natural?_eq_some_iff {n : Nat} :
    natural? text = some n ↔
      text ≠ [] ∧ (∀ c ∈ text, c.isDigit = true) ∧ digitsValue text = n := by
  by_cases empty : text = []
  · simp [empty, natural?]
  · rw [natural?_eq_foldlM empty, foldlM_pushDigit?_eq_some_iff, Nat.zero_mul, Nat.zero_add]
    simp [empty]

theorem eq_of_dropPlus (text : List Char) : text = dropPlus text ∨ text = '+' :: dropPlus text := by
  unfold dropPlus
  split
  · exact .inr rfl
  · exact .inl rfl

/-- Digits do not begin with a `+`. -/
theorem dropPlus_digits (h : ∀ c ∈ text, c.isDigit = true) : dropPlus text = text := by
  unfold dropPlus
  split
  · exact absurd (h '+' List.mem_cons_self) (by decide)
  · rfl

/-- **Numerals and nothing else are read**, as their value, if it fits into 64 bits. -/
theorem word?_eq_some_iff {n : UInt64} : word? text = some n ↔ IsNumeral text n.toNat := by
  have fits : n.toNat < UInt64.size := n.toNat_lt
  constructor
  · intro read
    unfold word? at read
    split at read
    · rename_i v found
      obtain ⟨nonempty, digits, value⟩ := natural?_eq_some_iff.mp found
      split at read
      · rename_i small
        obtain rfl := Option.some.inj read
        rw [UInt64.toNat_ofNat_of_lt' small]
        exact ⟨dropPlus text, eq_of_dropPlus text, nonempty, digits, value⟩
      · cases read
    · cases read
  · rintro ⟨digits, shape, nonempty, all, value⟩
    have plain : dropPlus text = digits := by
      rcases shape with rfl | rfl
      · exact dropPlus_digits all
      · rfl
    have found : natural? digits = some n.toNat :=
      natural?_eq_some_iff.mpr ⟨nonempty, all, value⟩
    rw [word?, plain, found]
    simp [fits]

theorem isDigit_of_mem_decimal {n : Nat} {c : Char} (h : c ∈ decimal n) : c.isDigit = true := by
  obtain ⟨d, known⟩ := Option.isSome_iff_exists.mp (digit?_of_mem_decimal h)
  exact (digit?_eq_some_iff.mp known).1

theorem not_isBlank_of_isDigit {c : Char} (h : c.isDigit = true) : isBlank c = false := by
  have low : 48 ≤ c.toNat := by
    simp only [Char.isDigit, Bool.and_eq_true, decide_eq_true_eq] at h
    exact h.1
  have high : c.toNat ≤ 57 := by
    simp only [Char.isDigit, Bool.and_eq_true, decide_eq_true_eq] at h
    exact h.2
  simp [isBlank, blankRanges]
  omega

/-- There is no blank in a numeral. -/
theorem IsNumeral.dense {n : Nat} (h : IsNumeral text n) : ∀ c ∈ text, isBlank c = false := by
  obtain ⟨digits, shape, -, all, -⟩ := h
  intro c known
  rcases shape with rfl | rfl
  · exact not_isBlank_of_isDigit (all c known)
  · rcases List.mem_cons.mp known with rfl | digit
    · decide
    · exact not_isBlank_of_isDigit (all c digit)

/-- A numeral ends with a digit. -/
theorem IsNumeral.last {n : Nat} (h : IsNumeral text n) : ∀ c ∈ text.getLast?, c.isDigit = true := by
  obtain ⟨digits, shape, nonempty, all, -⟩ := h
  intro c known
  have ending : c ∈ digits.getLast? := by
    rcases shape with rfl | rfl
    · exact known
    · rwa [List.getLast?_cons_of_ne_nil nonempty] at known
  exact all c (List.mem_of_mem_getLast? ending)

/-- A decimal number is a numeral of that number. -/
theorem isNumeral_decimal (n : Nat) : IsNumeral (decimal n) n := by
  have read : natural? (decimal n) = some n := by
    rw [natural?_eq_foldlM (decimal_ne_nil n), foldlM_decimal]
  obtain ⟨nonempty, digits, value⟩ := natural?_eq_some_iff.mp read
  exact ⟨decimal n, .inl rfl, nonempty, digits, value⟩

end RegistryLoad.Text
