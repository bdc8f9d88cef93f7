import Mathlib.Data.List.Basic
import RegistryLoad.Json.Quoted
import RegistryLoad.Json.Reader

/-!
# Quoted strings are read back

A text of any characters at all, written between quotes, is read as that text, and on the way it
holds no control character.

* `string_quoted`: reading what was written.
* `isShown_quoted`: no character of it breaks a line.
-/

namespace RegistryLoad.Json

/-! ## Blanks -/

theorem skipSpace_cons {c : Char} (h : isSpace c = false) (rest : List Char) :
    skipSpace (c :: rest) = c :: rest := by
  rw [skipSpace, List.dropWhile_cons, h]
  rfl

theorem punctuation_cons {mark : Char} (h : isSpace mark = false) (rest : List Char) :
    punctuation mark (mark :: rest) = .ok rest := by
  unfold punctuation
  rw [skipSpace_cons h]
  simp

/-! ## Escapes -/

/-- The letter of a short escape stands for the character that was written by it. -/
theorem letterEscape?_shortEscape? {c e : Char} (h : shortEscape? c = some e) :
    letterEscape? e = some c ∧ e ≠ 'u' := by
  unfold shortEscape? at h
  split at h <;> cases h <;> decide

theorem escape_letter {e c : Char} (h : letterEscape? e = some c) (other : e ≠ 'u')
    (rest : List Char) : escape (e :: rest) = .ok (c, rest) := by
  unfold escape
  split
  · rename_i same
    cases same
  · rename_i same
    cases same
    exact absurd rfl other
  · rename_i same
    cases same
    rw [h]

/-- The two digits of a control character, read back. -/
theorem hexValue4?_hexDigit {n : Nat} (h : n < 0x20) :
    hexValue4? '0' '0' (hexDigit (n / 16)) (hexDigit (n % 16)) = some n := by
  have all : ∀ n : Fin 0x20,
      hexValue4? '0' '0' (hexDigit (n.val / 16)) (hexDigit (n.val % 16)) = some n.val := by decide
  exact all ⟨n, h⟩

/-- Four characters have at least four bytes. -/
theorem hexCode_of_value {a b c d : Char} {n : Nat} (h : hexValue4? a b c d = some n)
    (rest : List Char) : hexCode (a :: b :: c :: d :: rest) = .ok (n, rest) := by
  have enough : ¬ byteLength ((a :: b :: c :: d :: rest).take 4) < 4 := by
    have ha := a.utf8Size_pos
    have hb := b.utf8Size_pos
    have hc := c.utf8Size_pos
    have hd := d.utf8Size_pos
    simp only [byteLength, List.take_succ_cons, List.take_zero, List.foldl_cons, List.foldl_nil]
    omega
  unfold hexCode
  rw [if_neg enough]
  dsimp only
  rw [h]

theorem codeEscape_control {c : Char} (h : c.toNat < 0x20) (rest : List Char) :
    codeEscape ('0' :: '0' :: hexDigit (c.toNat / 16) :: hexDigit (c.toNat % 16) :: rest)
      = .ok (c, rest) := by
  have low : isLowHalf c.toNat = false := by
    simp only [isLowHalf, Bool.and_eq_false_iff, decide_eq_false_iff_not]
    omega
  have high : isHighHalf c.toNat = false := by
    simp only [isHighHalf, Bool.and_eq_false_iff, decide_eq_false_iff_not]
    omega
  unfold codeEscape
  rw [hexCode_of_value (hexValue4?_hexDigit h)]
  simp only [bind, Except.bind, low, high, Bool.false_eq_true, if_false, Char.ofNat_toNat]
  rfl

/-! ## Strings -/

/-- One written character takes one step of the reader. -/
theorem stringBody_escaped (c : Char) (fuel : Nat) (rest : List Char) :
    stringBody (fuel + 1) (escaped c ++ rest)
      = (stringBody fuel rest).map fun (s, rest) => (c :: s, rest) := by
  unfold escaped
  split
  · rename_i e short
    obtain ⟨letter, other⟩ := letterEscape?_shortEscape? short
    simp [stringBody, escape_letter letter other]
  · rename_i long
    split
    · rename_i control
      simp [stringBody, escape, codeEscape_control control]
    · rename_i shown
      have quote : c ≠ '"' := by
        rintro rfl
        cases long
      have backslash : c ≠ '\\' := by
        rintro rfl
        cases long
      simp [stringBody, quote, backslash, shown]

theorem stringBody_flatMap_escaped (text rest : List Char) {fuel : Nat}
    (enough : text.length < fuel) :
    stringBody fuel (text.flatMap escaped ++ '"' :: rest) = .ok (text, rest) := by
  induction text generalizing fuel with
  | nil =>
    cases fuel with
    | zero => cases enough
    | succ fuel => simp [stringBody]
  | cons c text ih =>
    cases fuel with
    | zero => cases enough
    | succ fuel =>
      rw [List.length_cons] at enough
      rw [List.flatMap_cons, List.append_assoc, stringBody_escaped, ih (by omega)]
      rfl

theorem escaped_ne_nil (c : Char) : escaped c ≠ [] := by
  unfold escaped
  split
  · simp
  · split <;> simp

/-- What is written with at least one character each is no longer than the text of it. -/
theorem length_le_length_flatMap {α : Type} {f : α → List Char} (h : ∀ a, f a ≠ [])
    (l : List α) : l.length ≤ (l.flatMap f).length := by
  induction l with
  | nil => exact Nat.le_refl _
  | cons a l ih =>
    have one := List.length_pos_iff.mpr (h a)
    rw [List.flatMap_cons, List.length_cons, List.length_append]
    omega

/-- **A quoted text is read back**, from behind its opening quote. -/
theorem string_quoted (text rest : List Char) :
    string (text.flatMap escaped ++ '"' :: rest) = .ok (text, rest) := by
  refine stringBody_flatMap_escaped text rest ?_
  have written := length_le_length_flatMap escaped_ne_nil text
  rw [List.length_append, List.length_cons]
  omega

/-! ## No control characters -/

/-- A character that is no control character of the ASCII range. -/
def IsShown (c : Char) : Prop := 0x20 ≤ c.toNat

instance (c : Char) : Decidable (IsShown c) := inferInstanceAs (Decidable (0x20 ≤ c.toNat))

theorem IsShown.ne_newline {c : Char} (h : IsShown c) : c ≠ '\n' := by
  rintro rfl
  exact absurd h (by decide)

theorem isShown_hexDigit {d : Nat} (h : d < 16) : IsShown (hexDigit d) := by
  have all : ∀ d : Fin 16, IsShown (hexDigit d.val) := by decide
  exact all ⟨d, h⟩

theorem isShown_shortEscape? {c e : Char} (h : shortEscape? c = some e) : IsShown e := by
  unfold shortEscape? at h
  split at h <;> cases h <;> decide

theorem isShown_escaped (c : Char) : ∀ d ∈ escaped c, IsShown d := by
  unfold escaped
  split
  · rename_i e short
    simp [isShown_shortEscape? short, show IsShown '\\' by decide]
  · split
    · rename_i control
      have zero : IsShown '0' := by decide
      have high := isShown_hexDigit (d := c.toNat / 16) (by omega)
      have low := isShown_hexDigit (d := c.toNat % 16) (by omega)
      simp [zero, high, low, show IsShown '\\' by decide, show IsShown 'u' by decide]
    · rename_i shown
      simpa [IsShown] using shown

theorem isShown_quoted (text : List Char) : ∀ c ∈ quoted text, IsShown c := by
  intro c known
  have quote : IsShown '"' := by decide
  simp only [quoted, List.cons_append, List.mem_cons, List.mem_append, List.mem_flatMap,
    List.not_mem_nil, or_false] at known
  rcases known with rfl | ⟨d, -, known⟩ | rfl
  · exact quote
  · exact isShown_escaped d c known
  · exact quote

end RegistryLoad.Json
