import RegistryLoad.Text.Numeral

/-!
# Thousands grouping

Counts on the score board are read by people: `1234567` is written `1,234,567`.  The digits are cut
into groups of three, what is over into a first group, and the groups are joined by commas.

* `inRange_of_mem_groupCuts`: every group lies within the digits.
* `grouped?_isSome`: so that all of them can be cut out.
-/

namespace RegistryLoad.Text

/-- The part of a text from one place up to another one.  There is none if the places are out of
order or the text ends before them. -/
def slice? (text : List Char) (start stop : Nat) : Option (List Char) :=
  if start ≤ stop ∧ stop ≤ text.length then some ((text.take stop).drop start) else none

/-- How many of so many digits stand before the first comma. -/
def leadSize (size : Nat) : Nat := if size % 3 = 0 then 3 else size % 3

/-- Where so many digits are cut: the place of the first digit of each group, and the place behind
its last one. -/
def groupCuts (size : Nat) : List (Nat × Nat) :=
  (0, leadSize size) ::
    (List.range' (leadSize size) ((size - leadSize size + 2) / 3) 3).map fun start =>
      (start, start + 3)

/-- The groups of the digits, if they can all be cut out. -/
def groups? (digits : List Char) : Option (List (List Char)) :=
  (groupCuts digits.length).mapM fun cut => slice? digits cut.1 cut.2

/-- The digits of `n` with a comma between two groups. -/
def grouped? (n : Nat) : Option (List Char) := (groups? (decimal n)).map [','].intercalate

theorem leadSize_le {size : Nat} (h : 0 < size) : leadSize size ≤ size := by
  unfold leadSize
  split <;> omega

/-- Behind the first group there are whole groups of three. -/
theorem leadSize_add {size : Nat} (h : 0 < size) :
    leadSize size + 3 * ((size - leadSize size + 2) / 3) = size := by
  unfold leadSize
  split <;> omega

/-- **No cut is made behind the last digit.** -/
theorem inRange_of_mem_groupCuts {size : Nat} (h : 0 < size) :
    ∀ cut ∈ groupCuts size, cut.1 ≤ cut.2 ∧ cut.2 ≤ size := by
  intro cut known
  rcases List.mem_cons.mp known with rfl | other
  · exact ⟨Nat.zero_le _, leadSize_le h⟩
  · obtain ⟨start, among, rfl⟩ := List.mem_map.mp other
    obtain ⟨k, below, rfl⟩ := List.mem_range'.mp among
    have whole := leadSize_add h
    omega

theorem slice?_eq_some {text : List Char} {start stop : Nat}
    (h : start ≤ stop ∧ stop ≤ text.length) :
    slice? text start stop = some ((text.take stop).drop start) := if_pos h

theorem groups?_eq_some {digits : List Char} (h : digits ≠ []) :
    groups? digits =
      some ((groupCuts digits.length).map fun cut => (digits.take cut.2).drop cut.1) := by
  have within := inRange_of_mem_groupCuts (List.length_pos_iff.mpr h)
  unfold groups?
  generalize groupCuts digits.length = cuts at within
  induction cuts with
  | nil => rfl
  | cons cut cuts ih =>
    rw [List.forall_mem_cons] at within
    rw [List.mapM_cons, slice?_eq_some within.1, ih within.2]
    rfl

theorem grouped?_isSome (n : Nat) : (grouped? n).isSome = true := by
  rw [grouped?, groups?_eq_some (decimal_ne_nil n)]
  rfl

/-- The digits of `n` with a comma before every group of three, counted from the right. -/
def grouped (n : Nat) : List Char := (grouped? n).get (grouped?_isSome n)

end RegistryLoad.Text
