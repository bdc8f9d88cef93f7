import Mathlib.Data.List.Flatten
import RegistryLoad.Proofs.Text.Joined
import RegistryLoad.Proofs.Text.Typed
import RegistryLoad.Text.Grouped

/-!
# Groups of digits

The commas of a grouped number stand where they are expected, and without them there are the digits
of the number.  There is one such text for each number.

## Definitions

* `Groups`: digits in a first group of one to three and further groups of three.
* `IsGrouping`: what the digits of a number look like with commas between the groups.

## Results

* `Groups.eq`: digits are grouped in one way.
* `groups_grouped`: the groups that are written.
* `grouped_unique`: the text of a number is the one grouping of it.
-/

namespace RegistryLoad.Text

/-! ## Groups -/

/-- The digits in groups: a first one of one to three digits, and others of three digits each. -/
structure Groups (digits first : List Char) (others : List (List Char)) : Prop where
  whole : first ++ others.flatten = digits
  first_length : 1 ≤ first.length ∧ first.length ≤ 3
  others_length : ∀ group ∈ others, group.length = 3

variable {digits first : List Char} {others : List (List Char)}

theorem Groups.map_length (h : Groups digits first others) :
    others.map List.length = List.replicate others.length 3 := by
  rw [List.eq_replicate_iff]
  refine ⟨List.length_map .., fun k known => ?_⟩
  obtain ⟨group, mem, rfl⟩ := List.mem_map.mp known
  exact h.others_length group mem

theorem Groups.length_eq (h : Groups digits first others) :
    digits.length = first.length + 3 * others.length := by
  rw [← h.whole, List.length_append, List.length_flatten, h.map_length, List.sum_replicate_nat,
    Nat.mul_comm]

/-- **Digits are grouped in one way.**  Their number tells the length of the first group, and all
others have the same length. -/
theorem Groups.eq {first' : List Char} {others' : List (List Char)}
    (h : Groups digits first others) (h' : Groups digits first' others') :
    first = first' ∧ others = others' := by
  have lengths := h.length_eq.symm.trans h'.length_eq
  have bounds := h.first_length
  have bounds' := h'.first_length
  have leading : first.length = first'.length := by omega
  obtain ⟨sameFirst, sameRest⟩ := List.append_inj (h.whole.trans h'.whole.symm) leading
  refine ⟨sameFirst, List.eq_iff_flatten_eq.mpr ⟨sameRest, ?_⟩⟩
  rw [h.map_length, h'.map_length]
  congr 1
  omega

/-- Cuts of three digits, one behind the other, leave none out. -/
theorem flatten_slices (start count : Nat) (h : start + 3 * count = digits.length) :
    ((List.range' start count 3).map fun i => (digits.take (i + 3)).drop i).flatten
      = digits.drop start := by
  induction count generalizing start with
  | zero => exact (List.drop_eq_nil_of_le (by omega)).symm
  | succ count ih =>
    rw [List.range'_succ, List.map_cons, List.flatten_cons, ih (start + 3) (by omega)]
    have part : (digits.take (start + 3)).drop start = (digits.drop start).take 3 := by
      rw [List.drop_take, Nat.add_sub_cancel_left]
    rw [part, ← List.drop_drop, List.take_append_drop]

/-- The groups that are cut out of digits. -/
theorem exists_groups (h : digits ≠ []) :
    ∃ first others, groups? digits = some (first :: others) ∧ Groups digits first others := by
  have pos : 0 < digits.length := List.length_pos_iff.mpr h
  have whole := leadSize_add pos
  have within := inRange_of_mem_groupCuts pos
  refine ⟨_, _, groups?_eq_some h, ?_, ?_, ?_⟩
  · rw [List.map_map]
    exact (congrArg (_ ++ ·) (flatten_slices _ _ whole)).trans (by simp)
  · have size : (digits.take (leadSize digits.length)).length = leadSize digits.length := by
      rw [List.length_take, Nat.min_eq_left (leadSize_le pos)]
    show 1 ≤ (digits.take _).length ∧ (digits.take _).length ≤ 3
    rw [size, leadSize]
    split <;> omega
  · intro group known
    obtain ⟨cut, listed, rfl⟩ := List.mem_map.mp known
    obtain ⟨start, -, rfl⟩ := List.mem_map.mp listed
    have bound := (within _ (List.mem_cons_of_mem _ listed)).2
    rw [List.length_drop, List.length_take, Nat.min_eq_left bound, Nat.add_sub_cancel_left]

/-! ## Commas -/

/-- What a number looks like in groups: a first one of one to three digits, and others of three
digits behind a comma each. -/
structure IsGrouping (n : Nat) (text : List Char) : Prop where
  digits : text.filter (· != ',') = decimal n
  groups : ∃ (first : List Char) (others : List (List Char)),
    text = first ++ others.flatMap (',' :: ·) ∧
    (1 ≤ first.length ∧ first.length ≤ 3 ∧ ∀ c ∈ first, c.isDigit = true) ∧
    ∀ group ∈ others, group.length = 3 ∧ ∀ c ∈ group, c.isDigit = true

/-- Digits are no commas. -/
theorem filter_digits {text : List Char} (h : ∀ c ∈ text, c.isDigit = true) :
    text.filter (· != ',') = text := by
  rw [List.filter_eq_self]
  intro c known
  rw [bne_iff_ne]
  rintro rfl
  exact absurd (h ',' known) (by decide)

/-- Without the commas there are the digits of all groups. -/
theorem filter_groups (leading : ∀ c ∈ first, c.isDigit = true)
    (all : ∀ group ∈ others, ∀ c ∈ group, c.isDigit = true) :
    (first ++ others.flatMap (',' :: ·)).filter (· != ',') = first ++ others.flatten := by
  rw [List.filter_append, filter_digits leading, List.filter_flatMap, List.flatten_eq_flatMap]
  congr 1
  apply List.flatMap_congr
  intro group known
  exact filter_digits (all group known)

/-- **The groups that are written** are those of the digits. -/
theorem groups_grouped (n : Nat) :
    ∃ first others, Groups (decimal n) first others ∧
      grouped n = first ++ others.flatMap (',' :: ·) := by
  obtain ⟨first, others, cut, groups⟩ := exists_groups (decimal_ne_nil n)
  refine ⟨first, others, groups, ?_⟩
  have joined : grouped? n = some (first ++ others.flatMap (',' :: ·)) := by
    rw [grouped?, cut, Option.map_some, intercalate_cons]
  exact Option.get_of_eq_some _ joined

/-- All groups consist of digits, as the whole does. -/
theorem Groups.isDigit {n : Nat} (h : Groups (decimal n) first others) :
    (∀ c ∈ first, c.isDigit = true) ∧ ∀ group ∈ others, ∀ c ∈ group, c.isDigit = true := by
  have all (c : Char) (known : c ∈ first ++ others.flatten) : c.isDigit = true :=
    isDigit_of_mem_decimal (h.whole ▸ known)
  exact ⟨fun c known => all c (List.mem_append_left _ known), fun group mem c known =>
    all c (List.mem_append_right _ (List.mem_flatten.mpr ⟨group, mem, known⟩))⟩

/-- **Without its commas a grouped number is the digits of the number.** -/
theorem filter_grouped (n : Nat) : (grouped n).filter (· != ',') = decimal n := by
  obtain ⟨first, others, groups, written⟩ := groups_grouped n
  rw [written, filter_groups groups.isDigit.1 groups.isDigit.2, groups.whole]

theorem isDigit_of_mem_grouped {n : Nat} {c : Char} (h : c ∈ grouped n) :
    c.isDigit = true ∨ c = ',' := by
  by_cases comma : c = ','
  · exact .inr comma
  · have kept : c ∈ (grouped n).filter (· != ',') :=
      List.mem_filter.mpr ⟨h, bne_iff_ne.mpr comma⟩
    rw [filter_grouped] at kept
    exact .inl (isDigit_of_mem_decimal kept)

theorem isGrouping_grouped (n : Nat) : IsGrouping n (grouped n) := by
  obtain ⟨first, others, groups, written⟩ := groups_grouped n
  obtain ⟨leading, all⟩ := groups.isDigit
  exact ⟨filter_grouped n, first, others, written,
    ⟨groups.first_length.1, groups.first_length.2, leading⟩,
    fun group known => ⟨groups.others_length group known, all group known⟩⟩

theorem IsGrouping.eq_grouped {n : Nat} {text : List Char} (h : IsGrouping n text) :
    text = grouped n := by
  obtain ⟨first, others, shape, ⟨low, high, leading⟩, all⟩ := h.groups
  have groups : Groups (decimal n) first others := by
    refine ⟨?_, ⟨low, high⟩, fun group known => (all group known).1⟩
    rw [← h.digits, shape, filter_groups leading fun group known => (all group known).2]
  obtain ⟨first', others', groups', written⟩ := groups_grouped n
  obtain ⟨rfl, rfl⟩ := groups.eq groups'
  rw [shape, written]

/-- **A number is grouped in one way, and written so.**  Every slice that is cut out of its digits
lies within them, so that there is a result.  It is the only text that has the digits of the number
without its commas, and that begins with a group of one to three digits and goes on with groups of
three digits behind a comma each. -/
theorem grouped_unique (n : Nat) :
    (∀ cut ∈ groupCuts (decimal n).length, cut.1 ≤ cut.2 ∧ cut.2 ≤ (decimal n).length) ∧
    grouped? n = some (grouped n) ∧
    ∀ text, IsGrouping n text ↔ text = grouped n := by
  refine ⟨inRange_of_mem_groupCuts (List.length_pos_iff.mpr (decimal_ne_nil n)),
    (Option.some_get _).symm, fun text => ⟨IsGrouping.eq_grouped, ?_⟩⟩
  rintro rfl
  exact isGrouping_grouped n

example : grouped 18446744073709551615 = "18,446,744,073,709,551,615".toList := by decide +kernel

end RegistryLoad.Text
