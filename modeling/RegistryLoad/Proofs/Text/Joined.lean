import Mathlib.Algebra.GroupWithZero.Nat
import Mathlib.Data.List.Basic

/-!
# Texts joined by a mark

Lists of texts with one mark between two neighbours: the groups of a number, the cells of a row, the
lines of a board.

* `intercalate_cons`: the mark stands before every text but the first.
* `flatMap_append_singleton`: the mark stands behind every text.
* `length_intercalate`, `mem_intercalate`: the characters of the whole.
-/

namespace RegistryLoad.Text

variable {α : Type}

/-- Before every text but the first there is the mark. -/
theorem intercalate_cons (mark : α) (first : List α) (others : List (List α)) :
    [mark].intercalate (first :: others) = first ++ others.flatMap (mark :: ·) := by
  induction others generalizing first with
  | nil => simp
  | cons next others ih =>
    rw [List.intercalate_cons_cons, ih, List.flatMap_cons, List.append_assoc]
    rfl

/-- Texts with a mark behind each are joined by the mark, with nothing behind the last one. -/
theorem flatMap_append_singleton (mark : α) (texts : List (List α)) :
    texts.flatMap (· ++ [mark]) = [mark].intercalate (texts ++ [[]]) := by
  induction texts with
  | nil => rfl
  | cons text texts ih =>
    rw [List.flatMap_cons, ih]
    cases texts with
    | nil => simp
    | cons next texts => simp only [List.cons_append, List.intercalate_cons_cons]

/-- There is one mark less than there are texts. -/
theorem length_intercalate (mark : α) (texts : List (List α)) :
    ([mark].intercalate texts).length = (texts.map List.length).sum + (texts.length - 1) := by
  induction texts with
  | nil => rfl
  | cons first others ih =>
    cases others with
    | nil => simp
    | cons next others =>
      rw [List.intercalate_cons_cons, List.length_append, List.length_append, ih]
      simp only [List.map_cons, List.sum_cons, List.length_cons, List.length_nil]
      omega

/-- A character of the whole is the mark or one of the texts'. -/
theorem mem_intercalate {mark c : α} {texts : List (List α)} (h : c ∈ [mark].intercalate texts) :
    c = mark ∨ ∃ text ∈ texts, c ∈ text := by
  cases texts with
  | nil => cases h
  | cons first others =>
    rw [intercalate_cons, List.mem_append, List.mem_flatMap] at h
    rcases h with known | ⟨text, listed, known⟩
    · exact .inr ⟨first, List.mem_cons_self, known⟩
    · rcases List.mem_cons.mp known with rfl | known
      · exact .inl rfl
      · exact .inr ⟨text, List.mem_cons_of_mem _ listed, known⟩

end RegistryLoad.Text
