/-!
# Splitting at a mark

Some typed texts have two parts with a mark between them: the count and the unit of a rate around
a slash, the name and the value of an option around an equals sign.
-/

namespace RegistryLoad.Text

/-- The text before the first `mark`, and the text after it, if there is one. -/
def splitFirst (mark : Char) (text : List Char) : List Char × Option (List Char) :=
  match text.dropWhile (· != mark) with
  | [] => (text, none)
  | _ :: rest => (text.takeWhile (· != mark), some rest)

variable {mark : Char}

theorem bne_of_notMem {text : List Char} (h : mark ∉ text) : ∀ c ∈ text, (c != mark) = true := by
  intro c known
  rw [bne_iff_ne]
  rintro rfl
  exact h known

/-- A text without the mark is one part. -/
theorem splitFirst_of_notMem {text : List Char} (h : mark ∉ text) :
    splitFirst mark text = (text, none) := by
  have whole : text.dropWhile (· != mark) = [] := by
    rw [← text.append_nil, List.dropWhile_append_of_pos (bne_of_notMem h)]
    rfl
  rw [splitFirst, whole]

/-- Behind the first mark there may be others. -/
theorem splitFirst_append {before : List Char} (h : mark ∉ before) (after : List Char) :
    splitFirst mark (before ++ mark :: after) = (before, some after) := by
  have passed := bne_of_notMem h
  rw [splitFirst, List.dropWhile_append_of_pos passed, List.takeWhile_append_of_pos passed]
  simp

end RegistryLoad.Text
