import RegistryLoad.Proofs.Text.Typed
import RegistryLoad.Settings.Check

/-!
# How rates are spelled

A rate is a count, or a count and the name of a period around a slash.  Nothing else is read as a
rate, and what is shown of a rate is read back as that rate.

## Definitions

* `Rate.Spelling`: the texts that spell a rate.

## Results

* `Rate.read?_eq_some_iff`: the texts that are read as a rate are its spellings.
* `Rate.spelling_text`: what is shown of a rate is one of them.
* `Rate.readRate_grammar`: what becomes of any typed text.
-/

namespace RegistryLoad

open RegistryLoad.Text

theorem RateUnit.named?_eq_some_iff {name : List Char} {u : RateUnit} :
    named? name = some u ↔ String.ofList name ∈ u.names := by
  constructor
  · intro found
    have known := List.find?_some found
    obtain ⟨n, listed, same⟩ := List.any_eq_true.mp known
    rw [beq_iff_eq] at same
    rwa [← same, String.ofList_toList]
  · intro listed
    obtain ⟨n, same⟩ : ∃ n, n = String.ofList name := ⟨_, rfl⟩
    have letters : name = n.toList := by rw [same, String.toList_ofList]
    rw [← same] at listed
    rw [letters]
    cases u <;> simp only [names, List.mem_cons, List.not_mem_nil, or_false] at listed <;>
      rcases listed with rfl | rfl <;> decide

theorem RateUnit.letter_mem_names (u : RateUnit) : String.ofList [u.letter] ∈ u.names := by
  cases u <;> decide

theorem RateUnit.isBlank_letter (u : RateUnit) : isBlank u.letter = false := by
  cases u <;> decide

namespace Rate

/-- The spellings of a rate, without the blanks around them. -/
inductive Spelling : List Char → Rate → Prop where
  /-- A count alone is one of a second. -/
  | alone {text : List Char} {n : UInt64} (whole : '/' ∉ text)
      (number : IsNumeral text n.toNat) : Spelling text ⟨n, .second⟩
  /-- A count and the name of a period around the first slash, with blanks around each. -/
  | around {before after count name : List Char} {n : UInt64} {unit : RateUnit}
      (first : '/' ∉ before) (left : Stripped before count) (number : IsNumeral count n.toNat)
      (right : Stripped after name) (named : String.ofList name ∈ unit.names) :
      Spelling (before ++ '/' :: after) ⟨n, unit⟩

/-- **Spellings and nothing else are read.** -/
theorem read?_eq_some_iff {input : List Char} {rate : Rate} :
    read? input = some rate ↔ Spelling (trim input) rate := by
  unfold read?
  generalize trim input = text
  constructor
  · intro read
    by_cases slash : '/' ∈ text
    · obtain ⟨before, after, rfl, first⟩ := List.eq_append_cons_of_mem slash
      rw [splitFirst_append first] at read
      dsimp only at read
      split at read
      · rename_i unit n named number
        obtain rfl := Option.some.inj read
        exact .around first (stripped_trim before) (word?_eq_some_iff.mp number)
          (stripped_trim after) (RateUnit.named?_eq_some_iff.mp named)
      · cases read
    · rw [splitFirst_of_notMem slash] at read
      obtain ⟨n, number, rfl⟩ := Option.map_eq_some_iff.mp read
      exact .alone slash (word?_eq_some_iff.mp number)
  · intro spelling
    cases spelling with
    | alone whole number =>
      rw [splitFirst_of_notMem whole]
      simp [word?_eq_some_iff.mpr number]
    | around first left number right named =>
      rw [splitFirst_append first]
      simp [trim_eq_iff.mpr left, trim_eq_iff.mpr right, word?_eq_some_iff.mpr number,
        RateUnit.named?_eq_some_iff.mpr named]

/-! ## Shown rates -/

/-- There is no blank in what is shown of a rate. -/
theorem dense_text (rate : Rate) : ∀ c ∈ rate.text, isBlank c = false := by
  intro c known
  rw [text, List.mem_append, List.mem_cons, List.mem_singleton] at known
  rcases known with digit | rfl | rfl
  · exact not_isBlank_of_isDigit (isDigit_of_mem_decimal digit)
  · decide
  · exact rate.unit.isBlank_letter

/-- **What is shown of a rate is one of its spellings.** -/
theorem spelling_text (rate : Rate) : Spelling rate.text rate := by
  have noSlash : '/' ∉ decimal rate.count.toNat := by
    intro slash
    exact absurd (isDigit_of_mem_decimal slash) (by decide)
  have left : Stripped (decimal rate.count.toNat) (decimal rate.count.toNat) :=
    stripped_self fun c digit => not_isBlank_of_isDigit (isDigit_of_mem_decimal digit)
  have right : Stripped [rate.unit.letter] [rate.unit.letter] := by
    refine stripped_self fun c known => ?_
    rw [List.mem_singleton.mp known]
    exact rate.unit.isBlank_letter
  exact .around noSlash left (isNumeral_decimal _) right rate.unit.letter_mem_names

end Rate

/-! ## Typed rates -/

theorem readRate_eq_ok_iff {input : String} {rate : Rate} :
    readRate input = .ok rate ↔ Rate.Spelling (trim input.toList) rate := by
  rw [← Rate.read?_eq_some_iff, readRate]
  cases Rate.read? input.toList <;> simp

theorem readRate_eq_error (input : String) (h : ∀ rate, ¬ Rate.Spelling (trim input.toList) rate) :
    readRate input = .error (.invalidRate (String.ofList (trim input.toList))) := by
  cases read : Rate.read? input.toList with
  | none => rw [readRate, read]
  | some rate => exact absurd (Rate.read?_eq_some_iff.mp read) (h rate)

/-- **The rates that can be typed.**  A typed text has one part between the blanks around it.  If
this part spells a rate, then the text is read as this rate, and otherwise it is refused with this
part.  What is shown of a rate is read as that rate, also with blanks around it. -/
theorem Rate.readRate_grammar :
    (∀ input : String, ∃ part, Stripped input.toList part ∧
      (∀ other, Stripped input.toList other → other = part) ∧
      (∀ rate, readRate input = .ok rate ↔ Spelling part rate) ∧
      ((∀ rate, ¬ Spelling part rate) →
        readRate input = .error (.invalidRate (String.ofList part)))) ∧
    ∀ (rate : Rate) (before after : List Char),
      (∀ c ∈ before, isBlank c = true) → (∀ c ∈ after, isBlank c = true) →
        readRate (String.ofList (before ++ rate.text ++ after)) = .ok rate := by
  constructor
  · intro input
    refine ⟨trim input.toList, stripped_trim _, ?_, ?_, readRate_eq_error input⟩
    · intro other stripped
      exact (trim_eq_iff.mpr stripped).symm
    · intro rate
      exact readRate_eq_ok_iff
  · intro rate before after blankBefore blankAfter
    have stripped := stripped_of_dense blankBefore blankAfter rate.dense_text
    rw [readRate_eq_ok_iff, String.toList_ofList, trim_eq_iff.mpr stripped]
    exact rate.spelling_text

example : readRate "\t+007 / min " = .ok ⟨7, .minute⟩ := by decide

example : readRate " 1/s/s" = .error (.invalidRate "1/s/s") := by decide

end RegistryLoad
