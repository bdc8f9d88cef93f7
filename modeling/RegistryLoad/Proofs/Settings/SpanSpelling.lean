import RegistryLoad.Proofs.Text.Typed
import RegistryLoad.Settings.Check

/-!
# How time spans are spelled

A time span is a numeral of seconds, or a numeral and the letter of a unit behind it.  Nothing else
is read as a time span, and more seconds than 64 bits hold are refused.

## Definitions

* `TimeSpan.unitLetters`: the letters of the units, with their seconds.
* `TimeSpan.Spelling`: the texts that spell a time span.

## Results

* `TimeSpan.read?_eq_some_iff`: the texts that are read as a time span are its spellings.
* `TimeSpan.readTimeSpan_grammar`: what becomes of any typed text.
-/

namespace RegistryLoad

open RegistryLoad.Text

namespace TimeSpan

/-! ## Units -/

/-- The letters that name a unit, with the seconds of that unit. -/
def unitLetters : List (Char × Nat) := [('h', 3600), ('m', 60), ('s', 1)]

theorem mem_unitLetters_iff {letter : Char} {factor : Nat} :
    (letter, factor) ∈ unitLetters ↔
      letter = 'h' ∧ factor = 3600 ∨ letter = 'm' ∧ factor = 60 ∨ letter = 's' ∧ factor = 1 := by
  simp [unitLetters]

theorem unitSeconds?_eq_some_iff {letter : Char} {factor : Nat} :
    unitSeconds? letter = some factor ↔ (letter, factor) ∈ unitLetters := by
  rw [mem_unitLetters_iff]
  constructor
  · intro known
    unfold unitSeconds? at known
    split at known
    · exact .inl ⟨rfl, (Option.some.inj known).symm⟩
    · exact .inr (.inl ⟨rfl, (Option.some.inj known).symm⟩)
    · exact .inr (.inr ⟨rfl, (Option.some.inj known).symm⟩)
    · cases known
  · rintro (⟨rfl, rfl⟩ | ⟨rfl, rfl⟩ | ⟨rfl, rfl⟩) <;> rfl

/-- No digit is the letter of a unit. -/
theorem unitSeconds?_of_isDigit {c : Char} (h : c.isDigit = true) : unitSeconds? c = none := by
  rw [Option.eq_none_iff_forall_ne_some]
  intro factor known
  rw [unitSeconds?_eq_some_iff, mem_unitLetters_iff] at known
  rcases known with ⟨rfl, -⟩ | ⟨rfl, -⟩ | ⟨rfl, -⟩ <;> exact absurd h (by decide)

variable {text : List Char} {letter : Char} {factor : Nat}

theorem splitUnit_append (known : (letter, factor) ∈ unitLetters) :
    splitUnit (text ++ [letter]) = (text, factor) := by
  simp [splitUnit, unitSeconds?_eq_some_iff.mpr known]

/-- A numeral has no letter behind it. -/
theorem splitUnit_of_isNumeral {n : Nat} (h : IsNumeral text n) : splitUnit text = (text, 1) := by
  have bare : text.getLast?.bind unitSeconds? = none := by
    rw [Option.bind_eq_none_iff]
    exact fun c last => unitSeconds?_of_isDigit (h.last c last)
  rw [splitUnit, bare]

/-- A text ends with the letter of a unit, or counts seconds. -/
theorem splitUnit_cases (text : List Char) :
    splitUnit text = (text, 1) ∨
      ∃ count letter factor, text = count ++ [letter] ∧ (letter, factor) ∈ unitLetters ∧
        splitUnit text = (count, factor) := by
  cases found : text.getLast?.bind unitSeconds? with
  | none => exact .inl (by rw [splitUnit, found])
  | some factor =>
    obtain ⟨letter, last, known⟩ := Option.bind_eq_some_iff.mp found
    obtain ⟨count, rfl⟩ := List.getLast?_eq_some_iff.mp last
    rw [unitSeconds?_eq_some_iff] at known
    exact .inr ⟨count, letter, factor, rfl, known, splitUnit_append known⟩

/-! ## Spellings -/

/-- The spellings of a time span, without the blanks around them. -/
inductive Spelling : List Char → TimeSpan → Prop where
  /-- A numeral alone counts seconds. -/
  | alone {text : List Char} {n : UInt64} (number : IsNumeral text n.toNat) :
      Spelling text (ofSeconds n)
  /-- A numeral and the letter of a unit, with blanks between them.  The seconds of so many units fit
  into 64 bits. -/
  | counted {numeral gap : List Char} {letter : Char} {factor : Nat} {n seconds : UInt64}
      (number : IsNumeral numeral n.toNat) (blank : ∀ c ∈ gap, isBlank c = true)
      (unit : (letter, factor) ∈ unitLetters) (fits : seconds.toNat = n.toNat * factor) :
      Spelling (numeral ++ gap ++ [letter]) (ofSeconds seconds)

/-- A product that fits into 64 bits is not wrapped. -/
theorem toNat_mul_ofNat {n : UInt64} (fits : n.toNat * factor < UInt64.size) :
    (n * UInt64.ofNat factor).toNat = n.toNat * factor := by
  rw [UInt64.toNat_mul, UInt64.toNat_ofNat', Nat.mul_mod_mod, Nat.mod_eq_of_lt fits]

/-- What is read of a count of units: the seconds of all of them, if they fit into 64 bits. -/
theorem read?_of_splitUnit {input count : List Char} {span : TimeSpan}
    (split : splitUnit (trim input) = (count, factor)) :
    read? input = some span ↔ ∃ n seconds : UInt64, IsNumeral (trim count) n.toNat ∧
      seconds.toNat = n.toNat * factor ∧ span = ofSeconds seconds := by
  unfold read?
  rw [split]
  dsimp only
  constructor
  · intro read
    split at read
    · rename_i n number
      split at read
      · rename_i fits
        exact ⟨n, n * UInt64.ofNat factor, word?_eq_some_iff.mp number, toNat_mul_ofNat fits,
          (Option.some.inj read).symm⟩
      · cases read
    · cases read
  · rintro ⟨n, seconds, number, product, rfl⟩
    rw [word?_eq_some_iff.mpr number]
    dsimp only
    have fits : n.toNat * factor < UInt64.size := product ▸ seconds.toNat_lt
    rw [if_pos fits, UInt64.toNat_inj.mp ((toNat_mul_ofNat fits).trans product.symm)]

/-- **Spellings and nothing else are read.** -/
theorem read?_eq_some_iff {input : List Char} {span : TimeSpan} :
    read? input = some span ↔ Spelling (trim input) span := by
  constructor
  · intro read
    have ends := stripped_trim input
    rcases splitUnit_cases (trim input) with split | ⟨count, letter, factor, whole, unit, split⟩
    · obtain ⟨n, seconds, number, product, rfl⟩ := (read?_of_splitUnit split).mp read
      rw [trim_eq_iff.mpr ends.again] at number
      rw [Nat.mul_one, UInt64.toNat_inj] at product
      rw [product]
      exact .alone number
    · obtain ⟨n, seconds, number, product, rfl⟩ := (read?_of_splitUnit split).mp read
      have first : ∀ c ∈ count.head?, isBlank c = false := by
        intro c known
        apply ends.first c
        rw [whole]
        exact List.mem_head?_append_of_mem_head? known
      obtain ⟨gap, parts, blank⟩ := (stripped_trim count).exists_behind first
      rw [whole, parts]
      exact .counted number blank unit product
  · generalize whole : trim input = text
    intro spelling
    cases spelling with
    | alone number =>
      rw [read?_of_splitUnit (whole ▸ splitUnit_of_isNumeral number)]
      refine ⟨_, _, ?_, (Nat.mul_one _).symm, rfl⟩
      rwa [whole, trim_eq_iff.mpr (stripped_self number.dense)]
    | @counted numeral gap letter factor n seconds number blank unit fits =>
      rw [read?_of_splitUnit (whole ▸ splitUnit_append unit)]
      refine ⟨n, seconds, ?_, fits, rfl⟩
      have stripped : Stripped (numeral ++ gap) numeral :=
        stripped_of_dense (List.forall_mem_nil _) blank number.dense
      rwa [trim_eq_iff.mpr stripped]

end TimeSpan

/-! ## Typed time spans -/

theorem readTimeSpan_eq_ok_iff {input : String} {span : TimeSpan} :
    readTimeSpan input = .ok span ↔ TimeSpan.Spelling (trim input.toList) span := by
  rw [← TimeSpan.read?_eq_some_iff, readTimeSpan]
  cases TimeSpan.read? input.toList <;> simp

theorem readTimeSpan_eq_error_iff {input : String} {e : SettingsError} :
    readTimeSpan input = .error e ↔ (∀ span, ¬ TimeSpan.Spelling (trim input.toList) span) ∧
      e = .invalidDuration (String.ofList (trim input.toList)) := by
  simp only [← TimeSpan.read?_eq_some_iff, readTimeSpan]
  cases TimeSpan.read? input.toList <;> simp [eq_comm]

/-- **The time spans that can be typed.**  A typed text has one part between the blanks around it.
If this part spells a time span, then the text is read as this span, and otherwise it is refused with
this part.  The digits of any count of seconds are read as so many seconds, with or without the
letter of seconds behind them. -/
theorem TimeSpan.readTimeSpan_grammar :
    (∀ input : String, ∃ part, (∀ other, Stripped input.toList other ↔ other = part) ∧
      (∀ span, readTimeSpan input = .ok span ↔ Spelling part span) ∧
      ∀ e, readTimeSpan input = .error e ↔
        (∀ span, ¬ Spelling part span) ∧ e = .invalidDuration (String.ofList part)) ∧
    ∀ n : UInt64,
      readTimeSpan (String.ofList (decimal n.toNat ++ ['s'])) = .ok (ofSeconds n) ∧
      readTimeSpan (String.ofList (decimal n.toNat)) = .ok (ofSeconds n) := by
  constructor
  · intro input
    refine ⟨trim input.toList, ?_, fun span => readTimeSpan_eq_ok_iff,
      fun e => readTimeSpan_eq_error_iff⟩
    intro other
    rw [← trim_eq_iff, eq_comm]
  · intro n
    have number := isNumeral_decimal n.toNat
    have lettered : Spelling (decimal n.toNat ++ [] ++ ['s']) (ofSeconds n) :=
      .counted number (by simp) (by decide) (Nat.mul_one _).symm
    rw [List.append_nil] at lettered
    have dense : ∀ c ∈ decimal n.toNat ++ ['s'], isBlank c = false := by
      rw [List.forall_mem_append]
      exact ⟨number.dense, List.forall_mem_singleton.mpr (by decide)⟩
    constructor
    · rw [readTimeSpan_eq_ok_iff, String.toList_ofList, trim_eq_iff.mpr (stripped_self dense)]
      exact lettered
    · rw [readTimeSpan_eq_ok_iff, String.toList_ofList, trim_eq_iff.mpr (stripped_self number.dense)]
      exact .alone number

/-- Blanks may stand before the letter, but no second letter. -/
example : readTimeSpan " +02\u2003m\n" = .ok (.ofSeconds 120) := by decide

example : readTimeSpan "5ms" = .error (.invalidDuration "5ms") := by decide

end RegistryLoad
