import Mathlib.Logic.Function.Basic
import RegistryLoad.CommandLine.Choices

/-!
# Settings from texts

What a user says about each setting is a text.  Texts that suit their settings are told to the
choices one after the other, and what follows from the choices is what the texts ask for.

## Definitions

* `Field.suits`: whether a text suits a setting.
* `Settings.ofTexts`, `Choices.ofTexts`: what follows from a text for each setting, if there is one.

## Results

* `Choices.set?_ofTexts`, `Choices.has_ofTexts`: one more text, and which ones there are.
* `Choices.settings_ofTexts`: the settings that the choices lead to, or the first reason against.
* `Settings.le_defaultPoolSize`, `Choices.pool_ofTexts`: a pool about which nothing is said is large
  enough.
-/

namespace RegistryLoad

open RegistryLoad.Text

/-! ## Texts -/

/-- Whether a text suits a setting.  Time spans are read later, so that every text does. -/
def Field.suits (text : String) : Field → Bool
  | .registrationRate | .interestRate => (Rate.read? text.toList).isSome
  | .registryTarget | .interestTarget | .poolSize | .applications | .seed =>
    (word? text.toList).isSome
  | .duration | .boardPeriod => true
  | .boardFormat => (BoardFormat.named? text).isSome
  | .boardOutput => !text.isEmpty

/-- All texts suit the settings that they are for. -/
def AllSuit (texts : Field → Option String) : Prop :=
  ∀ f text, texts f = some text → f.suits text = true

/-- The settings that these texts ask for, with the time spans that were read. -/
def Settings.ofTexts (texts : Field → Option String) (duration boardPeriod : TimeSpan) : Settings :=
  let rate (f : Field) := (texts f).bind fun text => Rate.read? text.toList
  let number (f : Field) := (texts f).bind fun text => word? text.toList
  let target := (number .registryTarget).getD defaultRegistryTarget
  { registrationRate := (rate .registrationRate).getD defaultRegistrationRate
    registryTarget := target
    interestRate := (rate .interestRate).getD defaultInterestRate
    interestTarget := (number .interestTarget).getD defaultInterestTarget
    duration := duration
    poolSize := (number .poolSize).getD (defaultPoolSize target)
    applications := (number .applications).getD defaultApplications
    seed := (number .seed).getD defaultSeed
    boardPeriod := boardPeriod
    boardFormat := ((texts .boardFormat).bind BoardFormat.named?).getD .table
    boardOutput := texts .boardOutput }

variable {texts : Field → Option String} {f : Field} {text : String}

theorem AllSuit.update (h : AllSuit texts) (suits : f.suits text = true) :
    AllSuit (Function.update texts f (some text)) := by
  intro g other told
  by_cases same : g = f
  · subst same
    rw [Function.update_self, Option.some.injEq] at told
    rwa [← told]
  · rw [Function.update_of_ne same] at told
    exact h g other told

/-! ## Choices from texts -/

namespace Choices

/-- The choices of a user who said these texts. -/
def ofTexts (texts : Field → Option String) : Choices where
  registrationRate := (texts .registrationRate).bind fun text => Rate.read? text.toList
  registryTarget := (texts .registryTarget).bind fun text => word? text.toList
  interestRate := (texts .interestRate).bind fun text => Rate.read? text.toList
  interestTarget := (texts .interestTarget).bind fun text => word? text.toList
  duration := texts .duration
  poolSize := (texts .poolSize).bind fun text => word? text.toList
  applications := (texts .applications).bind fun text => word? text.toList
  seed := (texts .seed).bind fun text => word? text.toList
  boardPeriod := texts .boardPeriod
  boardFormat := (texts .boardFormat).bind BoardFormat.named?
  boardOutput := texts .boardOutput

/-- One more text that suits its setting. -/
theorem set?_ofTexts (suits : f.suits text = true) :
    (ofTexts texts).set? f text = some (ofTexts (Function.update texts f (some text))) := by
  cases f with
  | duration | boardPeriod => simp [set?, ofTexts, Function.update]
  | boardOutput =>
    simp only [Field.suits, Bool.not_eq_true'] at suits
    simp [set?, ofTexts, suits, Function.update]
  | _ =>
    obtain ⟨v, read⟩ := Option.isSome_iff_exists.mp suits
    simp [set?, ofTexts, read, Function.update]

/-- Something was said about the settings that have a text. -/
theorem has_ofTexts (h : AllSuit texts) (f : Field) : (ofTexts texts).has f = (texts f).isSome := by
  cases said : texts f with
  | none => cases f <;> simp [has, ofTexts, said]
  | some text =>
    have suits := h f text said
    cases f <;> simp_all [has, ofTexts, Field.suits]

/-- The time spans are read in their order, and then the settings are checked. -/
theorem settings_ofTexts (texts : Field → Option String) :
    (ofTexts texts).settings =
      (spanOr (texts .duration) Settings.defaultDuration).bind fun duration =>
        (spanOr (texts .boardPeriod) Settings.defaultBoardPeriod).bind fun boardPeriod =>
          (Settings.ofTexts texts duration boardPeriod).check.bind fun _ =>
            .ok (Settings.ofTexts texts duration boardPeriod) := rfl

end Choices

/-! ## The pool -/

namespace Settings

theorem le_defaultPoolSize (target : UInt64) : target ≤ defaultPoolSize target := by
  have small := target.toNat_lt
  rw [UInt64.le_iff_toNat_le, defaultPoolSize, UInt64.toNat_ofNat_of_lt']
  · simp only [UInt64.size]
    omega
  · simp only [UInt64.size]
    omega

theorem mem_objections_of_check {s : Settings} {e : SettingsError} (h : s.check = .error e) :
    (true, e) ∈ s.objections := by
  unfold check objection? at h
  cases found : s.objections.find? (·.1) with
  | none => simp [found] at h
  | some o =>
    rw [found] at h
    cases h
    have objected : o.1 = true := by simpa using List.find?_some found
    have known := List.mem_of_find?_eq_some found
    rwa [← objected]

/-- Who names no pool gets one that can reach the target. -/
theorem not_small_of_default {s : Settings}
    (standard : s.poolSize = defaultPoolSize s.registryTarget) (pool target : UInt64) :
    s.check ≠ .error (.poolTooSmall pool target) := by
  intro refused
  have enough := le_defaultPoolSize s.registryTarget
  have objected := mem_objections_of_check refused
  simp [objections, standard, UInt64.not_lt.mpr enough] at objected

theorem poolSize_ofTexts (unsaid : texts .poolSize = none) (duration boardPeriod : TimeSpan) :
    (ofTexts texts duration boardPeriod).poolSize
      = defaultPoolSize (ofTexts texts duration boardPeriod).registryTarget := by
  simp [ofTexts, unsaid]

end Settings

namespace Choices

theorem spanOr_error {typed : Option String} {standard : TimeSpan} {e : SettingsError}
    (h : spanOr typed standard = .error e) : ∃ text, e = .invalidDuration text := by
  unfold spanOr readTimeSpan at h
  split at h
  · split at h
    · cases h
    · cases h
      exact ⟨_, rfl⟩
  · cases h

/-- A pool about which nothing is said has the default size, and it is never too small. -/
theorem pool_ofTexts (unsaid : texts .poolSize = none) :
    (∀ s, (ofTexts texts).settings = .ok s →
      s.poolSize = Settings.defaultPoolSize s.registryTarget) ∧
    ∀ pool target, (ofTexts texts).settings ≠ .error (.poolTooSmall pool target) := by
  rw [settings_ofTexts]
  cases read : spanOr (texts .duration) Settings.defaultDuration with
  | error e =>
    obtain ⟨text, rfl⟩ := spanOr_error read
    simp [Except.bind]
  | ok duration =>
    cases read' : spanOr (texts .boardPeriod) Settings.defaultBoardPeriod with
    | error e =>
      obtain ⟨text, rfl⟩ := spanOr_error read'
      simp [Except.bind]
    | ok boardPeriod =>
      have pool := Settings.poolSize_ofTexts unsaid duration boardPeriod
      have large := Settings.not_small_of_default pool
      simp only [Except.bind]
      cases checked : (Settings.ofTexts texts duration boardPeriod).check with
      | error e =>
        rw [checked] at large
        simpa using large
      | ok _ => simpa using pool

end Choices

end RegistryLoad
