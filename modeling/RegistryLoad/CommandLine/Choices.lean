import RegistryLoad.CommandLine.Field
import RegistryLoad.Settings.Check

/-!
# Choices

What a user has said about the settings.  Where nothing was said, the standard settings hold; the
pool then follows the registry target that was finally chosen.

* `Choices.set`: one more setting, from its text.
* `Choices.settings`: the settings that follow.
-/

namespace RegistryLoad

open RegistryLoad.Text

/-- What was said about each setting.  Time spans are kept as typed and read last. -/
structure Choices where
  registrationRate : Option Rate := none
  registryTarget : Option UInt64 := none
  interestRate : Option Rate := none
  interestTarget : Option UInt64 := none
  duration : Option String := none
  poolSize : Option UInt64 := none
  applications : Option UInt64 := none
  seed : Option UInt64 := none
  boardPeriod : Option String := none
  boardFormat : Option BoardFormat := none
  boardOutput : Option String := none
  deriving DecidableEq, Repr

/-- The name of a layout, as a user types it. -/
def BoardFormat.named? : String → Option BoardFormat
  | "table" => some .table
  | "json" => some .json
  | _ => none

namespace Choices

/-- Whether something was said about a setting. -/
def has (c : Choices) : Field → Bool
  | .registrationRate => c.registrationRate.isSome
  | .registryTarget => c.registryTarget.isSome
  | .interestRate => c.interestRate.isSome
  | .interestTarget => c.interestTarget.isSome
  | .duration => c.duration.isSome
  | .poolSize => c.poolSize.isSome
  | .applications => c.applications.isSome
  | .seed => c.seed.isSome
  | .boardPeriod => c.boardPeriod.isSome
  | .boardFormat => c.boardFormat.isSome
  | .boardOutput => c.boardOutput.isSome

/-- The choices with one setting from its text; none if the text does not suit it.  A number is
typed without blanks, and an output needs a name. -/
def set? (c : Choices) (f : Field) (text : String) : Option Choices :=
  let rate := Rate.read? text.toList
  let number := word? text.toList
  match f with
  | .registrationRate => rate.map fun v => { c with registrationRate := some v }
  | .registryTarget => number.map fun v => { c with registryTarget := some v }
  | .interestRate => rate.map fun v => { c with interestRate := some v }
  | .interestTarget => number.map fun v => { c with interestTarget := some v }
  | .duration => some { c with duration := some text }
  | .poolSize => number.map fun v => { c with poolSize := some v }
  | .applications => number.map fun v => { c with applications := some v }
  | .seed => number.map fun v => { c with seed := some v }
  | .boardPeriod => some { c with boardPeriod := some text }
  | .boardFormat => (BoardFormat.named? text).map fun v => { c with boardFormat := some v }
  | .boardOutput => if text.isEmpty then none else some { c with boardOutput := some text }

/-- A time span that may have been typed. -/
def spanOr (typed : Option String) (standard : TimeSpan) : Except SettingsError TimeSpan :=
  match typed with
  | some text => readTimeSpan text
  | none => .ok standard

/-- The settings that follow from the choices, if they pass their check. -/
def settings (c : Choices) : Except SettingsError Settings := do
  let target := c.registryTarget.getD Settings.defaultRegistryTarget
  let duration ← spanOr c.duration Settings.defaultDuration
  let boardPeriod ← spanOr c.boardPeriod Settings.defaultBoardPeriod
  let s : Settings :=
    { registrationRate := c.registrationRate.getD Settings.defaultRegistrationRate
      registryTarget := target
      interestRate := c.interestRate.getD Settings.defaultInterestRate
      interestTarget := c.interestTarget.getD Settings.defaultInterestTarget
      duration := duration
      poolSize := c.poolSize.getD (Settings.defaultPoolSize target)
      applications := c.applications.getD Settings.defaultApplications
      seed := c.seed.getD Settings.defaultSeed
      boardPeriod := boardPeriod
      boardFormat := c.boardFormat.getD .table
      boardOutput := c.boardOutput }
  s.check
  return s

end Choices

end RegistryLoad
