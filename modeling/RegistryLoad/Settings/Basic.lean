import RegistryLoad.Schedule
import RegistryLoad.Scoreboard.Output

/-!
# Settings of a load run

What a run aims at and how long it takes, with the values that hold where the user names none.
-/

namespace RegistryLoad

open RegistryLoad.Text

/-- A registry level and an interest level, the rates at which they are approached, and the
frame of the run. -/
structure Settings where
  registrationRate : Rate
  registryTarget : UInt64
  interestRate : Rate
  interestTarget : UInt64
  duration : TimeSpan
  poolSize : UInt64
  applications : UInt64
  seed : UInt64
  boardPeriod : TimeSpan
  boardFormat : BoardFormat
  boardOutput : Option String
  deriving DecidableEq, Repr

namespace Settings

/-- The largest number of instances that a run prepares. -/
def maxPoolSize : UInt64 := 10000000

/-- A pool that can reach the target with a fifth to spare, and at least one instance more,
as far as 64 bits go. -/
def defaultPoolSize (target : UInt64) : UInt64 :=
  UInt64.ofNat (min (target.toNat + max 1 (target.toNat / 5)) (UInt64.size - 1))

def defaultRegistrationRate : Rate := ⟨10, .second⟩
def defaultRegistryTarget : UInt64 := 10000
def defaultInterestRate : Rate := ⟨1, .second⟩
def defaultInterestTarget : UInt64 := 2000
def defaultDuration : TimeSpan := TimeSpan.ofSeconds 300
def defaultApplications : UInt64 := 100
def defaultSeed : UInt64 := 42
def defaultBoardPeriod : TimeSpan := TimeSpan.ofSeconds 5

/-- The settings of a run about which nothing is said. -/
def standard : Settings where
  registrationRate := defaultRegistrationRate
  registryTarget := defaultRegistryTarget
  interestRate := defaultInterestRate
  interestTarget := defaultInterestTarget
  duration := defaultDuration
  poolSize := defaultPoolSize defaultRegistryTarget
  applications := defaultApplications
  seed := defaultSeed
  boardPeriod := defaultBoardPeriod
  boardFormat := .table
  boardOutput := none

/-- One line about the settings.  The duration is given in whole seconds. -/
def text (s : Settings) : List Char :=
  "registration_rate=".toList ++ s.registrationRate.text ++
  ", target_registry_level=".toList ++ decimal s.registryTarget.toNat ++
  ", interest_rate=".toList ++ s.interestRate.text ++
  ", target_interest_level=".toList ++ decimal s.interestTarget.toNat ++
  ", test_duration=".toList ++ decimal s.duration.seconds.toNat ++
  "s, pool_size=".toList ++ decimal s.poolSize.toNat ++
  ", apps=".toList ++ decimal s.applications.toNat ++
  ", seed=".toList ++ decimal s.seed.toNat

end Settings

end RegistryLoad
