import RegistryLoad.Decimal.Binary64
import RegistryLoad.Scoreboard.Counters

/-!
# Snapshots of the score board

The counters at one moment, with the time that has passed and the rates that follow from it.
-/

namespace RegistryLoad

/-- A copy of the score board. -/
structure Snapshot where
  timestamp : String
  elapsed : Binary64
  counters : Counters
  registrationRate : Binary64
  unregistrationRate : Binary64
  interestRate : Binary64
  deriving DecidableEq, Repr

/-- A reading of the clock: the wall time as text and the seconds since the run began. -/
structure Reading where
  timestamp : String
  elapsed : Binary64
  deriving DecidableEq, Repr

/-- Events per second, and zero as long as no time has passed. -/
def perSecond (count : UInt64) (elapsed : Binary64) : Binary64 :=
  if elapsed.isPositive then (Binary64.ofNat count.toNat).div elapsed else Binary64.zero false

/-- The score board at the moment of a reading. -/
def Counters.snapshot (c : Counters) (now : Reading) : Snapshot where
  timestamp := now.timestamp
  elapsed := now.elapsed
  counters := c
  registrationRate := perSecond c.registrations now.elapsed
  unregistrationRate := perSecond c.unregistrations now.elapsed
  interestRate := perSecond c.interests now.elapsed

end RegistryLoad
