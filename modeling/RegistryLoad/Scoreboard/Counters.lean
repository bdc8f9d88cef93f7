/-!
# Counters

What a run has done so far.  The counters wrap at 64 bits, except that the number of open
interests never falls below zero.
-/

namespace RegistryLoad

/-- The five counters of the score board. -/
structure Counters where
  registrations : UInt64 := 0
  unregistrations : UInt64 := 0
  interests : UInt64 := 0
  activeInterests : UInt64 := 0
  registrySize : UInt64 := 0
  deriving DecidableEq, Repr, Inhabited

namespace Counters

def addRegistration (c : Counters) : Counters := { c with registrations := c.registrations + 1 }

def addUnregistration (c : Counters) : Counters :=
  { c with unregistrations := c.unregistrations + 1 }

def addInterest (c : Counters) : Counters := { c with interests := c.interests + 1 }

def openInterest (c : Counters) : Counters :=
  { c with activeInterests := c.activeInterests + 1 }

/-- One open interest less, unless there is none. -/
def closeInterest (c : Counters) : Counters :=
  if c.activeInterests = 0 then c else { c with activeInterests := c.activeInterests - 1 }

def setRegistrySize (c : Counters) (size : UInt64) : Counters := { c with registrySize := size }

end Counters

end RegistryLoad
