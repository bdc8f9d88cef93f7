import RegistryLoad.Registry.Instance

/-!
# The feed of changes

Every change of the registry is announced on a feed.  A listener remembers how many changes had
been announced when it last looked.  Only the latest changes are kept for it, as many as the
feed's window holds; what lies further back is lost to it.

* `Feed.unread`: how many changes a listener lost, and those it still gets.
-/

namespace RegistryLoad

/-- What happened to an instance. -/
inductive ChangeKind where
  | added
  | deleted
  deriving DecidableEq, Repr

/-- A change, with the copy of the instance that it is about. -/
structure Change where
  kind : ChangeKind
  subject : Instance
  deriving DecidableEq, Repr

/-- The changes that were announced, latest first, and the size of the window. -/
structure Feed where
  window : Nat
  latest : List Change := []
  count : Nat := 0
  closed : Bool := false
  deriving Repr

namespace Feed

/-- The smallest power of two that is not below `n`. -/
def roundUp (n : Nat) : Nat := Nat.nextPowerOfTwo n

/-- No window of more changes than this can be held in memory. -/
def maxWindow : Nat := Nat.pow 2 57

/-- A feed whose window holds `capacity` changes, and at least one, rounded up to a power of
two.  There is none if memory cannot hold the window. -/
def create? (capacity : UInt64) : Option Feed :=
  let window := roundUp (max 1 capacity.toNat)
  if window ≤ maxWindow then some { window := window } else none

/-- The window of a feed for which no size is asked. -/
def defaultWindow : Nat := 1024

/-- Announces a change. -/
def announce (f : Feed) (c : Change) : Feed :=
  { f with latest := c :: f.latest, count := f.count + 1 }

/-- Announces nothing more. -/
def close (f : Feed) : Feed := { f with closed := true }

/-- All changes in the order of their announcement. -/
def history (f : Feed) : List Change := f.latest.reverse

/-- What a listener finds who last looked after `seen` announcements: the number of changes
that left the window meanwhile, and the ones within it, oldest first. -/
def unread (f : Feed) (seen : Nat) : Nat × List Change :=
  let waiting := f.count - seen
  (waiting - f.window, (f.latest.take (min waiting f.window)).reverse)

@[simp] theorem history_announce (f : Feed) (c : Change) :
    (f.announce c).history = f.history ++ [c] := by
  simp [history, announce]

end Feed

end RegistryLoad
