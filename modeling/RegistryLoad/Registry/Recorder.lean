import RegistryLoad.Registry.Store

/-!
# The recording registry

A stand-in for a registry that keeps a list of the calls it accepted and rejects those for
chosen ids.  It does not look at what is registered: every accepted registration adds one to its
size and every accepted removal takes one away, modulo 64 bits.  It announces nothing.
-/

namespace RegistryLoad

/-- The two kinds of write. -/
inductive WriteKind where
  | register
  | unregister
  deriving DecidableEq, Repr

/-- An accepted write. -/
structure Recorded where
  kind : WriteKind
  id : String
  source : Source
  deriving DecidableEq, Repr

/-- The accepted writes, latest first, and the ids whose writes are rejected. -/
structure Recorder where
  rejecting : List String := []
  latest : List Recorded := []
  size : UInt64 := 0
  deriving Repr

namespace Recorder

/-- The reason given for every rejection. -/
def rejection : String := "test failure"

/-- The accepted writes in the order of their arrival. -/
def calls (r : Recorder) : List Recorded := r.latest.reverse

/-- Records a write, unless its id is to be rejected. -/
def write (r : Recorder) (kind : WriteKind) (id : String) (source : Source) :
    Except RegistryError Bool × Recorder :=
  if r.rejecting.contains id then (.error (.rejected id rejection), r)
  else
    let size := match kind with
      | .register => r.size + 1
      | .unregister => r.size - 1
    (.ok true, { r with latest := ⟨kind, id, source⟩ :: r.latest, size := size })

instance : Registry Recorder where
  register r source i := r.write .register i.id source
  unregister r source i := r.write .unregister i.id source
  size := Recorder.size
  feed _ := { window := Feed.defaultWindow }

end Recorder

end RegistryLoad
