import Std.Data.TreeMap.Basic
import RegistryLoad.Registry.Feed

/-!
# The registry

A registry holds, for each instance id, one copy per source.  An id counts once, however many
sources hold it, and leaves with its last copy.  Once shut down a registry refuses every write.

* `Registry`: what a load run asks of a registry.
* `Store`: the registry in memory, which announces its changes on a feed.
-/

namespace RegistryLoad

/-- Why a write is refused. -/
inductive RegistryError where
  | shutDown
  | rejected (id reason : String)
  deriving DecidableEq, Repr

def RegistryError.message : RegistryError → String
  | .shutDown => "Registry has been shut down"
  | .rejected id reason => "Rejected write for instance " ++ id ++ ": " ++ reason

/-- The capability that a load run needs: writes for a source, the number of distinct ids, and a
feed of the changes.  Others may write to the registry between two looks at its size: `afterLook`
is what a look leaves behind. -/
class Registry (ρ : Type) where
  register : ρ → Source → Instance → Except RegistryError Bool × ρ
  unregister : ρ → Source → Instance → Except RegistryError Bool × ρ
  size : ρ → UInt64
  afterLook : ρ → ρ := id
  feed : ρ → Feed

/-- The copies of one instance id, one for each source that holds it. -/
abbrev Copies := List (Source × Instance)

namespace Copies

/-- The copy of a source. -/
def copy? (copies : Copies) (source : Source) : Option Instance :=
  (copies.find? fun entry => entry.1 == source).map (·.2)

/-- The copies of all other sources. -/
def without (copies : Copies) (source : Source) : Copies :=
  copies.filter fun entry => entry.1 != source

/-- The copies with that of one source replaced. -/
def put (copies : Copies) (source : Source) (i : Instance) : Copies :=
  copies.without source ++ [(source, i)]

end Copies

/-- The registry in memory.  `count` is kept up to date by the writes, so that the size can be
told without a look at the entries. -/
structure Store where
  entries : Std.TreeMap String Copies := {}
  count : UInt64 := 0
  feed : Feed := { window := Feed.defaultWindow }
  isShutDown : Bool := false

namespace Store

/-- An empty registry whose feed has the given window, if that can be held in memory. -/
def create? (capacity : UInt64) : Option Store :=
  (Feed.create? capacity).map fun feed => { feed := feed }

/-- The copies of an id; none if the registry does not hold it. -/
def copies (s : Store) (id : String) : Copies := (s.entries.get? id).getD []

/-- The number of distinct ids. -/
def size (s : Store) : Nat := s.count.toNat

/-- Whether a source holds a copy of an id. -/
def contains (s : Store) (id : String) (source : Source) : Bool :=
  ((s.copies id).copy? source).isSome

/-- Refuses every further write. -/
def shutDown (s : Store) : Store := { s with isShutDown := true }

/-- No more announcements follow. -/
def closeFeed (s : Store) : Store := { s with feed := s.feed.close }

/-- Stores the copy of a source and announces it.  The answer says whether no source held the
id before. -/
def register : Store → Source → Instance → Except RegistryError Bool × Store
  | ⟨entries, count, feed, isShutDown⟩, source, i =>
    if isShutDown then (.error .shutDown, ⟨entries, count, feed, isShutDown⟩)
    else
      let copies := (entries.get? i.id).getD []
      let added := copies.isEmpty
      (.ok added,
        ⟨entries.insert i.id (copies.put source i), if added then count + 1 else count,
          feed.announce ⟨.added, i⟩, isShutDown⟩)

/-- Removes the copy that a source holds of the instance's id.  The answer says whether it held
one.  An id that is left without a copy goes, and if a copy went with it, that one is announced
as removed. -/
def unregister : Store → Source → Instance → Except RegistryError Bool × Store
  | ⟨entries, count, feed, isShutDown⟩, source, i =>
    if isShutDown then (.error .shutDown, ⟨entries, count, feed, isShutDown⟩)
    else
      match entries.get? i.id with
      | none => (.ok false, ⟨entries, count, feed, isShutDown⟩)
      | some copies =>
        let others := copies.without source
        let last := others.isEmpty
        let entries := if last then entries.erase i.id else entries.insert i.id others
        let count := if last then count - 1 else count
        match copies.copy? source with
        | none => (.ok false, ⟨entries, count, feed, isShutDown⟩)
        | some copy =>
          let feed := if last then feed.announce ⟨.deleted, copy⟩ else feed
          (.ok true, ⟨entries, count, feed, isShutDown⟩)

instance : Registry Store where
  register := register
  unregister := unregister
  size := count
  feed := feed

end Store

end RegistryLoad
