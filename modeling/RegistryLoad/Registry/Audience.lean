import RegistryLoad.Registry.Channel

/-!
# The audience of a registry

A registry with everybody who listens to it: listeners, who read its feed when they are asked
to, and interest channels, which read it whenever they get a turn.

* `Audience.hear?`: what a listener finds on the feed.
* `Audience.settle`: the turn of all channels.
* `Audience.delivered`: what the channels have counted so far.
-/

namespace RegistryLoad

/-- A registry, how far each listener has read, and the channels in the order of their opening;
a channel that was let go leaves its place empty.  `leaving` are the farewells of the channels
that were let go since the last turn. -/
structure Audience where
  store : Store
  listeners : Array Nat := #[]
  channels : Array (Option Channel) := #[]
  leaving : List Notice := []
  journal : Journal := {}

/-- What a listener finds: the number of changes lost to it, those it still gets, oldest first,
and whether no more can follow. -/
structure Heard where
  missed : Nat
  changes : List Change
  ended : Bool
  deriving Repr

namespace Audience

/-- A registry with the given window and nobody who listens. -/
def create? (capacity : UInt64) : Option Audience :=
  (Store.create? capacity).map fun store => { store := store }

/-! ## The registry -/

def register (a : Audience) (source : Source) (i : Instance) :
    Except RegistryError Bool × Audience :=
  let (answer, store) := a.store.register source i
  (answer, { a with store := store })

def unregister (a : Audience) (source : Source) (i : Instance) :
    Except RegistryError Bool × Audience :=
  let (answer, store) := a.store.unregister source i
  (answer, { a with store := store })

/-- Shuts the registry down. -/
def shutDown (a : Audience) : Audience :=
  { a with store := a.store.shutDown, journal := a.journal.noteAll a.store.shutDownNotices }

/-- Gives the registry up: its feed ends. -/
def release (a : Audience) : Audience := { a with store := a.store.closeFeed }

/-! ## Listeners -/

/-- A further listener, who hears of every change from now on.  The answer is its number. -/
def listen (a : Audience) : Nat × Audience :=
  (a.listeners.size, { a with listeners := a.listeners.push a.store.feed.count })

/-- Listener `k` reads the feed to its end. -/
def hear? (a : Audience) (k : Nat) : Option (Heard × Audience) :=
  a.listeners[k]?.map fun seen =>
    let feed := a.store.feed
    let (missed, fresh) := feed.unread seen
    (⟨missed, fresh, feed.closed⟩,
      { a with listeners := a.listeners.setIfInBounds k feed.count })

/-! ## Channels -/

/-- The channel with number `k`, unless it was let go. -/
def channel? (a : Audience) (k : Nat) : Option Channel := a.channels[k]?.join

/-- A further channel. -/
def openChannel (a : Audience) (interest : Interest) : Channel × Audience :=
  let channel := Channel.opening a.store.feed a.channels.size interest
  (channel, { a with channels := a.channels.push (some channel) })

/-- Closes channel `k`.  The answer says whether it was open. -/
def close? (a : Audience) (k : Nat) : Option (Bool × Audience) :=
  (a.channel? k).map fun channel =>
    let (wasOpen, channel) := channel.close
    (wasOpen, { a with channels := a.channels.setIfInBounds k (some channel) })

/-- Lets channel `k` go. -/
def dropChannel (a : Audience) (k : Nat) : Audience :=
  match a.channel? k with
  | some channel =>
    { a with
      channels := a.channels.setIfInBounds k none
      leaving := a.leaving ++ channel.farewell }
  | none => a

/-- Gives every channel its turn, and lets those that were let go say farewell. -/
def settle (a : Audience) : Audience :=
  let turns := a.channels.map (Option.map (Channel.settle a.store.feed))
  { a with
    channels := turns.map (Option.map (·.1))
    leaving := []
    journal := (a.journal.noteAll a.leaving).noteAll
      (turns.toList.flatMap fun turn => (turn.map (·.2)).getD []) }

/-- What the channels have counted so far; nothing for those that were let go. -/
def delivered (a : Audience) : List (Option Nat) :=
  a.channels.toList.map (Option.map Channel.delivered)

end Audience

end RegistryLoad
