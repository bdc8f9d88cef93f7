import RegistryLoad.Notice
import RegistryLoad.Text.Inspected

/-!
# Interest channels

A channel listens to the feed of a registry on behalf of one interest and counts the changes
that the interest covers.  It reads the feed only when it gets its turn (`settle`), and stops
for good once it was closed or the feed ends.
-/

namespace RegistryLoad

/-- A channel.  `seen` is how far it has read, `listening` whether it still has a turn to come.
`counter` has counted the changes that the interest covers, modulo 64 bits. -/
structure Channel where
  id : Nat
  interest : Interest
  seen : Nat
  counter : UInt64 := 0
  closed : Bool := false
  listening : Bool := true
  deriving Repr

namespace Channel

/-- A channel that hears of every change from now on. -/
def opening (feed : Feed) (id : Nat) (interest : Interest) : Channel where
  id := id
  interest := interest
  seen := feed.count

/-- How many changes the channel has counted. -/
def delivered (c : Channel) : Nat := c.counter.toNat

/-- Closes the channel.  The answer says whether it was open. -/
def close (c : Channel) : Bool × Channel := (!c.closed, { c with closed := true })

/-- Counts the covered ones among the unread changes that are still within the window. -/
def catchUp (feed : Feed) (c : Channel) : Channel × List Notice :=
  let (missed, fresh) := feed.unread c.seen
  let covered := fresh.countP fun change => c.interest.covers change.subject
  ({ c with seen := feed.count, counter := c.counter + UInt64.ofNat covered },
   if missed = 0 then [] else [.channelLagged c.id missed])

/-- The channel's turn.  A closed channel reads no more. -/
def settle (feed : Feed) (c : Channel) : Channel × List Notice :=
  if !c.listening then (c, [])
  else if c.closed then ({ c with listening := false }, [.channelFinished c.id])
  else
    let (c, lag) := c.catchUp feed
    if feed.closed then ({ c with listening := false }, lag ++ [.channelFinished c.id])
    else (c, lag)

/-- A turn changes neither what a channel is nor whether it is closed. -/
theorem settle_frame (feed : Feed) (c : Channel) :
    (c.settle feed).1.id = c.id ∧ (c.settle feed).1.interest = c.interest ∧
      (c.settle feed).1.closed = c.closed := by
  unfold settle
  split
  · exact ⟨rfl, rfl, rfl⟩
  · split
    · exact ⟨rfl, rfl, rfl⟩
    · dsimp only [catchUp]
      split <;> exact ⟨rfl, rfl, rfl⟩

@[simp] theorem id_settle (feed : Feed) (c : Channel) : (c.settle feed).1.id = c.id :=
  (settle_frame feed c).1

@[simp] theorem interest_settle (feed : Feed) (c : Channel) :
    (c.settle feed).1.interest = c.interest := (settle_frame feed c).2.1

@[simp] theorem closed_settle (feed : Feed) (c : Channel) :
    (c.settle feed).1.closed = c.closed := (settle_frame feed c).2.2

/-- What is left to be said of a channel that nobody holds any more. -/
def farewell (c : Channel) : List Notice :=
  if c.listening then [.channelFinished c.id] else []

end Channel

/-! ## Inspection -/

open RegistryLoad.Text

/-- The kind of interest, with its name between quotes. -/
def Interest.inspected : Interest → List Char
  | fullRegistry => "FullRegistry".toList
  | application name => "Application(".toList ++ Text.inspected name.toList ++ [')']
  | virtualAddress address => "VipAddress(".toList ++ Text.inspected address.toList ++ [')']

/-- Number, interest and state of a channel on one line. -/
def Channel.inspected (c : Channel) : List Char :=
  "InterestChannel \x7b id: ".toList ++ decimal c.id ++
    ", interest: ".toList ++ c.interest.inspected ++
    (if c.closed then ", closed: true \x7d" else ", closed: false \x7d").toList

end RegistryLoad
