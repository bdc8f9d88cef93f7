import RegistryLoad.Load.Repeat
import RegistryLoad.Queue.Fifo
import RegistryLoad.Registry.Channel
import RegistryLoad.Topology.Generator

/-!
# Interest subscriptions

Open interest channels in a queue, oldest first.  A tick opens a batch of channels for the next
queries and, while more are open than wanted, closes a batch of the oldest.

* `Subscriptions.tick`: what a tick does to the queue and to the score board.
* `Subscriptions.tick_preserves`: what a tick keeps.
* `Subscriptions.settle`: gives every channel its turn.
-/

namespace RegistryLoad

/-- A sequence of interests by their position, endless or not. -/
abbrev Queries := Nat → Option Interest

/-- The queries of a list, which ends. -/
def Queries.ofList (interests : List Interest) : Queries := fun k => interests[k]?

/-- The endless queries of a generated topology. -/
def Generator.queries (g : Generator) : Queries := fun k => some (g.query k)

/-- The open channels, oldest first; how many queries were used, and the number of the next
channel.  `leaving` are the farewells of the channels that were let go since the last turn. -/
structure Subscriptions where
  queries : Queries
  used : Nat := 0
  nextId : Nat := 0
  active : Fifo Channel := Fifo.empty
  leaving : List Notice := []

/-- What a tick opened and closed. -/
structure Subscribed where
  opened : Nat
  closed : Nat
  deriving DecidableEq, Repr

namespace Subscriptions

/-- A tick under way: the subscriptions and the score board as they are by now, and the notices
given, latest first. -/
structure Turn where
  subscriptions : Subscriptions
  board : Counters
  latestNotices : List Notice := []

namespace Turn

def note (t : Turn) (n : Notice) : Turn := { t with latestNotices := n :: t.latestNotices }

/-- The notices in the order in which they were given. -/
def notices (t : Turn) : List Notice := t.latestNotices.reverse

/-- Opens a channel for the next query, if there is one. -/
def open? (feed : Feed) (t : Turn) : Option Turn :=
  let s := t.subscriptions
  (s.queries s.used).map fun interest =>
    { subscriptions :=
        { s with used := s.used + 1, nextId := s.nextId + 1,
                 active := s.active.push (Channel.opening feed s.nextId interest) }
      board := t.board.addInterest.openInterest
      latestNotices := .channelOpened s.nextId interest :: t.latestNotices }

/-- Closes the oldest channel and lets it go, if more than `target` are open.  A channel that
somebody else had closed before is only let go. -/
def close? (target : UInt64) (t : Turn) : Option Turn :=
  let s := t.subscriptions
  if s.active.size ≤ target.toNat then none
  else s.active.pop?.map fun (channel, active) =>
    let (wasOpen, channel) := channel.close
    { subscriptions := { s with active := active, leaving := s.leaving ++ channel.farewell }
      board := if wasOpen then t.board.closeInterest else t.board
      latestNotices := .channelClosed channel.id :: t.latestNotices }

/-- All that an opening does. -/
theorem open?_eq_some {feed : Feed} {t t' : Turn} (h : t.open? feed = some t') :
    ∃ interest, t.subscriptions.queries t.subscriptions.used = some interest ∧
      t'.subscriptions.queries = t.subscriptions.queries ∧
      t'.subscriptions.used = t.subscriptions.used + 1 ∧
      t'.subscriptions.nextId = t.subscriptions.nextId + 1 ∧
      t'.subscriptions.active.toList = t.subscriptions.active.toList ++
        [Channel.opening feed t.subscriptions.nextId interest] ∧
      t'.subscriptions.leaving = t.subscriptions.leaving ∧
      t'.board = t.board.addInterest.openInterest ∧
      t'.notices = t.notices ++ [.channelOpened t.subscriptions.nextId interest] := by
  obtain ⟨interest, hq, ht⟩ := Option.map_eq_some_iff.mp h
  subst ht
  exact ⟨interest, hq, rfl, rfl, rfl, Fifo.toList_push _ _, rfl, rfl, List.reverse_cons⟩

/-- All that a closing does. -/
theorem close?_eq_some {target : UInt64} {t t' : Turn} (h : t.close? target = some t') :
    target.toNat < t.subscriptions.active.size ∧
    ∃ channel, t.subscriptions.active.toList = channel :: t'.subscriptions.active.toList ∧
      t'.subscriptions.queries = t.subscriptions.queries ∧
      t'.subscriptions.used = t.subscriptions.used ∧
      t'.subscriptions.nextId = t.subscriptions.nextId ∧
      t'.subscriptions.leaving = t.subscriptions.leaving ++ channel.close.2.farewell ∧
      t'.board = (if channel.closed then t.board else t.board.closeInterest) ∧
      t'.notices = t.notices ++ [.channelClosed channel.id] := by
  unfold close? at h
  dsimp only at h
  split at h
  · cases h
  · rename_i habove
    obtain ⟨⟨channel, active⟩, hpop, ht⟩ := Option.map_eq_some_iff.mp h
    subst ht
    refine ⟨Nat.lt_of_not_le habove, channel, Fifo.toList_of_pop?_eq_some hpop, rfl, rfl, rfl, rfl,
      ?_, List.reverse_cons⟩
    cases hc : channel.closed <;> simp [Channel.close, hc]

theorem close?_eq_none_iff (target : UInt64) (t : Turn) :
    t.close? target = none ↔ t.subscriptions.active.size ≤ target.toNat := by
  unfold close?
  dsimp only
  split
  · rename_i hle
    exact ⟨fun _ => hle, fun _ => rfl⟩
  · rename_i habove
    rw [Option.map_eq_none_iff, Fifo.pop?_eq_none_iff]
    constructor
    · intro hnil
      rw [Fifo.size_eq_length, hnil]
      exact Nat.zero_le _
    · intro hle
      exact absurd hle habove

/-- Opens a batch, and complains if the queries run out. -/
def openBatch (feed : Feed) (batch : UInt64) (t : Turn) : Nat × Turn :=
  let (n, t) := steps (open? feed) batch.toNat t
  (n, if n < batch.toNat then t.note (.queriesExhausted n) else t)

/-- What openings and complaints keep, the opening of a batch keeps. -/
theorem openBatch_preserves {P : Turn → Prop} {feed : Feed}
    (hopen : ∀ t t', P t → t.open? feed = some t' → P t')
    (hnote : ∀ t opened, P t → P (t.note (.queriesExhausted opened))) (batch : UInt64) {t : Turn}
    (h : P t) : P (openBatch feed batch t).2 := by
  have hs := steps_preserves hopen batch.toNat h
  unfold openBatch
  dsimp only
  split
  · exact hnote _ _ hs
  · exact hs

/-- Closes at most a batch, down to the target. -/
def closeBatch (batch target : UInt64) (t : Turn) : Nat × Turn :=
  steps (close? target) batch.toNat t

end Turn

/-- A tick with batches of `batch` while `target` channels should be open. -/
def tick (feed : Feed) (batch target : UInt64) (s : Subscriptions) (board : Counters) :
    Subscribed × Turn :=
  let (opened, t) := Turn.openBatch feed batch { subscriptions := s, board := board }
  let (closed, t) := t.closeBatch batch target
  (⟨opened, closed⟩, t)

/-- What openings, closings and complaints keep, a tick keeps. -/
theorem tick_preserves {P : Turn → Prop} {feed : Feed} {target : UInt64}
    (hopen : ∀ t t', P t → t.open? feed = some t' → P t')
    (hclose : ∀ t t', P t → t.close? target = some t' → P t')
    (hnote : ∀ t opened, P t → P (t.note (.queriesExhausted opened))) (batch : UInt64)
    (s : Subscriptions) (board : Counters) (h : P { subscriptions := s, board := board }) :
    P (s.tick feed batch target board).2 := by
  have hopened := Turn.openBatch_preserves hopen hnote batch h
  exact steps_preserves hclose batch.toNat hopened

/-- Gives every open channel its turn, and lets the others say farewell. -/
def settle (feed : Feed) (s : Subscriptions) : Subscriptions × List Notice :=
  let turns := s.active.toList.map (Channel.settle feed)
  ({ s with active := Fifo.ofList (turns.map (·.1)), leaving := [] },
   s.leaving ++ turns.flatMap (·.2))

/-- Takes the oldest channel out of the queue and lets it go. -/
def dropOldest (s : Subscriptions) : Option (Channel × Subscriptions) :=
  s.active.pop?.map fun (channel, active) =>
    (channel, { s with active := active, leaving := s.leaving ++ channel.farewell })

/-- Closes the oldest channel and leaves it in the queue.  The answer says whether it was
open. -/
def closeOldest (s : Subscriptions) : Option (Bool × Subscriptions) :=
  s.active.toList.head?.map fun channel =>
    let (wasOpen, channel) := channel.close
    (wasOpen, { s with active := s.active.replaceOldest channel })

/-- Begins again with other queries: the old channels are let go, and the numbers of the new
ones follow on. -/
def restart (s : Subscriptions) (queries : Queries) : Subscriptions where
  queries := queries
  nextId := s.nextId
  leaving := s.leaving ++ s.active.toList.flatMap Channel.farewell

end Subscriptions

end RegistryLoad
