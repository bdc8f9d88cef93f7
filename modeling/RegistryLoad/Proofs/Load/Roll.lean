import Mathlib.Data.List.DropRight
import Mathlib.Data.List.Induction
import RegistryLoad.Proofs.Load.Level

/-!
# The roll of the channels

Ticks open channels for the queries one after the other, and close them in the order in which they
were opened.  Whoever writes down the channels as they are opened has the closed ones at the
beginning of the list and the open ones at its end; and after a tick it is known where the list is
to be cut.

## Definitions

* `Interests`: a sequence of queries that ends, or an endless one, and how many of the first `n`
  queries there are.
* `Subscriber`: subscriptions with the notices of their ticks, and what ticks and turns of the
  channels do to them.
* `Subscriptions.roll`: the channels that are opened for the first `n` queries.
* `Subscriptions.OnRoll`: the opened channels are the roll, cut into closed and open ones.

## Results

* `Subscriptions.tick_onRoll`, `Subscriptions.settle_onRoll`: ticks and turns keep to the roll.
* `Subscriptions.tick_used`: how many queries a tick uses.
* `Subscriptions.tick_counted`: a tick's openings and closings are all counted.
* `Subscriber.channels_eq_roll`: the channels after any number of ticks.
-/

namespace RegistryLoad

/-! ## Queries -/

/-- Queries one after the other, a list of them or without an end. -/
inductive Interests where
  | listed (interests : List Interest)
  | endless (interests : Nat → Interest)

namespace Interests

/-- The queries by their position. -/
def queries : Interests → Queries
  | listed interests => Queries.ofList interests
  | endless interests => fun k => some (interests k)

/-- How many queries there are among the first `n`. -/
def among (n : Nat) : Interests → Nat
  | listed interests => min n interests.length
  | endless _ => n

@[simp] theorem among_zero (q : Interests) : q.among 0 = 0 := by
  cases q <;> simp [among]

/-- If a batch of queries is taken behind the first `n` until it is full or a query is missing,
then there are as many as were taken. -/
theorem add_eq_among {q : Interests} {n batch taken : Nat}
    (there : ∀ k < q.among n + taken, (q.queries k).isSome) (few : taken ≤ batch)
    (stop : taken = batch ∨ q.queries (q.among n + taken) = none) :
    q.among n + taken = q.among (n + batch) := by
  cases q with
  | listed interests =>
    simp only [among, queries, Queries.ofList, isSome_getElem?, getElem?_eq_none_iff] at *
    have enough : min n interests.length + taken ≤ interests.length := by
      rcases Nat.eq_zero_or_pos (min n interests.length + taken) with none | some
      · omega
      · have last := there (min n interests.length + taken - 1) (by omega)
        omega
    omega
  | endless interests =>
    rcases stop with full | missing
    · simp only [among, full]
    · cases missing

end Interests

/-! ## Notices of openings and closings -/

namespace Notice

/-- The number and the interest of a channel that was opened. -/
def opened? : Notice → Option (Nat × Option Interest)
  | channelOpened id interest => some (id, some interest)
  | _ => none

/-- The number of a channel that was closed. -/
def closed? : Notice → Option Nat
  | channelClosed id => some id
  | _ => none

end Notice

/-- The channels that notices say were opened, in that order, with their interests. -/
def openings (notices : List Notice) : List (Nat × Option Interest) :=
  notices.filterMap Notice.opened?

/-- The channels that notices say were closed, in that order. -/
def closings (notices : List Notice) : List Nat := notices.filterMap Notice.closed?

theorem openings_concat (notices : List Notice) (n : Notice) :
    openings (notices ++ [n]) = openings notices ++ n.opened?.toList := by
  cases h : n.opened? <;> simp [openings, h]

theorem closings_concat (notices : List Notice) (n : Notice) :
    closings (notices ++ [n]) = closings notices ++ n.closed?.toList := by
  cases h : n.closed? <;> simp [closings, h]

namespace Subscriptions

/-- The numbers and the interests of the channels in the queue, oldest first. -/
def listed (s : Subscriptions) : List (Nat × Option Interest) :=
  s.active.toList.map fun channel => (channel.id, some channel.interest)

/-- The channels for the first `n` queries if the first channel has the number `first`. -/
def roll (queries : Queries) (first n : Nat) : List (Nat × Option Interest) :=
  (List.range n).map fun k => (first + k, queries k)

theorem roll_succ (queries : Queries) (first n : Nat) :
    roll queries first (n + 1) = roll queries first n ++ [(first + n, queries n)] := by
  simp [roll, List.range_succ]

/-- By the notices the channels on the roll were opened, and those that are not in the queue any
more were closed, in the order of the roll. -/
structure OnRoll (queries : Queries) (first : Nat) (notices : List Notice) (s : Subscriptions) :
    Prop where
  queries_eq : s.queries = queries
  nextId_eq : s.nextId = first + s.used
  there : ∀ k < s.used, (queries k).isSome
  openings_eq : openings notices = roll queries first s.used
  cut : ∃ gone, roll queries first s.used = gone ++ s.listed ∧ closings notices = gone.map (·.1)

variable {queries : Queries} {first : Nat}

theorem opening_onRoll (queries : Queries) (first : Nat) :
    OnRoll queries first [] { queries := queries, nextId := first } where
  queries_eq := rfl
  nextId_eq := rfl
  there := fun _ hk => absurd hk (Nat.not_lt_zero _)
  openings_eq := rfl
  cut := ⟨[], rfl, rfl⟩

/-- The cut is at the length of the queue from the end of the roll. -/
theorem OnRoll.eq_cut {notices : List Notice} {s : Subscriptions}
    (h : s.OnRoll queries first notices) :
    s.listed = (roll queries first s.used).rtake s.active.size ∧
      closings notices = ((roll queries first s.used).rdrop s.active.size).map (·.1) := by
  obtain ⟨gone, cut, closed⟩ := h.cut
  have size : s.active.size = s.listed.length := by
    rw [Fifo.size_eq_length, listed, List.length_map]
  have before : (gone ++ s.listed).length - s.listed.length = gone.length := by
    rw [List.length_append, Nat.add_sub_cancel]
  rw [size, cut, closed, List.rtake, List.rdrop, before]
  constructor
  · rw [List.drop_left]
  · rw [List.take_left]

/-! ### Steps of a tick -/

namespace Turn

variable {feed : Feed} {target : UInt64} {earlier : List Notice} {t t' : Turn}

theorem open?_onRoll (h : t.subscriptions.OnRoll queries first (earlier ++ t.notices))
    (ht : t.open? feed = some t') :
    t'.subscriptions.OnRoll queries first (earlier ++ t'.notices) := by
  obtain ⟨interest, query, queries', used, nextId, active, -, -, notices⟩ := open?_eq_some ht
  rw [h.queries_eq] at query
  have listed' : t'.subscriptions.listed =
      t.subscriptions.listed ++ [(first + t.subscriptions.used, some interest)] := by
    rw [listed, active, List.map_append, ← h.nextId_eq]
    rfl
  have rolled : roll queries first t'.subscriptions.used =
      roll queries first t.subscriptions.used
        ++ [(first + t.subscriptions.used, some interest)] := by
    rw [used, roll_succ, query]
  constructor
  · rw [queries', h.queries_eq]
  · rw [nextId, used, h.nextId_eq, Nat.add_assoc]
  · intro k hk
    rw [used] at hk
    rcases Nat.lt_succ_iff_lt_or_eq.mp hk with before | now
    · exact h.there k before
    · rw [now, query]
      rfl
  · rw [notices, ← List.append_assoc, openings_concat, h.openings_eq, rolled, h.nextId_eq]
    rfl
  · obtain ⟨gone, cut, closed⟩ := h.cut
    refine ⟨gone, ?_, ?_⟩
    · rw [rolled, listed', cut, List.append_assoc]
    · rw [notices, ← List.append_assoc, closings_concat, closed]
      exact List.append_nil _

theorem close?_onRoll (h : t.subscriptions.OnRoll queries first (earlier ++ t.notices))
    (ht : t.close? target = some t') :
    t'.subscriptions.OnRoll queries first (earlier ++ t'.notices) := by
  obtain ⟨-, channel, active, queries', used, nextId, -, -, notices⟩ := close?_eq_some ht
  constructor
  · rw [queries', h.queries_eq]
  · rw [nextId, used, h.nextId_eq]
  · rw [used]
    exact h.there
  · rw [notices, ← List.append_assoc, openings_concat, h.openings_eq, used]
    exact List.append_nil _
  · -- The oldest channel moves across the cut.
    obtain ⟨gone, cut, closed⟩ := h.cut
    refine ⟨gone ++ [(channel.id, some channel.interest)], ?_, ?_⟩
    · rw [used, cut, listed, active, List.append_assoc]
      rfl
    · rw [notices, ← List.append_assoc, closings_concat, closed, List.map_append]
      rfl

theorem note_onRoll (h : t.subscriptions.OnRoll queries first (earlier ++ t.notices))
    (opened : Nat) :
    (t.note (.queriesExhausted opened)).subscriptions.OnRoll queries first
      (earlier ++ (t.note (.queriesExhausted opened)).notices) := by
  have notices : (t.note (.queriesExhausted opened)).notices =
      t.notices ++ [.queriesExhausted opened] := List.reverse_cons
  constructor
  · exact h.queries_eq
  · exact h.nextId_eq
  · exact h.there
  · rw [notices, ← List.append_assoc, openings_concat]
    exact (List.append_nil _).trans h.openings_eq
  · rw [notices, ← List.append_assoc, closings_concat]
    obtain ⟨gone, cut, closed⟩ := h.cut
    exact ⟨gone, cut, (List.append_nil _).trans closed⟩

end Turn

variable {notices : List Notice} {s : Subscriptions}

theorem tick_onRoll (h : s.OnRoll queries first notices) (feed : Feed) (batch target : UInt64)
    (board : Counters) :
    (s.tick feed batch target board).2.subscriptions.OnRoll queries first
      (notices ++ (s.tick feed batch target board).2.notices) := by
  refine tick_preserves
    (P := fun t => t.subscriptions.OnRoll queries first (notices ++ t.notices))
    (fun _ _ => Turn.open?_onRoll) (fun _ _ => Turn.close?_onRoll)
    (fun _ opened h => Turn.note_onRoll h opened) batch s board ?_
  have none : notices ++ ({ subscriptions := s, board := board } : Turn).notices = notices :=
    List.append_nil _
  rw [none]
  exact h

/-- The channels keep their places in their turns. -/
theorem settle_onRoll (h : s.OnRoll queries first notices) (feed : Feed) :
    (s.settle feed).1.OnRoll queries first notices := by
  have listed_eq : (s.settle feed).1.listed = s.listed := by
    simp [settle, listed, Function.comp_def]
  constructor
  · exact h.queries_eq
  · exact h.nextId_eq
  · exact h.there
  · exact h.openings_eq
  · rw [listed_eq]
    exact h.cut

/-! ### What a tick counts -/

/-- A tick uses a batch of queries, or all that are left. -/
theorem tick_used {target : UInt64} (h : s.AtLevel target) (feed : Feed) (batch : UInt64)
    (board : Counters) :
    ∃ k ≤ batch.toNat, (s.tick feed batch target board).2.subscriptions.used = s.used + k ∧
      (k = batch.toNat ∨ s.queries (s.used + k) = none) := by
  obtain ⟨k, few, used, size, stop⟩ :=
    Turn.openBatch_size feed batch { subscriptions := s, board := board }
  dsimp only at used size stop
  unfold AtLevel at h
  obtain ⟨used', -⟩ := Turn.closeBatch_size batch target
    (Turn.openBatch feed batch { subscriptions := s, board := board }).2 (by omega)
  exact ⟨k, few, used'.trans used, stop⟩

namespace Turn

variable {feed : Feed} {target : UInt64} {t t' : Turn}

/-- All channels in the queue are open, and the score board counts them. -/
structure Counted (t : Turn) : Prop where
  allOpen : ∀ c ∈ t.subscriptions.active.toList, c.closed = false
  counter : t.board.activeInterests = UInt64.ofNat t.subscriptions.active.size

theorem open?_keeps (h : t.Counted) (ht : t.open? feed = some t') : t'.Counted :=
  ⟨open?_allOpen h.allOpen ht, open?_counted h.counter ht⟩

theorem openBatch_keeps (h : t.Counted) (feed : Feed) (batch : UInt64) :
    (openBatch feed batch t).2.Counted :=
  openBatch_preserves (fun _ _ => open?_keeps) (fun _ _ h => ⟨h.allOpen, h.counter⟩) batch h

theorem close?_keeps (h : t.Counted ∧ t.subscriptions.active.size < 2 ^ 64)
    (ht : t.close? target = some t') :
    t'.Counted ∧ t'.subscriptions.active.size < 2 ^ 64 := by
  obtain ⟨counted, few⟩ := h
  obtain ⟨-, counter⟩ := close?_counted counted.counter few counted.allOpen ht
  obtain ⟨-, size⟩ := close?_size ht
  exact ⟨⟨close?_allOpen counted.allOpen ht, counter⟩, by omega⟩

/-- The tick under way after its openings and `k` of its closings. -/
def midway (feed : Feed) (batch target : UInt64) (s : Subscriptions) (board : Counters) (k : Nat) :
    Turn :=
  (steps (close? target) k (openBatch feed batch { subscriptions := s, board := board }).2).2

end Turn

section Midway

variable {target : UInt64} {feed : Feed} {batch : UInt64} {board : Counters}

theorem close?_midway {k : Nat} (hk : k < (s.tick feed batch target board).1.closed) :
    ∃ t', (Turn.midway feed batch target s board k).close? target = some t' :=
  steps_possible hk

/-- A tick only closes open channels. -/
theorem head_midway (allOpen : ∀ c ∈ s.active.toList, c.closed = false) {k : Nat}
    (hk : k < (s.tick feed batch target board).1.closed) :
    ∃ c, (Turn.midway feed batch target s board k).subscriptions.active.toList.head? = some c ∧
      c.closed = false := by
  have opened : ∀ c ∈ (Turn.openBatch feed batch
      { subscriptions := s, board := board }).2.subscriptions.active.toList, c.closed = false :=
    Turn.openBatch_preserves
      (P := fun t => ∀ c ∈ t.subscriptions.active.toList, c.closed = false)
      (fun _ _ => Turn.open?_allOpen) (fun _ _ h => h) batch allOpen
  have midway : ∀ c ∈ (Turn.midway feed batch target s board k).subscriptions.active.toList,
      c.closed = false :=
    steps_preserves (P := fun t : Turn => ∀ c ∈ t.subscriptions.active.toList, c.closed = false)
      (fun _ _ => Turn.close?_allOpen) k opened
  obtain ⟨t', ht⟩ := close?_midway hk
  obtain ⟨-, channel, active, -⟩ := Turn.close?_eq_some ht
  rw [active] at midway ⊢
  exact ⟨channel, rfl, midway channel List.mem_cons_self⟩

/-- While a tick closes channels, the open ones are counted: never are more of them open than the
level and a batch, or than there were queries. -/
theorem counted_midway (level : s.AtLevel target)
    (counted : Turn.Counted { subscriptions := s, board := board })
    (few : min (s.tick feed batch target board).2.subscriptions.used
      (target.toNat + batch.toNat) < 2 ^ 64) (k : Nat) :
    (Turn.midway feed batch target s board k).Counted ∧
      (Turn.midway feed batch target s board k).subscriptions.active.size < 2 ^ 64 := by
  have opened := Turn.openBatch_keeps counted feed batch
  have small : (Turn.openBatch feed batch
      { subscriptions := s, board := board }).2.subscriptions.active.size < 2 ^ 64 := by
    obtain ⟨j, le, used, size, -⟩ :=
      Turn.openBatch_size feed batch { subscriptions := s, board := board }
    dsimp only at used size
    unfold AtLevel at level
    obtain ⟨used', -⟩ := Turn.closeBatch_size batch target
      (Turn.openBatch feed batch { subscriptions := s, board := board }).2 (by omega)
    have used_eq : (s.tick feed batch target board).2.subscriptions.used = s.used + j :=
      used'.trans used
    omega
  exact steps_preserves (P := fun t : Turn => t.Counted ∧ t.subscriptions.active.size < 2 ^ 64)
    (fun _ _ => Turn.close?_keeps) k ⟨opened, small⟩

/-- **A closing is always counted off**: the counter of the open channels is never at zero then. -/
theorem counter_midway_ne_zero (level : s.AtLevel target)
    (counted : Turn.Counted { subscriptions := s, board := board })
    (few : min (s.tick feed batch target board).2.subscriptions.used
      (target.toNat + batch.toNat) < 2 ^ 64) {k : Nat}
    (hk : k < (s.tick feed batch target board).1.closed) :
    (Turn.midway feed batch target s board k).board.activeInterests ≠ 0 := by
  obtain ⟨midway, small⟩ := counted_midway level counted few k
  obtain ⟨t', ht⟩ := close?_midway hk
  exact (Turn.close?_counted midway.counter small midway.allOpen ht).1

theorem tick_counted (level : s.AtLevel target)
    (counted : Turn.Counted { subscriptions := s, board := board })
    (few : min (s.tick feed batch target board).2.subscriptions.used
      (target.toNat + batch.toNat) < 2 ^ 64) :
    (s.tick feed batch target board).2.Counted :=
  (counted_midway level counted few batch.toNat).1

end Midway

end Subscriptions

/-! ## Runs -/

/-- Subscriptions with their score board and the notices of their ticks. -/
structure Subscriber where
  subscriptions : Subscriptions
  board : Counters := {}
  notices : List Notice := []

namespace Subscriber

/-- What happens to subscriptions that nobody else works on: a tick, or the channels have their
turns, each with the feed as it is by then. -/
inductive Occasion where
  | tick (feed : Feed)
  | turns (feed : Feed)

def Occasion.isTick : Occasion → Bool
  | tick _ => true
  | turns _ => false

/-- Nothing was opened so far, and the first channel will have the number `first`. -/
def opening (queries : Queries) (first : Nat) : Subscriber where
  subscriptions := { queries := queries, nextId := first }

def happen (batch target : UInt64) (s : Subscriber) : Occasion → Subscriber
  | .tick feed =>
    let turn := (s.subscriptions.tick feed batch target s.board).2
    { subscriptions := turn.subscriptions
      board := turn.board
      notices := s.notices ++ turn.notices }
  | .turns feed => { s with subscriptions := (s.subscriptions.settle feed).1 }

def after (batch target : UInt64) (s : Subscriber) (occasions : List Occasion) : Subscriber :=
  occasions.foldl (happen batch target) s

/-- What holds after some ticks: the channels are on the roll, which is known to its full length,
and those in the queue are as many as are wanted and are all open and counted. -/
structure Kept (interests : Interests) (first : Nat) (batch target : UInt64) (ticks : Nat)
    (s : Subscriber) : Prop where
  onRoll : s.subscriptions.OnRoll interests.queries first s.notices
  used_eq : s.subscriptions.used = interests.among (ticks * batch.toNat)
  level : s.subscriptions.AtLevel target
  shown : s.subscriptions.Shown s.board
  counter : min s.subscriptions.used (target.toNat + batch.toNat) < 2 ^ 64 →
    s.board.activeInterests = UInt64.ofNat s.subscriptions.active.size

variable {interests : Interests} {first : Nat} {batch target : UInt64} {ticks : Nat}
  {s : Subscriber}

theorem opening_kept (interests : Interests) (first : Nat) (batch target : UInt64) :
    (opening interests.queries first).Kept interests first batch target 0 where
  onRoll := Subscriptions.opening_onRoll interests.queries first
  used_eq := by rw [Nat.zero_mul, Interests.among_zero]; rfl
  level := (Nat.zero_min _).symm
  shown := ⟨by simp [opening], Nat.le_refl _, rfl, fun _ => rfl⟩
  counter := fun _ => rfl

/-- The next tick uses the next batch of queries. -/
theorem Kept.used_tick (h : s.Kept interests first batch target ticks) (feed : Feed) :
    (s.subscriptions.tick feed batch target s.board).2.subscriptions.used
      = interests.among ((ticks + 1) * batch.toNat) := by
  obtain ⟨k, few, used, stop⟩ := Subscriptions.tick_used h.level feed batch s.board
  have there := (Subscriptions.tick_onRoll h.onRoll feed batch target s.board).there
  rw [h.onRoll.queries_eq, h.used_eq] at stop
  rw [used, h.used_eq] at there ⊢
  rw [Nat.add_mul, Nat.one_mul]
  exact Interests.add_eq_among there few stop

/-- The open channels are counted when the next tick begins, if they can be to its end. -/
theorem Kept.counted (h : s.Kept interests first batch target ticks) (feed : Feed)
    (few : min (s.subscriptions.tick feed batch target s.board).2.subscriptions.used
      (target.toNat + batch.toNat) < 2 ^ 64) :
    Subscriptions.Turn.Counted { subscriptions := s.subscriptions, board := s.board } := by
  obtain ⟨k, -, used, -⟩ := Subscriptions.tick_used h.level feed batch s.board
  exact ⟨h.shown.allOpen, h.counter (by omega)⟩

theorem Kept.tick (h : s.Kept interests first batch target ticks) (feed : Feed) :
    (s.happen batch target (.tick feed)).Kept interests first batch target (ticks + 1) where
  onRoll := Subscriptions.tick_onRoll h.onRoll feed batch target s.board
  used_eq := h.used_tick feed
  level := Subscriptions.tick_atLevel h.level feed batch s.board
  shown := Subscriptions.tick_shown h.shown feed batch target
  counter few := (Subscriptions.tick_counted h.level (h.counted feed few) few).counter

theorem Kept.turns (h : s.Kept interests first batch target ticks) (feed : Feed) :
    (s.happen batch target (.turns feed)).Kept interests first batch target ticks where
  onRoll := Subscriptions.settle_onRoll h.onRoll feed
  used_eq := h.used_eq
  level := Subscriptions.settle_atLevel h.level feed
  shown := Subscriptions.settle_shown h.shown feed
  counter few := by
    obtain ⟨-, size, -⟩ := s.subscriptions.settle_frame feed
    show s.board.activeInterests = UInt64.ofNat (s.subscriptions.settle feed).1.active.size
    rw [size]
    exact h.counter few

theorem after_kept (interests : Interests) (first : Nat) (batch target : UInt64)
    (occasions : List Occasion) :
    ((opening interests.queries first).after batch target occasions).Kept interests first batch
      target (occasions.countP Occasion.isTick) := by
  induction occasions using List.reverseRecOn with
  | nil => exact opening_kept interests first batch target
  | append_singleton occasions occasion ih =>
    rw [after, List.foldl_append, ← after, List.countP_append]
    cases occasion with
    | tick feed => exact ih.tick feed
    | turns feed => exact ih.turns feed

/-- **The channels after any number of ticks.**  Give a subscriber queries that end or do not end,
and let ticks and turns of the channels follow each other.  After some ticks, let `n` be the number
of the queries in as many batches.  Then a channel was opened for each of the first `n` queries, in
their order; the last ones on this roll, as many as are wanted, are in the queue in the same order,
and all are open; the others, and only they, were closed, each of them once and in the same order.
The score board counts the opened channels, modulo 64 bits, and the open ones, as long as 64 bits
can count all that are open at one time; memory ends before they do.  In the next tick, whenever a
channel is closed, it is the oldest one and was open, and under the same condition the counter of
the open ones is not at zero. -/
theorem channels_eq_roll (interests : Interests) (first : Nat) (batch target : UInt64)
    (occasions : List Occasion) :
    let s := (opening interests.queries first).after batch target occasions
    let ticks := occasions.countP Occasion.isTick
    let n := interests.among (ticks * batch.toNat)
    let next := interests.among ((ticks + 1) * batch.toNat)
    let level := min n target.toNat
    let roll := Subscriptions.roll interests.queries first n
    openings s.notices = roll ∧
      closings s.notices = (roll.rdrop level).map (·.1) ∧
      s.subscriptions.listed = roll.rtake level ∧
      (∀ c ∈ s.subscriptions.active.toList, c.closed = false) ∧
      s.board.interests = UInt64.ofNat n ∧
      (min n (target.toNat + batch.toNat) < 2 ^ 64 → s.board.activeInterests.toNat = level) ∧
      ∀ feed, ∀ k < (s.subscriptions.tick feed batch target s.board).1.closed,
        let closing := Subscriptions.Turn.midway feed batch target s.subscriptions s.board k
        (∃ c, closing.subscriptions.active.toList.head? = some c ∧ c.closed = false) ∧
          (min next (target.toNat + batch.toNat) < 2 ^ 64 →
            closing.board.activeInterests ≠ 0) := by
  intro s ticks n next level roll
  have kept : s.Kept interests first batch target ticks :=
    after_kept interests first batch target occasions
  have used : s.subscriptions.used = n := kept.used_eq
  have size : s.subscriptions.active.size = level := by
    have atLevel := kept.level
    rw [Subscriptions.AtLevel, used] at atLevel
    exact atLevel
  have opened : openings s.notices = roll := by
    have all := kept.onRoll.openings_eq
    rw [used] at all
    exact all
  obtain ⟨listed, closed⟩ := kept.onRoll.eq_cut
  rw [used, size] at listed closed
  refine ⟨opened, closed, listed, kept.shown.allOpen, ?_, ?_, ?_⟩
  · rw [kept.shown.interests, used]
  · intro few
    have counter := kept.counter (by rw [used]; exact few)
    rw [counter, size]
    exact UInt64.toNat_ofNat_of_lt' (by show level < 2 ^ 64; omega)
  · intro feed k hk closing
    refine ⟨Subscriptions.head_midway kept.shown.allOpen hk, ?_⟩
    intro few
    have used_next : (s.subscriptions.tick feed batch target s.board).2.subscriptions.used = next :=
      kept.used_tick feed
    rw [← used_next] at few
    exact Subscriptions.counter_midway_ne_zero kept.level (kept.counted feed few) few hk

/-- A case of it: three queries in batches of two while one channel is wanted. -/
theorem channels_eq_roll_three :
    let interests := Interests.listed [.fullRegistry, .application "shop", .virtualAddress "v"]
    let feed : Feed := { window := 1 }
    let s := (opening interests.queries 5).after 2 1 [.tick feed, .turns feed]
    closings s.notices = [5] ∧ s.subscriptions.listed = [(6, some (.application "shop"))] ∧
      s.board.activeInterests.toNat = 1 ∧
      (Subscriptions.Turn.midway feed 2 1 s.subscriptions s.board 0).board.activeInterests ≠ 0 := by
  intro interests feed s
  obtain ⟨-, closed, listed, -, -, counter, next⟩ :=
    channels_eq_roll interests 5 2 1 [.tick feed, .turns feed]
  have one : 0 < (s.subscriptions.tick feed 2 1 s.board).1.closed := by decide
  exact ⟨closed, listed, counter (by decide), (next feed 0 one).2 (by decide)⟩

end Subscriber

end RegistryLoad
