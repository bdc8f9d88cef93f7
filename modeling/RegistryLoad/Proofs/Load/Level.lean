import Mathlib.Algebra.Group.Nat.Defs
import RegistryLoad.Load.Subscriptions

/-!
# The level of subscriptions

After each tick as many channels are open as are wanted, or as many as there ever were.

## Definitions

* `Subscriptions.Shown`: all channels in the queue are open, and the score board counts them.
* `Subscriptions.AtLevel`: there are as many of them as wanted, if there ever were.

## Results

* `Turn.open?_counted`, `Turn.close?_counted`: each opening and each closing is counted.
* `Turn.openBatch_size`, `Turn.closeBatch_size`: how many channels a batch opens and closes.
* `Subscriptions.tick_shown`, `Subscriptions.tick_atLevel`: a tick keeps both.
-/

namespace RegistryLoad.Subscriptions

/-- All channels in the queue are open, and the score board counts them and the queries that were
used.  (It counts the channels right as long as it can count the queries: it never counts below
zero, so it must not come round to zero while channels are open.) -/
structure Shown (s : Subscriptions) (board : Counters) : Prop where
  allOpen : ∀ c ∈ s.active.toList, c.closed = false
  size_le : s.active.size ≤ s.used
  interests : board.interests = UInt64.ofNat s.used
  activeInterests : s.used < 2 ^ 64 → board.activeInterests = UInt64.ofNat s.active.size

/-- Only two counters of the score board matter. -/
theorem Shown.board {s : Subscriptions} {board board' : Counters} (h : s.Shown board)
    (interests : board'.interests = board.interests)
    (activeInterests : board'.activeInterests = board.activeInterests) : s.Shown board' where
  allOpen := h.allOpen
  size_le := h.size_le
  interests := interests.trans h.interests
  activeInterests few := activeInterests.trans (h.activeInterests few)

/-- As many channels as are wanted, or one for each query that was used. -/
def AtLevel (target : UInt64) (s : Subscriptions) : Prop :=
  s.active.size = min s.used target.toNat

/-! ## Steps of a tick -/

namespace Turn

variable {feed : Feed} {target : UInt64} {t t' : Turn}

theorem open?_size (ht : t.open? feed = some t') :
    t'.subscriptions.used = t.subscriptions.used + 1 ∧
      t'.subscriptions.active.size = t.subscriptions.active.size + 1 := by
  obtain ⟨interest, -, -, used, -, active, -, -⟩ := open?_eq_some ht
  refine ⟨used, ?_⟩
  rw [Fifo.size_eq_length, active, List.length_append, List.length_singleton,
    ← Fifo.size_eq_length]

theorem close?_size (ht : t.close? target = some t') :
    t'.subscriptions.used = t.subscriptions.used ∧
      t.subscriptions.active.size = t'.subscriptions.active.size + 1 := by
  obtain ⟨-, channel, active, -, used, -, -, -⟩ := close?_eq_some ht
  refine ⟨used, ?_⟩
  rw [Fifo.size_eq_length, active, List.length_cons, ← Fifo.size_eq_length]

theorem open?_allOpen (h : ∀ c ∈ t.subscriptions.active.toList, c.closed = false)
    (ht : t.open? feed = some t') : ∀ c ∈ t'.subscriptions.active.toList, c.closed = false := by
  obtain ⟨interest, -, -, -, -, active, -⟩ := open?_eq_some ht
  intro c known
  rw [active] at known
  rcases List.mem_append.mp known with old | new
  · exact h c old
  · rw [List.mem_singleton.mp new]
    rfl

theorem close?_allOpen (h : ∀ c ∈ t.subscriptions.active.toList, c.closed = false)
    (ht : t.close? target = some t') : ∀ c ∈ t'.subscriptions.active.toList, c.closed = false := by
  obtain ⟨-, channel, active, -⟩ := close?_eq_some ht
  intro c known
  exact h c (by rw [active]; exact List.mem_cons_of_mem _ known)

/-- Each channel that is opened is counted. -/
theorem open?_counted (h : t.board.activeInterests = UInt64.ofNat t.subscriptions.active.size)
    (ht : t.open? feed = some t') :
    t'.board.activeInterests = UInt64.ofNat t'.subscriptions.active.size := by
  obtain ⟨-, size⟩ := open?_size ht
  obtain ⟨interest, -, -, -, -, -, -, board, -⟩ := open?_eq_some ht
  rw [board, size, UInt64.ofNat_add, ← h]
  rfl

/-- Each open channel that is closed is counted off, if 64 bits can count the open ones: then the
counter is not at zero. -/
theorem close?_counted (h : t.board.activeInterests = UInt64.ofNat t.subscriptions.active.size)
    (few : t.subscriptions.active.size < 2 ^ 64)
    (allOpen : ∀ c ∈ t.subscriptions.active.toList, c.closed = false)
    (ht : t.close? target = some t') :
    t.board.activeInterests ≠ 0 ∧
      t'.board.activeInterests = UInt64.ofNat t'.subscriptions.active.size := by
  obtain ⟨-, size⟩ := close?_size ht
  obtain ⟨-, channel, active, -, -, -, -, board, -⟩ := close?_eq_some ht
  have opened : channel.closed = false :=
    allOpen channel (by rw [active]; exact List.mem_cons_self)
  have some : t.board.activeInterests ≠ 0 := by
    rw [h, ne_eq, ← UInt64.toNat_inj, UInt64.toNat_ofNat_of_lt' few, size]
    exact Nat.succ_ne_zero _
  refine ⟨some, ?_⟩
  rw [board, opened, if_neg Bool.false_ne_true, Counters.closeInterest, if_neg some]
  show t.board.activeInterests - 1 = _
  rw [h, size, UInt64.ofNat_add]
  exact UInt64.add_sub_cancel _ _

theorem open?_shown (h : t.subscriptions.Shown t.board) (ht : t.open? feed = some t') :
    t'.subscriptions.Shown t'.board := by
  obtain ⟨used, size⟩ := open?_size ht
  obtain ⟨interest, -, -, -, -, -, -, board, -⟩ := open?_eq_some ht
  have size_le := h.size_le
  constructor
  · exact open?_allOpen h.allOpen ht
  · omega
  · rw [board, used, UInt64.ofNat_add, ← h.interests]
    rfl
  · intro few
    exact open?_counted (h.activeInterests (by omega)) ht

theorem close?_shown (h : t.subscriptions.Shown t.board) (ht : t.close? target = some t') :
    t'.subscriptions.Shown t'.board := by
  obtain ⟨used, size⟩ := close?_size ht
  obtain ⟨-, channel, -, -, -, -, -, board, -⟩ := close?_eq_some ht
  have size_le := h.size_le
  constructor
  · exact close?_allOpen h.allOpen ht
  · omega
  · rw [board, used, ← h.interests]
    split
    · rfl
    · unfold Counters.closeInterest
      split <;> rfl
  · intro few
    rw [used] at few
    exact (close?_counted (h.activeInterests few) (by omega) h.allOpen ht).2

end Turn

theorem tick_shown {s : Subscriptions} {board : Counters} (h : s.Shown board) (feed : Feed)
    (batch target : UInt64) :
    (s.tick feed batch target board).2.subscriptions.Shown
      (s.tick feed batch target board).2.board :=
  tick_preserves (P := fun t => t.subscriptions.Shown t.board) (fun _ _ => Turn.open?_shown)
    (fun _ _ => Turn.close?_shown) (fun _ _ h => h) batch s board h

/-! ## Amounts -/

namespace Turn

/-- A batch opens as many channels as it uses queries, and is only cut short if there is no further
query. -/
theorem openBatch_size (feed : Feed) (batch : UInt64) (t : Turn) :
    ∃ k ≤ batch.toNat,
      (openBatch feed batch t).2.subscriptions.used = t.subscriptions.used + k ∧
        (openBatch feed batch t).2.subscriptions.active.size = t.subscriptions.active.size + k ∧
        (k = batch.toNat ∨ t.subscriptions.queries (t.subscriptions.used + k) = none) := by
  have counted : (steps (open? feed) batch.toNat t).2.subscriptions.queries
        = t.subscriptions.queries ∧
      (steps (open? feed) batch.toNat t).2.subscriptions.used
        = t.subscriptions.used + (steps (open? feed) batch.toNat t).1 ∧
      (steps (open? feed) batch.toNat t).2.subscriptions.active.size
        = t.subscriptions.active.size + (steps (open? feed) batch.toNat t).1 := by
    refine steps_counted (P := fun k (t' : Turn) =>
      t'.subscriptions.queries = t.subscriptions.queries ∧
        t'.subscriptions.used = t.subscriptions.used + k ∧
        t'.subscriptions.active.size = t.subscriptions.active.size + k)
      ?_ batch.toNat ⟨rfl, rfl, rfl⟩
    intro k t₁ t₂ ⟨queries, used, size⟩ ht
    obtain ⟨used', size'⟩ := open?_size ht
    obtain ⟨interest, -, queries', -⟩ := open?_eq_some ht
    exact ⟨queries'.trans queries, by omega, by omega⟩
  obtain ⟨queries, used, size⟩ := counted
  have stop : (steps (open? feed) batch.toNat t).1 = batch.toNat ∨ t.subscriptions.queries
      (t.subscriptions.used + (steps (open? feed) batch.toNat t).1) = none := by
    rcases steps_stop (open? feed) batch.toNat t with all | stuck
    · exact .inl all
    · rw [open?, Option.map_eq_none_iff, queries, used] at stuck
      exact .inr stuck
  refine ⟨(steps (open? feed) batch.toNat t).1, steps_le _ _ _, ?_⟩
  unfold openBatch
  dsimp only
  split <;> exact ⟨used, size, stop⟩

/-- A batch closes what is too much, if that is at most a batch, and nothing else. -/
theorem closeBatch_size (batch target : UInt64) (t : Turn)
    (near : t.subscriptions.active.size ≤ target.toNat + batch.toNat) :
    (t.closeBatch batch target).2.subscriptions.used = t.subscriptions.used ∧
      (t.closeBatch batch target).2.subscriptions.active.size
        = min t.subscriptions.active.size target.toNat := by
  have counted : (steps (close? target) batch.toNat t).2.subscriptions.used = t.subscriptions.used ∧
      (steps (close? target) batch.toNat t).2.subscriptions.active.size
          + (steps (close? target) batch.toNat t).1 = t.subscriptions.active.size ∧
      min t.subscriptions.active.size target.toNat
        ≤ (steps (close? target) batch.toNat t).2.subscriptions.active.size := by
    refine steps_counted (P := fun k (t' : Turn) =>
      t'.subscriptions.used = t.subscriptions.used ∧
        t'.subscriptions.active.size + k = t.subscriptions.active.size ∧
        min t.subscriptions.active.size target.toNat ≤ t'.subscriptions.active.size)
      ?_ batch.toNat ⟨rfl, rfl, Nat.min_le_left _ _⟩
    intro k t₁ t₂ ⟨used, size, above⟩ ht
    obtain ⟨used', size'⟩ := close?_size ht
    have excess := (close?_eq_some ht).1
    exact ⟨by omega, by omega, by omega⟩
  obtain ⟨used, size, above⟩ := counted
  refine ⟨used, ?_⟩
  show (steps (close? target) batch.toNat t).2.subscriptions.active.size = _
  -- Either the whole batch was closed, which was enough, or there was nothing more to close.
  rcases steps_stop (close? target) batch.toNat t with all | stuck
  · omega
  · rw [close?_eq_none_iff] at stuck
    omega

end Turn

/-- **A tick ends at the level**, with at most as many channels as wanted, and with all that were
ever opened as long as these are not more. -/
theorem tick_atLevel {s : Subscriptions} {target : UInt64} (h : s.AtLevel target) (feed : Feed)
    (batch : UInt64) (board : Counters) :
    (s.tick feed batch target board).2.subscriptions.AtLevel target := by
  obtain ⟨k, few, used, size, -⟩ :=
    Turn.openBatch_size feed batch { subscriptions := s, board := board }
  dsimp only at used size
  unfold AtLevel at h ⊢
  obtain ⟨used', size'⟩ := Turn.closeBatch_size batch target
    (Turn.openBatch feed batch { subscriptions := s, board := board }).2 (by omega)
  show ((Turn.openBatch feed batch { subscriptions := s, board := board }).2.closeBatch
    batch target).2.subscriptions.active.size = min ((Turn.openBatch feed batch
      { subscriptions := s, board := board }).2.closeBatch batch target).2.subscriptions.used _
  rw [size', used', size, used, h]
  omega

/-! ## Between the ticks -/

/-- The channels' turns leave them where they are, open ones open. -/
theorem settle_frame (feed : Feed) (s : Subscriptions) :
    (s.settle feed).1.used = s.used ∧ (s.settle feed).1.active.size = s.active.size ∧
      ((∀ c ∈ s.active.toList, c.closed = false) →
        ∀ c ∈ (s.settle feed).1.active.toList, c.closed = false) := by
  refine ⟨rfl, ?_, ?_⟩
  · simp [settle, Fifo.size_eq_length]
  · intro allOpen c known
    simp only [settle, Fifo.toList_ofList, List.map_map, List.mem_map, Function.comp] at known
    obtain ⟨before, known, rfl⟩ := known
    rw [Channel.closed_settle]
    exact allOpen before known

theorem settle_shown {s : Subscriptions} {board : Counters} (h : s.Shown board) (feed : Feed) :
    (s.settle feed).1.Shown board := by
  obtain ⟨used, size, allOpen⟩ := s.settle_frame feed
  refine ⟨allOpen h.allOpen, ?_, ?_, ?_⟩
  · rw [used, size]
    exact h.size_le
  · rw [used]
    exact h.interests
  · rw [used, size]
    exact h.activeInterests

theorem settle_atLevel {s : Subscriptions} {target : UInt64} (h : s.AtLevel target) (feed : Feed) :
    (s.settle feed).1.AtLevel target := by
  obtain ⟨used, size, -⟩ := s.settle_frame feed
  unfold AtLevel
  rw [used, size]
  exact h

end RegistryLoad.Subscriptions
