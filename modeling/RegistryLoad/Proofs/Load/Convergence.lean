import RegistryLoad.Proofs.Load.Following

/-!
# The size that the registry settles at

If the calls of each tick are made before the next one, the size of the registry after a tick
depends only on its size before.  So the sizes follow an orbit of a function of numbers, and it is
known where that orbit ends: at the pool, at a size above the target, or going to and fro between
the pool and a batch less.

## Definitions

* `nextSize`: the size after the next tick.
* `Workload.round`: a tick and all its calls.
* `Workload.Caught`: the books are right, and no call is under way.

## Results

* `Conveyor.tick_size`: how many active instances a tick leaves.
* `nextSize_le`, `le_nextSize`: the band in which the sizes stay.
* `Workload.round_caught`, `Workload.size_iterate`: the sizes follow `nextSize`.
* `Workload.size_converges`: where they begin, stay and end.
-/

namespace RegistryLoad

variable {τ ρ : Type}

/-! ## The active instances of a tick -/

namespace Turn

variable {t t' : Turn τ ρ} {target : UInt64}

theorem register?_size [Registry ρ] (ht : t.register? = some t') :
    t.conveyor.pool.size = t'.conveyor.pool.size + 1 ∧
      t'.conveyor.active.size = t.conveyor.active.size + 1 := by
  obtain ⟨i, pool, active, -⟩ := register?_eq_some ht
  simp [Fifo.size_eq_length, pool, active]

theorem register?_eq_none_iff [Registry ρ] (t : Turn τ ρ) :
    t.register? = none ↔ t.conveyor.pool.size = 0 := by
  rw [register?, Option.map_eq_none_iff, Fifo.pop?_eq_none_iff, Fifo.size_eq_length,
    List.length_eq_zero_iff]

theorem retire?_size [Topology τ] [Registry ρ] (ht : t.retire? target = some t') :
    t.conveyor.active.size = t'.conveyor.active.size + 1 := by
  obtain ⟨-, i, active, -⟩ := retire?_eq_some ht
  simp [Fifo.size_eq_length, active]

theorem retire?_eq_none_iff [Topology τ] [Registry ρ] (target : UInt64) (t : Turn τ ρ) :
    t.retire? target = none ↔
      Registry.size t.registry ≤ target ∨ t.conveyor.active.size = 0 := by
  unfold retire?
  split
  · rename_i reached
    simp [reached]
  · rename_i above
    simp [above, Option.map_eq_none_iff, Fifo.pop?_eq_none_iff, Fifo.size_eq_length]

/-- A batch of registrations takes as many spare instances as there are, up to the batch. -/
theorem registerBatch_count [Registry ρ] (batch : UInt64) (t : Turn τ ρ) :
    (t.registerBatch batch).1 = min batch.toNat t.conveyor.pool.size := by
  have taken : (steps register? batch.toNat t).2.conveyor.pool.size
      + (steps register? batch.toNat t).1 = t.conveyor.pool.size := by
    refine steps_counted (P := fun k (t' : Turn τ ρ) =>
      t'.conveyor.pool.size + k = t.conveyor.pool.size) ?_ batch.toNat rfl
    intro k t₁ t₂ taken ht
    obtain ⟨pool, -⟩ := register?_size ht
    omega
  have few := steps_le register? batch.toNat t
  show (steps register? batch.toNat t).1 = _
  rcases steps_stop register? batch.toNat t with full | stuck
  · omega
  · rw [register?_eq_none_iff] at stuck
    omega

/-- They are active then. -/
theorem registerBatch_size [Registry ρ] (batch : UInt64) (t : Turn τ ρ) :
    (t.registerBatch batch).2.conveyor.active.size
      = t.conveyor.active.size + min batch.toNat t.conveyor.pool.size := by
  have joined : (steps register? batch.toNat t).2.conveyor.active.size
      = t.conveyor.active.size + (steps register? batch.toNat t).1 := by
    refine steps_counted (P := fun k (t' : Turn τ ρ) =>
      t'.conveyor.active.size = t.conveyor.active.size + k) ?_ batch.toNat rfl
    intro k t₁ t₂ joined ht
    obtain ⟨-, active⟩ := register?_size ht
    omega
  obtain ⟨conveyor, -, -⟩ := registerBatch_frame batch t
  rw [conveyor, joined, ← registerBatch_count]
  rfl

theorem registerBatch_registry [Registry ρ]
    (alone : ∀ registry : ρ, Registry.afterLook registry = registry) (batch : UInt64)
    (t : Turn τ ρ) : (t.registerBatch batch).2.registry = t.registry := by
  obtain ⟨-, registry, -⟩ := registerBatch_frame batch t
  rw [registry]
  refine steps_preserves (P := fun t' : Turn τ ρ => t'.registry = t.registry) ?_ batch.toNat rfl
  intro t₁ t₂ registry ht
  obtain ⟨i, -, -, -, registry', -⟩ := register?_eq_some ht
  rw [registry', alone, registry]

/-- While nobody else writes to the registry, a tick does not see its own retirements there: it
retires a whole batch or none, as long as there are active instances. -/
theorem retireBatch_size [Topology τ] [Registry ρ]
    (alone : ∀ registry : ρ, Registry.afterLook registry = registry) (batch target : UInt64)
    (t : Turn τ ρ) :
    (t.retireBatch batch target).2.conveyor.active.size
      = if Registry.size t.registry ≤ target then t.conveyor.active.size
        else t.conveyor.active.size - batch.toNat := by
  have counted : (steps (retire? target) batch.toNat t).2.registry = t.registry ∧
      (steps (retire? target) batch.toNat t).2.conveyor.active.size
        + (steps (retire? target) batch.toNat t).1 = t.conveyor.active.size := by
    refine steps_counted (P := fun k (t' : Turn τ ρ) => t'.registry = t.registry ∧
      t'.conveyor.active.size + k = t.conveyor.active.size) ?_ batch.toNat ⟨rfl, rfl⟩
    intro k t₁ t₂ ⟨registry, active⟩ ht
    have active' := retire?_size ht
    obtain ⟨-, i, -, -, -, registry', -⟩ := retire?_eq_some ht
    rw [alone, alone] at registry'
    exact ⟨registry'.trans registry, by omega⟩
  obtain ⟨registry, active⟩ := counted
  obtain ⟨conveyor, -⟩ := retireBatch_frame batch target t
  rw [conveyor]
  have few := steps_le (retire? target) batch.toNat t
  split
  · rename_i reached
    have untouched : (steps (retire? target) batch.toNat t).1 = 0 := by
      by_contra some
      obtain ⟨t', ht⟩ := steps_possible (Nat.pos_of_ne_zero some)
      have none : t.retire? target = none := (retire?_eq_none_iff target t).mpr (.inl reached)
      cases none.symm.trans ht
    omega
  · rename_i above
    rcases steps_stop (retire? target) batch.toNat t with full | stuck
    · omega
    · rw [retire?_eq_none_iff, registry] at stuck
      have empty := stuck.resolve_left above
      omega

end Turn

/-- A tick registers as many spare instances as there are, up to its batch. -/
theorem Conveyor.tick_registered [Topology τ] [Registry ρ] (batch target : UInt64) (c : Conveyor τ)
    (registry : ρ) (board : Counters) :
    (c.tick batch target registry board).1.registered = min batch.toNat c.pool.size :=
  Turn.registerBatch_count batch _

/-- **The active instances that a tick leaves**, if nobody else writes to the registry meanwhile. -/
theorem Conveyor.tick_size [Topology τ] [Registry ρ]
    (alone : ∀ registry : ρ, Registry.afterLook registry = registry) (batch target : UInt64)
    (c : Conveyor τ) (registry : ρ) (board : Counters) :
    (c.tick batch target registry board).2.conveyor.active.size
      = if Registry.size registry ≤ target then c.active.size + min batch.toNat c.pool.size
        else c.active.size + min batch.toNat c.pool.size - batch.toNat := by
  have registered :=
    Turn.registerBatch_size batch { conveyor := c, registry := registry, board := board }
  have untouched := Turn.registerBatch_registry alone batch
    { conveyor := c, registry := registry, board := board }
  have retired := Turn.retireBatch_size alone batch target
    (Turn.registerBatch batch { conveyor := c, registry := registry, board := board }).2
  rw [registered, untouched] at retired
  exact retired

/-! ## The orbit of the sizes -/

/-- The size after a tick, with batches of `batch`, at a registry that has a size by then and
should have `target` instances out of `pool`.  A batch joins it, as far as there are spare
instances; and if it was above the target before, a batch leaves it. -/
def nextSize (pool target batch size : Nat) : Nat :=
  if size ≤ target then min (size + batch) pool else min (size + batch) pool - batch

section Orbit

variable {pool target batch size : Nat}

/-- No size is above the pool, or above the target by more than a batch. -/
theorem nextSize_le (h : size ≤ min pool (target + batch)) :
    nextSize pool target batch size ≤ min pool (target + batch) := by
  unfold nextSize
  split <;> omega

/-- No size is below the target and below a batch less than the pool, once one is not. -/
theorem le_nextSize (h : min target (pool - batch) ≤ size) (bound : size ≤ pool) :
    min target (pool - batch) ≤ nextSize pool target batch size := by
  unfold nextSize
  split <;> omega

/-- The whole pool is as much as is wanted, and stays. -/
theorem nextSize_pool (pool batch : Nat) : nextSize pool pool batch pool = pool := by
  unfold nextSize
  rw [if_pos (Nat.le_refl pool)]
  omega

/-- The whole pool is too much, and a batch leaves it. -/
theorem nextSize_full (above : target < pool) :
    nextSize pool target batch pool = pool - batch := by
  unfold nextSize
  rw [if_neg (Nat.not_le_of_lt above)]
  omega

/-- If a batch less than the whole pool is too little, the rest of the pool joins. -/
theorem nextSize_refill (near : pool ≤ target + batch) :
    nextSize pool target batch (pool - batch) = pool := by
  unfold nextSize
  rw [if_pos (by omega)]
  omega

/-- If a batch less than the whole pool is too much already, a size above the target becomes one at
which as many join as leave. -/
theorem nextSize_steady (far : target + batch < pool) (above : target < size)
    (bound : size ≤ target + batch) :
    (target < nextSize pool target batch size ∧
        nextSize pool target batch size ≤ target + batch) ∧
      nextSize pool target batch (nextSize pool target batch size)
        = nextSize pool target batch size := by
  have next : nextSize pool target batch size = min size (pool - batch) := by
    unfold nextSize
    rw [if_neg (Nat.not_le_of_lt above)]
    omega
  rw [next]
  refine ⟨by omega, ?_⟩
  unfold nextSize
  rw [if_neg (by omega)]
  omega

/-- The sizes after `n` ticks, from an empty registry on. -/
def sizes (pool target batch : Nat) : Nat → Nat
  | 0 => 0
  | n + 1 => nextSize pool target batch (sizes pool target batch n)

theorem sizes_le (pool target batch n : Nat) :
    sizes pool target batch n ≤ min pool (target + batch) := by
  induction n with
  | zero => exact Nat.zero_le _
  | succ n ih => exact nextSize_le ih

/-- A size at which a tick changes nothing lasts. -/
theorem sizes_eq_of_fixed {n m : Nat} (here : sizes pool target batch n = size)
    (fixed : nextSize pool target batch size = size) (later : n ≤ m) :
    sizes pool target batch m = size := by
  induction later with
  | refl => exact here
  | step _ ih => rw [sizes, ih, fixed]

theorem le_sizes {n m : Nat} (reached : target ≤ sizes pool target batch n) (later : n ≤ m) :
    min target (pool - batch) ≤ sizes pool target batch m := by
  induction later with
  | refl => omega
  | @step m _ ih =>
    have bound := sizes_le pool target batch m
    exact le_nextSize ih (by omega)

/-- Until the target is reached, each tick adds a batch. -/
theorem sizes_rise (reachable : target ≤ pool) (n : Nat) :
    (∃ k ≤ n, target ≤ sizes pool target batch k) ∨
      (sizes pool target batch n = n * batch ∧ n * batch < target) := by
  induction n with
  | zero =>
    rcases Nat.eq_zero_or_pos target with none | some
    · exact .inl ⟨0, Nat.le_refl 0, by omega⟩
    · exact .inr ⟨by rw [Nat.zero_mul]; rfl, by omega⟩
  | succ n ih =>
    rcases ih with ⟨k, early, reached⟩ | ⟨size, below⟩
    · exact .inl ⟨k, Nat.le_succ_of_le early, reached⟩
    · have next : sizes pool target batch (n + 1) = min (n * batch + batch) pool := by
        rw [sizes, size, nextSize, if_pos (Nat.le_of_lt below)]
      rw [Nat.succ_mul]
      rcases Nat.lt_or_ge (n * batch + batch) target with further | reached
      · exact .inr ⟨by omega, further⟩
      · exact .inl ⟨n + 1, Nat.le_refl _, by omega⟩

/-- **The target is reached** in as many ticks as it has batches, rounded up. -/
theorem sizes_reach (reachable : target ≤ pool) (some : 0 < batch) :
    ∃ n ≤ (target + batch - 1) / batch, target ≤ sizes pool target batch n := by
  rcases @sizes_rise pool target batch reachable ((target + batch - 1) / batch) with
    reached | ⟨-, below⟩
  · exact reached
  · have rounded := Nat.lt_div_mul_add (a := target + batch - 1) some
    omega

/-- If all of the pool is wanted, all of it is registered in the end. -/
theorem sizes_tail_pool (some : 0 < batch) (all : pool = target) :
    ∃ n, ∀ m ≥ n, sizes pool target batch m = pool := by
  obtain ⟨n, -, reached⟩ := sizes_reach all.ge some
  have bound := sizes_le pool target batch n
  refine ⟨n, fun m later => sizes_eq_of_fixed (by omega) ?_ later⟩
  rw [← all]
  exact nextSize_pool pool batch

/-- If the pool is larger than what is wanted, by a batch at most, the sizes go to and fro between
the pool and a batch less in the end. -/
theorem sizes_tail_alternate (some : 0 < batch) (above : target < pool)
    (near : pool ≤ target + batch) :
    ∃ n, ∀ k, sizes pool target batch (n + 2 * k) = pool ∧
      sizes pool target batch (n + 2 * k + 1) = pool - batch := by
  obtain ⟨n, -, reached⟩ := sizes_reach (Nat.le_of_lt above) some
  have bound := sizes_le pool target batch n
  have full : ∃ n, sizes pool target batch n = pool := by
    rcases Nat.eq_or_lt_of_le reached with level | beyond
    · refine ⟨n + 1, ?_⟩
      rw [sizes, ← level, nextSize, if_pos (Nat.le_refl _)]
      omega
    · refine ⟨n + 2, ?_⟩
      have low : sizes pool target batch (n + 1) = pool - batch := by
        rw [sizes, nextSize, if_neg (Nat.not_le_of_lt beyond)]
        omega
      rw [sizes, low]
      exact nextSize_refill near
  obtain ⟨n, full⟩ := full
  refine ⟨n, fun k => ?_⟩
  induction k with
  | zero =>
    refine ⟨full, ?_⟩
    rw [Nat.mul_zero, Nat.add_zero, sizes, full]
    exact nextSize_full above
  | succ k ih =>
    have high : sizes pool target batch (n + 2 * k + 2) = pool := by
      rw [sizes, ih.2]
      exact nextSize_refill near
    refine ⟨high, ?_⟩
    rw [Nat.mul_succ, ← Nat.add_assoc, sizes, high]
    exact nextSize_full above

/-- If the pool is larger than what is wanted by more than a batch, the size is steady in the end,
at most a batch above the target. -/
theorem sizes_tail_steady (some : 0 < batch) (far : target + batch < pool) :
    ∃ size, target < size ∧ size ≤ target + batch ∧
      ∃ n, ∀ m ≥ n, sizes pool target batch m = size := by
  obtain ⟨n, -, reached⟩ := sizes_reach (by omega : target ≤ pool) some
  have beyond : ∃ n, target < sizes pool target batch n := by
    rcases Nat.eq_or_lt_of_le reached with level | beyond
    · refine ⟨n + 1, ?_⟩
      rw [sizes, ← level, nextSize, if_pos (Nat.le_refl _)]
      omega
    · exact ⟨n, beyond⟩
  obtain ⟨n, beyond⟩ := beyond
  have bound := sizes_le pool target batch n
  obtain ⟨⟨above, below⟩, fixed⟩ := nextSize_steady far beyond (by omega)
  exact ⟨_, above, below, n + 1, fun m later => sizes_eq_of_fixed rfl fixed later⟩

end Orbit

/-! ## Rounds -/

namespace Workload

/-- A tick of the registrations and all calls that it asks for. -/
def round [Topology τ] [Registry ρ] (batch target : UInt64) (w : Workload τ ρ) : Workload τ ρ :=
  (w.registrationTick batch target).2.drain

/-- The books are right, and no call is under way. -/
structure Caught (g : Generator) (w : Workload Generator Store) : Prop where
  inStep : ∃ ledger answered, Watched.InStep g ⟨w, ledger, answered⟩
  idle : w.pending = []

variable {g : Generator} {first : Nat} {w : Workload Generator Store}

theorem opening_caught (g : Generator) (feed : Feed) (subscriptions : Subscriptions) :
    Caught g
      { registry := { feed := feed }, conveyor := Conveyor.start g
        subscriptions := subscriptions } where
  inStep := ⟨_, _, Watched.opening_inStep g feed subscriptions⟩
  idle := rfl

/-- The registry holds the active instances, and the pool the others. -/
theorem Caught.sizes_eq (h : Caught g w) (small : g.services.length < 2 ^ 64) :
    w.registry.size = w.conveyor.active.size ∧
      w.conveyor.pool.size + w.conveyor.active.size = g.services.length := by
  obtain ⟨ledger, answered, inStep⟩ := h.inStep
  have quiet : w.underWay = [] := by
    rw [underWay, h.idle, List.flatMap_nil]
  have conserved : w.conveyor.pool.size + w.conveyor.active.size = g.services.length := by
    obtain ⟨accounts, comesFrom⟩ := inStep.booked
    rw [accounts.conserves, comesFrom.initial_eq]
    rfl
  have few : w.conveyor.active.size < 2 ^ 64 := by omega
  exact ⟨inStep.size_eq_active quiet few, conserved⟩

/-- The calls under way leave the books right and the conveyor as it is. -/
theorem drain_inStep (ready : g.Ready first) (few : first ≤ 2 ^ 64)
    (h : ∃ ledger answered, Watched.InStep g ⟨w, ledger, answered⟩) :
    (∃ ledger answered, Watched.InStep g ⟨w.drain, ledger, answered⟩) ∧
      w.drain.conveyor = w.conveyor := by
  refine ⟨?_, w.drain_frame.1⟩
  refine drain_preserves (P := fun w' => ∃ ledger answered,
    Watched.InStep g ⟨w', ledger, answered⟩) ?_ h
  intro w₁ w₂ ⟨ledger, answered, inStep⟩ next
  have moved := inStep.exists_move ready few {} .nextCall
  dsimp only at moved
  rw [move, next, Option.getD_some] at moved
  exact moved

/-- **A round keeps the books right**, and takes the size of the registry to the next one. -/
theorem round_caught (ready : g.Ready first) (few : first ≤ 2 ^ 64)
    (small : g.services.length < 2 ^ 64) (batch target : UInt64) (h : Caught g w) :
    Caught g (w.round batch target) ∧ (w.round batch target).registry.size
      = nextSize g.services.length target.toNat batch.toNat w.registry.size := by
  obtain ⟨ledger, answered, inStep⟩ := h.inStep
  have ticked := inStep.exists_move ready few
    { registrations := { schedule := ⟨.zero, batch⟩, target := target } } .registrationTick
  obtain ⟨drained, conveyor⟩ := drain_inStep ready few ticked
  have caught : Caught g (w.round batch target) := ⟨drained, pending_drain _⟩
  refine ⟨caught, ?_⟩
  obtain ⟨before, conserved⟩ := h.sizes_eq small
  have tick := Conveyor.tick_size (fun _ => rfl) batch target w.conveyor w.registry w.board
  have look : Registry.size w.registry ≤ target ↔ w.registry.size ≤ target.toNat :=
    UInt64.le_iff_toNat_le
  have after : (w.round batch target).conveyor.active.size
      = (w.conveyor.tick batch target w.registry w.board).2.conveyor.active.size :=
    congrArg (fun c => c.active.size) conveyor
  rw [(caught.sizes_eq small).1, after, tick, nextSize]
  simp only [look]
  split <;> omega

theorem iterate_round_caught (ready : g.Ready first) (few : first ≤ 2 ^ 64)
    (small : g.services.length < 2 ^ 64) (batch target : UInt64) (feed : Feed)
    (subscriptions : Subscriptions) (n : Nat) :
    let w : Workload Generator Store :=
      { registry := { feed := feed }, conveyor := Conveyor.start g
        subscriptions := subscriptions }
    Caught g ((round batch target)^[n] w) ∧ ((round batch target)^[n] w).registry.size
      = sizes g.services.length target.toNat batch.toNat n := by
  intro w
  induction n with
  | zero => exact ⟨opening_caught g feed subscriptions, rfl⟩
  | succ n ih =>
    obtain ⟨caught, size⟩ := ih
    obtain ⟨next, size'⟩ := round_caught ready few small batch target caught
    rw [Function.iterate_succ_apply']
    refine ⟨next, ?_⟩
    rw [size', size]
    rfl

/-- **The size of the registry converges.**  Begin with a new generator that may have given some
replacements already, a full pool and an empty registry, and let ticks follow each other whose calls
are all made before the next tick.  If the pool suffices for the target, then the size reaches the
target in as many ticks as it has batches, rounded up.  From then on it is never below the target,
or below a batch less than the pool if that is smaller, and never more than a batch above the
target.  In the end it is the whole pool, if all of it is wanted; it goes to and fro between the
whole pool and a batch less, if the pool is larger by no more than a batch; and otherwise it stays
at some size above the target.  The numbers that the generator gave before must not have come
round. -/
theorem size_converges {name : String} {applications instances seed : UInt64} {g₀ : Generator}
    (made : Generator.create name applications instances seed = .ok g₀) (earlier : List Instance)
    (few : instances.toNat + earlier.length ≤ 2 ^ 64) (feed : Feed)
    (subscriptions : Subscriptions) {batch target : UInt64} (some : 1 ≤ batch)
    (reachable : target ≤ instances) :
    let w : Workload Generator Store :=
      { registry := { feed := feed }
        conveyor := Conveyor.start (replacements earlier g₀).2
        subscriptions := subscriptions }
    let size (n : Nat) := ((round batch target)^[n] w).registry.size
    let P := instances.toNat
    let T := target.toNat
    let B := batch.toNat
    (∃ n ≤ (T + B - 1) / B, T ≤ size n) ∧
      (∀ n, T ≤ size n → ∀ m ≥ n, min T (P - B) ≤ size m ∧ size m ≤ min P (T + B)) ∧
      (P = T → ∃ n, ∀ m ≥ n, size m = P) ∧
      (T < P → P ≤ T + B → ∃ n, ∀ k, size (n + 2 * k) = P ∧ size (n + 2 * k + 1) = P - B) ∧
      (T + B < P → ∃ v, T < v ∧ v ≤ T + B ∧ ∃ n, ∀ m ≥ n, size m = v) := by
  intro w size P T B
  obtain ⟨ready, length⟩ := Generator.create_ready made
  obtain ⟨-, ready, services⟩ := ready.replacements earlier
  have pool : (replacements earlier g₀).2.services.length = P := by
    rw [services, length]
  have small : (replacements earlier g₀).2.services.length < 2 ^ 64 := by
    rw [pool]
    exact instances.toNat_lt
  have orbit : ∀ n, size n = sizes P T B n := by
    intro n
    rw [← pool]
    exact (iterate_round_caught ready few small batch target feed subscriptions n).2
  have someNat : 0 < B := UInt64.le_iff_toNat_le.mp some
  have reachableNat : T ≤ P := UInt64.le_iff_toNat_le.mp reachable
  simp only [orbit]
  refine ⟨sizes_reach reachableNat someNat, ?_, sizes_tail_pool someNat,
    sizes_tail_alternate someNat, sizes_tail_steady someNat⟩
  intro n reached m later
  exact ⟨le_sizes reached later, sizes_le P T B m⟩

/-- A case of it: of three instances, numbered on behind one replacement that was given before, one
should stay, and batches of two go to and fro. -/
theorem size_converges_alternating :
    ∃ g₀, Generator.create "a-1" 2 3 7 = .ok g₀ ∧
      let w : Workload Generator Store :=
        { registry := { feed := { window := 4 } }
          conveyor := Conveyor.start (replacements [(default : Instance)] g₀).2
          subscriptions := { queries := g₀.queries } }
      ∃ n, ∀ k, ((round 2 1)^[n + 2 * k] w).registry.size = 3 ∧
        ((round 2 1)^[n + 2 * k + 1] w).registry.size = 1 := by
  obtain ⟨g₀, made⟩ := Generator.create_ok "a-1" 2 3 7 (by decide) (by decide)
  refine ⟨g₀, made, ?_⟩
  obtain ⟨-, -, -, alternate, -⟩ := size_converges made [default] (by decide) { window := 4 }
    { queries := g₀.queries } (by decide : (1 : UInt64) ≤ 2) (by decide : (1 : UInt64) ≤ 3)
  exact alternate (by decide) (by decide)

end Workload

end RegistryLoad
