import Mathlib.Logic.Function.Iterate
import RegistryLoad.Registry.Recorder
import RegistryLoad.Proofs.Load.Convergence

/-!
# What a tick does

A tick takes instances from the front of the pool and puts them behind the active ones, then takes
some from the front of the active ones, those included that it has just put there, and puts
replacements behind the pool.  So what it does is known from the instances that join and those that
leave.  How many these are follows from the batch, the target and the two queues, if the registry
shows one size all the time.

## Definitions

* `Registry.Steady`: a registry that shows the same size however often it is looked at.
* `Turn.Carried`: a tick under way, with the instances that have joined and left so far.

## Results

* `Turn.register?_carried`, `Turn.retire?_carried`: what one step of a tick does.
* `Turn.registerBatch_carried`, `Turn.retireBatch_carried`: what the two batches do, and that they
  take no more steps than there are instances.
* `Conveyor.tick_carried`, `Conveyor.tick_effect`: which instances a tick moves.
* `Workload.registrationTick_effect`: all that it does with them.
-/

namespace RegistryLoad

open Call

variable {τ ρ : Type}

/-- However often the registry is looked at, it shows this size. -/
def Registry.Steady [Registry ρ] (registry : ρ) (size : UInt64) : Prop :=
  ∀ n, Registry.size (Registry.afterLook^[n] registry) = size

section

variable [Registry ρ] {registry : ρ} {size : UInt64}

theorem Registry.Steady.size_eq (h : Registry.Steady registry size) :
    Registry.size registry = size := h 0

theorem Registry.Steady.afterLook (h : Registry.Steady registry size) :
    Registry.Steady (Registry.afterLook registry) size := fun n => h (n + 1)

/-- A registry to which nobody else writes shows its own size. -/
theorem Registry.steady_of_alone (alone : ∀ registry : ρ, Registry.afterLook registry = registry)
    (registry : ρ) : Registry.Steady registry (Registry.size registry) := by
  intro n
  rw [Function.iterate_fixed (alone registry)]

end

namespace Turn

/-- A tick under way on a conveyor that was `c`: the instances `joined` have come from the pool to
the active ones, and of these the instances `left` have gone and were replaced. -/
structure Carried [Topology τ] (c : Conveyor τ) (joined left : List Instance) (t : Turn τ ρ) :
    Prop where
  calls_eq : t.calls = joined.map register ++ left.map unregister
  pool_eq : c.pool.toList ++ (replacements left c.topology).1 = joined ++ t.conveyor.pool.toList
  active_eq : c.active.toList ++ joined = left ++ t.conveyor.active.toList
  topology_eq : t.conveyor.topology = (replacements left c.topology).2

section

variable [Topology τ] {c : Conveyor τ} {joined left : List Instance} {t t' : Turn τ ρ}

theorem carried_opening (c : Conveyor τ) (registry : ρ) (board : Counters) :
    Carried c [] [] ({ conveyor := c, registry := registry, board := board } : Turn τ ρ) where
  calls_eq := rfl
  pool_eq := List.append_nil _
  active_eq := List.append_nil _
  topology_eq := rfl

/-- A notice or a look at the registry moves nothing. -/
theorem Carried.congr (h : Carried c joined left t) (conveyor : t'.conveyor = t.conveyor)
    (calls : t'.calls = t.calls) : Carried c joined left t' where
  calls_eq := calls.trans h.calls_eq
  pool_eq := by rw [conveyor]; exact h.pool_eq
  active_eq := by rw [conveyor]; exact h.active_eq
  topology_eq := by rw [conveyor]; exact h.topology_eq

/-- Those that have joined were the first of the pool. -/
theorem Carried.joined_eq (h : Carried c joined left t)
    (few : joined.length ≤ c.pool.toList.length) : joined = c.pool.toList.take joined.length := by
  have front := congrArg (List.take joined.length) h.pool_eq
  rw [List.take_left, List.take_append_of_le_length few] at front
  exact front.symm

/-- Those that have left were the first of the active ones, the former included. -/
theorem Carried.left_eq (h : Carried c joined left t) :
    left = (c.active.toList ++ joined).take left.length := by
  rw [h.active_eq, List.take_left]

/-- The others are active. -/
theorem Carried.active_eq_drop (h : Carried c joined left t) :
    t.conveyor.active.toList = (c.active.toList ++ joined).drop left.length := by
  rw [h.active_eq, List.drop_left]

/-- The pool has kept the instances that have not joined, and has the replacements behind them. -/
theorem Carried.pool_eq_drop (h : Carried c joined left t)
    (few : joined.length ≤ c.pool.toList.length) :
    t.conveyor.pool.toList =
      c.pool.toList.drop joined.length ++ (replacements left c.topology).1 := by
  have behind := congrArg (List.drop joined.length) h.pool_eq
  rw [List.drop_append_of_le_length few, List.drop_left] at behind
  exact behind.symm

/-- A registration lets one more instance join. -/
theorem register?_carried [Registry ρ] (h : Carried c joined [] t) (ht : t.register? = some t') :
    ∃ i, Carried c (joined ++ [i]) [] t' := by
  obtain ⟨i, pool, active, topology, -, -, calls, -⟩ := register?_eq_some ht
  refine ⟨i, ?_, ?_, ?_, topology.trans h.topology_eq⟩
  · rw [calls, h.calls_eq]
    simp
  · rw [h.pool_eq, pool, List.append_assoc, List.singleton_append]
  · rw [active, ← List.append_assoc, h.active_eq, List.append_assoc]

/-- A retirement lets one more instance leave. -/
theorem retire?_carried [Registry ρ] {target : UInt64} (h : Carried c joined left t)
    (ht : t.retire? target = some t') : ∃ i, Carried c joined (left ++ [i]) t' := by
  obtain ⟨-, i, active, pool, topology, -, -, calls, -⟩ := retire?_eq_some ht
  refine ⟨i, ?_, ?_, ?_, ?_⟩
  · rw [calls, h.calls_eq]
    simp
  · rw [pool, ← List.append_assoc, ← h.pool_eq, h.topology_eq, List.append_assoc,
      replacements_append, replacements_cons]
    rfl
  · rw [h.active_eq, active, List.append_assoc, List.singleton_append]
  · rw [topology, h.topology_eq, replacements_append, replacements_cons]
    rfl

end

/-! ## Batches -/

/-- No more instances can be registered than the pool has. -/
theorem steps_register?_done [Registry ρ] (t : Turn τ ρ) {n : Nat}
    (enough : t.conveyor.pool.size ≤ n) :
    steps register? n t = steps register? t.conveyor.pool.size t :=
  steps_of_enough (fun t : Turn τ ρ => t.conveyor.pool.size)
    (fun _ _ ht => (register?_size ht).1.ge) enough

section

variable [Topology τ] [Registry ρ] {c : Conveyor τ} {joined : List Instance} {t : Turn τ ρ}

/-- No more instances can be retired than are active. -/
theorem steps_retire?_done (target : UInt64) (t : Turn τ ρ) {n : Nat}
    (enough : t.conveyor.active.size ≤ n) :
    steps (retire? target) n t = steps (retire? target) t.conveyor.active.size t :=
  steps_of_enough (fun t : Turn τ ρ => t.conveyor.active.size)
    (fun _ _ ht => (retire?_size ht).ge) enough

/-- What `n` attempts at a registration do. -/
theorem steps_register?_carried (h : Carried c [] [] t) (n : Nat) :
    ∃ joined, (steps register? n t).1 = joined.length ∧
      Carried c joined [] (steps register? n t).2 ∧
      joined.length = min n c.pool.toList.length := by
  have moved : ∃ joined : List Instance, (steps register? n t).1 = joined.length ∧
      Carried c joined [] (steps register? n t).2 := by
    refine steps_counted (P := fun k (t : Turn τ ρ) => ∃ joined : List Instance,
      k = joined.length ∧ Carried c joined [] t) ?_ n ⟨[], rfl, h⟩
    rintro k t t' ⟨joined, rfl, carried⟩ ht
    obtain ⟨i, carried⟩ := register?_carried carried ht
    exact ⟨joined ++ [i], by simp, carried⟩
  obtain ⟨joined, count, carried⟩ := moved
  refine ⟨joined, count, carried, ?_⟩
  have pool := congrArg List.length carried.pool_eq
  simp only [List.length_append, replacements, List.length_nil, Nat.add_zero] at pool
  have few := steps_le register? n t
  rcases steps_stop register? n t with full | stuck
  · omega
  · rw [register?_eq_none_iff, Fifo.size_eq_length] at stuck
    omega

/-- What `n` attempts at a retirement do, if the registry shows one size. -/
theorem steps_retire?_carried {size : UInt64} (h : Carried c joined [] t)
    (steady : Registry.Steady t.registry size) (target : UInt64) (n : Nat) :
    ∃ left, (steps (retire? target) n t).1 = left.length ∧
      Carried c joined left (steps (retire? target) n t).2 ∧
      left.length =
        if size ≤ target then 0 else min n (c.active.toList.length + joined.length) := by
  have moved : Registry.Steady (steps (retire? target) n t).2.registry size ∧
      ∃ left : List Instance, (steps (retire? target) n t).1 = left.length ∧
        Carried c joined left (steps (retire? target) n t).2 := by
    refine steps_counted (P := fun k (t : Turn τ ρ) => Registry.Steady t.registry size ∧
      ∃ left : List Instance, k = left.length ∧ Carried c joined left t) ?_ n
      ⟨steady, [], rfl, h⟩
    rintro k t t' ⟨steady, left, rfl, carried⟩ ht
    obtain ⟨i, carried⟩ := retire?_carried carried ht
    obtain ⟨-, -, -, -, -, registry, -⟩ := retire?_eq_some ht
    exact ⟨registry ▸ steady.afterLook.afterLook, left ++ [i], by simp, carried⟩
  obtain ⟨still, left, count, carried⟩ := moved
  refine ⟨left, count, carried, ?_⟩
  have active := congrArg List.length carried.active_eq
  simp only [List.length_append] at active
  have few := steps_le (retire? target) n t
  split
  · -- No step is possible, since the first one is not.
    rename_i reached
    rw [← count]
    by_contra some
    obtain ⟨t', ht⟩ := steps_possible (Nat.pos_of_ne_zero some)
    obtain ⟨above, -⟩ := retire?_eq_some ht
    exact absurd (UInt64.lt_of_lt_of_le above (steady.size_eq.trans_le reached))
      (UInt64.lt_irrefl _)
  · rename_i above
    rcases steps_stop (retire? target) n t with full | stuck
    · omega
    · rw [retire?_eq_none_iff, still.size_eq, Fifo.size_eq_length] at stuck
      have none := stuck.resolve_left above
      omega

/-- A batch of registrations. -/
theorem registerBatch_carried {size : UInt64} (h : Carried c [] [] t)
    (steady : Registry.Steady t.registry size) (batch : UInt64) :
    Registry.Steady (t.registerBatch batch).2.registry size ∧
      ∃ joined, (t.registerBatch batch).1 = joined.length ∧
        Carried c joined [] (t.registerBatch batch).2 ∧
        joined.length = min batch.toNat c.pool.toList.length := by
  obtain ⟨conveyor, registry, calls⟩ := registerBatch_frame batch t
  obtain ⟨joined, count, carried, length⟩ := steps_register?_carried h batch.toNat
  refine ⟨?_, joined, count, carried.congr conveyor calls, length⟩
  rw [registry]
  refine steps_preserves (P := fun t : Turn τ ρ => Registry.Steady t.registry size) ?_ batch.toNat
    steady
  intro t t' steady ht
  obtain ⟨-, -, -, -, registry, -⟩ := register?_eq_some ht
  exact registry ▸ steady.afterLook

/-- A batch of retirements. -/
theorem retireBatch_carried {size : UInt64} (h : Carried c joined [] t)
    (steady : Registry.Steady t.registry size) (batch target : UInt64) :
    ∃ left, (t.retireBatch batch target).1 = left.length ∧
      Carried c joined left (t.retireBatch batch target).2 ∧
      left.length =
        if size ≤ target then 0
        else min batch.toNat (c.active.toList.length + joined.length) := by
  obtain ⟨conveyor, calls⟩ := retireBatch_frame batch target t
  obtain ⟨left, count, carried, length⟩ := steps_retire?_carried h steady target batch.toNat
  exact ⟨left, count, carried.congr conveyor calls, length⟩

end

end Turn

/-! ## Ticks -/

namespace Conveyor

open Turn

variable [Topology τ] [Registry ρ]

/-- **What a tick does at a registry that shows one size.** -/
theorem tick_carried {registry : ρ} {size : UInt64} (steady : Registry.Steady registry size)
    (batch target : UInt64) (c : Conveyor τ) (board : Counters) :
    ∃ joined left, (c.tick batch target registry board).1 = ⟨joined.length, left.length⟩ ∧
      Carried c joined left (c.tick batch target registry board).2 ∧
      joined.length = min batch.toNat c.pool.toList.length ∧
      left.length =
        if size ≤ target then 0
        else min batch.toNat (c.active.toList.length + joined.length) := by
  obtain ⟨still, joined, count, carried, length⟩ :=
    registerBatch_carried (carried_opening c registry board) steady batch
  obtain ⟨left, count', carried', length'⟩ := retireBatch_carried carried still batch target
  exact ⟨joined, left, congr (congrArg Moved.mk count) count', carried', length, length'⟩

/-- The same in terms of the queues: the instances that join are the first of the pool, and those
that leave the first of the active ones, the former included. -/
theorem tick_effect {registry : ρ} {size : UInt64} (steady : Registry.Steady registry size)
    (batch target : UInt64) (c : Conveyor τ) (board : Counters) :
    let registered := min batch.toNat c.pool.toList.length
    let unregistered :=
      if size ≤ target then 0 else min batch.toNat (c.active.toList.length + registered)
    let joined := c.pool.toList.take registered
    let left := (c.active.toList ++ joined).take unregistered
    (c.tick batch target registry board).1 = ⟨registered, unregistered⟩ ∧
      joined.length = registered ∧ left.length = unregistered ∧
      Carried c joined left (c.tick batch target registry board).2 := by
  obtain ⟨joined, left, moved, carried, registered, unregistered⟩ :=
    tick_carried steady batch target c board
  have joined_eq := carried.joined_eq (registered.trans_le (Nat.min_le_right _ _))
  have left_eq := carried.left_eq
  rw [unregistered, registered] at left_eq
  rw [registered] at joined_eq unregistered
  dsimp only
  rw [← joined_eq, ← left_eq]
  exact ⟨moved.trans (congr (congrArg Moved.mk registered) unregistered), registered, unregistered,
    carried⟩

end Conveyor

/-- The chain of the given calls, if there are any. -/
def Chain.ofCalls (calls : List Call) : List Chain :=
  if calls = [] then [] else [⟨calls, calls.length⟩]

namespace Workload

open Turn

/-- The calls of a tick are the last chain under way. -/
theorem pending_registrationTick [Topology τ] [Registry ρ] (batch target : UInt64)
    (w : Workload τ ρ) :
    (w.registrationTick batch target).2.pending =
      w.pending ++
        Chain.ofCalls (w.conveyor.tick batch target w.registry w.board).2.calls := by
  unfold registrationTick Chain.ofCalls
  dsimp only
  simp only [List.isEmpty_iff]
  split
  · exact (List.append_nil _).symm
  · rfl

/-- **The exact effect of a tick.**  Let the registry show one size during the tick.  Then as many
instances are registered as the batch and the pool allow.  If that size is above the target, as many
are retired as the batch and the active instances allow, those just registered among them;
otherwise none is.  The calls for them, registrations first, are one new chain; there is none
without a call.  The pool keeps the instances that were not registered and has a replacement for
each retired one behind them, so that no replacement is registered in the same tick.  Neither batch
takes more steps than there are instances in the queue that it takes them from, however large it
may be. -/
theorem registrationTick_effect [Topology τ] [Registry ρ] (w : Workload τ ρ)
    (batch target size : UInt64) (steady : Registry.Steady w.registry size) :
    let p := w.conveyor.pool.toList
    let a := w.conveyor.active.toList
    let registered := min batch.toNat p.length
    let unregistered := if size ≤ target then 0 else min batch.toNat (a.length + registered)
    let joined := p.take registered
    let left := (a ++ joined).take unregistered
    let calls := joined.map Call.register ++ left.map Call.unregister
    let after := (w.registrationTick batch target).2
    let begun : Turn τ ρ := { conveyor := w.conveyor, registry := w.registry, board := w.board }
    let between := (begun.registerBatch batch).2
    (w.registrationTick batch target).1 = ⟨registered, unregistered⟩ ∧
      after.pending = w.pending ++
        (if registered = 0 ∧ unregistered = 0 then [] else [⟨calls, calls.length⟩]) ∧
      after.conveyor.active.toList = (a ++ joined).drop unregistered ∧
      after.conveyor.pool.toList =
        p.drop registered ++ (replacements left w.conveyor.topology).1 ∧
      after.conveyor.topology = (replacements left w.conveyor.topology).2 ∧
      (∀ n ≥ p.length, steps register? n begun = steps register? p.length begun) ∧
      (∀ n ≥ a.length + registered, steps (retire? target) n between =
        steps (retire? target) (a.length + registered) between) := by
  intro p a registered unregistered joined left calls after begun between
  have effect := Conveyor.tick_effect steady batch target w.conveyor w.board
  have joined_length : joined.length = registered := effect.2.1
  have left_length : left.length = unregistered := effect.2.2.1
  have carried : Carried w.conveyor joined left
      (w.conveyor.tick batch target w.registry w.board).2 := effect.2.2.2
  refine ⟨effect.1, ?_, ?_, ?_, carried.topology_eq, ?_, ?_⟩
  · have chain : after.pending = w.pending ++ Chain.ofCalls calls := by
      rw [pending_registrationTick, carried.calls_eq]
    have empty : calls = [] ↔ registered = 0 ∧ unregistered = 0 := by
      rw [← joined_length, ← left_length]
      simp [calls]
    rw [chain, Chain.ofCalls]
    simp only [empty]
  · rw [← left_length]
    exact carried.active_eq_drop
  · rw [← joined_length]
    exact carried.pool_eq_drop (joined_length.trans_le (Nat.min_le_right _ _))
  · intro n enough
    have spare : p.length = begun.conveyor.pool.size := (Fifo.size_eq_length _).symm
    rw [spare] at enough ⊢
    exact steps_register?_done begun enough
  · intro n enough
    have active : a.length + registered = between.conveyor.active.size := by
      rw [registerBatch_size, Fifo.size_eq_length, Fifo.size_eq_length]
    rw [active] at enough ⊢
    exact steps_retire?_done target between enough

/-- A case of it: the largest batch takes both spare instances and then all three active ones, one
of which another chain is still to register. -/
theorem registrationTick_effect_largest :
    ∃ g, Generator.create "a-1" 2 3 7 = .ok g ∧
      let named (id : String) := Instance.named id "app000" "app000.a-1.vip"
      let w : Workload Generator Recorder :=
        { registry := { size := 9 }
          conveyor := ⟨g, Fifo.ofList [named "x", named "y"], Fifo.ofList [named "z"]⟩
          subscriptions := { queries := g.queries }
          pending := [⟨[.register (named "z")], 1⟩] }
      Registry.Steady w.registry 9 ∧
        let tick := w.registrationTick 18446744073709551615 0
        tick.1 = ⟨2, 3⟩ ∧
          tick.2.pending = w.pending ++
            [⟨[.register (named "x"), .register (named "y"), .unregister (named "z"),
              .unregister (named "x"), .unregister (named "y")], 5⟩] ∧
          tick.2.conveyor.active.toList = [] ∧
          tick.2.conveyor.pool.toList =
            (replacements [named "z", named "x", named "y"] g).1 := by
  obtain ⟨g, made⟩ := Generator.create_ok "a-1" 2 3 7 (by decide) (by decide)
  refine ⟨g, made, ?_⟩
  intro named w
  have steady : Registry.Steady w.registry 9 := Registry.steady_of_alone (fun _ => rfl) _
  refine ⟨steady, ?_⟩
  have spare : w.conveyor.pool.toList = [named "x", named "y"] := Fifo.toList_ofList _
  have inUse : w.conveyor.active.toList = [named "z"] := Fifo.toList_ofList _
  have topology : w.conveyor.topology = g := rfl
  have above : ¬ (9 : UInt64) ≤ 0 := by decide
  have largest : (18446744073709551615 : UInt64).toNat = 18446744073709551615 := rfl
  have effect := registrationTick_effect w 18446744073709551615 0 9 steady
  simp [spare, inUse, topology, above, largest] at effect
  obtain ⟨moved, chain, active, pool, -⟩ := effect
  exact ⟨moved, chain, active, pool⟩

end Workload

end RegistryLoad
