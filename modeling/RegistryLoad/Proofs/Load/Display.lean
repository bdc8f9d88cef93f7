import RegistryLoad.Proofs.Load.Effect

/-!
# The displayed size of the registry

The score board shows the size that the registry had when an instance was last moved.  A tick that
moves none does not look, so that the calls of the ticks before it may have left the board behind.

## Definitions

* `Turn.Shows`: what the score board shows after some moves of a tick.
* `Workload.sizesSeen`: the sizes that the registry had at the ticks that moved an instance.

## Results

* `Conveyor.tick_shows`: a tick shows the size of the registry if it moves an instance.
* `Workload.registrySize_after`: at any time the last size that was seen is shown.
* `Workload.displays_last_seen`: when the displayed size is the current one.
* `Workload.display_falls_behind`: a tick after which it is not.
-/

namespace RegistryLoad

variable {τ ρ : Type}

/-! ## Ticks -/

namespace Turn

/-- A tick under way at a registry of one size.  Once an instance was moved the score board shows
that size, and before it shows what it did in the beginning. -/
structure Shows [Registry ρ] (size before : UInt64) (moved : Nat) (t : Turn τ ρ) : Prop where
  steady : Registry.Steady t.registry size
  shown : t.board.registrySize = if moved = 0 then before else size

variable [Registry ρ] {size before : UInt64} {moved : Nat} {t t' : Turn τ ρ}

theorem register?_shows (h : Shows size before moved t) (ht : t.register? = some t') :
    Shows size before (moved + 1) t' := by
  obtain ⟨-, -, -, -, registry, board, -⟩ := register?_eq_some ht
  constructor
  · rw [registry]
    exact h.steady.afterLook
  · rw [board, if_neg (Nat.succ_ne_zero moved)]
    exact h.steady.size_eq

theorem retire?_shows [Topology τ] {target : UInt64} (h : Shows size before moved t)
    (ht : t.retire? target = some t') : Shows size before (moved + 1) t' := by
  obtain ⟨-, -, -, -, -, registry, board, -⟩ := retire?_eq_some ht
  constructor
  · rw [registry]
    exact h.steady.afterLook.afterLook
  · rw [board, if_neg (Nat.succ_ne_zero moved)]
    exact h.steady.afterLook.size_eq

theorem registerBatch_shows (h : Shows size before 0 t) (batch : UInt64) :
    Shows size before (t.registerBatch batch).1 (t.registerBatch batch).2 := by
  have steps := steps_counted (P := Shows size before) (fun _ _ _ => register?_shows) batch.toNat h
  unfold registerBatch
  dsimp only
  split
  · exact ⟨steps.steady, steps.shown⟩
  · exact steps

theorem retireBatch_shows [Topology τ] (h : Shows size before moved t) (batch target : UInt64) :
    Shows size before (moved + (t.retireBatch batch target).1) (t.retireBatch batch target).2 := by
  have step (k : Nat) (t t' : Turn τ ρ) (h : Shows size before (moved + k) t)
      (ht : t.retire? target = some t') : Shows size before (moved + (k + 1)) t' :=
    retire?_shows h ht
  have steps := steps_counted (P := fun k => Shows size before (moved + k)) step batch.toNat h
  unfold retireBatch endRetiring
  dsimp only
  split
  · split
    · exact ⟨steps.steady.afterLook, steps.shown⟩
    · exact ⟨steps.steady.afterLook, steps.shown⟩
  · exact steps

end Turn

/-- **A tick shows the size of the registry if it moves an instance**, and otherwise leaves the score
board as it is. -/
theorem Conveyor.tick_shows [Topology τ] [Registry ρ] {registry : ρ} {size : UInt64}
    (steady : Registry.Steady registry size) (batch target : UInt64) (c : Conveyor τ)
    (board : Counters) :
    (c.tick batch target registry board).2.board.registrySize =
      if (c.tick batch target registry board).1 = ⟨0, 0⟩ then board.registrySize else size := by
  have opening : Turn.Shows size board.registrySize 0
      ({ conveyor := c, registry := registry, board := board } : Turn τ ρ) := ⟨steady, rfl⟩
  have shows := Turn.retireBatch_shows (Turn.registerBatch_shows opening batch) batch target
  refine shows.shown.trans (if_congr ?_ rfl rfl)
  rw [Nat.add_eq_zero_iff]
  exact (Moved.mk.injEq _ _ _ _).symm.to_iff

namespace Workload

variable [Topology τ] [Registry ρ]

/-! ## Histories -/

/-- The size of the registry, if the event is a tick that moves an instance. -/
def sizeSeen (plan : Plan) (w : Workload τ ρ) : Event ρ → List UInt64
  | .move .registrationTick =>
    if (w.registrationTick plan.registrations.schedule.batch plan.registrations.target).1 = ⟨0, 0⟩
    then [] else [Registry.size w.registry]
  | _ => []

/-- The sizes that the registry had at the ticks that moved an instance, in their order. -/
def sizesSeen (plan : Plan) : List (Event ρ) → Workload τ ρ → List UInt64
  | [], _ => []
  | e :: events, w => w.sizeSeen plan e ++ sizesSeen plan events (w.happen plan e)

variable (plan : Plan)

/-- Whatever happens, the score board shows the last size that was seen. -/
theorem registrySize_happen (alone : ∀ registry : ρ, Registry.afterLook registry = registry)
    (w : Workload τ ρ) (e : Event ρ) :
    (w.happen plan e).board.registrySize
      = (w.sizeSeen plan e).getLastD w.board.registrySize := by
  cases e with
  | move m =>
    cases m with
    | registrationTick =>
      have shown := Conveyor.tick_shows (Registry.steady_of_alone alone w.registry)
        plan.registrations.schedule.batch plan.registrations.target w.conveyor w.board
      refine Eq.trans (b := if (w.registrationTick plan.registrations.schedule.batch
        plan.registrations.target).1 = ⟨0, 0⟩ then w.board.registrySize
        else Registry.size w.registry) shown ?_
      rw [sizeSeen]
      split <;> rfl
    | interestTick => exact (w.interestTick_frame _ _).2.2.2.registrySize
    | nextCall => exact congrArg Counters.registrySize w.nextCall_frame.2
    | channels => rfl
  | callOf k => exact congrArg Counters.registrySize (w.callOf_frame k).2
  | others change => rfl

theorem registrySize_after (alone : ∀ registry : ρ, Registry.afterLook registry = registry)
    (events : List (Event ρ)) (w : Workload τ ρ) :
    (events.foldl (happen plan) w).board.registrySize
      = (sizesSeen plan events w).getLastD w.board.registrySize := by
  induction events generalizing w with
  | nil => rfl
  | cons e events ih =>
    rw [List.foldl_cons, ih, registrySize_happen plan alone, sizesSeen]
    simp [List.getLastD_eq_getLast?, List.getLast?_append]

/-- With batches of one instance or more, a tick moves none only if the pool is empty and there is
nothing to retire, the registry being at its target or no instance being active. -/
theorem moved_eq_zero_iff {size : UInt64} (w : Workload τ ρ)
    (steady : Registry.Steady w.registry size) (batch target : UInt64) :
    (w.registrationTick batch target).1 = ⟨0, 0⟩ ↔
      batch = 0 ∨ w.conveyor.pool.toList = [] ∧
        (size ≤ target ∨ w.conveyor.active.toList = []) := by
  have moved := (Conveyor.tick_effect steady batch target w.conveyor w.board).1
  have none : batch = 0 ↔ batch.toNat = 0 := UInt64.toNat_inj.symm
  rw [← List.length_eq_zero_iff, ← List.length_eq_zero_iff, none]
  show (w.conveyor.tick batch target w.registry w.board).1 = _ ↔ _
  rw [moved, Moved.mk.injEq]
  split
  · rename_i reached
    simp only [reached, true_or, and_true]
    omega
  · rename_i above
    simp only [above, false_or]
    omega

/-- **The displayed size is the one that was last seen.**  Begin with a full pool and any registry
in memory, and let ticks happen with calls in between that are made late, refused or made out of
turn, while others write to the registry between the ticks.  Right after a tick that moves an
instance, the score board shows the size of the registry.  A tick that moves none leaves it as it
is: it shows the size that the registry had at the last tick that moved one, or zero if there was
none.  With batches of one instance or more, that happens exactly when the pool is empty and the
registry is not above its target or has no active instance to lose. -/
theorem displays_last_seen (plan : Plan) (topology : τ) (store : Store)
    (subscriptions : Subscriptions) (events : List (Event Store)) :
    let start : Workload τ Store :=
      { registry := store, conveyor := Conveyor.start topology, subscriptions := subscriptions }
    let w := events.foldl (happen plan) start
    let batch := plan.registrations.schedule.batch
    let target := plan.registrations.target
    let tick := w.registrationTick batch target
    (tick.2.board.registrySize =
      if tick.1 = ⟨0, 0⟩ then (sizesSeen plan events start).getLastD 0
      else Registry.size tick.2.registry) ∧
    (tick.1 = ⟨0, 0⟩ ↔ batch = 0 ∨ w.conveyor.pool.toList = [] ∧
      (Registry.size w.registry ≤ target ∨ w.conveyor.active.toList = [])) := by
  intro start w batch target tick
  have steady := Registry.steady_of_alone (ρ := Store) (fun _ => rfl) w.registry
  refine ⟨?_, w.moved_eq_zero_iff steady batch target⟩
  have before : w.board.registrySize = (sizesSeen plan events start).getLastD 0 :=
    registrySize_after plan (fun _ => rfl) events start
  have untouched : tick.2.registry = w.registry :=
    w.conveyor.tick_registry (fun _ => rfl) batch target w.registry w.board
  rw [untouched, ← before]
  exact Conveyor.tick_shows steady batch target w.conveyor w.board

/-- One instance, which is registered, and a tick that finds nothing to do. -/
def idleTick (g : Generator) : Workload Generator Store :=
  let plan : Plan := { registrations := { schedule := ⟨TimeSpan.ofMillis 1, 1⟩, target := 1 } }
  let start : Workload Generator Store :=
    { registry := {}, conveyor := Conveyor.start g, subscriptions := { queries := g.queries } }
  [.move .registrationTick, .move .nextCall, .move .registrationTick].foldl (happen plan) start

/-- **The display falls behind.**  When the only instance was registered, the registry has grown to
one.  The next tick finds an empty pool and does not look, so that the score board still shows
zero. -/
theorem display_falls_behind :
    ∃ g, Generator.create "perfTest" 1 1 42 = .ok g ∧
      (idleTick g).board.registrySize = 0 ∧ Registry.size (idleTick g).registry = 1 := by
  have run : (match Generator.create "perfTest" 1 1 42 with
      | .ok g => (idleTick g).board.registrySize == 0 && Registry.size (idleTick g).registry == 1
      | .error _ => false) = true := by decide +kernel
  obtain ⟨g, made⟩ := Generator.create_ok "perfTest" 1 1 42 (by decide) (by decide)
  rw [made] at run
  simp only [Bool.and_eq_true, beq_iff_eq] at run
  exact ⟨g, made, run⟩

end Workload

end RegistryLoad
