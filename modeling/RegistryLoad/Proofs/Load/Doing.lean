import RegistryLoad.Proofs.Load.Balance
import RegistryLoad.Proofs.Load.Convergence
import RegistryLoad.Proofs.Load.Roll
import RegistryLoad.Proofs.Load.Turns

/-!
# What is done by ticks

Each tick of the subscriptions uses a whole batch of queries, for there are always more.  A tick of
the registrations registers at most a batch, for the pool may run out; and exactly a batch, or what
is left of the pool, as long as the pool cannot exceed the target.

## Definitions

* `Stage.Did`: what is done on a stage after some ticks.
* `Stage.Filled`: what is registered of a pool that cannot exceed the target.

## Results

* `Ledger.registered_enter`: what a tick registers.
* `Stage.Did.act`, `Stage.Filled.act`: every turn does its part.
* `Stage.resting_did`, `Stage.resting_filled`: and nothing is done where no turn begins.
-/

namespace RegistryLoad

open Call

/-! ## Queries and registrations -/

/-- A tick uses the queries that there are. -/
theorem Subscriptions.tick_queries (feed : Feed) (batch target : UInt64) (s : Subscriptions)
    (board : Counters) : (s.tick feed batch target board).2.subscriptions.queries = s.queries := by
  refine tick_preserves (P := fun t => t.subscriptions.queries = s.queries) ?_ ?_ (fun _ _ h => h)
    batch s board rfl
  · intro t t' h ht
    obtain ⟨interest, -, queries, -⟩ := Turn.open?_eq_some ht
    rw [queries, h]
  · intro t t' h ht
    obtain ⟨-, channel, -, queries, -⟩ := Turn.close?_eq_some ht
    rw [queries, h]

/-- A tick registers a batch, or what is left of the pool. -/
theorem Ledger.registered_enter {τ ρ : Type} [Topology τ] [Registry ρ] (ledger : Ledger)
    (topology : τ) (pace : Pace) (w : Workload τ ρ) :
    (ledger.enter topology (w.asked pace)).registered.length
      = ledger.registered.length + min pace.schedule.batch.toNat w.conveyor.pool.size := by
  obtain ⟨⟨amount, -⟩, -, -⟩ :=
    Conveyor.tick_amount pace.schedule.batch pace.target w.conveyor w.registry w.board
  rw [registered, enter, registrations_append, List.length_append, Workload.asked, amount,
    Conveyor.tick_registered]
  rfl

namespace Stage

/-- What the journal reports of it. -/
theorem registered_act (s : Stage Generator Store) :
    (s.act .registrations).work.journal.registered = s.work.journal.registered
      + min s.plan.registrations.schedule.batch.toNat s.work.conveyor.pool.size := by
  have silent := s.work.conveyor.tick_silent s.plan.registrations.schedule.batch
    s.plan.registrations.target s.work.registry s.work.board
  refine (Journal.registered_note _ _).trans ?_
  rw [← Conveyor.tick_registered s.plan.registrations.schedule.batch s.plan.registrations.target
    s.work.conveyor s.work.registry s.work.board]
  exact congrArg (· + _) (Journal.registered_noteAll silent s.work.journal)

/-- A stage on which there were these ticks: each tick of the subscriptions has used a batch of
queries, which never end, and each tick of the registrations has registered at most a batch. -/
structure Did (ticks : List Activity) (s : Stage Generator Store) : Prop where
  reports : s.work.Reports ticks
  endless : ∀ k, s.work.subscriptions.queries k ≠ none
  atLevel : s.work.subscriptions.AtLevel s.plan.interests.target
  shown : s.work.subscriptions.Shown s.work.board
  used_eq : s.work.subscriptions.used
    = ticks.count .interests * s.plan.interests.schedule.batch.toNat
  registered_le : ∃ ledger : Ledger, ledger.Accounts s.work.conveyor s.work.board ∧
    ledger.registered.length
      ≤ ticks.count .registrations * s.plan.registrations.schedule.batch.toNat

variable {ticks : List Activity} {s : Stage Generator Store}

theorem Did.registrations (h : s.Did ticks) :
    (s.act .registrations).Did (ticks ++ [.registrations]) := by
  obtain ⟨reports, endless, atLevel, shown, used_eq, ledger, accounts, registered_le⟩ := h
  obtain ⟨-, interests, activeInterests⟩ := s.work.registrationTick_frame
    s.plan.registrations.schedule.batch s.plan.registrations.target
  have more := ledger.registered_enter s.work.conveyor.topology s.plan.registrations s.work
  have follows := Ledger.tick_follows accounts s.plan.registrations.schedule.batch
    s.plan.registrations.target s.work.registry
  refine ⟨reports_act reports .registrations, endless, atLevel,
    shown.board interests activeInterests, ?_, _, follows.accounts, ?_⟩
  · rw [List.count_append]
    exact used_eq
  · show _ ≤ (ticks ++ [Activity.registrations]).count .registrations
      * s.plan.registrations.schedule.batch.toNat
    rw [List.count_append, Nat.add_mul]
    exact more.trans_le
      (Nat.add_le_add registered_le ((Nat.min_le_left _ _).trans (by simp)))

theorem Did.interests (h : s.Did ticks) : (s.act .interests).Did (ticks ++ [.interests]) := by
  obtain ⟨reports, endless, atLevel, shown, used_eq, ledger, accounts, registered_le⟩ := h
  obtain ⟨-, -, -, registrations, unregistrations, -⟩ := s.work.interestTick_frame
    s.plan.interests.schedule.batch s.plan.interests.target
  obtain ⟨taken, -, used, stop⟩ := Subscriptions.tick_used atLevel
    (Registry.feed s.work.registry) s.plan.interests.schedule.batch s.work.board
  have all : taken = s.plan.interests.schedule.batch.toNat :=
    stop.resolve_right (endless _)
  refine ⟨reports_act reports .interests, ?_, Subscriptions.tick_atLevel atLevel _ _ _,
    Subscriptions.tick_shown shown _ _ _, ?_, ledger,
    accounts.board registrations unregistrations, ?_⟩
  · intro k
    exact (congrFun (Subscriptions.tick_queries _ _ _ _ _) k).trans_ne (endless k)
  · show _ = (ticks ++ [Activity.interests]).count Activity.interests
      * s.plan.interests.schedule.batch.toNat
    rw [List.count_append, Nat.add_mul, ← used_eq]
    exact used.trans (by simp [all])
  · rw [List.count_append]
    exact registered_le

/-- **Every turn does its part.** -/
theorem Did.act (h : s.Did ticks) (activity : Activity) :
    (s.act activity).Did (ticks ++ activity.ticking) := by
  cases activity with
  | registrations => exact h.registrations
  | interests => exact h.interests
  | board =>
    rw [Activity.ticking, List.append_nil]
    rcases s.act_board with written | ⟨reason, refused⟩
    · rw [written]
      exact { h with }
    · rw [refused]
      exact { h with reports := h.reports.note_silent rfl }

/-- Nothing is done where no turn begins. -/
theorem resting_did (ticks : List Activity) : Resting (Did ticks) where
  nextCall s w h next := by
    obtain ⟨reports, endless, atLevel, shown, used_eq, registered_le⟩ := h
    obtain ⟨conveyor, subscriptions, board, -⟩ := Workload.applyNext?_eq_some next
    rw [← subscriptions] at endless atLevel shown used_eq
    rw [← board] at shown registered_le
    rw [← conveyor] at registered_le
    exact ⟨reports.nextCall next, endless, atLevel, shown, used_eq, registered_le⟩
  settleChannels s h :=
    { h with
      reports := h.reports.settleChannels
      atLevel := Subscriptions.settle_atLevel h.atLevel _
      shown := Subscriptions.settle_shown h.shown _ }
  note s n hn h := { h with reports := h.reports.note_silent hn }
  pass s now h := { h with }

theorem did_fresh (plan : Plan) (clock : Clock) (g : Generator) {journal : Journal}
    (none : journal.ticks = []) : (Run.freshStage plan clock g journal).Did [] where
  reports := ⟨none, Notice.silent_nil⟩
  endless _ := Option.some_ne_none _
  atLevel := (Nat.zero_min _).symm
  shown := ⟨by simp [Run.freshStage], Nat.le_refl _, rfl, fun _ => rfl⟩
  used_eq := by simp [Run.freshStage]
  registered_le := ⟨_, Ledger.Accounts.opening g, by simp [Ledger.registered]⟩

/-! ## Small pools -/

/-- A stage on which there were these ticks, with a pool that cannot exceed the target: nothing is
ever too much, and each tick registers a batch as long as the pool has one. -/
structure Filled (g : Generator) (ticks : List Activity) (s : Stage Generator Store) : Prop where
  balanced : s.Balanced g
  reachable : g.services.length ≤ s.plan.registrations.target.toNat
  filled : s.work.conveyor.active.size = min
    (ticks.count .registrations * s.plan.registrations.schedule.batch.toNat) g.services.length

variable {g : Generator}

theorem Filled.registrations (h : s.Filled g ticks) (fresh : g.Ready g.services.length)
    (few : g.services.length < 2 ^ 64) :
    (s.act .registrations).Filled g (ticks ++ [.registrations]) := by
  obtain ⟨balanced, reachable, filled⟩ := h
  obtain ⟨ledger, answered, inStep⟩ := balanced.inStep
  have conserved := inStep.booked.accounts.conserves
  rw [inStep.booked.comesFrom.initial_eq] at conserved
  have bound : Registry.size s.work.registry ≤ s.plan.registrations.target :=
    UInt64.le_iff_toNat_le.mpr ((inStep.size_eq few).2.trans reachable)
  have tick := Conveyor.tick_size (fun _ => rfl) s.plan.registrations.schedule.batch
    s.plan.registrations.target s.work.conveyor s.work.registry s.work.board
  rw [if_pos bound, filled] at tick
  refine ⟨(lasting_balanced fresh few.le).ongoing.registrations s balanced, reachable, ?_⟩
  have count : (ticks ++ [Activity.registrations]).count .registrations
      = ticks.count .registrations + 1 := by simp
  have all : s.work.conveyor.pool.size + s.work.conveyor.active.size = g.services.length :=
    conserved
  refine tick.trans ?_
  show _ = min ((ticks ++ [Activity.registrations]).count Activity.registrations
    * s.plan.registrations.schedule.batch.toNat) g.services.length
  rw [count, Nat.add_mul, Nat.one_mul]
  omega

theorem Filled.act (h : s.Filled g ticks) (fresh : g.Ready g.services.length)
    (few : g.services.length < 2 ^ 64) (activity : Activity) :
    (s.act activity).Filled g (ticks ++ activity.ticking) := by
  have balanced := (lasting_balanced fresh few.le).ongoing.act h.balanced activity
  cases activity with
  | registrations => exact h.registrations fresh few
  | interests =>
    refine ⟨balanced, h.reachable, ?_⟩
    rw [List.count_append]
    exact h.filled
  | board =>
    rw [Activity.ticking, List.append_nil]
    rcases s.act_board with written | ⟨reason, refused⟩
    · rw [written] at balanced ⊢
      exact ⟨balanced, h.reachable, h.filled⟩
    · rw [refused] at balanced ⊢
      exact ⟨balanced, h.reachable, h.filled⟩

theorem resting_filled (fresh : g.Ready g.services.length) (few : g.services.length ≤ 2 ^ 64)
    (ticks : List Activity) : Resting (Filled g ticks) where
  nextCall s w h next := by
    have balanced := (lasting_balanced fresh few).nextCall s w h.balanced next
    obtain ⟨conveyor, -⟩ := Workload.applyNext?_eq_some next
    refine ⟨balanced, h.reachable, ?_⟩
    show w.conveyor.active.size = _
    rw [conveyor]
    exact h.filled
  settleChannels s h :=
    { h with balanced := (lasting_balanced fresh few).settleChannels s h.balanced }
  note s n _ h := { h with balanced := (lasting_balanced fresh few).note s n h.balanced }
  pass s now h := { h with balanced := (lasting_balanced fresh few).pass s now h.balanced }

theorem filled_fresh (plan : Plan) (clock : Clock) (g : Generator) (journal : Journal)
    (reachable : g.services.length ≤ plan.registrations.target.toNat) :
    (Run.freshStage plan clock g journal).Filled g [] where
  balanced := balanced_opening g plan clock {} 0 ({} : Store).feed { queries := g.queries }
    g.queries journal
  reachable := reachable
  filled := by
    rw [List.count_nil, Nat.zero_mul, Nat.zero_min]
    rfl

end Stage

end RegistryLoad
