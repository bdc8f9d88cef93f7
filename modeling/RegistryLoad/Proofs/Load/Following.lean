import RegistryLoad.Proofs.Load.Moves
import RegistryLoad.Proofs.Registry.Contents

/-!
# The registry follows the conveyor

The calls of a conveyor reach the registry late.  What the registry holds is what the calls made
so far leave standing, and once all are made, these are the active instances.

## Definitions

* `Call.standing`: the instances that calls register and do not take out again.
* `Watched.Served`: all calls made so far were answered well, and the registry holds what they
  leave standing.

## Results

* `Watched.move_served`, `Watched.run_served`: that stays so, as long as the ids in use are
  different.
* `Watched.registry_follows_active_instances`: what that says of a registry and a generator.
-/

namespace RegistryLoad

open Call Store

variable {τ : Type}

/-! ## Standing instances -/

namespace Call

/-- The instances that calls register and do not take out again, if they take out the oldest
first. -/
def standing (done : List Call) : List Instance :=
  (registrations done).drop (retirements done).length

variable {done : List Call} {i : Instance} {capacity : Nat}

theorem standing_register (h : Orderly capacity (done ++ [register i])) :
    standing (done ++ [register i]) = standing done ++ [i] := by
  have before := (h done (List.prefix_append _ _)).1.length_le
  simp only [standing, registrations_append, retirements_append, registrations_register,
    retirements_register, List.append_nil]
  exact List.drop_append_of_le_length before

theorem standing_unregister (h : Orderly capacity (done ++ [unregister i])) :
    standing done = i :: standing (done ++ [unregister i]) := by
  have first := (h _ List.prefix_rfl).1
  simp only [registrations_append, retirements_append, registrations_unregister,
    retirements_unregister, List.append_nil] at first
  obtain ⟨rest, split⟩ := first
  rw [List.append_assoc, List.singleton_append] at split
  simp only [standing, registrations_append, retirements_append, registrations_unregister,
    retirements_unregister, List.append_nil, List.length_append, List.length_singleton]
  rw [← split, List.drop_left, ← List.drop_drop, List.drop_left, List.drop_one, List.tail_cons]

theorem length_standing_le (h : Orderly capacity done) : (standing done).length ≤ capacity := by
  have bound := (h done List.prefix_rfl).2
  rw [standing, List.length_drop]
  omega

/-- An orderly call finds the store as it expects it, if the ids in use are different. -/
theorem apply_holding {s : Store} {call : Call} {supplied : List Instance}
    (h : s.Holding Source.perf (standing done)) (orderly : Orderly capacity (done ++ [call]))
    (supply : registrations (done ++ [call]) <+: supplied) (spaced : Spaced capacity supplied) :
    (call.apply s).1 = .ok true ∧
      (call.apply s).2.Holding Source.perf (standing (done ++ [call])) := by
  cases call with
  | register i =>
    rw [standing_register orderly]
    apply holding_register h
    rw [← standing_register orderly]
    apply spaced
    · exact (List.drop_suffix _ _).isInfix.trans supply.isInfix
    · exact length_standing_le orderly
  | unregister i =>
    rw [standing_unregister orderly] at h
    exact holding_unregister h

end Call

/-! ## Served workloads -/

namespace Watched

/-- All calls that the ledger has were made or are under way, in its order; those that were made
succeeded and changed something, and the registry holds what they leave standing. -/
structure Served (s : Watched τ Store) : Prop where
  log_eq : s.ledger.log = s.answered.map (·.1) ++ s.work.underWay
  answers : ∀ a ∈ s.answered, a.2 = .ok true
  holding : s.work.registry.Holding Source.perf (standing (s.answered.map (·.1)))

variable [Topology τ] {s : Watched τ Store}

theorem opening_served (topology : τ) (feed : Feed) (subscriptions : Subscriptions) :
    (opening topology ({ feed := feed } : Store) subscriptions).Served where
  log_eq := rfl
  answers := by simp [opening]
  holding := holding_empty feed Source.perf

/-- The next call succeeds, changes something, and is no longer under way. -/
theorem nextCall_served (plan : Plan) {capacity : Nat} (h : s.Served)
    (orderly : Orderly capacity s.ledger.log) (supply : s.ledger.registered <+: s.ledger.supplied)
    (spaced : Spaced capacity s.ledger.supplied) : (s.move plan .nextCall).Served := by
  show Served ⟨s.work.applyNext?.getD s.work, s.ledger, s.answered ++ s.work.answerTo 0⟩
  have log := h.log_eq
  rcases s.work.nextCall_cases with ⟨same, silent, unchanged⟩ |
    ⟨call, others, first, answer, changed, outcome⟩
  · rw [silent, List.append_nil]
    exact ⟨by rw [same]; exact log, h.answers, by rw [unchanged]; exact h.holding⟩
  · rw [first, List.append_cons] at log
    have early : s.answered.map (·.1) ++ [call] <+: s.ledger.log := ⟨_, log.symm⟩
    obtain ⟨well, holding⟩ := apply_holding h.holding (orderly.earlier early)
      ((early.filterMap registered?).trans supply) spaced
    have remaining : (s.work.applyNext?.getD s.work).underWay = others := by
      rcases outcome with ⟨cause, refused⟩ | left
      · rw [well] at refused
        cases refused
      · exact left
    rw [answer, well]
    constructor
    · rw [remaining, List.map_append]
      exact log
    · intro a known
      rcases List.mem_append.mp known with old | new
      · exact h.answers a old
      · rw [List.mem_singleton.mp new]
    · rw [changed, List.map_append]
      exact holding

theorem move_served (plan : Plan) (m : Move) {capacity : Nat} (h : s.Served)
    (orderly : Orderly capacity s.ledger.log) (supply : s.ledger.registered <+: s.ledger.supplied)
    (spaced : Spaced capacity s.ledger.supplied) : (s.move plan m).Served := by
  cases m with
  | registrationTick =>
    have untouched : (s.move plan .registrationTick).work.registry = s.work.registry :=
      s.work.conveyor.tick_registry (fun _ => rfl) plan.registrations.schedule.batch
        plan.registrations.target s.work.registry s.work.board
    have under : (s.move plan .registrationTick).work.underWay
        = s.work.underWay ++ s.work.asked plan.registrations :=
      s.work.underWay_registrationTick plan.registrations
    constructor
    · rw [under, ← List.append_assoc]
      show s.ledger.log ++ _ = _
      rw [h.log_eq]
      rfl
    · exact h.answers
    · rw [untouched]
      exact h.holding
  | interestTick => exact ⟨h.log_eq, h.answers, h.holding⟩
  | nextCall => exact nextCall_served plan h orderly supply spaced
  | channels => exact ⟨h.log_eq, h.answers, h.holding⟩

/-! ## Runs -/

/-- The books are right, and the registry keeps up with them. -/
structure InStep (start : τ) (s : Watched τ Store) : Prop where
  booked : s.Booked start
  served : s.Served

theorem opening_inStep (start : τ) (feed : Feed) (subscriptions : Subscriptions) :
    (opening start ({ feed := feed } : Store) subscriptions).InStep start where
  booked := opening_booked start _ subscriptions
  served := opening_served start feed subscriptions

variable {start : τ}

/-- Notices do not matter. -/
theorem InStep.journal {work : Workload τ Store} {ledger : Ledger}
    {answered : List (Call × Except RegistryError Bool)} (h : InStep start ⟨work, ledger, answered⟩)
    (journal : Journal) : InStep start ⟨{ work with journal := journal }, ledger, answered⟩ :=
  ⟨⟨h.booked.accounts, h.booked.comesFrom⟩, ⟨h.served.log_eq, h.served.answers, h.served.holding⟩⟩

theorem move_inStep (plan : Plan) (m : Move) (h : s.InStep start)
    (spaced : Spaced (Topology.servicePool start).length s.ledger.supplied) :
    (s.move plan m).InStep start where
  booked := move_booked plan m h.booked
  served := by
    obtain ⟨accounts, comesFrom⟩ := h.booked
    rw [← comesFrom.initial_eq] at spaced
    exact move_served plan m h.served accounts.orderly ⟨_, accounts.supplied_eq.symm⟩ spaced

/-- A generator's ids are different enough for any number of moves, if its numbers did not come
round before. -/
theorem InStep.exists_move {g : Generator} {s : Watched Generator Store} {first : Nat}
    (h : s.InStep g) (ready : g.Ready first) (few : first ≤ 2 ^ 64) (plan : Plan) (m : Move) :
    ∃ ledger answered, InStep g ⟨s.work.move plan m, ledger, answered⟩ := by
  have spaced := h.booked.comesFrom.spaced ready few
  exact ⟨_, _, move_inStep plan m h spaced⟩

/-- Nothing that was supplied is forgotten. -/
theorem supplied_move (plan : Plan) (m : Move) :
    s.ledger.supplied <+: (s.move plan m).ledger.supplied := by
  cases m with
  | registrationTick => exact ⟨_, List.append_assoc _ _ _⟩
  | interestTick => exact List.prefix_rfl
  | nextCall => exact List.prefix_rfl
  | channels => exact List.prefix_rfl

/-- **Whatever the moves, the registry keeps up**, as long as the ids in use are different. -/
theorem run_inStep (plan : Plan) (moves : List Move) (h : s.InStep start)
    (spaced : Spaced (Topology.servicePool start).length (s.run plan moves).ledger.supplied) :
    (s.run plan moves).InStep start := by
  -- From the end of the run, where everything that was ever supplied is known to be spaced.
  induction moves using List.reverseRecOn with
  | nil => exact h
  | append_singleton moves m ih =>
    rw [run, List.foldl_append] at spaced ⊢
    have before := spaced.earlier (supplied_move plan m)
    exact move_inStep plan m (ih before) before

/-- The registry holds as many instances as calls registered and none took out. -/
theorem InStep.size_eq (h : s.InStep start) (few : (Topology.servicePool start).length < 2 ^ 64) :
    s.work.registry.size + (retirements (s.answered.map (·.1))).length
        = (registrations (s.answered.map (·.1))).length ∧
      s.work.registry.size ≤ (Topology.servicePool start).length := by
  have made : s.answered.map (·.1) <+: s.ledger.log := ⟨_, h.served.log_eq.symm⟩
  have orderly := h.booked.accounts.orderly.earlier made
  have bound := length_standing_le orderly
  rw [h.booked.comesFrom.initial_eq] at bound
  have taken := (orderly _ List.prefix_rfl).1.length_le
  rw [h.served.holding.size_eq (by omega)]
  refine ⟨?_, bound⟩
  rw [standing, List.length_drop]
  omega

/-- Once no call is under way, the active instances are those that calls left standing. -/
theorem InStep.standing_eq_active (h : s.InStep start)
    (idle : s.work.underWay = []) :
    standing (s.answered.map (·.1)) = s.work.conveyor.active.toList := by
  have all := h.served.log_eq
  rw [idle, List.append_nil] at all
  have registered := h.booked.accounts.registered_eq
  rw [Ledger.registered, Ledger.retired] at registered
  rw [← all, standing, registered, List.drop_left]

/-- Then the size of the registry is their number. -/
theorem InStep.size_eq_active (h : s.InStep start) (idle : s.work.underWay = [])
    (few : s.work.conveyor.active.size < 2 ^ 64) :
    s.work.registry.size = s.work.conveyor.active.size := by
  have size := h.served.holding.size_eq
  rw [h.standing_eq_active idle, ← Fifo.size_eq_length] at size
  exact size few

theorem InStep.contains_iff (h : s.InStep start) (idle : s.work.underWay = [])
    (id : String) :
    s.work.registry.contains id Source.perf = true
      ↔ ∃ i ∈ s.work.conveyor.active.toList, i.id = id := by
  rw [h.served.holding.contains_iff, h.standing_eq_active idle]
  simp

/-- **The registry follows the active instances, however late the calls come.**  Begin with a new
generator that has given some replacements already, a full pool, and an empty registry to which
nobody else writes.  Then every call that is made changes the registry as it should, the size of
the registry counts the calls, and whenever none is under way the registry holds exactly the
active instances.  Only the numbers of the instances, which have 64 bits, must not come round. -/
theorem registry_follows_active_instances {name : String} {applications instances seed : UInt64}
    {g₀ : Generator} (made : Generator.create name applications instances seed = .ok g₀)
    (earlier : List Instance) (feed : Feed) (subscriptions : Subscriptions) (plan : Plan)
    (moves : List Move) :
    let g := (replacements earlier g₀).2
    let s := (opening g ({ feed := feed } : Store) subscriptions).run plan moves
    instances.toNat + earlier.length + s.ledger.retired.length ≤ 2 ^ 64 →
      s.ledger.log = s.answered.map (·.1) ++ s.work.underWay ∧
      (∀ a ∈ s.answered, a.2 = .ok true) ∧
      s.work.registry.size + (retirements (s.answered.map (·.1))).length
        = (registrations (s.answered.map (·.1))).length ∧
      s.work.registry.size ≤ (Topology.servicePool g).length ∧
      (s.work.underWay = [] → ∀ id,
        s.work.registry.contains id Source.perf = true
          ↔ ∃ i ∈ s.work.conveyor.active.toList, i.id = id) := by
  intro g s few
  obtain ⟨ready, length⟩ := Generator.create_ready made
  obtain ⟨-, ready, services⟩ := ready.replacements earlier
  have opened := opening_inStep g feed subscriptions
  have distinct := (run_booked plan moves opened.booked).comesFrom.distinct ready few
  have kept : s.InStep g := run_inStep plan moves opened (spaced_of_distinct distinct _)
  have small : (Topology.servicePool g).length < 2 ^ 64 := by
    show g.services.length < 2 ^ 64
    rw [services, length]
    exact instances.toNat_lt
  obtain ⟨size, bound⟩ := kept.size_eq small
  exact ⟨kept.served.log_eq, kept.served.answers, size, bound, kept.contains_iff⟩

/-- A case of it: three instances, of which one should stay, numbered on behind two replacements
that were given before, and calls that come a tick late. -/
theorem registry_follows_three_instances :
    ∃ g₀, Generator.create "a-1" 2 3 7 = .ok g₀ ∧
      let g := (replacements [(default : Instance), default] g₀).2
      let plan : Plan := { registrations := { schedule := ⟨.zero, 2⟩, target := 1 } }
      let s := (opening g ({ feed := { window := 4 } } : Store) { queries := g.queries }).run plan
        [.registrationTick, .nextCall, .nextCall, .registrationTick, .interestTick, .nextCall,
          .registrationTick, .nextCall, .nextCall, .nextCall]
      (3 : UInt64).toNat + 2 + s.ledger.retired.length ≤ 2 ^ 64 ∧
        (∀ a ∈ s.answered, a.2 = .ok true) ∧
        s.work.registry.size + (retirements (s.answered.map (·.1))).length
          = (registrations (s.answered.map (·.1))).length := by
  obtain ⟨g₀, made⟩ := Generator.create_ok "a-1" 2 3 7 (by decide) (by decide)
  refine ⟨g₀, made, ?_⟩
  intro g plan s
  have few : (3 : UInt64).toNat + 2 + s.ledger.retired.length ≤ 2 ^ 64 := by
    have bound : s.ledger.retired.length ≤ 0 + 10 * 2 := retired_run_le plan _ _
    have three : (3 : UInt64).toNat = 3 := rfl
    omega
  obtain ⟨-, answers, size, -⟩ := registry_follows_active_instances made [default, default] _
    { queries := g.queries } plan _ few
  exact ⟨few, answers, size⟩

end Watched

end RegistryLoad
