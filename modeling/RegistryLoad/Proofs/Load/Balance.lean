import RegistryLoad.Proofs.Load.Beginning
import RegistryLoad.Proofs.Load.Following
import RegistryLoad.Proofs.Load.Level
import RegistryLoad.Proofs.Load.Life

/-!
# The balance of a run

Whenever a run ends, its numbers agree: nothing of the pool is lost, the registry holds the
active instances, and the score board says so.

## Definitions

* `Stage.Balanced`: the books of a stage are right, and its subscriptions are at their level.

## Results

* `Stage.lasting_balanced`: that lasts.
* `Run.ends_in_balance`: what a run leaves behind.
-/

namespace RegistryLoad

open Call Store Watched

namespace Stage

/-- A stage whose registrations and subscriptions are as the books of a generator have it. -/
structure Balanced (g : Generator) (s : Stage Generator Store) : Prop where
  inStep : ∃ ledger answered, InStep g ⟨s.work, ledger, answered⟩
  shown : s.work.subscriptions.Shown s.work.board
  atLevel : s.work.subscriptions.AtLevel s.plan.interests.target

variable {g : Generator}

/-- A move leaves the books of a new generator right. -/
theorem Balanced.move {s : Stage Generator Store} (h : s.Balanced g)
    (fresh : g.Ready g.services.length) (few : g.services.length ≤ 2 ^ 64) (m : Move) :
    ∃ ledger answered, InStep g ⟨s.work.move s.plan m, ledger, answered⟩ := by
  obtain ⟨ledger, answered, inStep⟩ := h.inStep
  exact inStep.exists_move fresh few s.plan m

/-- **The balance lasts.** -/
theorem lasting_balanced (fresh : g.Ready g.services.length) (few : g.services.length ≤ 2 ^ 64) :
    Lasting (Balanced g) where
  registrationTick s h := by
    obtain ⟨-, interests, activeInterests⟩ := s.work.registrationTick_frame
      s.plan.registrations.schedule.batch s.plan.registrations.target
    exact ⟨h.move fresh few .registrationTick, h.shown.board interests activeInterests, h.atLevel⟩
  interestTick s h := by
    refine ⟨h.move fresh few .interestTick, ?_, ?_⟩
    · exact Subscriptions.tick_shown h.shown _ _ _
    · exact Subscriptions.tick_atLevel h.atLevel _ _ _
  nextCall s w h next := by
    have moved := h.move fresh few .nextCall
    obtain ⟨-, subscriptions, board, -⟩ := Workload.applyNext?_eq_some next
    rw [Workload.move, next, Option.getD_some] at moved
    refine ⟨moved, ?_, ?_⟩
    · show w.subscriptions.Shown w.board
      rw [subscriptions, board]
      exact h.shown
    · show w.subscriptions.AtLevel s.plan.interests.target
      rw [subscriptions]
      exact h.atLevel
  settleChannels s h := by
    refine ⟨h.move fresh few .channels, ?_, ?_⟩
    · exact Subscriptions.settle_shown h.shown _
    · exact Subscriptions.settle_atLevel h.atLevel _
  render s h := ⟨h.inStep, h.shown, h.atLevel⟩
  note s n h := by
    obtain ⟨ledger, answered, inStep⟩ := h.inStep
    exact ⟨⟨ledger, answered, inStep.journal _⟩, h.shown, h.atLevel⟩
  pass s now h := ⟨h.inStep, h.shown, h.atLevel⟩

/-- A full pool, no channel and an empty registry are balanced. -/
theorem balanced_opening (g : Generator) (plan : Plan) (clock : Clock) (sink : Sink) (now : Nat)
    (feed : Feed) (subscriptions : Subscriptions) (queries : Queries) (journal : Journal) :
    Balanced g
      { plan := plan, clock := clock, sink := sink, now := now,
        work :=
          { registry := { feed := feed }
            conveyor := Conveyor.start g
            subscriptions := subscriptions.restart queries
            journal := journal } } where
  inStep := ⟨_, _, (opening_inStep g feed (subscriptions.restart queries)).journal journal⟩
  shown := ⟨by simp [Subscriptions.restart], Nat.le_refl _, rfl, fun _ => rfl⟩
  atLevel := (Nat.zero_min _).symm

/-- What the balance comes to when no call is under way. -/
theorem Balanced.settled {s : Stage Generator Store} (h : s.Balanced g) (idle : s.Idle)
    (few : g.services.length < 2 ^ 64) :
    s.work.conveyor.pool.size + s.work.conveyor.active.size = g.services.length ∧
      (s.work.board.registrations - s.work.board.unregistrations).toNat
        = s.work.conveyor.active.size ∧
      s.work.registry.size = s.work.conveyor.active.size ∧
      ∀ id, s.work.registry.contains id Source.perf = true
        ↔ ∃ i ∈ s.work.conveyor.active.toList, i.id = id := by
  obtain ⟨ledger, answered, inStep⟩ := h.inStep
  obtain ⟨accounts, comesFrom⟩ := inStep.booked
  have quiet : s.work.underWay = [] := by
    rw [Workload.underWay, show s.work.pending = [] from idle, List.flatMap_nil]
  have conserved : s.work.conveyor.pool.size + s.work.conveyor.active.size = g.services.length := by
    rw [accounts.conserves, comesFrom.initial_eq]
    rfl
  have small : s.work.conveyor.active.size < 2 ^ 64 := by omega
  have registered :
      ledger.registered.length = ledger.retired.length + s.work.conveyor.active.size := by
    rw [accounts.registered_eq, List.length_append, ← Fifo.size_eq_length]
  refine ⟨conserved, ?_, inStep.size_eq_active quiet small, inStep.contains_iff quiet⟩
  · have counted := UInt64.ofNat_sub (Nat.le_of_add_right_le registered.ge)
    rw [registered, Nat.add_sub_cancel_left] at counted
    rw [accounts.registrations_eq, accounts.unregistrations_eq, registered, ← counted]
    exact UInt64.toNat_ofNat_of_lt' small

end Stage

namespace Run

/-- **A run ends in balance**, whatever interrupts it and when.  It gives its summary: the pool is
as large as in the beginning, if the active instances are counted in, and these are as many as the
registry holds and as the score board has registered and not taken out again.  As many channels
are open as wanted, or all that were ever opened.  The registry holds exactly the active
instances and is shut down.

The counters are words of 64 bits: their difference is one of words, and the counters of interests
count channels as long as fewer than `2 ^ 64` were opened, more than any run lives to open. -/
theorem ends_in_balance {settings : Settings} (accepted : settings.check = .ok ()) (clock : Clock)
    (interrupt : Option Moment) :
    ∃ r summary r', create settings clock none = .ok r ∧ r.runTo interrupt = (.ok summary, r') ∧
      summary.total = settings.poolSize.toNat ∧
      (summary.snapshot.counters.registrations
        - summary.snapshot.counters.unregistrations).toNat = summary.activeRegistrations ∧
      summary.activeRegistrations = summary.registrySize ∧
      summary.snapshot.counters.interests = UInt64.ofNat r'.work.subscriptions.used ∧
      summary.activeInterests
        = min r'.work.subscriptions.used settings.interestTarget.toNat ∧
      (r'.work.subscriptions.used < 2 ^ 64 →
        summary.snapshot.counters.activeInterests.toNat = summary.activeInterests ∧
        summary.activeInterests
          = min summary.snapshot.counters.interests.toNat settings.interestTarget.toNat) ∧
      (∀ id, r'.work.registry.contains id Source.perf = true
        ↔ ∃ i ∈ r'.work.conveyor.active.toList, i.id = id) ∧
      r'.work.registry.isShutDown = true ∧
      ∀ source i,
        r'.work.registry.register source i = (.error .shutDown, r'.work.registry) ∧
        r'.work.registry.unregister source i = (.error .shutDown, r'.work.registry) := by
  obtain ⟨g, registrations, interests, r, made, -, -, created, rfl, writable, unstarted, session⟩ :=
    create_of_check accepted clock none
  obtain ⟨ready, length⟩ := Generator.create_ready made
  have few : g.services.length < 2 ^ 64 := by
    rw [length]
    exact r.settings.poolSize.toNat_lt
  rw [← length] at ready
  have lasting := Stage.lasting_balanced ready few.le
  obtain ⟨begun, starts, -, started, stage⟩ := startEach_activities accepted unstarted writable
  have balanced : begun.session.stage.Balanced g := by
    rw [stage, work, session]
    exact Stage.balanced_opening g _ _ _ _ _ _ _ _
  have target : begun.session.stage.plan.interests.target = r.settings.interestTarget := by
    rw [stage, session]
    rfl
  obtain ⟨last, runs, all, lasts⟩ := runTo_of_startEach starts interrupt
  have ended := lasting.finish (lasts _ lasting balanced)
  have planned := (Stage.lasting_plan _).finish (lasts _ (Stage.lasting_plan _) rfl)
  obtain ⟨conserved, difference, size, contents⟩ := ended.settled (Session.idle_finish _) few
  obtain ⟨journal, work, counters, registrySize, pool, activeRegistrations, activeInterests⟩ :=
    stop_of_started (r := last) (by rw [all, started]; decide)
  have level := ended.atLevel
  rw [Subscriptions.AtLevel, planned, target] at level
  refine ⟨r, last.stop.1, last.stop.2, created, runs, ?_, ?_, ?_, ?_, ?_, ?_, ?_, ?_, ?_⟩
  · rw [Summary.total, pool, activeRegistrations, conserved, length]
  · rw [counters, activeRegistrations, difference]
  · rw [registrySize, activeRegistrations, size]
  · rw [counters, work]
    exact ended.shown.interests
  · rw [activeInterests, work]
    exact level
  · intro bounded
    rw [work] at bounded
    have open_le := Nat.lt_of_le_of_lt ended.shown.size_le bounded
    rw [counters, activeInterests, ended.shown.interests, ended.shown.activeInterests bounded,
      UInt64.toNat_ofNat_of_lt' bounded, UInt64.toNat_ofNat_of_lt' open_le]
    exact ⟨rfl, level⟩
  · rw [work]
    exact contents
  · rw [work]
    rfl
  · intro source i
    rw [work]
    exact ⟨register_of_isShutDown source i rfl, unregister_of_isShutDown source i rfl⟩

/-- A case of it: the standard run, interrupted after the first turn at its 250th millisecond and
three calls. -/
theorem standard_run_ends_in_balance :
    Settings.standard.check = .ok () ∧
      ∃ r summary r', create Settings.standard Clock.stopped none = .ok r ∧
        r.runTo (some { span := TimeSpan.ofMillis 250, turns := 1, calls := 3 })
          = (.ok summary, r') ∧
        summary.total = 12000 ∧ summary.activeRegistrations = summary.registrySize ∧
        r'.work.registry.isShutDown = true := by
  have accepted : Settings.standard.check = .ok () := by decide
  obtain ⟨r, summary, r', created, runs, total, -, size, -, -, -, -, shut, -⟩ :=
    ends_in_balance accepted Clock.stopped
      (some { span := TimeSpan.ofMillis 250, turns := 1, calls := 3 })
  exact ⟨accepted, r, summary, r', created, runs, total, size, shut⟩

end Run

end RegistryLoad
