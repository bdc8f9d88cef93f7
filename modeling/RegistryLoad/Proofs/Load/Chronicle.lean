import Mathlib.Data.List.Forall2
import RegistryLoad.Proofs.Load.Pacing

/-!
# The lines of a score board

The score board is written again and again while the other activities are at work, and once more at
the end.  Its counters are words of 64 bits; what they stand for are numbers that belong together in
every line, and that never become less from one line to the next.

## Definitions

* `Tally`: the numbers that counters stand for; `Tally.Before`: none of them has become less.
* `Counters.Tells`: counters that stand for a tally, with all that is true of it.
* `Tally.Recorded`: lines that tell tallies, each before the next.
* `Counters.Consistent`, `Counters.Upward`: what lines say themselves if words hold the numbers.
* `Stage.Stands`: a stage on which everything adds up to a tally.
* `Stage.Chronicle`: a stage whose lines tell tallies, each before the next.

## Results

* `Tally.Recorded.words`: numbers that words hold are those of the lines.
* `Stage.Stands.registrations`, `Stage.Stands.interests`: a tick leads from one tally to a later
  one.
* `Stage.ongoing_chronicle`: the lines go on as they should.
* `Run.lines_belong_together`: what that says of the lines of a run.
-/

namespace RegistryLoad

open Call Watched

/-! ## Tallies -/

/-- What was registered, taken out and subscribed so far. -/
structure Tally where
  registrations : Nat
  unregistrations : Nat
  interests : Nat

/-- No number of the tally is more than that of the other one. -/
structure Tally.Before (t t' : Tally) : Prop where
  registrations : t.registrations ≤ t'.registrations
  unregistrations : t.unregistrations ≤ t'.unregistrations
  interests : t.interests ≤ t'.interests

theorem Tally.Before.refl (t : Tally) : t.Before t :=
  ⟨Nat.le_refl _, Nat.le_refl _, Nat.le_refl _⟩

theorem Tally.Before.trans {a b c : Tally} (hab : a.Before b) (hbc : b.Before c) : a.Before c :=
  ⟨Nat.le_trans hab.registrations hbc.registrations,
    Nat.le_trans hab.unregistrations hbc.unregistrations,
    Nat.le_trans hab.interests hbc.interests⟩

/-- The counters stand for the tally, as words of 64 bits: no more instances are registered than the
pool has, and as many channels are open as are wanted, or as there ever were.  (The number of open
channels is counted up and down within a tick, and must fit into a word meanwhile.) -/
structure Counters.Tells (pool target batch : Nat) (c : Counters) (t : Tally) : Prop where
  registrations : c.registrations = UInt64.ofNat t.registrations
  unregistrations : c.unregistrations = UInt64.ofNat t.unregistrations
  interests : c.interests = UInt64.ofNat t.interests
  retired_le : t.unregistrations ≤ t.registrations
  registered_le : t.registrations ≤ t.unregistrations + pool
  active : min t.interests (target + batch) < 2 ^ 64 →
    c.activeInterests.toNat = min t.interests target
  size_le : c.registrySize.toNat ≤ pool

/-- Lines that tell these tallies, each before the next. -/
structure Tally.Recorded (pool target batch : Nat) (lines : List Snapshot) (tallies : List Tally) :
    Prop where
  tells : List.Forall₂ (fun (line : Snapshot) t => line.counters.Tells pool target batch t) lines
    tallies
  ordered : tallies.Pairwise Tally.Before

/-! ## Words -/

namespace Counters

/-- What counters say of themselves. -/
structure Consistent (pool target : UInt64) (c : Counters) : Prop where
  retired_le : c.unregistrations ≤ c.registrations
  registered_le : c.registrations.toNat ≤ c.unregistrations.toNat + pool.toNat
  active : c.activeInterests = min c.interests target
  size_le : c.registrySize ≤ pool

/-- What has been counted has not become less. -/
structure Upward (c c' : Counters) : Prop where
  registrations : c.registrations ≤ c'.registrations
  unregistrations : c.unregistrations ≤ c'.unregistrations
  interests : c.interests ≤ c'.interests

end Counters

/-- The numbers of the tally are such that words can hold them. -/
structure Tally.Fits (t : Tally) : Prop where
  registrations : t.registrations < 2 ^ 64
  interests : t.interests < 2 ^ 64

variable {pool target : UInt64} {batch : Nat} {c c' : Counters} {t t' : Tally}

/-- If words hold the last numbers, then they hold all of them. -/
theorem Tally.Fits.of_last {tallies : List Tally} (fits : t.Fits)
    (ordered : (tallies ++ [t]).Pairwise Before) : ∀ t' ∈ tallies ++ [t], t'.Fits := by
  intro t' known
  rcases List.mem_append.mp known with earlier | last
  · have before := (List.pairwise_append.mp ordered).2.2 t' earlier t List.mem_cons_self
    exact ⟨Nat.lt_of_le_of_lt before.registrations fits.registrations,
      Nat.lt_of_le_of_lt before.interests fits.interests⟩
  · rw [List.mem_singleton.mp last]
    exact fits

theorem Counters.Tells.toNat_eq (h : c.Tells pool.toNat target.toNat batch t) (fits : t.Fits) :
    c.registrations.toNat = t.registrations ∧ c.unregistrations.toNat = t.unregistrations ∧
      c.interests.toNat = t.interests := by
  rw [h.registrations, h.unregistrations, h.interests]
  exact ⟨UInt64.toNat_ofNat_of_lt' fits.registrations,
    UInt64.toNat_ofNat_of_lt' (Nat.lt_of_le_of_lt h.retired_le fits.registrations),
    UInt64.toNat_ofNat_of_lt' fits.interests⟩

theorem Counters.Tells.consistent (h : c.Tells pool.toNat target.toNat batch t) (fits : t.Fits) :
    c.Consistent pool target := by
  obtain ⟨registrations, unregistrations, interests⟩ := h.toNat_eq fits
  have active := h.active (Nat.lt_of_le_of_lt (Nat.min_le_left _ _) fits.interests)
  refine ⟨?_, ?_, ?_, UInt64.le_iff_toNat_le.mpr h.size_le⟩
  · rw [UInt64.le_iff_toNat_le, registrations, unregistrations]
    exact h.retired_le
  · rw [registrations, unregistrations]
    exact h.registered_le
  · rw [← UInt64.toNat_inj, UInt64.toNat_min, active, interests]

theorem Counters.Tells.upward (h : c.Tells pool.toNat target.toNat batch t)
    (h' : c'.Tells pool.toNat target.toNat batch t') (fits : t.Fits) (fits' : t'.Fits)
    (before : t.Before t') : c.Upward c' := by
  obtain ⟨registrations, unregistrations, interests⟩ := h.toNat_eq fits
  obtain ⟨registrations', unregistrations', interests'⟩ := h'.toNat_eq fits'
  refine ⟨?_, ?_, ?_⟩
  · rw [UInt64.le_iff_toNat_le, registrations, registrations']
    exact before.registrations
  · rw [UInt64.le_iff_toNat_le, unregistrations, unregistrations']
    exact before.unregistrations
  · rw [UInt64.le_iff_toNat_le, interests, interests']
    exact before.interests

/-- Every line tells one of the tallies. -/
theorem Tally.exists_told {lines : List Snapshot} {tallies : List Tally}
    (tells : List.Forall₂ (fun (line : Snapshot) t => line.counters.Tells pool.toNat target.toNat
      batch t) lines tallies) {line : Snapshot} (known : line ∈ lines) :
    ∃ t ∈ tallies, line.counters.Tells pool.toNat target.toNat batch t := by
  induction tells with
  | nil => cases known
  | @cons first t lines tallies told rest ih =>
    rcases List.mem_cons.mp known with rfl | known
    · exact ⟨t, List.mem_cons_self, told⟩
    · obtain ⟨t', known', told'⟩ := ih known
      exact ⟨t', List.mem_cons_of_mem t known', told'⟩

/-- If words hold the numbers, then the lines say themselves what is true of them. -/
theorem Tally.Recorded.words {lines : List Snapshot} {tallies : List Tally}
    (h : Recorded pool.toNat target.toNat batch lines tallies) (fits : ∀ t ∈ tallies, t.Fits) :
    (∀ line ∈ lines, line.counters.Consistent pool target) ∧
      lines.Pairwise fun line later => line.counters.Upward later.counters := by
  obtain ⟨tells, ordered⟩ := h
  induction tells with
  | nil => simp
  | @cons line t lines tallies first rest ih =>
    rw [List.forall_mem_cons] at fits
    rw [List.pairwise_cons] at ordered
    obtain ⟨consistent, upward⟩ := ih fits.2 ordered.2
    refine ⟨List.forall_mem_cons.mpr ⟨first.consistent fits.1, consistent⟩,
      List.pairwise_cons.mpr ⟨?_, upward⟩⟩
    intro later known
    obtain ⟨t', known', tells'⟩ := Tally.exists_told rest known
    exact first.upward tells' fits.1 (fits.2 t' known') (ordered.1 t' known')

/-! ## Stages -/

/-- A tick shows no other size of the registry than it finds. -/
theorem Conveyor.tick_shown_le {τ ρ : Type} [Topology τ] [Registry ρ]
    (alone : ∀ registry : ρ, Registry.afterLook registry = registry) (batch target : UInt64)
    (c : Conveyor τ) {registry : ρ} {board : Counters} {bound : Nat}
    (found : (Registry.size registry).toNat ≤ bound) (shown : board.registrySize.toNat ≤ bound) :
    (c.tick batch target registry board).2.board.registrySize.toNat ≤ bound := by
  refine (tick_preserves (P := fun t : Turn τ ρ => t.registry = registry ∧
    t.board.registrySize.toNat ≤ bound) ?_ ?_ ?_ ?_ batch c registry board ⟨rfl, shown⟩).2
  · intro t t' ⟨same, _⟩ ht
    obtain ⟨-, -, -, -, looked, board, -⟩ := Turn.register?_eq_some ht
    rw [looked, board, same]
    exact ⟨alone registry, found⟩
  · intro t t' ⟨same, _⟩ ht
    obtain ⟨-, -, -, -, -, looked, board, -⟩ := Turn.retire?_eq_some ht
    rw [looked, board, same, alone, alone]
    exact ⟨rfl, found⟩
  · exact fun _ _ h => h
  · exact fun _ ⟨same, shown⟩ => ⟨by rw [← same]; exact alone _, shown⟩

namespace Stage

/-- The tally of a ledger and of subscriptions. -/
def tallyOf (ledger : Ledger) (s : Subscriptions) : Tally where
  registrations := ledger.registered.length
  unregistrations := ledger.retired.length
  interests := s.used

/-- Everything on the stage adds up to the tally: the books of its registrations, its subscriptions,
the score board, and the ticks that there were. -/
structure Stands (g : Generator) (ticks : List Activity) (t : Tally) (s : Stage Generator Store) :
    Prop where
  reports : s.work.Reports ticks
  books : ∃ ledger answered, InStep g ⟨s.work, ledger, answered⟩ ∧
    t = tallyOf ledger s.work.subscriptions
  registered_eq : s.work.journal.registered = t.registrations
  registered_le : t.registrations ≤ ticks.count .registrations
    * min s.plan.registrations.schedule.batch.toNat g.services.length
  atLevel : s.work.subscriptions.AtLevel s.plan.interests.target
  shown : s.work.subscriptions.Shown s.work.board
  counted : min s.work.subscriptions.used
      (s.plan.interests.target.toNat + s.plan.interests.schedule.batch.toNat) < 2 ^ 64 →
    s.work.board.activeInterests = UInt64.ofNat s.work.subscriptions.active.size
  size_le : s.work.board.registrySize.toNat ≤ g.services.length

variable {g : Generator} {ticks : List Activity} {t : Tally} {s : Stage Generator Store}

theorem Stands.interests_eq (h : s.Stands g ticks t) :
    t.interests = s.work.subscriptions.used := by
  obtain ⟨ledger, answered, -, rfl⟩ := h.books
  rfl

/-- What the score board of such a stage tells. -/
theorem Stands.tells (h : s.Stands g ticks t) :
    s.work.board.Tells g.services.length s.plan.interests.target.toNat
      s.plan.interests.schedule.batch.toNat t := by
  obtain ⟨-, ⟨ledger, answered, inStep, rfl⟩, -, -, atLevel, shown, counted, size_le⟩ := h
  obtain ⟨accounts, comesFrom⟩ := inStep.booked
  have balance : ledger.registered.length
      = ledger.retired.length + s.work.conveyor.active.size := by
    rw [accounts.registered_eq, List.length_append, ← Fifo.size_eq_length]
  have conserved : s.work.conveyor.pool.size + s.work.conveyor.active.size
      = g.services.length := by
    have conserves := accounts.conserves
    rw [comesFrom.initial_eq] at conserves
    exact conserves
  -- What is registered and not taken out is active, and the pool holds the rest.
  refine ⟨accounts.registrations_eq, accounts.unregistrations_eq, shown.interests, ?_, ?_, ?_,
    size_le⟩
  · show ledger.retired.length ≤ ledger.registered.length
    omega
  · show ledger.registered.length ≤ ledger.retired.length + g.services.length
    omega
  · intro fits
    have small : min s.work.subscriptions.used s.plan.interests.target.toNat < 2 ^ 64 :=
      Nat.lt_of_le_of_lt (Nat.min_le_right _ _) s.plan.interests.target.toNat_lt
    rw [counted fits, atLevel, UInt64.toNat_ofNat_of_lt' small]
    rfl

/-- A tick of the registrations leads to a later tally. -/
theorem Stands.registrations (h : s.Stands g ticks t) (fresh : g.Ready g.services.length)
    (few : g.services.length < 2 ^ 64) :
    ∃ t', t.Before t' ∧ (s.act .registrations).Stands g (ticks ++ [.registrations]) t' := by
  obtain ⟨reports, ⟨ledger, answered, inStep, rfl⟩, registered_eq, registered_le, atLevel, shown,
    counted, size_le⟩ := h
  have moved : InStep g ⟨s.work.move s.plan .registrationTick,
      ledger.enter s.work.conveyor.topology (s.work.asked s.plan.registrations), answered⟩ :=
    move_inStep s.plan .registrationTick inStep (inStep.booked.comesFrom.spaced fresh few.le)
  obtain ⟨-, interests, activeInterests⟩ := s.work.registrationTick_frame
    s.plan.registrations.schedule.batch s.plan.registrations.target
  have found : (Registry.size s.work.registry).toNat ≤ g.services.length :=
    (inStep.size_eq few).2
  have more := ledger.registered_enter s.work.conveyor.topology s.plan.registrations s.work
  have spare : s.work.conveyor.pool.size ≤ g.services.length := by
    have conserves := inStep.booked.accounts.conserves
    rw [inStep.booked.comesFrom.initial_eq] at conserves
    exact Nat.le.intro conserves
  -- The ledger with the calls of the tick.
  generalize entered : ledger.enter s.work.conveyor.topology (s.work.asked s.plan.registrations)
    = later at moved more
  have log : later.log = ledger.log ++ s.work.asked s.plan.registrations := by rw [← entered]; rfl
  refine ⟨tallyOf later s.work.subscriptions, ⟨?_, ?_, Nat.le_refl _⟩,
    reports_act reports .registrations, ⟨later, answered, moved.journal _, rfl⟩, ?_, ?_, atLevel,
    shown.board interests activeInterests, fun fits => activeInterests.trans (counted fits),
    Conveyor.tick_shown_le (fun _ => rfl) _ _ _ found size_le⟩
  · simp [tallyOf, Ledger.registered, log]
  · simp [tallyOf, Ledger.retired, log]
  · rw [registered_act, registered_eq]
    exact more.symm
  · show _ ≤ (ticks ++ [Activity.registrations]).count .registrations
      * min s.plan.registrations.schedule.batch.toNat g.services.length
    rw [List.count_append, Nat.add_mul]
    exact more.trans_le
      (Nat.add_le_add registered_le ((min_le_min_left _ spare).trans (by simp)))

/-- A tick of the subscriptions leads to a later tally. -/
theorem Stands.interests (h : s.Stands g ticks t) (fresh : g.Ready g.services.length)
    (few : g.services.length < 2 ^ 64) :
    ∃ t', t.Before t' ∧ (s.act .interests).Stands g (ticks ++ [.interests]) t' := by
  obtain ⟨reports, ⟨ledger, answered, inStep, rfl⟩, registered_eq, registered_le, atLevel, shown,
    counted, size_le⟩ := h
  have moved : InStep g ⟨s.work.move s.plan .interestTick, ledger, answered⟩ :=
    move_inStep s.plan .interestTick inStep (inStep.booked.comesFrom.spaced fresh few.le)
  obtain ⟨-, -, -, -, -, registrySize⟩ := s.work.interestTick_frame
    s.plan.interests.schedule.batch s.plan.interests.target
  obtain ⟨taken, -, used, -⟩ := Subscriptions.tick_used atLevel
    (Registry.feed s.work.registry) s.plan.interests.schedule.batch s.work.board
  have more : s.work.subscriptions.used ≤ (s.act .interests).work.subscriptions.used :=
    Nat.le.intro used.symm
  refine ⟨tallyOf ledger (s.act .interests).work.subscriptions,
    ⟨Nat.le_refl _, Nat.le_refl _, more⟩, reports_act reports .interests,
    ⟨ledger, answered, moved.journal _, rfl⟩, ?_, ?_, Subscriptions.tick_atLevel atLevel _ _ _,
    Subscriptions.tick_shown shown _ _ _, ?_, ?_⟩
  · obtain ⟨silent, -⟩ := Subscriptions.tick_silent (Registry.feed s.work.registry)
      s.plan.interests.schedule.batch s.plan.interests.target s.work.board reports.leaving
    exact (Journal.registered_note _ _).trans
      ((Journal.registered_noteAll silent s.work.journal).trans registered_eq)
  · rw [List.count_append]
    exact registered_le
  · intro fits
    -- No fewer channels are opened in the end, so what fits now did so before.
    have fitted := Nat.lt_of_le_of_lt (min_le_min_right _ more) fits
    exact (Subscriptions.tick_counted atLevel ⟨shown.allOpen, counted fitted⟩ fits).counter
  · exact (congrArg UInt64.toNat registrySize).trans_le size_le

/-- The next call and the turns of the channels change nothing that counts. -/
theorem resting_stands (fresh : g.Ready g.services.length) (few : g.services.length ≤ 2 ^ 64)
    (ticks : List Activity) (t : Tally) : Resting (Stands g ticks t) where
  nextCall s w h next := by
    obtain ⟨reports, ⟨ledger, answered, inStep, tally⟩, registered_eq, registered_le, atLevel, shown,
      counted, size_le⟩ := h
    have moved := move_inStep s.plan .nextCall inStep (inStep.booked.comesFrom.spaced fresh few)
    obtain ⟨-, subscriptions, board, -⟩ := Workload.applyNext?_eq_some next
    obtain ⟨notices, silent, said⟩ := Workload.applyNext?_silent next
    have work : s.work.move s.plan .nextCall = w := by
      rw [Workload.move, next, Option.getD_some]
    rw [← subscriptions] at tally atLevel shown counted
    rw [← board] at shown counted size_le
    rw [Watched.move, work] at moved
    refine ⟨reports.nextCall next, ⟨ledger, _, moved, tally⟩, ?_, registered_le, atLevel, shown,
      counted, size_le⟩
    show w.journal.registered = _
    rw [said, Journal.registered_noteAll silent, registered_eq]
  settleChannels s h := by
    obtain ⟨reports, ⟨ledger, answered, inStep, tally⟩, registered_eq, registered_le, atLevel, shown,
      counted, size_le⟩ := h
    have moved := move_inStep s.plan .channels inStep (inStep.booked.comesFrom.spaced fresh few)
    obtain ⟨-, size, -⟩ := s.work.subscriptions.settle_frame (Registry.feed s.work.registry)
    obtain ⟨silent, -⟩ :=
      Subscriptions.settle_silent (Registry.feed s.work.registry) reports.leaving
    exact ⟨reports.settleChannels, ⟨ledger, _, moved, tally⟩,
      (Journal.registered_noteAll silent s.work.journal).trans registered_eq, registered_le,
      Subscriptions.settle_atLevel atLevel _, Subscriptions.settle_shown shown _,
      fun fits => (counted fits).trans (congrArg UInt64.ofNat size.symm), size_le⟩
  note s n hn h := by
    obtain ⟨ledger, answered, inStep, tally⟩ := h.books
    exact { h with
      reports := h.reports.note_silent hn
      books := ⟨ledger, answered, inStep.journal _, tally⟩
      registered_eq := by
        rw [← h.registered_eq]
        exact (Journal.registered_note _ _).trans
          (by rw [Notice.registrations_of_tickOf? hn, Nat.add_zero]) }
  pass s now h := { h with }

/-! ## Lines -/

/-- The lines that were written on the stage tell tallies, each before the next, and it stands at a
tally that comes after all of them. -/
structure Chronicle (g : Generator) (plan : Plan) (s : Stage Generator Store) : Prop where
  planned : s.plan = plan
  recorded : ∃ ticks tallies t, s.Stands g ticks t ∧
    List.Forall₂ (fun (line : Snapshot) t => line.counters.Tells g.services.length
      plan.interests.target.toNat plan.interests.schedule.batch.toNat t) s.sink.written tallies ∧
    (tallies ++ [t]).Pairwise Tally.Before

variable {plan : Plan}

/-- On to a later tally. -/
theorem Chronicle.onward {s' : Stage Generator Store} (h : s.Chronicle g plan)
    (same : s'.plan = s.plan) (sink : s'.sink = s.sink)
    (step : ∀ ticks t, s.Stands g ticks t → ∃ ticks' t', t.Before t' ∧ s'.Stands g ticks' t') :
    s'.Chronicle g plan := by
  obtain ⟨planned, ticks, tallies, t, stands, tells, ordered⟩ := h
  obtain ⟨ticks', t', before, stands'⟩ := step ticks t stands
  refine ⟨same.trans planned, ticks', tallies, t', stands', by rw [sink]; exact tells, ?_⟩
  rw [List.pairwise_append] at ordered ⊢
  obtain ⟨earlier, -, last⟩ := ordered
  refine ⟨earlier, List.pairwise_singleton _ _, fun a ha b hb => ?_⟩
  rw [List.mem_singleton.mp hb]
  exact (last a ha t List.mem_cons_self).trans before

/-- With the present line, the tally at which the stage stands is the last one. -/
theorem Chronicle.lines (h : s.Chronicle g plan) :
    ∃ ticks tallies t, s.Stands g ticks t ∧
      Tally.Recorded g.services.length plan.interests.target.toNat
        plan.interests.schedule.batch.toNat (s.sink.written ++ [s.snapshot]) (tallies ++ [t]) := by
  obtain ⟨planned, ticks, tallies, t, stands, tells, ordered⟩ := h
  have told := stands.tells
  rw [planned] at told
  exact ⟨ticks, tallies, t, stands, List.rel_append tells (.cons told .nil), ordered⟩

/-- The line that is written tells the tally at which the stage stands. -/
theorem Chronicle.render (h : s.Chronicle g plan) : s.render.2.Chronicle g plan := by
  obtain ⟨ticks, tallies, t, stands, tells, ordered⟩ := h.lines
  by_cases writable : s.sink.failure = none
  · have written : s.render.2.sink.written = s.sink.written ++ [s.snapshot] := by
      rw [Stage.render, Sink.write, writable, Sink.written, Sink.written, List.reverse_cons]
    refine ⟨h.planned, ticks, tallies ++ [t], t, { stands with }, by rw [written]; exact tells, ?_⟩
    rw [List.pairwise_append]
    refine ⟨ordered, List.pairwise_singleton _ _, fun a ha b hb => ?_⟩
    rw [List.mem_singleton.mp hb]
    rcases List.mem_append.mp ha with earlier | last
    · exact (List.pairwise_append.mp ordered).2.2 a earlier t List.mem_cons_self
    · rw [List.mem_singleton.mp last]
      exact .refl t
  · obtain ⟨reason, refused⟩ := Option.ne_none_iff_exists'.mp writable
    have same : s.render.2 = s := by
      rw [Stage.render, Sink.write, refused]
    rw [same]
    exact h

/-- The tally stays what it is. -/
theorem Chronicle.stay {s' : Stage Generator Store} (h : s.Chronicle g plan)
    (same : s'.plan = s.plan) (sink : s'.sink = s.sink)
    (step : ∀ ticks t, s.Stands g ticks t → s'.Stands g ticks t) : s'.Chronicle g plan := by
  apply h.onward same sink
  intro ticks t stands
  exact ⟨ticks, t, .refl t, step ticks t stands⟩

theorem resting_chronicle (fresh : g.Ready g.services.length)
    (few : g.services.length ≤ 2 ^ 64) : Resting (Chronicle g plan) where
  nextCall s w h next := h.stay rfl rfl fun ticks t stands =>
    (resting_stands fresh few ticks t).nextCall s w stands next
  settleChannels s h := h.stay rfl rfl fun ticks t stands =>
    (resting_stands fresh few ticks t).settleChannels s stands
  note s n hn h := h.stay rfl rfl fun ticks t stands =>
    (resting_stands fresh few ticks t).note s n hn stands
  pass s now h := h.stay rfl rfl fun ticks t stands =>
    (resting_stands fresh few ticks t).pass s now stands

/-- **The lines go on as they should.** -/
theorem ongoing_chronicle (fresh : g.Ready g.services.length)
    (few : g.services.length < 2 ^ 64) : Ongoing (Chronicle g plan) where
  toResting := resting_chronicle fresh few.le
  registrations _ h := h.onward rfl rfl fun _ _ stands => ⟨_, stands.registrations fresh few⟩
  interests _ h := h.onward rfl rfl fun _ _ stands => ⟨_, stands.interests fresh few⟩
  render _ h := h.render

/-- Nothing was done yet and no line was written. -/
theorem chronicle_fresh (plan : Plan) (clock : Clock) (g : Generator) {journal : Journal}
    (quiet : journal.ticks = []) : (Run.freshStage plan clock g journal).Chronicle g plan := by
  have inStep := (opening_inStep g ({} : Store).feed { queries := g.queries }).journal journal
  refine ⟨rfl, [], [], tallyOf _ { queries := g.queries }, ⟨⟨quiet, Notice.silent_nil⟩,
    ⟨_, _, inStep, rfl⟩, Journal.registered_of_ticks quiet, Nat.zero_le _, (Nat.zero_min _).symm, ?_,
    fun _ => rfl, Nat.zero_le _⟩, .nil, List.pairwise_singleton _ _⟩
  exact ⟨by simp [Run.freshStage], Nat.le_refl _, rfl, fun _ => rfl⟩

end Stage

/-! ## Runs -/

namespace Run

/-- The lines of a run that has stopped: those of its score board, and the last one. -/
def lines (r : Run) (summary : Summary) : List Snapshot :=
  r.session.stage.sink.written ++ [summary.snapshot]

/-- **The lines of a run belong together**, whatever interrupts it and when.  There are numbers for
which the counters stand in each line: no more is registered than was taken out and the pool holds,
as many channels are open as are wanted, or as there ever were if these are fewer, and the registry
is no larger than the pool.  None of the numbers becomes less from one line to the next, and the last
ones are what the run has registered, which is no more than its ticks can, and subscribed.  The lines
say so themselves as long as words of 64 bits hold these. -/
theorem lines_belong_together {settings : Settings} (accepted : settings.check = .ok ())
    (clock : Clock) (interrupt : Option Moment) :
    ∃ r summary r' registrations interests,
      create settings clock none = .ok r ∧ r.runTo interrupt = (.ok summary, r') ∧
      settings.registrationSchedule = .ok registrations ∧
      settings.interestSchedule = .ok interests ∧
      let registered := r'.work.journal.registered
      let used := r'.work.subscriptions.used
      registered ≤ r'.work.journal.ticks.count .registrations
        * min registrations.batch.toNat settings.poolSize.toNat ∧
      (∃ tallies t, Tally.Recorded settings.poolSize.toNat settings.interestTarget.toNat
        interests.batch.toNat (r'.lines summary) (tallies ++ [t]) ∧
        t.registrations = registered ∧ t.interests = used) ∧
      (registered < 2 ^ 64 → used < 2 ^ 64 →
        (∀ line ∈ r'.lines summary,
          line.counters.Consistent settings.poolSize settings.interestTarget) ∧
        (r'.lines summary).Pairwise fun line later => line.counters.Upward later.counters) := by
  obtain ⟨g, registrations, interests, journal, r, begun, made, hr, hi, quiet, created, starts, -,
    -, session⟩ := exists_begun accepted clock
  obtain ⟨ready, few, length⟩ := Generator.create_small made
  have begins : begun.session.stage.Chronicle g (planOf settings registrations interests) := by
    rw [session]
    exact Stage.chronicle_fresh _ _ _ quiet
  obtain ⟨last, runs, -, goesOn⟩ := runTo_ongoing starts interrupt
  have ended := finishStarted_resting (Stage.resting_chronicle ready few.le)
    (goesOn _ (Stage.ongoing_chronicle ready few) begins)
  have plan := ended.planned
  obtain ⟨ticks, tallies, t, stands, recorded⟩ := ended.lines
  have written : last.stop.2.lines last.stop.1
      = last.finishStarted.session.stage.sink.written
        ++ [last.finishStarted.session.stage.snapshot] := rfl
  rw [length, ← written] at recorded
  have registered_eq := last.registered_stop.trans stands.registered_eq
  have used_eq := last.used_stop.trans stands.interests_eq.symm
  have registered_le := stands.registered_le
  rw [plan, length] at registered_le
  refine ⟨r, last.stop.1, last.stop.2, registrations, interests, created, runs, hr, hi, ?_⟩
  rw [registered_eq, used_eq, ticks_stop stands.reports]
  refine ⟨registered_le, ⟨tallies, t, recorded, rfl, rfl⟩, ?_⟩
  intro registrations_fit interests_fit
  have fits : t.Fits := ⟨registrations_fit, interests_fit⟩
  exact recorded.words (fits.of_last recorded.ordered)

/-- A case of it: in the five minutes of the standard run there is nothing that words do not
hold. -/
theorem standard_lines_belong_together :
    Settings.standard.check = .ok () ∧
      ∃ r summary r', create Settings.standard Clock.stopped none = .ok r ∧
        r.runTo none = (.ok summary, r') ∧
        (∀ line ∈ r'.lines summary, line.counters.Consistent 12000 2000) ∧
        (r'.lines summary).Pairwise fun line later => line.counters.Upward later.counters := by
  have accepted : Settings.standard.check = .ok () := by decide
  have whole : Settings.standard.duration.totalNanos = 300000 * nanosPerMilli := by decide
  obtain ⟨r, summary, r', registrations, interests, created, runs, hr, hi, registered_le, -,
    belong⟩ := lines_belong_together accepted Clock.stopped none
  obtain ⟨r₁, last, registrations', interests', ticks, created', runs', hr', hi', did, plan,
    registrationTicks, interestTicks, -⟩ := exists_ticked accepted Clock.stopped whole
  cases created'.symm.trans created
  cases runs'.symm.trans runs
  cases hr'.symm.trans hr
  cases hi'.symm.trans hi
  obtain ⟨reported, used, -⟩ := stop_did did
  have hr' : Settings.standard.registrationSchedule = .ok ⟨TimeSpan.ofMillis 100, 1⟩ := by decide
  have hi' : Settings.standard.interestSchedule = .ok ⟨TimeSpan.ofMillis 1000, 1⟩ := by decide
  cases hr'.symm.trans hr
  cases hi'.symm.trans hi
  have one : (1 : UInt64).toNat = 1 := rfl
  have second : (TimeSpan.ofMillis 1000).wholeMillis = 1000 := TimeSpan.wholeMillis_ofMillis 1000
  have tenth : (TimeSpan.ofMillis 100).wholeMillis = 100 := TimeSpan.wholeMillis_ofMillis 100
  have registrations_few := registrationTicks.few
  have interests_few := interestTicks.few
  rw [Clock.lasted_of_le _ (by decide)] at registrations_few interests_few
  rw [plan] at used
  dsimp only [planOf] at used registrations_few interests_few registered_le
  rw [tenth] at registrations_few
  rw [second] at interests_few
  rw [one, Nat.mul_one] at used
  rw [reported, one] at registered_le
  have single : ticks.count .registrations * min 1 Settings.standard.poolSize.toNat
      ≤ ticks.count .registrations * 1 := Nat.mul_le_mul_left _ (Nat.min_le_left _ _)
  obtain ⟨consistent, upward⟩ := belong (by omega) (by omega)
  exact ⟨accepted, r, last.stop.1, last.stop.2, created, runs, consistent, upward⟩

end Run

end RegistryLoad
