import Mathlib.Algebra.Order.Floor.Div
import Mathlib.GroupTheory.GroupAction.Ring
import RegistryLoad.Proofs.Load.Stopping
import RegistryLoad.Proofs.Settings.Pace

/-!
# What a run gets done in its time

A run that nobody interrupts has as many ticks as its time and its schedules say, so that what it
gets done follows from its rates.

## Definitions

* `Clock.lasted`: how long a run lasts that is to last some milliseconds.
* `Schedule.HasTicks`: how many ticks of a schedule there may be in a time.
* `Run.endless`: settings of a run that is to last longer than any clock can tell.

## Results

* `Clock.alarm_eq_lasted`: when the wait of a run is over.
* `Schedule.hasTicks_of_hasTurns`: the turns of an activity are the ticks of its schedule.
* `Run.exists_ticked`: the ticks of a run that nobody interrupts.
* `Run.keeps_pace`: their number, and what they come to.
* `Run.endless_breaks_off`: a run that ends before its time.
-/

namespace RegistryLoad

/-! ## Time -/

namespace Clock

/-- The milliseconds for which a run lasts that is to last some: as many as timers can wait, or those
of thirty years if the clock cannot tell when they are over. -/
def lasted (c : Clock) (time : Nat) : Nat :=
  if time * nanosPerMilli ≤ c.last then min time (Nat.pow 2 64 - 3)
  else farFuture / nanosPerMilli

theorem lasted_of_le (c : Clock) {time : Nat} (h : time ≤ Nat.pow 2 64 - 3) :
    c.lasted time = time := by
  have told : time * nanosPerMilli ≤ c.last :=
    calc time * nanosPerMilli ≤ lastMoment := Nat.mul_le_mul_right _ h
      _ ≤ 2 * lastMoment := Nat.le_mul_of_pos_left _ (by decide)
      _ ≤ c.last := c.ample
  rw [lasted, if_pos told, Nat.min_eq_left h]

theorem lasted_pos (c : Clock) {time : Nat} (some : 0 < time) : 0 < c.lasted time := by
  unfold lasted
  split
  · exact Nat.lt_min.mpr ⟨some, by decide⟩
  · decide

/-- The wait of a run begins at its first instant and is over when it has lasted. -/
theorem alarm_eq_lasted (c : Clock) (time : Nat) :
    c.alarm 0 (time * nanosPerMilli) = c.lasted time * nanosPerMilli := by
  rw [alarm, span, lasted, Nat.zero_add, Nat.zero_add]
  split
  · rw [wakeTime_millis, lastMoment, Nat.mul_min_mul_right]
  · decide

end Clock

/-! ## Schedules -/

namespace Schedule

/-- Ticks enough for a time, in milliseconds, and at most one more than fit into it. -/
structure HasTicks (s : Schedule) (time ticks : Nat) : Prop where
  enough : time ⌈/⌉ s.interval.wholeMillis ≤ ticks
  few : ticks ≤ time / s.interval.wholeMillis + 1

variable {rate : Rate} {s : Schedule}

/-- A ticker that is due in the beginning and then at the interval of the schedule. -/
theorem hasTicks_of_hasTurns (h : ofRate? rate = some s) {t : Ticker} {time n : Nat}
    (turns : t.HasTurns (time * nanosPerMilli) n) (due : t.due = 0)
    (period : t.period = s.interval.totalNanos) : s.HasTicks time n := by
  rw [(ofRate?_eq_some h).1] at period
  obtain ⟨enough, few⟩ := turns.bounds due period
  refine ⟨?_, few⟩
  rw [ceilDiv_le_iff_le_mul (wholeMillis_pos h), Nat.mul_comm]
  exact enough

end Schedule

/-! ## Whole runs -/

namespace Run

theorem session_wait (r : Run) (nanos : Nat) :
    (r.wait nanos).session = r.session.wait nanos := rfl

theorem now_note (r : Run) (n : Notice) : (r.note n).session.now = r.session.now := rfl

/-- A run that nobody interrupts waits for its whole time. -/
theorem runTo_none {r begun : Run} (starts : startEach activities r = (.ok (), begun)) :
    ∃ last : Run, r.runTo none = (.ok last.stop.1, last.stop.2) ∧
      last = Run.note ((begun.note (.durationSet begun.settings.duration.seconds)).wait
        begun.settings.duration.totalNanos) .finishing := by
  refine ⟨_, ?_, rfl⟩
  rw [runTo, starts]
  dsimp only
  rw [passTime]
  rfl

/-- What a stop reports of what was done, and what its journal tells. -/
theorem stop_did {r : Run} {ticks : List Activity}
    (h : r.finishStarted.session.stage.Did ticks) :
    r.stop.2.work.journal.ticks = ticks ∧
      r.stop.2.work.subscriptions.used = ticks.count .interests *
        r.finishStarted.session.stage.plan.interests.schedule.batch.toNat ∧
      r.stop.1.snapshot.counters.interests = UInt64.ofNat r.stop.2.work.subscriptions.used ∧
      r.stop.1.snapshot.counters.registrations.toNat ≤ ticks.count .registrations *
        r.finishStarted.session.stage.plan.registrations.schedule.batch.toNat := by
  obtain ⟨-, -, -, -, counters, -⟩ := r.stop_eq
  obtain ⟨ledger, accounts, registered_le⟩ := h.registered_le
  refine ⟨ticks_stop h.reports, r.used_stop.trans h.used_eq, ?_, ?_⟩
  · rw [counters, used_stop]
    exact h.shown.interests
  · rw [counters]
    exact (congrArg UInt64.toNat accounts.registrations_eq).trans_le
      ((Nat.mod_le _ _).trans registered_le)

/-- A run that nobody interrupts has done the work of its ticks by its end, and there are as many of
them as there is time for. -/
theorem exists_ticked {settings : Settings} (accepted : settings.check = .ok ()) (clock : Clock)
    {time : Nat} (whole : settings.duration.totalNanos = time * nanosPerMilli) :
    ∃ (r last : Run) (registrations interests : Schedule) (ticks : List Activity),
      create settings clock none = .ok r ∧ r.runTo none = (.ok last.stop.1, last.stop.2) ∧
      settings.registrationSchedule = .ok registrations ∧
      settings.interestSchedule = .ok interests ∧
      last.finishStarted.session.stage.Did ticks ∧
      last.finishStarted.session.stage.plan = planOf settings registrations interests ∧
      registrations.HasTicks (clock.lasted time) (ticks.count .registrations) ∧
      interests.HasTicks (clock.lasted time) (ticks.count .interests) ∧
      last.session.now = clock.lasted time * nanosPerMilli := by
  obtain ⟨g, registrations, interests, journal, r, begun, -, hr, hi, quiet, created, starts,
    settings_eq, started, session⟩ := exists_begun accepted clock
  obtain ⟨last, runs, last_eq⟩ := runTo_none starts
  -- The session in which the time of the run begins.
  generalize waits : (begun.note (.durationSet begun.settings.duration.seconds)).session = s
    at last_eq
  have opened : s = Session.note _ (.durationSet begun.settings.duration.seconds) := waits.symm
  rw [session] at opened
  have plan : s.stage.plan = planOf settings registrations interests := by rw [opened]; rfl
  have told : s.stage.clock = clock := by rw [opened]; rfl
  have first : s.now = 0 := by rw [opened]; rfl
  have waiting : s.waiting = activities := by rw [opened]; rfl
  have begins : s.stage.Did [] := by
    rw [opened]
    exact (Stage.resting_did []).note _ _ rfl (Stage.did_fresh _ _ _ quiet)
  obtain ⟨ticks, did, counted⟩ := Session.exists_ticks Stage.resting_did
    (fun _ _ activity h => h.act activity) begins first (by rw [opened]; rfl)
    (by rw [opened]; rfl) (by rw [waiting]; decide)
    (fun activity _ => by rw [plan]; exact period_pos accepted hr hi activity)
    (duration_pos accepted)
  have planned : Stage.Lasting fun stage : Stage Generator Store =>
      stage.plan = planOf settings registrations interests := Stage.lasting_plan _
  have at_last : ∀ P : Stage Generator Store → Prop, Stage.Resting P →
      P (s.wait settings.duration.totalNanos).stage → P last.finishStarted.session.stage := by
    intro P resting h
    apply finishStarted_resting resting
    rw [← waits, ← settings_eq] at h
    rw [last_eq]
    exact resting.note _ _ rfl h
  have has : ∀ activity ∈ activities, activity ≠ .board → ∀ {rate : Rate} {schedule : Schedule},
      Schedule.ofRate? rate = some schedule → s.stage.plan.period activity = schedule.interval →
        schedule.HasTicks (clock.lasted time) (ticks.count activity) := by
    intro activity known ticking rate schedule hs period
    obtain ⟨t, due, period_eq, turns⟩ := counted activity (by rw [waiting]; exact known) ticking
    rw [whole, told, Clock.alarm_eq_lasted] at turns
    exact Schedule.hasTicks_of_hasTurns hs turns due
      (by rw [period_eq, period, Schedule.span_interval hs])
  refine ⟨r, last, registrations, interests, ticks, created, runs, hr, hi,
    at_last _ (Stage.resting_did ticks) did,
    at_last _ planned.ongoing.toResting (planned.ongoing.wait plan _), ?_, ?_, ?_⟩
  · exact has .registrations (by decide) (by decide) (Schedule.of_scheduleOf hr) (by rw [plan]; rfl)
  · exact has .interests (by decide) (by decide) (Schedule.of_scheduleOf hi) (by rw [plan]; rfl)
  · have ahead := Session.ahead_of_now first (duration_pos accepted)
    rw [last_eq, now_note, session_wait, waits, settings_eq, Session.now_wait ahead, Session.alarm,
      told, first, whole, Clock.alarm_eq_lasted]

/-- A stop takes no time. -/
theorem now_stop (r : Run) : r.stop.2.session.now = r.session.now := by
  obtain ⟨notices, -, -, session, -⟩ := r.stop_eq
  have finished : r.finishStarted.session.now = r.session.now := by
    unfold finishStarted
    split
    · rfl
    · exact r.session.now_finish
  rw [session]
  exact finished

/-- **A run keeps its pace.**  If it is to last some whole milliseconds and nobody interrupts it,
then it lasts as long, or as long as timers and clock allow, and has as many ticks of either kind as
there is time for.  The subscriptions use exactly a batch of queries with each tick, which is more
than half of what their rate asks for, and at most twice as much and a batch; the registrations
register at most a batch with each tick.  The counters are words of 64 bits, and right as long as
these hold the numbers. -/
theorem keeps_pace {settings : Settings} (accepted : settings.check = .ok ()) (clock : Clock)
    {time : Nat} (whole : settings.duration.totalNanos = time * nanosPerMilli) :
    ∃ r summary r' registrations interests,
      create settings clock none = .ok r ∧ r.runTo none = (.ok summary, r') ∧
      settings.registrationSchedule = .ok registrations ∧
      settings.interestSchedule = .ok interests ∧
      let lasted := clock.lasted time
      let ticks := r'.work.journal.ticks.count .interests
      let ticks' := r'.work.journal.ticks.count .registrations
      r'.session.now = lasted * nanosPerMilli ∧
      (time ≤ 2 ^ 64 - 3 → lasted = time) ∧
      interests.HasTicks lasted ticks ∧
      r'.work.subscriptions.used = ticks * interests.batch.toNat ∧
      summary.snapshot.counters.interests = UInt64.ofNat (ticks * interests.batch.toNat) ∧
      (ticks * interests.batch.toNat < 2 ^ 64 →
        summary.snapshot.counters.interests.toNat = ticks * interests.batch.toNat) ∧
      settings.interestRate.perMilli * lasted / 2 < (ticks * interests.batch.toNat : Nat) ∧
      (ticks * interests.batch.toNat : Nat)
        ≤ 2 * (settings.interestRate.perMilli * lasted) + interests.batch.toNat ∧
      registrations.HasTicks lasted ticks' ∧
      summary.snapshot.counters.registrations.toNat ≤ ticks' * registrations.batch.toNat := by
  obtain ⟨r, last, registrations, interests, ticks, created, runs, hr, hi, did, plan,
    registrationTicks, interestTicks, now⟩ := exists_ticked accepted clock whole
  obtain ⟨reported, used, interests_eq, registered_le⟩ := stop_did did
  rw [plan] at used registered_le
  dsimp only [planOf] at used registered_le
  rw [used] at interests_eq
  have hii := Schedule.of_scheduleOf hi
  have time_pos : 0 < time := by
    have length_pos := duration_pos accepted
    rw [whole] at length_pos
    exact Nat.pos_of_mul_pos_right length_pos
  have enough : clock.lasted time ≤ ticks.count .interests * interests.interval.wholeMillis := by
    rw [Nat.mul_comm, ← ceilDiv_le_iff_le_mul (Schedule.wholeMillis_pos hii)]
    exact interestTicks.enough
  refine ⟨r, last.stop.1, last.stop.2, registrations, interests, created, runs, hr, hi, ?_⟩
  rw [reported]
  refine ⟨last.now_stop.trans now, clock.lasted_of_le, interestTicks, used, interests_eq, ?_,
    Schedule.half_lt_events hii (clock.lasted_pos time_pos) enough,
    Schedule.events_le hii interestTicks.few, registrationTicks, registered_le⟩
  intro fits
  rw [interests_eq, UInt64.toNat_ofNat_of_lt' fits]

/-- A case of it: the standard run lasts five minutes and subscribes once a second. -/
theorem standard_run_keeps_pace :
    Settings.standard.check = .ok () ∧
      Settings.standard.duration.totalNanos = 300000 * nanosPerMilli ∧
      ∃ r summary r', create Settings.standard Clock.stopped none = .ok r ∧
        r.runTo none = (.ok summary, r') ∧
        r'.session.now = 300000 * nanosPerMilli ∧
        300 ≤ r'.work.journal.ticks.count .interests ∧
        r'.work.journal.ticks.count .interests ≤ 301 ∧
        summary.snapshot.counters.interests.toNat = r'.work.journal.ticks.count .interests ∧
        summary.snapshot.counters.registrations.toNat
          ≤ r'.work.journal.ticks.count .registrations := by
  have accepted : Settings.standard.check = .ok () := by decide
  have whole : Settings.standard.duration.totalNanos = 300000 * nanosPerMilli := by decide
  obtain ⟨r, summary, r', registrations, interests, created, runs, hr, hi, now, on_time,
    interestTicks, -, -, fits, -, -, -, registered_le⟩ := keeps_pace accepted Clock.stopped whole
  have hr' : Settings.standard.registrationSchedule = .ok ⟨TimeSpan.ofMillis 100, 1⟩ := by decide
  have hi' : Settings.standard.interestSchedule = .ok ⟨TimeSpan.ofMillis 1000, 1⟩ := by decide
  cases hr'.symm.trans hr
  cases hi'.symm.trans hi
  rw [on_time (by decide)] at now interestTicks
  obtain ⟨enough, few⟩ := interestTicks
  have one : (1 : UInt64).toNat = 1 := rfl
  have second : (TimeSpan.ofMillis 1000).wholeMillis = 1000 := TimeSpan.wholeMillis_ofMillis 1000
  dsimp only at enough few fits registered_le
  rw [second, ceilDiv_le_iff_le_mul (by decide)] at enough
  rw [second] at few
  rw [one, Nat.mul_one] at fits registered_le
  have many : r'.work.journal.ticks.count .interests < 2 ^ 64 := by omega
  exact ⟨accepted, whole, r, summary, r', created, runs, now, by omega, few, fits many,
    registered_le⟩

/-- Settings of a run with a tick of either kind an hour that is to last `2 ^ 63` seconds. -/
def endless : Settings :=
  { Settings.standard with
    registrationRate := ⟨1, .hour⟩
    registryTarget := 1
    interestRate := ⟨1, .hour⟩
    interestTarget := 1
    duration := TimeSpan.ofSeconds 9223372036854775808
    poolSize := 1
    applications := 1
    boardPeriod := TimeSpan.ofSeconds 1000000000 }

/-- Not every run lasts as long as it is to last: this one breaks off after thirty years, with a tick
an hour, while there is time for many more. -/
theorem endless_breaks_off :
    endless.check = .ok () ∧
      endless.duration.totalNanos = 9223372036854775808000 * nanosPerMilli ∧
      ∃ r summary r' interests, create endless Clock.stopped none = .ok r ∧
        r.runTo none = (.ok summary, r') ∧
        endless.interestSchedule = .ok interests ∧
        r'.session.now = 946080000000 * nanosPerMilli ∧
        r'.work.journal.ticks.count .interests ≤ 262801 ∧
        summary.snapshot.counters.interests.toNat ≤ 262801 ∧
        2562047788015216 ≤ 9223372036854775808000 ⌈/⌉ interests.interval.wholeMillis := by
  have accepted : endless.check = .ok () := by decide
  have whole : endless.duration.totalNanos
      = 9223372036854775808000 * nanosPerMilli := by decide
  have lasted : Clock.stopped.lasted 9223372036854775808000 = 946080000000 := by decide
  obtain ⟨r, last, registrations, interests, ticks, created, runs, -, hi, did, plan, -,
    interestTicks, now⟩ := exists_ticked accepted Clock.stopped whole
  obtain ⟨reported, used, counter, -⟩ := stop_did did
  have hi' : endless.interestSchedule = .ok ⟨TimeSpan.ofMillis 3600000, 1⟩ := by decide
  cases hi'.symm.trans hi
  have hour : (TimeSpan.ofMillis 3600000).wholeMillis = 3600000 :=
    TimeSpan.wholeMillis_ofMillis 3600000
  have one : (1 : UInt64).toNat = 1 := rfl
  rw [lasted] at interestTicks now
  have few := interestTicks.few
  dsimp only at few
  rw [hour] at few
  rw [plan] at used
  dsimp only [planOf] at used
  rw [one, Nat.mul_one] at used
  have small : ticks.count .interests < 2 ^ 64 := by omega
  refine ⟨accepted, whole, r, last.stop.1, last.stop.2, _, created, runs, hi,
    last.now_stop.trans now, by rw [reported]; omega, ?_, ?_⟩
  · rw [counter, used, UInt64.toNat_ofNat_of_lt' small]
    omega
  · dsimp only
    rw [hour, ← Nat.lt_iff_add_one_le, ← not_le, ceilDiv_le_iff_le_mul (by decide)]
    decide

end Run

end RegistryLoad
