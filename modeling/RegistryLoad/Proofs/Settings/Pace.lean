import Mathlib.Algebra.Order.Floor.Semifield
import Mathlib.Data.Rat.Floor
import Mathlib.Tactic.Linarith
import Mathlib.Tactic.Positivity
import Mathlib.Tactic.Ring
import RegistryLoad.Settings.Check

/-!
# The pace of a schedule

A schedule keeps its rate as well as whole milliseconds and whole batches can.  Up to one event per
millisecond it rounds the interval down, above that the batch, so that it is too fast in the one
case and too slow in the other, but never by a factor of two.

## Definitions

* `Rate.perMilli`: the events that a rate wants in a millisecond.
* `Schedule.perMilli`: the events that a schedule brings in a millisecond.

## Results

* `Schedule.ofRate?_eq_some`: interval and batch of the schedule of a rate.
* `Schedule.wholeMillis_eq_floor`, `Schedule.batch_eq_floor`: both of them as roundings of the rate.
* `Schedule.near_of_slow`, `Schedule.near_of_fast`: how far a schedule can be from its rate.
* `Schedule.half_lt_events`, `Schedule.events_le`: how many events come of the ticks of a time.
-/

namespace RegistryLoad

/-! ## Milliseconds -/

namespace TimeSpan

theorem totalNanos_ofMillis (n : UInt64) : (ofMillis n).totalNanos = n.toNat * nanosPerMilli := by
  simp only [totalNanos, ofMillis, UInt64.toNat_div, UInt64.toNat_mod, nanosPerSecond,
    nanosPerMilli]
  have thousand : (1000 : UInt64).toNat = 1000 := rfl
  rw [thousand]
  omega

theorem wholeMillis_ofMillis (n : UInt64) : (ofMillis n).wholeMillis = n.toNat := by
  rw [wholeMillis, totalNanos_ofMillis]
  exact Nat.mul_div_cancel _ (by decide)

/-- Only the span of zero takes no time. -/
theorem totalNanos_pos {t : TimeSpan} (h : t.isZero = false) : 0 < t.totalNanos := by
  simp only [isZero, Bool.and_eq_false_iff, beq_eq_false_iff_ne, ne_eq, ← UInt64.toNat_inj] at h
  have zero : (0 : UInt64).toNat = 0 := rfl
  unfold totalNanos nanosPerSecond
  omega

end TimeSpan

/-! ## Interval and batch -/

theorem RateUnit.toNat_millis (u : RateUnit) : (UInt64.ofNat u.millis).toNat = u.millis := by
  cases u <;> rfl

theorem RateUnit.millis_pos (u : RateUnit) : 0 < u.millis := by
  cases u <;> decide

/-- The events that are wanted in a millisecond. -/
def Rate.perMilli (rate : Rate) : ℚ := rate.count.toNat / rate.unit.millis

namespace Schedule

variable {rate : Rate} {s : Schedule}

/-- The events that the ticks bring in a millisecond if all batches are full. -/
def perMilli (s : Schedule) : ℚ := s.batch.toNat / s.interval.wholeMillis

/-- A schedule has an interval of whole milliseconds, at least one, and a batch of at least one
event.  Either the interval is one millisecond and the batch what falls into it, rounded down, or
the batch is one event and the interval the time for it, rounded down. -/
theorem ofRate?_eq_some (h : ofRate? rate = some s) :
    s.interval.totalNanos = s.interval.wholeMillis * nanosPerMilli ∧
      0 < rate.count.toNat ∧
      (rate.unit.millis < rate.count.toNat ∧ s.interval.wholeMillis = 1 ∧
          s.batch.toNat = rate.count.toNat / rate.unit.millis ∨
        rate.count.toNat ≤ rate.unit.millis ∧
          s.interval.wholeMillis = rate.unit.millis / rate.count.toNat ∧ s.batch.toNat = 1) := by
  have unit := rate.unit.toNat_millis
  have unit_pos := rate.unit.millis_pos
  have zero : (0 : UInt64).toNat = 0 := rfl
  have one : (1 : UInt64).toNat = 1 := rfl
  unfold ofRate? at h
  dsimp only at h
  split at h
  · cases h
  · rename_i some
    have pos : 0 < rate.count.toNat := by
      rw [← UInt64.toNat_inj, zero] at some
      omega
    split at h
    · rename_i fast
      cases h
      rw [← UInt64.toNat_inj, UInt64.toNat_div, unit, zero, Nat.div_eq_zero_iff] at fast
      have above : rate.unit.millis < rate.count.toNat := by omega
      have whole : 1 ≤ rate.count.toNat / rate.unit.millis :=
        (Nat.one_le_div_iff unit_pos).mpr above.le
      refine ⟨?_, pos, .inl ⟨above, TimeSpan.wholeMillis_ofMillis 1, ?_⟩⟩
      · rw [TimeSpan.totalNanos_ofMillis, TimeSpan.wholeMillis_ofMillis]
      · have one_le : (1 : UInt64) ≤ rate.count / UInt64.ofNat rate.unit.millis := by
          rw [UInt64.le_iff_toNat_le, UInt64.toNat_div, unit, one]
          exact whole
        show (if 1 ≤ rate.count / UInt64.ofNat rate.unit.millis
          then rate.count / UInt64.ofNat rate.unit.millis else 1).toNat = _
        rw [if_pos one_le, UInt64.toNat_div, unit]
    · rename_i slow
      cases h
      rw [← UInt64.toNat_inj, UInt64.toNat_div, unit, zero, Nat.div_eq_zero_iff] at slow
      refine ⟨?_, pos, .inr ⟨by omega, ?_, one⟩⟩
      · rw [TimeSpan.totalNanos_ofMillis, TimeSpan.wholeMillis_ofMillis]
      · rw [TimeSpan.wholeMillis_ofMillis, UInt64.toNat_div, unit]

theorem wholeMillis_pos (h : ofRate? rate = some s) : 0 < s.interval.wholeMillis := by
  obtain ⟨-, pos, ⟨-, one, -⟩ | ⟨below, whole, -⟩⟩ := ofRate?_eq_some h
  · omega
  · rw [whole]
    exact Nat.div_pos below pos

/-- The longest interval is an hour. -/
theorem wholeMillis_le (h : ofRate? rate = some s) : s.interval.wholeMillis ≤ 3600000 := by
  obtain ⟨-, -, ⟨-, one, -⟩ | ⟨-, whole, -⟩⟩ := ofRate?_eq_some h
  · omega
  · rw [whole]
    refine (Nat.div_le_self _ _).trans ?_
    cases rate.unit <;> decide

theorem batch_pos (h : ofRate? rate = some s) : 0 < s.batch.toNat := by
  obtain ⟨-, -, ⟨above, -, whole⟩ | ⟨-, -, one⟩⟩ := ofRate?_eq_some h
  · rw [whole]
    exact Nat.div_pos above.le rate.unit.millis_pos
  · omega

theorem interval_pos (h : ofRate? rate = some s) : 0 < s.interval.totalNanos := by
  rw [(ofRate?_eq_some h).1]
  exact Nat.mul_pos (wholeMillis_pos h) (by decide)

/-- The schedules of settings are those of their rates. -/
theorem of_scheduleOf {name : String} (h : scheduleOf name rate = .ok s) :
    ofRate? rate = some s := by
  unfold scheduleOf at h
  split at h
  · rename_i found
    cases h
    exact found
  · cases h

end Schedule

/-! ## Roundings -/

namespace Rate

theorem perMilli_nonneg (rate : Rate) : 0 ≤ rate.perMilli := by
  unfold perMilli
  positivity

theorem perMilli_pos {rate : Rate} (some : 0 < rate.count.toNat) : 0 < rate.perMilli := by
  have unit_pos := rate.unit.millis_pos
  unfold perMilli
  positivity

theorem perMilli_le_one_iff (rate : Rate) :
    rate.perMilli ≤ 1 ↔ rate.count.toNat ≤ rate.unit.millis := by
  have unit_pos : (0 : ℚ) < rate.unit.millis := by exact_mod_cast rate.unit.millis_pos
  rw [perMilli, div_le_one unit_pos, Nat.cast_le]

/-- The events of a millisecond, rounded down. -/
theorem floor_perMilli (rate : Rate) :
    ⌊rate.perMilli⌋₊ = rate.count.toNat / rate.unit.millis :=
  Nat.floor_div_eq_div _ _

/-- The milliseconds of an event, rounded down. -/
theorem floor_inv_perMilli (rate : Rate) :
    ⌊rate.perMilli⁻¹⌋₊ = rate.unit.millis / rate.count.toNat := by
  rw [perMilli, inv_div]
  exact Nat.floor_div_eq_div _ _

end Rate

/-- What is at least one is rounded down by less than half of it. -/
theorem half_lt_floor {x : ℚ} (h : 1 ≤ x) : x / 2 < ⌊x⌋₊ := by
  have whole : (1 : ℚ) ≤ ⌊x⌋₊ := by exact_mod_cast (Nat.one_le_floor_iff x).mpr h
  have next := Nat.lt_floor_add_one x
  linarith

namespace Schedule

variable {rate : Rate} {s : Schedule}

/-- **The interval is the time for an event**, rounded down, and at least a millisecond. -/
theorem wholeMillis_eq_floor (h : ofRate? rate = some s) :
    s.interval.wholeMillis = max 1 ⌊rate.perMilli⁻¹⌋₊ := by
  rw [Rate.floor_inv_perMilli]
  obtain ⟨-, pos, ⟨fast, interval, -⟩ | ⟨slow, interval, -⟩⟩ := ofRate?_eq_some h
  · rw [interval, Nat.div_eq_of_lt fast]
    rfl
  · have whole := (Nat.one_le_div_iff pos).mpr slow
    omega

/-- **The batch is what falls into a millisecond**, rounded down, and at least one event. -/
theorem batch_eq_floor (h : ofRate? rate = some s) :
    s.batch.toNat = max 1 ⌊rate.perMilli⌋₊ := by
  rw [Rate.floor_perMilli]
  obtain ⟨-, -, ⟨fast, -, batch⟩ | ⟨slow, -, batch⟩⟩ := ofRate?_eq_some h
  · have whole := (Nat.one_le_div_iff rate.unit.millis_pos).mpr fast.le
    omega
  · rw [batch]
    rcases slow.lt_or_eq with below | equal
    · rw [Nat.div_eq_of_lt below]
      rfl
    · rw [equal, Nat.div_self rate.unit.millis_pos]
      rfl

/-- Up to an event per millisecond only the interval is rounded. -/
theorem perMilli_of_slow (h : ofRate? rate = some s) (slow : rate.perMilli ≤ 1) :
    s.perMilli = (⌊rate.perMilli⁻¹⌋₊ : ℚ)⁻¹ := by
  have pos := Rate.perMilli_pos (ofRate?_eq_some h).2.1
  have few : ⌊rate.perMilli⌋₊ ≤ 1 := Nat.floor_le_of_le (by exact_mod_cast slow)
  have whole : 1 ≤ ⌊rate.perMilli⁻¹⌋₊ :=
    (Nat.one_le_floor_iff _).mpr ((one_le_inv₀ pos).mpr slow)
  rw [perMilli, wholeMillis_eq_floor h, batch_eq_floor h, max_eq_left few, max_eq_right whole,
    Nat.cast_one, one_div]

/-- Above an event per millisecond only the batch is rounded. -/
theorem perMilli_of_fast (h : ofRate? rate = some s) (fast : 1 < rate.perMilli) :
    s.perMilli = ⌊rate.perMilli⌋₊ := by
  have short : ⌊rate.perMilli⁻¹⌋₊ ≤ 1 :=
    Nat.floor_le_of_le (by exact_mod_cast (inv_lt_one_of_one_lt₀ fast).le)
  have whole : 1 ≤ ⌊rate.perMilli⌋₊ := (Nat.one_le_floor_iff _).mpr fast.le
  rw [perMilli, wholeMillis_eq_floor h, batch_eq_floor h, max_eq_left short, max_eq_right whole,
    Nat.cast_one, div_one]

/-- A slow schedule is too fast, if anything. -/
theorem near_of_slow (h : ofRate? rate = some s) (slow : rate.perMilli ≤ 1) :
    rate.perMilli ≤ s.perMilli ∧ s.perMilli < 2 * rate.perMilli := by
  have pos := Rate.perMilli_pos (ofRate?_eq_some h).2.1
  have long : 1 ≤ rate.perMilli⁻¹ := (one_le_inv₀ pos).mpr slow
  have below := Nat.floor_le (zero_le_one.trans long)
  have above := half_lt_floor long
  have whole : (0 : ℚ) < ⌊rate.perMilli⁻¹⌋₊ := by linarith
  rw [perMilli_of_slow h slow]
  constructor
  · rwa [le_inv_comm₀ pos whole]
  · rw [inv_lt_comm₀ whole (by positivity), mul_inv]
    linarith

/-- A fast schedule is too slow, if anything. -/
theorem near_of_fast (h : ofRate? rate = some s) (fast : 1 < rate.perMilli) :
    rate.perMilli / 2 < s.perMilli ∧ s.perMilli ≤ rate.perMilli := by
  rw [perMilli_of_fast h fast]
  exact ⟨half_lt_floor fast.le, Nat.floor_le (zero_le_one.trans fast.le)⟩

/-! ## Events -/

/-- **A schedule is off by less than a factor of two**, whichever of the two it rounds. -/
theorem batch_near (h : ofRate? rate = some s) :
    rate.perMilli * s.interval.wholeMillis < 2 * s.batch.toNat ∧
      s.batch.toNat < 2 * (rate.perMilli * s.interval.wholeMillis) := by
  have pos := Rate.perMilli_pos (ofRate?_eq_some h).2.1
  have near : rate.perMilli / 2 < s.perMilli ∧ s.perMilli < 2 * rate.perMilli := by
    rcases le_or_gt rate.perMilli 1 with slow | fast
    · obtain ⟨low, high⟩ := near_of_slow h slow
      exact ⟨by linarith, high⟩
    · obtain ⟨low, high⟩ := near_of_fast h fast
      exact ⟨low, by linarith⟩
  have whole : (0 : ℚ) < s.interval.wholeMillis := by exact_mod_cast wholeMillis_pos h
  rw [perMilli, lt_div_iff₀ whole, div_lt_iff₀ whole] at near
  exact ⟨by linarith, by linarith⟩

/-- Ticks enough for a time, which is not zero, meet more than half of the events. -/
theorem half_lt_events (h : ofRate? rate = some s) {time ticks : Nat} (some : 0 < time)
    (enough : time ≤ ticks * s.interval.wholeMillis) :
    rate.perMilli * time / 2 < (ticks * s.batch.toNat : Nat) := by
  have ticks_pos : 0 < ticks := by
    rcases Nat.eq_zero_or_pos ticks with none | pos
    · rw [none, Nat.zero_mul] at enough
      omega
    · exact pos
  have ticks_pos' : (0 : ℚ) < ticks := by exact_mod_cast ticks_pos
  have enough' : (time : ℚ) ≤ ticks * s.interval.wholeMillis := by exact_mod_cast enough
  have met : rate.perMilli * time < 2 * (ticks * s.batch.toNat) :=
    calc rate.perMilli * time
        ≤ rate.perMilli * (ticks * s.interval.wholeMillis) :=
          mul_le_mul_of_nonneg_left enough' rate.perMilli_nonneg
      _ = ticks * (rate.perMilli * s.interval.wholeMillis) := by ring
      _ < ticks * (2 * s.batch.toNat) := mul_lt_mul_of_pos_left (batch_near h).1 ticks_pos'
      _ = 2 * (ticks * s.batch.toNat) := by ring
  push_cast
  linarith

/-- At most one tick more than there is time for meets at most twice the events, and a batch. -/
theorem events_le (h : ofRate? rate = some s) {time ticks : Nat}
    (few : ticks ≤ time / s.interval.wholeMillis + 1) :
    (ticks * s.batch.toNat : Nat) ≤ 2 * (rate.perMilli * time) + s.batch.toNat := by
  have few' : (ticks : ℚ) ≤ (time / s.interval.wholeMillis : Nat) + 1 := by exact_mod_cast few
  have fit : ((time / s.interval.wholeMillis : Nat) : ℚ) * s.interval.wholeMillis ≤ time := by
    exact_mod_cast Nat.div_mul_le_self time s.interval.wholeMillis
  have whole : (0 : ℚ) ≤ (time / s.interval.wholeMillis : Nat) := Nat.cast_nonneg _
  generalize ((time / s.interval.wholeMillis : Nat) : ℚ) = n at few' fit whole
  have batches : n * s.batch.toNat ≤ 2 * (rate.perMilli * time) :=
    calc n * s.batch.toNat
        ≤ n * (2 * (rate.perMilli * s.interval.wholeMillis)) :=
          mul_le_mul_of_nonneg_left (batch_near h).2.le whole
      _ = 2 * (rate.perMilli * (n * s.interval.wholeMillis)) := by ring
      _ ≤ 2 * (rate.perMilli * time) :=
          mul_le_mul_of_nonneg_left (mul_le_mul_of_nonneg_left fit rate.perMilli_nonneg)
            zero_le_two
  have all := mul_le_mul_of_nonneg_right few' (Nat.cast_nonneg (α := ℚ) s.batch.toNat)
  push_cast
  linarith

end Schedule

end RegistryLoad
