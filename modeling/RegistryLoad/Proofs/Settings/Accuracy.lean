import Mathlib.Data.Nat.Cast.Field
import RegistryLoad.Proofs.Settings.Pace

/-!
# The accuracy of schedules

The events per millisecond of a schedule are close to the wanted ones, and exactly those if nothing
has to be rounded.  They depend on nothing but the wanted events per millisecond, whatever unit
these were given in, and a higher rate never has a slower schedule.

## Results

* `Schedule.perMilli_eq_iff`: which schedules are exact.
* `Schedule.perMilli_mono`: a higher rate has no slower schedule.
* `Schedule.effective_rate_near`: how far a schedule can be from its rate.
* `Schedule.schedule_follows_rate`: what a schedule depends on, and in which direction.
-/

namespace RegistryLoad

/-! ## Schedules as numbers -/

theorem TimeSpan.totalNanos_injective : Function.Injective totalNanos := by
  intro t u same
  have ht := t.nanos_lt
  have hu := u.nanos_lt
  unfold totalNanos nanosPerSecond at same
  unfold nanosPerSecond at ht hu
  have seconds : t.seconds.toNat = u.seconds.toNat := by omega
  have nanos : t.nanos = u.nanos := by omega
  cases t
  cases u
  cases UInt64.toNat_inj.mp seconds
  cases nanos
  rfl

/-- Only multiples are divided without a rest. -/
theorem cast_div_eq_iff {a b : Nat} (hb : 0 < b) : ((a / b : Nat) : ℚ) = a / b ↔ b ∣ a := by
  constructor
  · intro exact
    rw [eq_div_iff (by positivity)] at exact
    exact Dvd.intro_left _ (by exact_mod_cast exact)
  · intro multiple
    exact Nat.cast_div_charZero multiple

theorem Rate.perMilli_eq_zero_iff (rate : Rate) : rate.perMilli = 0 ↔ rate.count = 0 := by
  have unit_pos := rate.unit.millis_pos
  rw [perMilli, div_eq_zero_iff, Nat.cast_eq_zero, Nat.cast_eq_zero, ← UInt64.toNat_inj,
    or_iff_left unit_pos.ne']
  rfl

namespace Schedule

variable {name : String} {rate rate' : Rate} {s s' : Schedule}

/-- Only a rate of zero is refused, under its name. -/
theorem scheduleOf_eq_error_iff :
    scheduleOf name rate = .error (.zeroRate name) ↔ rate.count = 0 := by
  rw [← ofRate?_eq_none_iff]
  unfold scheduleOf
  cases ofRate? rate <;> simp

/-- A schedule is exact if nothing has to be rounded. -/
theorem perMilli_eq_iff (h : ofRate? rate = some s) :
    s.perMilli = rate.perMilli ↔
      rate.count.toNat ∣ rate.unit.millis ∨ rate.unit.millis ∣ rate.count.toNat := by
  have unit_pos := rate.unit.millis_pos
  have pos := (ofRate?_eq_some h).2.1
  rcases le_or_gt rate.perMilli 1 with slow | fast
  · have few := (Rate.perMilli_le_one_iff rate).mp slow
    rw [perMilli_of_slow h slow, inv_eq_iff_eq_inv, Rate.floor_inv_perMilli, Rate.perMilli, inv_div,
      cast_div_eq_iff pos]
    -- A unit that divides a count not above it is that count.
    refine ⟨.inl, fun multiple => multiple.elim id fun back => ?_⟩
    rw [Nat.le_antisymm few (Nat.le_of_dvd pos back)]
  · have many : rate.unit.millis < rate.count.toNat := by
      rwa [← not_le, Rate.perMilli_le_one_iff, not_le] at fast
    rw [perMilli_of_fast h fast, Rate.floor_perMilli, Rate.perMilli, cast_div_eq_iff unit_pos]
    refine ⟨.inr, fun multiple => multiple.elim (fun back => ?_) id⟩
    exact absurd (Nat.le_of_dvd unit_pos back) (not_le.mpr many)

/-- Interval and batch are roundings of the rate, so that equal rates have equal schedules. -/
theorem eq_of_perMilli_eq (same : rate.perMilli = rate'.perMilli) (h : ofRate? rate = some s)
    (h' : ofRate? rate' = some s') : s = s' := by
  have whole : s.interval.wholeMillis = s'.interval.wholeMillis := by
    rw [wholeMillis_eq_floor h, wholeMillis_eq_floor h', same]
  have nanos : s.interval.totalNanos = s'.interval.totalNanos := by
    rw [(ofRate?_eq_some h).1, (ofRate?_eq_some h').1, whole]
  have batch : s.batch.toNat = s'.batch.toNat := by
    rw [batch_eq_floor h, batch_eq_floor h', same]
  cases s
  cases s'
  cases TimeSpan.totalNanos_injective nanos
  cases UInt64.toNat_inj.mp batch
  rfl

/-- Rates are compared in any unit: those that are zero have no schedule, the others the same. -/
theorem scheduleOf_congr (name : String) (same : rate.perMilli = rate'.perMilli) :
    scheduleOf name rate = scheduleOf name rate' := by
  by_cases zero : rate.count = 0
  · have zero' : rate'.count = 0 := by
      rwa [← Rate.perMilli_eq_zero_iff, ← same, Rate.perMilli_eq_zero_iff]
    rw [scheduleOf_eq_error_iff.mpr zero, scheduleOf_eq_error_iff.mpr zero']
  · have some' : rate'.count ≠ 0 := by
      rwa [← Rate.perMilli_eq_zero_iff, same, Rate.perMilli_eq_zero_iff] at zero
    obtain ⟨s, made⟩ := scheduleOf_ok name zero
    obtain ⟨s', made'⟩ := scheduleOf_ok name some'
    rw [made, made', eq_of_perMilli_eq same (of_scheduleOf made) (of_scheduleOf made')]

/-- **A higher rate has no slower schedule**: its batch is not smaller, and its interval not
longer. -/
theorem perMilli_mono (le : rate.perMilli ≤ rate'.perMilli) (h : ofRate? rate = some s)
    (h' : ofRate? rate' = some s') : s.perMilli ≤ s'.perMilli := by
  have pos := Rate.perMilli_pos (ofRate?_eq_some h).2.1
  have batch : s.batch.toNat ≤ s'.batch.toNat := by
    rw [batch_eq_floor h, batch_eq_floor h']
    exact max_le_max_left 1 (Nat.floor_mono le)
  have interval : s'.interval.wholeMillis ≤ s.interval.wholeMillis := by
    rw [wholeMillis_eq_floor h, wholeMillis_eq_floor h']
    exact max_le_max_left 1 (Nat.floor_mono (inv_anti₀ pos le))
  have short : (0 : ℚ) < s'.interval.wholeMillis := by exact_mod_cast wholeMillis_pos h'
  exact div_le_div₀ (Nat.cast_nonneg _) (by exact_mod_cast batch) short (by exact_mod_cast interval)

/-! ## Main results -/

/-- **The accuracy of a schedule.**  Only a rate of zero has no schedule.  That of `c` events in
`u` milliseconds has an interval of whole milliseconds, at least one, and a batch of at least one
event.  Up to one event per millisecond it is not too slow, and less than twice as fast as wanted;
above, it is not too fast, and more than half as fast as wanted.  It is exact if and only if one of
`c` and `u` divides the other. -/
theorem effective_rate_near (name : String) (rate : Rate) :
    let c := rate.count.toNat
    let u := rate.unit.millis
    (scheduleOf name rate = .error (.zeroRate name) ↔ c = 0) ∧
    (c ≠ 0 → ∃ s, scheduleOf name rate = .ok s ∧
      s.interval.totalNanos = s.interval.wholeMillis * nanosPerMilli ∧
      1 ≤ s.interval.wholeMillis ∧ s.interval.wholeMillis = max 1 (u / c) ∧
      1 ≤ s.batch.toNat ∧ s.batch.toNat = max 1 (c / u) ∧
      (c ≤ u → (c : ℚ) / u ≤ s.perMilli ∧ s.perMilli < 2 * c / u) ∧
      (u < c → (c : ℚ) / (2 * u) < s.perMilli ∧ s.perMilli ≤ c / u) ∧
      (s.perMilli = c / u ↔ c ∣ u ∨ u ∣ c)) := by
  intro c u
  have zero : rate.count = 0 ↔ c = 0 := by rw [← UInt64.toNat_inj]; rfl
  constructor
  · rw [scheduleOf_eq_error_iff, zero]
  · intro some
    obtain ⟨s, made⟩ := scheduleOf_ok name (mt zero.mp some)
    have h := of_scheduleOf made
    have number : rate.perMilli = c / u := rfl
    refine ⟨s, made, (ofRate?_eq_some h).1, wholeMillis_pos h, ?_, batch_pos h, ?_, ?_, ?_, ?_⟩
    · rw [wholeMillis_eq_floor h, Rate.floor_inv_perMilli]
    · rw [batch_eq_floor h, Rate.floor_perMilli]
    · intro slow
      have near := near_of_slow h ((Rate.perMilli_le_one_iff rate).mpr slow)
      rwa [number, ← mul_div_assoc] at near
    · intro fast
      have near := near_of_fast h (by rwa [← not_le, Rate.perMilli_le_one_iff, not_le])
      rwa [number, div_div, mul_comm (u : ℚ)] at near
    · rw [← number]
      exact perMilli_eq_iff h

/-- **A schedule follows its rate as a number.**  Any two rates that are not zero have schedules,
which are the same if the rates are the same number of events per millisecond, and of which the one
of the lower rate is not the faster one.  So sixty times as much per minute, or 3600 times as much
per hour, is scheduled like as much per second. -/
theorem schedule_follows_rate (name : String) :
    (∀ r r' : Rate, r.count ≠ 0 → r'.count ≠ 0 → ∃ s s', scheduleOf name r = .ok s ∧
      scheduleOf name r' = .ok s' ∧
      ((r.count.toNat : ℚ) / r.unit.millis = r'.count.toNat / r'.unit.millis → s = s') ∧
      ((r.count.toNat : ℚ) / r.unit.millis ≤ r'.count.toNat / r'.unit.millis →
        s.perMilli ≤ s'.perMilli)) ∧
    ∀ k minutely hourly : UInt64,
      (minutely.toNat = 60 * k.toNat →
        scheduleOf name ⟨minutely, .minute⟩ = scheduleOf name ⟨k, .second⟩) ∧
      (hourly.toNat = 3600 * k.toNat →
        scheduleOf name ⟨hourly, .hour⟩ = scheduleOf name ⟨k, .second⟩) := by
  constructor
  · intro r r' some some'
    obtain ⟨s, made⟩ := scheduleOf_ok name some
    obtain ⟨s', made'⟩ := scheduleOf_ok name some'
    have h := of_scheduleOf made
    have h' := of_scheduleOf made'
    exact ⟨s, s', made, made', fun same => eq_of_perMilli_eq same h h',
      fun le => perMilli_mono le h h'⟩
  · intro k minutely hourly
    constructor
    · intro times
      apply scheduleOf_congr
      simp only [Rate.perMilli, RateUnit.millis, times]
      push_cast
      ring
    · intro times
      apply scheduleOf_congr
      simp only [Rate.perMilli, RateUnit.millis, times]
      push_cast
      ring

end Schedule

end RegistryLoad
