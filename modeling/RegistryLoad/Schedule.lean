import RegistryLoad.Decimal.Binary64
import RegistryLoad.Rate
import RegistryLoad.TimeSpan

/-!
# Tick schedules

A rate is met by ticks at a fixed interval, each with a batch of events.  Up to one event per
millisecond the interval carries the rate and a batch is a single event; above, the interval is
one millisecond and the batch carries the rate.  Both divisions round down.
-/

namespace RegistryLoad

/-- Ticks every `interval`, each with at most `batch` events. -/
structure Schedule where
  interval : TimeSpan
  batch : UInt64
  deriving DecidableEq, Repr

namespace Schedule

/-- The schedule of a rate.  A rate of zero has none. -/
def ofRate? (rate : Rate) : Option Schedule :=
  let unit := UInt64.ofNat rate.unit.millis
  if rate.count = 0 then none
  else if unit / rate.count = 0 then
    some ⟨TimeSpan.ofMillis 1, max 1 (rate.count / unit)⟩
  else some ⟨TimeSpan.ofMillis (unit / rate.count), 1⟩

/-- Only a rate of zero has no schedule. -/
theorem ofRate?_eq_none_iff (rate : Rate) : ofRate? rate = none ↔ rate.count = 0 := by
  unfold ofRate?
  dsimp only
  split
  · rename_i hzero
    exact ⟨fun _ => hzero, fun _ => rfl⟩
  · rename_i hsome
    split <;> simp [hsome]

/-- Events per second of the schedule in double precision: the batch times one thousand over
the whole milliseconds of the interval. -/
def effectiveRate (s : Schedule) : Binary64 :=
  ((Binary64.ofNat s.batch.toNat).mul (Binary64.ofNat 1000)).div
    (Binary64.ofNat s.interval.wholeMillis)

end Schedule

end RegistryLoad
