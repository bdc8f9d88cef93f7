import RegistryLoad.TimeSpan

/-!
# Agendas

Activities that are due again and again, and the passing of time.  Instants are nanoseconds from
the beginning; the clock that wakes the activities counts whole milliseconds, so an activity has
its turn at the first whole millisecond at which it is due.  If it is due several times within a
millisecond, it has several turns in a row.  Beyond the last moment nothing has a turn.

* `Agenda.advance`: everything that happens before a given instant, in the order in which it
  happens.
-/

namespace RegistryLoad

/-- The first whole millisecond that is not before an instant. -/
def wakeTime (instant : Nat) : Nat :=
  (instant + (nanosPerMilli - 1)) / nanosPerMilli * nanosPerMilli

theorem le_wakeTime (instant : Nat) : instant ≤ wakeTime instant := by
  unfold wakeTime nanosPerMilli; omega

theorem wakeTime_le {instant millis : Nat} (h : instant ≤ millis * nanosPerMilli) :
    wakeTime instant ≤ millis * nanosPerMilli := by
  unfold wakeTime nanosPerMilli at *; omega

/-- The last moment that a timer can wait for: its milliseconds are a word of 64 bits, of which the
two largest mean something else. -/
def lastMoment : Nat := (Nat.pow 2 64 - 3) * nanosPerMilli

/-- The time for which a timer waits if it is to wait for an instant that no clock can tell: thirty
years. -/
def farFuture : Nat := 30 * 365 * 86400 * nanosPerSecond

/-- An instant at which something is due, and the time from there to the next one. -/
structure Ticker where
  due : Nat
  period : Nat
  period_pos : 0 < period
  deriving Repr

namespace Ticker

/-- When the clock tells that the ticker is due. -/
def moment (t : Ticker) : Nat := wakeTime t.due

/-- The number of turns from the instant at which the ticker is due up to another one. -/
def turns (t : Ticker) (now : Nat) : Nat := (now - t.due) / t.period + 1

/-- The ticker after these turns. -/
def next (t : Ticker) (now : Nat) : Ticker := { t with due := t.due + t.turns now * t.period }

theorem due_lt_next (t : Ticker) (now : Nat) : t.due < (t.next now).due := by
  have hpos := t.period_pos
  have hle : t.period ≤ t.turns now * t.period := Nat.le_mul_of_pos_left _ (Nat.succ_pos _)
  show t.due < t.due + t.turns now * t.period
  omega

end Ticker

/-- Activities with their tickers, in the order of their turns. -/
abbrev Agenda (α : Type) := List (α × Ticker)

namespace Agenda

variable {α σ : Type}

/-- The next moment with something to do. -/
def nextMoment? (a : Agenda α) : Option Nat := (a.map fun entry => entry.2.moment).min?

/-- The activities that have their turns at a moment, as often as they have them. -/
def turnsAt (a : Agenda α) (now : Nat) : List α :=
  a.flatMap fun entry =>
    if entry.2.moment ≤ now then List.replicate (entry.2.turns now) entry.1 else []

/-- The agenda after these turns. -/
def after (a : Agenda α) (now : Nat) : Agenda α :=
  a.map fun entry => if entry.2.moment ≤ now then (entry.1, entry.2.next now) else entry

/-- How far the tickers are from an instant, taken together. -/
def distance (stop : Nat) : Agenda α → Nat
  | [] => 0
  | entry :: a => (stop - entry.2.due) + distance stop a

theorem distance_after_le (a : Agenda α) (now stop : Nat) :
    (a.after now).distance stop ≤ a.distance stop := by
  induction a with
  | nil => exact Nat.le_refl _
  | cons e a ih =>
    rw [after, List.map_cons, ← after, distance, distance]
    refine Nat.add_le_add ?_ ih
    split
    · exact Nat.sub_le_sub_left (Nat.le_of_lt (e.2.due_lt_next now)) stop
    · exact Nat.le_refl _

/-- A turn before an instant brings the agenda nearer to it. -/
theorem distance_after_lt {a : Agenda α} {now stop : Nat} (h : a.nextMoment? = some now)
    (hs : now < stop) : (a.after now).distance stop < a.distance stop := by
  have hm := List.min?_mem h
  obtain ⟨e, he, hnow⟩ := List.mem_map.mp hm
  clear h hm
  induction a with
  | nil => cases he
  | cons d a ih =>
    rw [after, List.map_cons, ← after, distance, distance]
    rcases List.mem_cons.mp he with rfl | he
    · have hrest := distance_after_le a now stop
      have hdue : e.2.due ≤ now := hnow ▸ le_wakeTime e.2.due
      have hnext := e.2.due_lt_next now
      rw [if_pos (Nat.le_of_eq hnow)]
      show stop - (e.2.next now).due + _ < _
      omega
    · refine Nat.add_lt_add_of_le_of_lt ?_ (ih he)
      split
      · exact Nat.sub_le_sub_left (Nat.le_of_lt (d.2.due_lt_next now)) stop
      · exact Nat.le_refl _

/-- Lets time pass up to an instant, which itself is not reached: at each moment the activities
that are due `act` in their order, and then comes a `pause`. -/
def advance (act : Nat → α → σ → σ) (pause : σ → σ) (stop : Nat) (a : Agenda α) (s : σ) :
    Agenda α × σ :=
  match _ : a.nextMoment? with
  | none => (a, s)
  | some now =>
    if _ : now < stop then
      advance act pause stop (a.after now)
        (pause ((a.turnsAt now).foldl (fun s activity => act now activity s) s))
    else (a, s)
termination_by a.distance stop
decreasing_by exact distance_after_lt (by assumption) (by assumption)

/-- What the activities and the pauses keep, the passing of time keeps. -/
theorem advance_preserves {P : σ → Prop} {act : Nat → α → σ → σ} {pause : σ → σ}
    (hact : ∀ now activity s, P s → P (act now activity s)) (hpause : ∀ s, P s → P (pause s))
    (stop : Nat) (a : Agenda α) (s : σ) (h : P s) : P (a.advance act pause stop s).2 := by
  fun_induction advance act pause stop a s with
  | case1 => exact h
  | case2 a s now hnext hlt ih =>
    exact ih (hpause _ (List.foldlRecOn _ _ h fun s hs activity _ => hact now activity s hs))
  | case3 => exact h

end Agenda

end RegistryLoad
