import Mathlib.Data.List.Nodup
import RegistryLoad.Proofs.Load.Life

/-!
# How often an activity has its turn

An activity has its first turn when it begins and further ones with its period, and by the end of a
wait it has had all that were due before.  So their number is known, whatever else there is to do.

## Definitions

* `Ticker.HasTurns`: how many turns a ticker has before an instant.
* `Agenda.turnsBefore`: the turns of an agenda before an instant, in their order.

## Results

* `Agenda.count_turnsBefore`: each activity of an agenda has as many turns as its ticker says.
* `Session.exists_turns`, `Session.exists_ticks`: the turns of a wait in a session that begins,
  and its ticks.
* `Ticker.HasTurns.bounds`: what their number is if everything takes whole milliseconds.
-/

namespace RegistryLoad

variable {τ ρ : Type}

/-! ## Tickers -/

theorem wakeTime_millis (n : Nat) : wakeTime (n * nanosPerMilli) = n * nanosPerMilli := by
  unfold wakeTime nanosPerMilli
  omega

/-- A wait of whole milliseconds from the first instant on is over on time, unless it is longer than
any. -/
theorem Clock.alarm_millis (c : Clock) {time : Nat} (h : time ≤ Nat.pow 2 64 - 3) :
    c.alarm 0 (time * nanosPerMilli) = time * nanosPerMilli := by
  have early : 0 + time * nanosPerMilli ≤ lastMoment := by
    rw [Nat.zero_add]
    exact Nat.mul_le_mul_right _ h
  rw [c.alarm_of_le early, Nat.zero_add, wakeTime_millis]

namespace Ticker

/-- Before `stop` the ticker has `n` turns: the last of them is due before then, and the clock does
not tell before then that the next one is. -/
structure HasTurns (t : Ticker) (stop n : Nat) : Prop where
  last : n = 0 ∨ t.due + (n - 1) * t.period < stop
  next : stop ≤ wakeTime (t.due + n * t.period)

/-- The turns that a ticker has at a moment come on top of those that it has later. -/
theorem HasTurns.later {t : Ticker} {now stop n : Nat} (h : (t.next now).HasTurns stop n)
    (due : t.moment ≤ now) (before : now < stop) : t.HasTurns stop (t.turns now + n) := by
  have due_eq : (t.next now).due = t.due + t.turns now * t.period := rfl
  have period_eq : (t.next now).period = t.period := rfl
  obtain ⟨last, next⟩ := h
  rw [due_eq, period_eq] at last next
  constructor
  · right
    rcases last with none | last
    · have passed : (now - t.due) / t.period * t.period ≤ now - t.due := Nat.div_mul_le_self _ _
      have reached : t.due ≤ now := Nat.le_trans (le_wakeTime t.due) due
      rw [none, Nat.add_zero, turns, Nat.add_sub_cancel]
      omega
    · rcases Nat.eq_zero_or_pos n with none | some
      · rw [none] at last ⊢
        have fewer : (t.turns now + 0 - 1) * t.period ≤ t.turns now * t.period :=
          Nat.mul_le_mul_right _ (by omega)
        omega
      · have together : (t.turns now + n - 1) * t.period
            = t.turns now * t.period + (n - 1) * t.period := by
          rw [← Nat.add_mul, Nat.add_sub_assoc some]
        omega
  · rw [Nat.add_mul, ← Nat.add_assoc]
    exact next

/-- In whole milliseconds: the turns of a ticker that is due in the beginning take up the time, but
without the last one they do not. -/
theorem HasTurns.bounds {t : Ticker} {interval time n : Nat}
    (h : t.HasTurns (time * nanosPerMilli) n) (due : t.due = 0)
    (period : t.period = interval * nanosPerMilli) :
    time ≤ n * interval ∧ n ≤ time / interval + 1 := by
  have milli_pos : 0 < nanosPerMilli := by decide
  have interval_pos : 0 < interval := by
    have period_pos := t.period_pos
    rw [period] at period_pos
    exact Nat.pos_of_mul_pos_right period_pos
  obtain ⟨last, next⟩ := h
  rw [due, period, Nat.zero_add, ← Nat.mul_assoc] at last next
  rw [wakeTime_millis] at next
  refine ⟨Nat.le_of_mul_le_mul_right next milli_pos, ?_⟩
  rcases last with none | last
  · rw [none]
    exact Nat.zero_le _
  · have before : (n - 1) * interval < time := Nat.lt_of_mul_lt_mul_right last
    have fit := (Nat.le_div_iff_mul_le interval_pos).mpr (Nat.le_of_lt before)
    exact Nat.sub_le_iff_le_add.mp fit

end Ticker

/-! ## Agendas -/

namespace Agenda

variable {α σ σ' : Type}

/-- As long as the next moment is before the instant, the activities that are due then have their
turns. -/
theorem advance_of_lt {a : Agenda α} {now stop : Nat} (next : a.nextMoment? = some now)
    (before : now < stop) (act : Nat → α → σ → σ) (pause : σ → σ) (s : σ) :
    a.advance act pause stop s = (a.after now).advance act pause stop
      (pause ((a.turnsAt now).foldl (fun s activity => act now activity s) s)) := by
  rw [advance]
  split
  · rename_i none
    cases none.symm.trans next
  · rename_i now' next'
    cases next'.symm.trans next
    rw [dif_pos before]

/-- Nothing happens any more once the next moment is not before the instant. -/
theorem advance_of_le {a : Agenda α} {stop : Nat}
    (after : ∀ now, a.nextMoment? = some now → stop ≤ now) (act : Nat → α → σ → σ) (pause : σ → σ)
    (s : σ) : a.advance act pause stop s = (a, s) := by
  rw [advance]
  split
  · rfl
  · rename_i now next
    rw [dif_neg (Nat.not_lt_of_le (after now next))]

/-- What happens before an instant happens alike to whatever it happens to. -/
theorem advance_related {R : σ → σ' → Prop} {act : Nat → α → σ → σ} {act' : Nat → α → σ' → σ'}
    {pause : σ → σ} {pause' : σ' → σ'}
    (hact : ∀ now activity s s', R s s' → R (act now activity s) (act' now activity s'))
    (hpause : ∀ s s', R s s' → R (pause s) (pause' s')) (stop : Nat) (a : Agenda α) {s : σ}
    {s' : σ'} (h : R s s') :
    R (a.advance act pause stop s).2 (a.advance act' pause' stop s').2 := by
  have hturns : ∀ (now : Nat) (activities : List α) (s : σ) (s' : σ'), R s s' →
      R (activities.foldl (fun s activity => act now activity s) s)
        (activities.foldl (fun s activity => act' now activity s) s') := by
    intro now activities
    induction activities with
    | nil => exact fun _ _ h => h
    | cons activity activities ih => exact fun s s' h => ih _ _ (hact now activity s s' h)
  fun_induction advance act pause stop a s generalizing s' with
  | case1 a s none =>
    rw [advance_of_le (by simp [none])]
    exact h
  | case2 a s now next before ih =>
    rw [advance_of_lt next before]
    exact ih (hpause _ _ (hturns now _ s s' h))
  | case3 a s now next late =>
    rw [advance_of_le (by simpa [next] using late)]
    exact h

/-- The activities that have their turns before an instant, in the order of the turns. -/
def turnsBefore (stop : Nat) (a : Agenda α) : List α :=
  (a.advance (fun _ activity had => had ++ [activity]) id stop []).2

/-- The turns of a moment leave everybody in his place. -/
theorem map_fst_after (a : Agenda α) (now : Nat) : (a.after now).map (·.1) = a.map (·.1) := by
  induction a with
  | nil => rfl
  | cons entry a ih =>
    rw [after, List.map_cons, ← after, List.map_cons, ih, List.map_cons]
    by_cases due : entry.2.moment ≤ now
    · rw [if_pos due]
    · rw [if_neg due]

/-- Whoever has turns at a moment is due next when they are over. -/
theorem mem_after {a : Agenda α} {activity : α} {t : Ticker} (known : (activity, t) ∈ a)
    (now : Nat) : (activity, if t.moment ≤ now then t.next now else t) ∈ a.after now := by
  refine List.mem_map.mpr ⟨(activity, t), known, ?_⟩
  dsimp only
  split <;> rfl

section Count

variable [DecidableEq α] {a : Agenda α} {activity : α} {t : Ticker}

/-- At a moment an activity has the turns that its own ticker says. -/
theorem count_turnsAt (distinct : (a.map (·.1)).Nodup) (known : (activity, t) ∈ a) (now : Nat) :
    (a.turnsAt now).count activity = if t.moment ≤ now then t.turns now else 0 := by
  have own : ∀ e : α × Ticker,
      (if e.2.moment ≤ now then List.replicate (e.2.turns now) e.1 else []).count activity
        = if e.1 = activity then if e.2.moment ≤ now then e.2.turns now else 0 else 0 := by
    intro e
    split <;> simp [List.count_replicate]
  have others : ∀ b : Agenda α, activity ∉ b.map (·.1) → (b.turnsAt now).count activity = 0 := by
    intro b absent
    rw [List.count_eq_zero, turnsAt, List.mem_flatMap]
    rintro ⟨e, he, found⟩
    split at found
    · rw [(List.mem_replicate.mp found).2] at absent
      exact absent (List.mem_map_of_mem he)
    · cases found
  induction a with
  | nil => cases known
  | cons e a ih =>
    rw [List.map_cons, List.nodup_cons] at distinct
    obtain ⟨absent, distinct⟩ := distinct
    rw [turnsAt, List.flatMap_cons, ← turnsAt, List.count_append, own]
    rcases List.mem_cons.mp known with rfl | known
    · rw [others a absent, if_pos rfl, Nat.add_zero]
    · have different : e.1 ≠ activity := by
        intro same
        rw [same] at absent
        exact absent (List.mem_map_of_mem (f := Prod.fst) known)
      rw [if_neg different, Nat.zero_add]
      exact ih distinct known

/-- **Each activity has as many turns as its ticker says**, whichever others there are. -/
theorem count_turnsBefore (distinct : (a.map (·.1)).Nodup) (known : (activity, t) ∈ a)
    (stop : Nat) : t.HasTurns stop ((a.turnsBefore stop).count activity) := by
  -- The turns that were had before do not matter.
  suffices counted : ∀ had : List α, ∃ n, t.HasTurns stop n ∧
      (a.advance (fun _ activity had => had ++ [activity]) id stop had).2.count activity
        = had.count activity + n by
    obtain ⟨n, turns, count⟩ := counted []
    rw [turnsBefore, count, List.count_nil, Nat.zero_add]
    exact turns
  intro had
  fun_induction advance (fun _ activity (had : List α) => had ++ [activity]) id stop a had
    generalizing t with
  | case1 a had none =>
    rw [nextMoment?, List.min?_eq_none_iff, List.map_eq_nil_iff] at none
    rw [none] at known
    cases known
  | case2 a had now next before ih =>
    obtain ⟨n, turns, count⟩ := ih (by rwa [map_fst_after]) (mem_after known now)
    have all : (a.turnsAt now).foldl (fun had activity => had ++ [activity]) had
        = had ++ a.turnsAt now := by simp [← List.flatMap_def]
    rw [id, all, List.count_append, count_turnsAt distinct known now] at count
    rw [id, all, count]
    split at turns
    · rename_i due
      exact ⟨t.turns now + n, turns.later due before, by rw [if_pos due, Nat.add_assoc]⟩
    · rename_i notDue
      exact ⟨n, turns, by rw [if_neg notDue, Nat.add_zero]⟩
  | case3 a had now next late =>
    have first : now ≤ t.moment := by
      apply (List.min?_eq_some_iff.mp next).2
      exact List.mem_map.mpr ⟨(activity, t), known, rfl⟩
    refine ⟨0, ⟨.inl rfl, ?_⟩, rfl⟩
    rw [Nat.zero_mul, Nat.add_zero]
    exact Nat.le_trans (Nat.not_lt.mp late) first

end Count

end Agenda

/-! ## Sessions that begin -/

/-- All turns but those of the score board are ticks. -/
theorem Activity.count_ticking (turns : List Activity) {activity : Activity}
    (ticking : activity ≠ .board) :
    (turns.flatMap Activity.ticking).count activity = turns.count activity := by
  induction turns with
  | nil => rfl
  | cons turn turns ih =>
    rw [List.flatMap_cons, List.count_append, ih]
    cases turn <;> cases activity <;> simp_all [Activity.ticking, Nat.add_comm]

namespace Session

variable [Registry ρ]

/-- An activity that begins, and may, is due at once and then again and again. -/
theorem commence_of_going {s : Session τ ρ} {activity : Activity} (going : s.cancelled = false)
    (period_pos : 0 < (s.stage.plan.period activity).totalNanos) :
    ∃ t : Ticker, t.due = s.now ∧ t.period = s.stage.interval activity ∧
      s.commence activity = { s with
        stage := s.stage.beginning activity
        running := s.running ++ [(activity, t)] } := by
  have planned : (s.stage.beginning activity).plan = s.stage.plan ∧
      (s.stage.beginning activity).clock = s.stage.clock ∧
      (s.stage.beginning activity).now = s.stage.now := by
    cases activity <;> exact ⟨rfl, rfl, rfl⟩
  rw [commence]
  generalize s.stage.beginning activity = stage at planned
  obtain ⟨plan, clock, now⟩ := planned
  have interval : stage.interval activity = s.stage.interval activity := by
    rw [Stage.interval, plan, clock, now, Stage.interval]
  rw [← plan] at period_pos
  refine ⟨stage.ticker activity period_pos, now, interval, ?_⟩
  split
  · split
    · rename_i cancelled
      cases going.symm.trans cancelled
    · rfl
  · rename_i none
    exact absurd period_pos none

/-- Activities that begin together are all due at once, each with its own period. -/
theorem foldl_commence {s : Session τ ρ} {activities : List Activity} (going : s.cancelled = false)
    (periods : ∀ activity ∈ activities, 0 < (s.stage.plan.period activity).totalNanos) :
    ∃ agenda : Agenda Activity, agenda.map (·.1) = activities ∧
      (∀ entry ∈ agenda, entry.2.due = s.now ∧ entry.2.period = s.stage.interval entry.1) ∧
      (activities.foldl commence s).running = s.running ++ agenda ∧
      (activities.foldl commence s).now = s.now := by
  induction activities generalizing s with
  | nil => exact ⟨[], rfl, by simp, by simp, rfl⟩
  | cons activity activities ih =>
    obtain ⟨t, due, period, begun⟩ := commence_of_going going (periods activity List.mem_cons_self)
    have planned : (s.commence activity).stage.plan = s.stage.plan ∧
        (s.commence activity).stage.clock = s.stage.clock ∧
        (s.commence activity).now = s.now ∧ (s.commence activity).cancelled = false := by
      rw [begun]
      cases activity <;> exact ⟨rfl, rfl, rfl, going⟩
    obtain ⟨plan, clock, now, going'⟩ := planned
    have interval : ∀ other, (s.commence activity).stage.interval other = s.stage.interval other := by
      intro other
      rw [Stage.interval, plan, clock, Stage.interval, ← Session.now, now, Session.now]
    obtain ⟨agenda, keys, entries, running, now'⟩ := ih (s := s.commence activity) going'
      (by rw [plan]; exact fun a ha => periods a (List.mem_cons_of_mem _ ha))
    refine ⟨(activity, t) :: agenda, by rw [List.map_cons, keys], ?_, ?_, now'.trans now⟩
    · intro entry known
      rcases List.mem_cons.mp known with rfl | known
      · exact ⟨due, period⟩
      · rw [← now, ← interval]
        exact entries entry known
    · rw [List.foldl_cons, running, begun, List.append_assoc]
      rfl

/-- A wait does what its turns do. -/
theorem wait_related [Topology τ] {R : List Activity → Stage τ ρ → Prop}
    (resting : ∀ had, Stage.Resting (R had))
    (turn : ∀ had stage activity, R had stage → R (had ++ [activity]) (stage.act activity))
    {s : Session τ ρ} (h : R [] s.stage) {nanos : Nat} (ahead : ¬ (nanos = 0 ∨ lastMoment ≤ s.now)) :
    R (s.yield.running.turnsBefore (s.alarm nanos)) (s.wait nanos).stage := by
  rw [wait_of_ahead ahead]
  exact (resting _).pass _ _ (Agenda.advance_related (R := R)
    (fun now activity had stage hs => turn had _ activity ((resting had).pass stage now hs))
    (fun had stage hs => (resting had).settle hs) _ _ ((resting []).yield h))

/-- **The turns of a wait in a session that begins.**  It does what they do, and each activity that
was started has as many as its period says. -/
theorem exists_turns [Topology τ] {R : List Activity → Stage τ ρ → Prop}
    (resting : ∀ had, Stage.Resting (R had))
    (turn : ∀ had stage activity, R had stage → R (had ++ [activity]) (stage.act activity))
    {s : Session τ ρ} (h : R [] s.stage) (going : s.cancelled = false) (fresh : s.running = [])
    (distinct : s.waiting.Nodup)
    (periods : ∀ activity ∈ s.waiting, 0 < (s.stage.plan.period activity).totalNanos) {nanos : Nat}
    (ahead : ¬ (nanos = 0 ∨ lastMoment ≤ s.now)) :
    ∃ turns : List Activity, R turns (s.wait nanos).stage ∧
      ∀ activity ∈ s.waiting, ∃ t : Ticker, t.due = s.now ∧
        t.period = s.stage.interval activity ∧
        t.HasTurns (s.alarm nanos) (turns.count activity) := by
  obtain ⟨agenda, keys, entries, running, -⟩ :=
    foldl_commence (s := { s with stage := s.stage.settle, waiting := [] }) going periods
  have running : s.yield.running = agenda := by
    rw [yield, running, fresh]
    rfl
  have waited := wait_related resting turn h ahead
  rw [running] at waited
  refine ⟨_, waited, ?_⟩
  intro activity started
  rw [← keys] at started distinct
  obtain ⟨⟨_, t⟩, known, rfl⟩ := List.mem_map.mp started
  obtain ⟨due, period⟩ := entries _ known
  exact ⟨t, due, period, Agenda.count_turnsBefore distinct known _⟩

omit [Registry ρ] in
/-- At the first instant the last moment is still to come. -/
theorem ahead_of_now {s : Session τ ρ} (now : s.now = 0) {nanos : Nat} (some : 0 < nanos) :
    ¬ (nanos = 0 ∨ lastMoment ≤ s.now) := by
  have early : s.now < lastMoment := by
    rw [now]
    decide
  omega

/-- **The ticks of a wait in a session that begins**, which is at the first instant. -/
theorem exists_ticks [Topology τ] {R : List Activity → Stage τ ρ → Prop}
    (resting : ∀ ticks, Stage.Resting (R ticks))
    (act : ∀ ticks stage activity, R ticks stage →
      R (ticks ++ activity.ticking) (stage.act activity))
    {s : Session τ ρ} (h : R [] s.stage) (now : s.now = 0) (going : s.cancelled = false)
    (fresh : s.running = []) (distinct : s.waiting.Nodup)
    (periods : ∀ activity ∈ s.waiting, 0 < (s.stage.plan.period activity).totalNanos) {nanos : Nat}
    (some : 0 < nanos) :
    ∃ ticks : List Activity, R ticks (s.wait nanos).stage ∧
      ∀ activity ∈ s.waiting, activity ≠ .board → ∃ t : Ticker, t.due = 0 ∧
        t.period = s.stage.clock.span 0 (s.stage.plan.period activity).totalNanos ∧
        t.HasTurns (s.stage.clock.alarm 0 nanos) (ticks.count activity) := by
  have turn : ∀ (had : List Activity) (stage : Stage τ ρ) (activity : Activity),
      R (had.flatMap Activity.ticking) stage →
        R ((had ++ [activity]).flatMap Activity.ticking) (stage.act activity) := by
    intro had stage activity h
    rw [List.flatMap_append, List.flatMap_singleton]
    exact act _ _ activity h
  have alarm : s.alarm nanos = s.stage.clock.alarm 0 nanos := by rw [Session.alarm, now]
  obtain ⟨turns, waited, counted⟩ :=
    exists_turns (R := fun had stage => R (had.flatMap Activity.ticking) stage)
      (fun _ => resting _) turn h going fresh distinct periods (ahead_of_now now some)
  refine ⟨_, waited, ?_⟩
  intro activity started ticking
  obtain ⟨t, due, period, turns⟩ := counted activity started
  rw [alarm] at turns
  rw [Stage.interval, ← Session.now, now] at period
  rw [Activity.count_ticking _ ticking]
  exact ⟨t, due.trans now, period, turns⟩

end Session

end RegistryLoad
