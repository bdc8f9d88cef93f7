import RegistryLoad.Load.Agenda
import RegistryLoad.Load.Workload

/-!
# Sessions

Activities at work on a workload and on a score board, in simulated time.  An activity that was
started begins as soon as somebody waits, has its first turn at once and further ones with its
period, and ends after the session was cancelled.  At one moment all turns come first, then the
calls that they asked for, then the channels.

* `Clock.span`, `Clock.alarm`: how long timers wait, which is not always as long as they are to.
* `Stage.turn`: what an activity does when it has its turn.
* `Session.start`, `Session.wait`, `Session.amid`, `Session.finish`: the life of the activities.
-/

namespace RegistryLoad

/-! ## Plans -/

/-- How often something is to be done, and the level that it aims at. -/
structure Pace where
  schedule : Schedule := ⟨TimeSpan.zero, 0⟩
  target : UInt64 := 0
  deriving Repr

/-- What the activities of a session are to do.  An activity without a period cannot run. -/
structure Plan where
  registrations : Pace := {}
  interests : Pace := {}
  boardPeriod : TimeSpan := TimeSpan.zero
  deriving Repr

/-- The time between two turns of an activity. -/
def Plan.period (p : Plan) : Activity → TimeSpan
  | .registrations => p.registrations.schedule.interval
  | .interests => p.interests.schedule.interval
  | .board => p.boardPeriod

/-! ## The score board's output -/

/-- Where the score board is written: the reason for which nothing can be written there, if
there is one, and the snapshots written so far, latest first. -/
structure Sink where
  failure : Option String := none
  latest : List Snapshot := []
  deriving Repr

namespace Sink

/-- Writes a snapshot, or tells why it cannot be written. -/
def write (s : Sink) (snapshot : Snapshot) : Except String Unit × Sink :=
  match s.failure with
  | some reason => (.error reason, s)
  | none => (.ok (), { s with latest := snapshot :: s.latest })

/-- The snapshots in the order in which they were written. -/
def written (s : Sink) : List Snapshot := s.latest.reverse

end Sink

/-! ## Timers -/

/-- The clock of a session: what it shows on the wall at each instant, and the last instant that it
can tell, which is far behind the last moment of the timers. -/
structure Clock where
  reading : Nat → Reading
  last : Nat
  ample : 2 * lastMoment ≤ last

namespace Clock

/-- The clock with these readings that counts its seconds in 63 bits. -/
def ofReading (reading : Nat → Reading) : Clock where
  reading := reading
  last := Nat.pow 2 63 * nanosPerSecond - 1
  ample := by decide

/-- How long a timer waits that is to wait for some nanoseconds: thirty years if the clock cannot
tell the instant at which it is to go off. -/
def span (c : Clock) (now nanos : Nat) : Nat :=
  if now + nanos ≤ c.last then nanos else farFuture

/-- The moment at which this wait is over, which is never behind the last one. -/
def alarm (c : Clock) (now nanos : Nat) : Nat :=
  min (wakeTime (now + c.span now nanos)) lastMoment

theorem span_of_le {c : Clock} {now nanos : Nat} (h : now + nanos ≤ c.last) :
    c.span now nanos = nanos := if_pos h

theorem span_of_lt {c : Clock} {now nanos : Nat} (h : c.last < now + nanos) :
    c.span now nanos = farFuture := if_neg (Nat.not_le_of_lt h)

theorem span_pos (c : Clock) (now : Nat) {nanos : Nat} (h : 0 < nanos) : 0 < c.span now nanos := by
  unfold span
  split
  · exact h
  · decide

/-- Whoever does not wait beyond the last moment waits as long as he wants to. -/
theorem alarm_of_le (c : Clock) {now nanos : Nat} (h : now + nanos ≤ lastMoment) :
    c.alarm now nanos = wakeTime (now + nanos) := by
  have ample := c.ample
  rw [alarm, span_of_le (by omega)]
  exact Nat.min_eq_left (wakeTime_le h)

/-- A timer that goes off again and again waits equally long each time: whether the clock can tell
the next instant is settled when the first wait begins, as far as there are moments. -/
theorem span_eq_span (c : Clock) {now due period : Nat} (reached : now + c.span now period ≤ due)
    (before : due < lastMoment) : c.span due period = c.span now period := by
  have ample := c.ample
  by_cases h : now + period ≤ c.last
  · rw [span_of_le h] at reached ⊢
    exact span_of_le (by omega)
  · rw [span_of_lt (Nat.lt_of_not_le h)]
    exact span_of_lt (by omega)

end Clock

/-! ## Turns -/

/-- What the activities work on, at an instant. -/
structure Stage (τ ρ : Type) where
  plan : Plan
  clock : Clock
  work : Workload τ ρ
  sink : Sink := {}
  now : Nat := 0

namespace Stage

variable {τ ρ : Type}

def note (s : Stage τ ρ) (n : Notice) : Stage τ ρ := { s with work := s.work.note n }

/-- The score board at this instant. -/
def snapshot (s : Stage τ ρ) : Snapshot := s.work.board.snapshot (s.clock.reading s.now)

/-- Writes the score board. -/
def render (s : Stage τ ρ) : Except String Unit × Stage τ ρ :=
  let (outcome, sink) := s.sink.write s.snapshot
  (outcome, { s with sink := sink })

/-- What an activity does when it has its turn. -/
def act [Topology τ] [Registry ρ] (s : Stage τ ρ) : Activity → Stage τ ρ
  | .registrations =>
    let pace := s.plan.registrations
    let (moved, work) := s.work.registrationTick pace.schedule.batch pace.target
    { s with work := work.note (.registrationTick moved.registered moved.unregistered) }
  | .interests =>
    let pace := s.plan.interests
    let (subscribed, work) := s.work.interestTick pace.schedule.batch pace.target
    { s with work := work.note (.interestTick subscribed.opened subscribed.closed) }
  | .board =>
    match s.render with
    | (.ok (), s) => s
    | (.error reason, s) => s.note (.boardFailed reason)

/-- The turn of an activity at a moment. -/
def turn [Topology τ] [Registry ρ] (now : Nat) (activity : Activity) (s : Stage τ ρ) :
    Stage τ ρ :=
  { s with now := now }.act activity

/-- What waits for no clock. -/
def settle [Registry ρ] (s : Stage τ ρ) : Stage τ ρ := { s with work := s.work.settle }

/-- What an activity says when it begins. -/
def beginning (s : Stage τ ρ) : Activity → Stage τ ρ
  | .registrations =>
    s.note (.registrationsStarted s.plan.registrations.schedule s.plan.registrations.target)
  | .interests => s.note (.interestsStarted s.plan.interests.schedule s.plan.interests.target)
  | .board => s

/-- The time between two turns of an activity that begins. -/
def interval (s : Stage τ ρ) (activity : Activity) : Nat :=
  s.clock.span s.now (s.plan.period activity).totalNanos

/-- When an activity that begins has its turns: at once, and then with its period. -/
def ticker (s : Stage τ ρ) (activity : Activity)
    (h : 0 < (s.plan.period activity).totalNanos) : Ticker where
  due := s.now
  period := s.interval activity
  period_pos := s.clock.span_pos s.now h

/-- The end of an activity.  The registrations first wait for the calls under way. -/
def ending [Registry ρ] (s : Stage τ ρ) : Activity → Stage τ ρ
  | .registrations => { s with work := s.work.drain.note .registrationsEnded }
  | .interests => s.note (.interestsEnded s.work.subscriptions.active.size)
  | .board => s.note .boardEnded

end Stage

/-! ## The life of the activities -/

/-- A stage and the activities on it: those that were started and have not begun, those that
have their turns, and those that could not run. -/
structure Session (τ ρ : Type) where
  stage : Stage τ ρ
  waiting : List Activity := []
  running : Agenda Activity := []
  failed : List Activity := []
  cancelled : Bool := false

namespace Session

variable {τ ρ : Type}

/-- A session at its first instant. -/
def opening (plan : Plan) (clock : Clock) (work : Workload τ ρ) : Session τ ρ :=
  { stage := { plan := plan, clock := clock, work := work } }

def now (s : Session τ ρ) : Nat := s.stage.now

def work (s : Session τ ρ) : Workload τ ρ := s.stage.work

def note (s : Session τ ρ) (n : Notice) : Session τ ρ := { s with stage := s.stage.note n }

/-- The session with another workload. -/
def withWork (s : Session τ ρ) (work : Workload τ ρ) : Session τ ρ :=
  { s with stage := { s.stage with work := work } }

/-- Starts an activity, which will begin when somebody waits. -/
def start (s : Session τ ρ) (activity : Activity) : Session τ ρ :=
  { s with waiting := s.waiting ++ [activity] }

/-- No turn begins any more. -/
def cancel (s : Session τ ρ) : Session τ ρ := { s with cancelled := true }

/-- An activity begins.  Without a period it fails, and in a cancelled session it ends at
once. -/
def commence [Registry ρ] (s : Session τ ρ) (activity : Activity) : Session τ ρ :=
  let stage := s.stage.beginning activity
  if h : 0 < (stage.plan.period activity).totalNanos then
    if s.cancelled then { s with stage := stage.ending activity }
    else
      { s with stage := stage, running := s.running ++ [(activity, stage.ticker activity h)] }
  else { s with stage := stage, failed := s.failed ++ [activity] }

/-- What happens as soon as somebody waits: what is under way goes on, and the activities that
were started begin. -/
def yield [Registry ρ] (s : Session τ ρ) : Session τ ρ :=
  s.waiting.foldl commence { s with stage := s.stage.settle, waiting := [] }

/-- The moment at which a wait is over. -/
def alarm (s : Session τ ρ) (nanos : Nat) : Nat := s.stage.clock.alarm s.now nanos

/-- Waits for some nanoseconds, as far as timers can.  What is due at the very instant at which
the wait ends has not happened by then; and to wait for no time at all, or at the last moment, is
not to wait. -/
def wait [Topology τ] [Registry ρ] (s : Session τ ρ) (nanos : Nat) : Session τ ρ :=
  if nanos = 0 ∨ lastMoment ≤ s.now then s
  else
    let stop := s.alarm nanos
    let s := s.yield
    let (running, stage) := s.running.advance Stage.turn Stage.settle stop s.stage
    { s with stage := { stage with now := stop }, running := running }

theorem wait_of_still [Topology τ] [Registry ρ] {s : Session τ ρ} {nanos : Nat}
    (still : nanos = 0 ∨ lastMoment ≤ s.now) : s.wait nanos = s := by
  rw [wait, if_pos still]

theorem wait_of_ahead [Topology τ] [Registry ρ] {s : Session τ ρ} {nanos : Nat}
    (ahead : ¬ (nanos = 0 ∨ lastMoment ≤ s.now)) :
    s.wait nanos =
      let advanced :=
        s.yield.running.advance Stage.turn Stage.settle (s.alarm nanos) s.yield.stage
      { s.yield with
        stage := { advanced.2 with now := s.alarm nanos }
        running := advanced.1 } := by
  rw [wait, if_neg ahead]

theorem now_wait [Topology τ] [Registry ρ] {s : Session τ ρ} {nanos : Nat}
    (ahead : ¬ (nanos = 0 ∨ lastMoment ≤ s.now)) : (s.wait nanos).now = s.alarm nanos := by
  rw [wait_of_ahead ahead, now]

/-- Goes on through a part of the present instant: the first `turns` of the turns that are due
at it, and then the first `calls` of the calls.  The session is not to go on from there. -/
def amid [Topology τ] [Registry ρ] (s : Session τ ρ) (turns calls : Nat) : Session τ ρ :=
  if turns = 0 ∧ calls = 0 then s
  else
    let s := s.yield
    let had := (s.running.turnsAt s.now).take turns
    let stage := had.foldl (fun stage activity => stage.turn s.now activity) s.stage
    { s with stage := { stage with work := stage.work.makeCalls calls } }

/-- Cancels the session and waits for its activities to end.  The answer names those that had
failed. -/
def finish [Registry ρ] (s : Session τ ρ) : List Activity × Session τ ρ :=
  let s := s.cancel.yield
  (s.failed,
    { s with
      stage := s.running.foldl (fun stage entry => stage.ending entry.1) s.stage
      running := []
      failed := [] })

end Session

end RegistryLoad
