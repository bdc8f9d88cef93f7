import RegistryLoad.Proofs.Load.Ticks

/-!
# What lasts in a session

A session does many things, but it does them in few steps.  A property that each of these steps
keeps lasts as long as the session.  What the calls and the channels keep is safe even where no
turn begins any more; what turns keep as well lasts through any wait.

## Definitions

* `Stage.Resting`: neither the calls nor the channels end the property.
* `Stage.Ongoing`: the turns of activities do not end it either.
* `Stage.Lasting`: no step at all ends the property, not even half a turn.

## Results

* `Stage.Resting.settle`, `Stage.Resting.ending`, `Stage.Resting.yield`, `Stage.Resting.finish`:
  what waits for no clock, and the end of a session.
* `Stage.Ongoing.turn`, `Stage.Ongoing.wait`, `Stage.Ongoing.amid`: what activities do.
* `Run.runTo_of_startEach`, `Run.stop_of_started`: the course of a run and its end.
* `Session.idle_finish`: no call is under way after the end of a session.
-/

namespace RegistryLoad

variable {τ ρ : Type}

namespace Stage

/-- A property of a stage that neither a call nor the channels can end, no notice but those of
ticks, and no passing of time. -/
structure Resting [Registry ρ] (P : Stage τ ρ → Prop) : Prop where
  nextCall : ∀ s w, P s → s.work.applyNext? = some w → P { s with work := w }
  settleChannels : ∀ s, P s → P { s with work := s.work.settleChannels }
  note : ∀ s n, n.tickOf? = none → P s → P (s.note n)
  pass : ∀ s now, P s → P { s with now := now }

/-- A property of a stage that the turns of activities cannot end either. -/
structure Ongoing [Topology τ] [Registry ρ] (P : Stage τ ρ → Prop) : Prop extends Resting P where
  registrations : ∀ s, P s → P (s.act .registrations)
  interests : ∀ s, P s → P (s.act .interests)
  render : ∀ s, P s → P s.render.2

/-- A property of a stage that neither a tick nor a call, neither the channels nor the score
board, and no passing of time can end. -/
structure Lasting [Topology τ] [Registry ρ] (P : Stage τ ρ → Prop) : Prop where
  registrationTick : ∀ s, P s → P { s with
    work := (s.work.registrationTick s.plan.registrations.schedule.batch
      s.plan.registrations.target).2 }
  interestTick : ∀ s, P s → P { s with
    work := (s.work.interestTick s.plan.interests.schedule.batch s.plan.interests.target).2 }
  nextCall : ∀ s w, P s → s.work.applyNext? = some w → P { s with work := w }
  settleChannels : ∀ s, P s → P { s with work := s.work.settleChannels }
  render : ∀ s, P s → P s.render.2
  note : ∀ s n, P s → P (s.note n)
  pass : ∀ s now, P s → P { s with now := now }

/-! ## Where no turn begins -/

namespace Resting

variable [Registry ρ] {P Q : Stage τ ρ → Prop}

theorem and (h : Resting P) (h' : Resting Q) : Resting fun s => P s ∧ Q s where
  nextCall s w hs next := ⟨h.nextCall s w hs.1 next, h'.nextCall s w hs.2 next⟩
  settleChannels s hs := ⟨h.settleChannels s hs.1, h'.settleChannels s hs.2⟩
  note s n hn hs := ⟨h.note s n hn hs.1, h'.note s n hn hs.2⟩
  pass s now hs := ⟨h.pass s now hs.1, h'.pass s now hs.2⟩

variable (h : Resting P)

include h

theorem drain {s : Stage τ ρ} (hs : P s) : P { s with work := s.work.drain } :=
  Workload.drain_preserves (P := fun w => P { s with work := w })
    (fun w w' hw next => h.nextCall { s with work := w } w' hw next) hs

theorem makeCalls {s : Stage τ ρ} (hs : P s) (n : Nat) :
    P { s with work := s.work.makeCalls n } :=
  steps_preserves (P := fun w => P { s with work := w })
    (fun w w' hw next => h.nextCall { s with work := w } w' hw next) n hs

theorem settle {s : Stage τ ρ} (hs : P s) : P s.settle := h.settleChannels _ (h.drain hs)

theorem beginning {s : Stage τ ρ} (hs : P s) (activity : Activity) : P (s.beginning activity) := by
  cases activity with
  | registrations => exact h.note _ _ rfl hs
  | interests => exact h.note _ _ rfl hs
  | board => exact hs

theorem ending {s : Stage τ ρ} (hs : P s) (activity : Activity) : P (s.ending activity) := by
  cases activity with
  | registrations => exact h.note _ _ rfl (h.drain hs)
  | interests => exact h.note _ _ rfl hs
  | board => exact h.note _ _ rfl hs

theorem commence {s : Session τ ρ} (hs : P s.stage) (activity : Activity) :
    P (s.commence activity).stage := by
  have begun := h.beginning hs activity
  have ended := h.ending begun activity
  rw [Session.commence]
  -- What matters of the stage is said; its period, a large number, is not to be looked at.
  generalize s.stage.beginning activity = stage at begun ended
  split
  · split
    · exact ended
    · exact begun
  · exact begun

theorem yield {s : Session τ ρ} (hs : P s.stage) : P s.yield.stage :=
  List.foldlRecOn (motive := fun s : Session τ ρ => P s.stage) s.waiting _ (h.settle hs)
    fun _ hs activity _ => h.commence hs activity

theorem finish {s : Session τ ρ} (hs : P s.stage) : P s.finish.2.stage :=
  List.foldlRecOn (motive := P) _ _ (h.yield (s := s.cancel) hs)
    fun _ hs entry _ => h.ending hs entry.1

end Resting

/-! ## Where activities have their turns -/

namespace Ongoing

variable [Topology τ] [Registry ρ] {P : Stage τ ρ → Prop} (h : Ongoing P)

include h

theorem act {s : Stage τ ρ} (hs : P s) (activity : Activity) : P (s.act activity) := by
  cases activity with
  | registrations => exact h.registrations s hs
  | interests => exact h.interests s hs
  | board =>
    have rendered := h.render s hs
    rcases s.act_board with written | ⟨reason, refused⟩
    · rw [written]
      exact rendered
    · rw [refused]
      exact h.note _ _ rfl rendered

theorem turn {s : Stage τ ρ} (hs : P s) (now : Nat) (activity : Activity) :
    P (s.turn now activity) :=
  h.act (h.pass s now hs) activity

theorem wait {s : Session τ ρ} (hs : P s.stage) (nanos : Nat) : P (s.wait nanos).stage := by
  by_cases still : nanos = 0 ∨ lastMoment ≤ s.now
  · rw [Session.wait_of_still still]
    exact hs
  · rw [Session.wait_of_ahead still]
    exact h.pass _ _ (Agenda.advance_preserves (P := P)
      (fun now activity _ hs => h.turn hs now activity) (fun _ hs => h.settle hs) _ _ _
      (h.yield hs))

theorem amid {s : Session τ ρ} (hs : P s.stage) (turns calls : Nat) :
    P (s.amid turns calls).stage := by
  unfold Session.amid
  split
  · exact hs
  · exact h.makeCalls (List.foldlRecOn (motive := P) _ _ (h.yield hs)
      fun _ hs activity _ => h.turn hs _ activity) calls

end Ongoing

namespace Lasting

variable [Topology τ] [Registry ρ] {P : Stage τ ρ → Prop} (h : Lasting P)

include h

/-- A turn is a tick and its notice, so what lasts is kept by turns. -/
theorem ongoing : Ongoing P where
  nextCall := h.nextCall
  settleChannels := h.settleChannels
  note s n _ hs := h.note s n hs
  pass := h.pass
  registrations s hs := h.note _ _ (h.registrationTick s hs)
  interests s hs := h.note _ _ (h.interestTick s hs)
  render := h.render

theorem finish {s : Session τ ρ} (hs : P s.stage) : P s.finish.2.stage :=
  h.ongoing.toResting.finish hs

end Lasting

end Stage

namespace Stage

/-- The plan of a session never changes. -/
theorem lasting_plan [Topology τ] [Registry ρ] (plan : Plan) :
    Lasting fun s : Stage τ ρ => s.plan = plan where
  registrationTick _ h := h
  interestTick _ h := h
  nextCall _ _ h _ := h
  settleChannels _ h := h
  render _ h := h
  note _ _ h := h
  pass _ _ h := h

end Stage

/-! ## The life of a run -/

namespace Run

/-- The state in which the time of a run is over: after a wait, or within an instant. -/
theorem passTime_eq (r : Run) (interrupt : Option Moment) :
    (∃ nanos, r.passTime interrupt = r.wait nanos) ∨
      ∃ nanos turns calls, r.passTime interrupt =
        Run.note { r.wait nanos with session := (r.wait nanos).session.amid turns calls }
          .interrupted := by
  cases interrupt with
  | none =>
    rw [passTime]
    exact .inl ⟨_, rfl⟩
  | some moment =>
    rw [passTime]
    split
    · exact .inr ⟨_, _, _, rfl⟩
    · exact .inl ⟨_, rfl⟩

theorem passTime_frame (r : Run) (interrupt : Option Moment) :
    (r.passTime interrupt).settings = r.settings ∧ (r.passTime interrupt).started = r.started := by
  rcases r.passTime_eq interrupt with ⟨nanos, passed⟩ | ⟨nanos, turns, calls, passed⟩
  · rw [passed]
    exact ⟨rfl, rfl⟩
  · rw [passed]
    exact ⟨rfl, rfl⟩

theorem passTime_ongoing {P : Stage Generator Store → Prop} (h : Stage.Ongoing P) {r : Run}
    (hr : P r.session.stage) (interrupt : Option Moment) :
    P (r.passTime interrupt).session.stage := by
  rcases r.passTime_eq interrupt with ⟨nanos, passed⟩ | ⟨nanos, turns, calls, passed⟩
  · rw [passed]
    exact h.wait hr nanos
  · rw [passed]
    exact h.note _ _ rfl (h.amid (h.wait hr nanos) turns calls)

/-- A run in which everything can be started comes to its end, where it stops with all that went
on through the turns. -/
theorem runTo_ongoing {r begun : Run} (starts : startEach activities r = (.ok (), begun))
    (interrupt : Option Moment) :
    ∃ last : Run, r.runTo interrupt = (.ok last.stop.1, last.stop.2) ∧
      last.started = begun.started ∧
      ∀ P : Stage Generator Store → Prop, Stage.Ongoing P → P begun.session.stage →
        P last.session.stage := by
  refine ⟨Run.note ((begun.note (.durationSet begun.settings.duration.seconds)).passTime interrupt)
    .finishing, ?_, ?_, ?_⟩
  · rw [runTo, starts]
  · exact (passTime_frame _ interrupt).2
  · intro P h hbegun
    have noted : P (begun.note (.durationSet begun.settings.duration.seconds)).session.stage :=
      h.note _ _ rfl hbegun
    exact h.note _ _ rfl (passTime_ongoing h noted interrupt)

/-- A run in which everything can be started comes to its end, where it stops with all that
lasted. -/
theorem runTo_of_startEach {r begun : Run} (starts : startEach activities r = (.ok (), begun))
    (interrupt : Option Moment) :
    ∃ last : Run, r.runTo interrupt = (.ok last.stop.1, last.stop.2) ∧
      last.started = begun.started ∧
      ∀ P : Stage Generator Store → Prop, Stage.Lasting P → P begun.session.stage →
        P last.session.stage := by
  obtain ⟨last, runs, started, goesOn⟩ := runTo_ongoing starts interrupt
  exact ⟨last, runs, started, fun P h => goesOn P h.ongoing⟩

/-- The end of a run in which something was started. -/
theorem stop_of_started {r : Run} (started : r.started ≠ []) :
    ∃ journal,
      r.stop.2.work = { r.session.finish.2.stage.work with
        registry := r.session.finish.2.stage.work.registry.shutDown
        journal := journal } ∧
      r.stop.1.snapshot.counters = r.session.finish.2.stage.work.board ∧
      r.stop.1.registrySize = r.session.finish.2.stage.work.registry.size ∧
      r.stop.1.pool = r.session.finish.2.stage.work.conveyor.pool.size ∧
      r.stop.1.activeRegistrations = r.session.finish.2.stage.work.conveyor.active.size ∧
      r.stop.1.activeInterests = r.session.finish.2.stage.work.subscriptions.active.size := by
  have finished : r.finishStarted = { r with session := r.session.finish.2, started := [] } := by
    rw [finishStarted, if_neg (by simpa using started)]
  unfold stop
  rw [finished]
  exact ⟨_, rfl, rfl, rfl, rfl, rfl, rfl⟩

end Run

/-! ## The end of a session -/

namespace Stage

/-- No call is under way. -/
def Idle (s : Stage τ ρ) : Prop := s.work.pending = []

variable {s : Stage τ ρ}

theorem Idle.pass (h : s.Idle) (now : Nat) : Idle { s with now := now } := h

theorem Idle.beginning (h : s.Idle) (activity : Activity) : (s.beginning activity).Idle := by
  cases activity <;> exact h

variable [Registry ρ]

theorem idle_settle : s.settle.Idle := s.work.pending_drain

theorem Idle.ending (h : s.Idle) (activity : Activity) : (s.ending activity).Idle := by
  cases activity with
  | registrations => exact s.work.pending_drain
  | interests => exact h
  | board => exact h

end Stage

namespace Session

variable [Registry ρ] {s : Session τ ρ}

theorem idle_commence (h : s.stage.Idle) (activity : Activity) :
    (s.commence activity).stage.Idle := by
  have begun := h.beginning activity
  have ended := begun.ending activity
  rw [commence]
  generalize s.stage.beginning activity = stage at begun ended
  split
  · split
    · exact ended
    · exact begun
  · exact begun

theorem idle_yield (s : Session τ ρ) : s.yield.stage.Idle :=
  List.foldlRecOn (motive := fun s : Session τ ρ => s.stage.Idle) s.waiting _ Stage.idle_settle
    fun _ hs activity _ => idle_commence hs activity

/-- **No call is under way after the end.** -/
theorem idle_finish (s : Session τ ρ) : s.finish.2.stage.Idle :=
  List.foldlRecOn (motive := Stage.Idle) _ _ (idle_yield s.cancel)
    fun _ hs entry _ => hs.ending entry.1

/-- What begins and what ends takes no time. -/
theorem now_finish (s : Session τ ρ) : s.finish.2.now = s.now := by
  have beginning : ∀ (stage : Stage τ ρ) (activity : Activity),
      (stage.beginning activity).now = stage.now := by
    intro stage activity
    cases activity <;> rfl
  have ending : ∀ (stage : Stage τ ρ) (activity : Activity),
      (stage.ending activity).now = stage.now := by
    intro stage activity
    cases activity <;> rfl
  have yielded : s.cancel.yield.now = s.now := by
    refine List.foldlRecOn (motive := fun t : Session τ ρ => t.now = s.now) s.waiting _ rfl ?_
    intro t ht activity _
    have begun := (beginning t.stage activity).trans ht
    have ended := (ending (t.stage.beginning activity) activity).trans begun
    rw [commence]
    generalize t.stage.beginning activity = stage at begun ended
    split
    · split
      · exact ended
      · exact begun
    · exact begun
  refine List.foldlRecOn (motive := fun stage : Stage τ ρ => stage.now = s.now) _ _ yielded ?_
  intro stage hs entry _
  exact (ending stage entry.1).trans hs

end Session

end RegistryLoad
