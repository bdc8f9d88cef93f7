import RegistryLoad.Proofs.Load.Stopping

/-!
# A start that fails

If the output of the score board cannot be opened, the other activities have been started by then.
The run stops them before they had a turn, and nothing shows that they ever were.

## Definitions

* `Stage.Told`: a notice that was given; `Stage.parting`: the notice of an activity that ends.
* `Run.untouched`: what is left of a run in which nothing had a turn.

## Results

* `Run.startEach_of_obstacle`: what was started before the output could not be opened.
* `Session.told_finish`: an activity that waits at the end of a session says that it has ended.
* `Run.failed_start_leaves_nothing`: what is left of a run that cannot start.
-/

namespace RegistryLoad

variable {τ ρ : Type}

/-! ## What was said -/

theorem Journal.latest_noteAll (notices : List Notice) (j : Journal) :
    (j.noteAll notices).latest = notices.reverse ++ j.latest := by
  induction notices generalizing j with
  | nil => rfl
  | cons n notices ih =>
    rw [noteAll, List.foldl_cons, ← noteAll, ih]
    simp [note]

namespace Stage

/-- The notice was given. -/
def Told (n : Notice) (s : Stage τ ρ) : Prop := n ∈ s.work.journal.latest

theorem resting_told [Registry ρ] (n : Notice) : Resting (Told n : Stage τ ρ → Prop) where
  nextCall s w h next := by
    obtain ⟨notices, -, said⟩ := Workload.applyNext?_silent next
    show n ∈ w.journal.latest
    rw [said, Journal.latest_noteAll]
    exact List.mem_append_right _ h
  settleChannels s h := by
    show n ∈ (s.work.journal.noteAll _).latest
    rw [Journal.latest_noteAll]
    exact List.mem_append_right _ h
  note _ _ _ h := List.mem_cons_of_mem _ h
  pass _ _ h := h

/-- What an activity says at its end. -/
def parting (s : Stage τ ρ) : Activity → Notice
  | .registrations => .registrationsEnded
  | .interests => .interestsEnded s.work.subscriptions.active.size
  | .board => .boardEnded

theorem told_ending [Registry ρ] (s : Stage τ ρ) (activity : Activity) :
    (s.ending activity).Told (s.parting activity) := by
  cases activity with
  | registrations => exact List.mem_cons_self
  | interests => exact List.mem_cons_self
  | board => exact List.mem_cons_self

end Stage

/-! ## The end of what has not begun -/

namespace Session

variable [Registry ρ] {P : Stage τ ρ → Prop} {activity : Activity} {n : Notice}

/-- In a cancelled session an activity that begins ends at once, and says so. -/
theorem told_commence {s : Session τ ρ} (cancelled : s.cancelled = true)
    (period : 0 < ((s.stage.beginning activity).plan.period activity).totalNanos) :
    (s.commence activity).stage.Told ((s.stage.beginning activity).parting activity) := by
  rw [commence]
  generalize s.stage.beginning activity = stage at period
  rw [dif_pos period, if_pos cancelled]
  exact stage.told_ending activity

/-- Whatever waits in a cancelled session has its turn to end. -/
theorem told_foldl_commence (resting : Stage.Resting P)
    (periods : ∀ stage, P stage → 0 < (stage.plan.period activity).totalNanos)
    (word : ∀ stage, P stage → stage.parting activity = n) {s : Session τ ρ} (hs : P s.stage)
    (cancelled : s.cancelled = true) {activities : List Activity} (waits : activity ∈ activities) :
    (activities.foldl commence s).stage.Told n := by
  induction activities generalizing s with
  | nil => cases waits
  | cons first activities ih =>
    rcases List.mem_cons.mp waits with rfl | waits
    · have begun := resting.beginning hs activity
      have told := told_commence cancelled (periods _ begun)
      rw [word _ begun] at told
      exact List.foldlRecOn (motive := fun s : Session τ ρ => s.stage.Told n) activities _ told
        fun _ h next _ => (Stage.resting_told n).commence h next
    · exact ih (resting.commence hs first) ((s.commence_frame first).1.trans cancelled) waits

variable (activity) in
/-- **Whoever waits at the end of a session says that he has ended**, though he never began to
tick. -/
theorem told_finish (resting : Stage.Resting P)
    (periods : ∀ stage, P stage → 0 < (stage.plan.period activity).totalNanos)
    (word : ∀ stage, P stage → stage.parting activity = n) {s : Session τ ρ} (hs : P s.stage)
    (waits : activity ∈ s.waiting) : s.finish.2.stage.Told n := by
  have yielded : s.cancel.yield.stage.Told n :=
    told_foldl_commence (s := { s.cancel with stage := s.stage.settle, waiting := [] }) resting
      periods word (resting.settle hs) rfl waits
  exact List.foldlRecOn (motive := Stage.Told n) _ _ yielded
    fun _ h entry _ => (Stage.resting_told n).ending h entry.1

end Session

/-! ## Runs that cannot start -/

namespace Run

/-- If the output of the score board cannot be opened, the other activities have been started and
wait for their beginning. -/
theorem startEach_of_obstacle {r : Run} {reason : String} (accepted : r.settings.check = .ok ())
    (unstarted : r.started = []) (fails : r.outputFailure = some reason) :
    startEach activities r
      = (.error (.output reason), r.after [.start .registrations, .start .interests]) := by
  have distinct : (r.started ++ [Activity.registrations, .interests]).Nodup := by
    rw [unstarted]
    decide
  have free : ∀ activity ∈ [Activity.registrations, .interests], r.obstacle? activity = none := by
    simp [obstacle?_of_check accepted]
  have begun : r.after [.start .registrations, .start .interests] = _ :=
    after_of_startEach (startEach_of_free distinct free)
  have new : .board ∉ (r.after [.start .registrations, .start .interests]).started := by
    rw [begun, unstarted]
    simp
  have obstacle : (r.after [.start .registrations, .start .interests]).obstacle? .board
      = some (.output reason) := by
    rw [obstacle?, (r.after_frame _).2, fails]
    rfl
  refine (startEach_append distinct free [.board]).trans ?_
  rw [← begun, startEach, start_of_obstacle new obstacle]

/-- What is left of a new run in which activities wait, but none had a turn. -/
def untouched (g : Generator) : Remains where
  board := {}
  store := {}
  ticks := []
  conveyor := Conveyor.start g
  channels := 0

/-- **A failed start leaves nothing.**  If the output of the score board cannot be opened, then the
run fails for that reason, whatever would interrupt it.  What had been started by then has ended,
and says so; it never ticked.  Nothing was counted, nothing was written to the registry and nothing
was announced, and the registry is shut down. -/
theorem failed_start_leaves_nothing {settings : Settings} (accepted : settings.check = .ok ())
    (clock : Clock) (reason : String) (interrupt : Option Moment) :
    ∃ r r', create settings clock (some reason) = .ok r ∧
      r.runTo interrupt = (.error (.output reason), r') ∧
      r'.started = [] ∧ r'.session.waiting = [] ∧ r'.session.Over ∧
      .registrationsEnded ∈ r'.work.journal.latest ∧
      .interestsEnded 0 ∈ r'.work.journal.latest ∧
      r'.work.journal.ticks = [] ∧ r'.work.board = {} ∧
      r'.work.registry.size = 0 ∧ r'.work.registry.feed.history = [] ∧
      r'.work.registry.isShutDown = true := by
  obtain ⟨g, registrations, interests, journal, r, -, hr, hi, quiet, created, settings_eq,
    unstarted, fails, started, session⟩ := exists_after_starts accepted clock (some reason)
  have starts := startEach_of_obstacle (by rw [settings_eq, accepted]) unstarted fails
  generalize r.after [.start .registrations, .start .interests] = begun at starts started session
  have runs : r.runTo interrupt = (.error (.output reason), begun.stop.2) := by
    rw [runTo, starts]
  have finished : begun.finishStarted
      = { begun with session := begun.session.finish.2, started := [] } := by
    rw [finishStarted, if_neg (by rw [started]; exact Bool.false_ne_true)]
  -- No turn comes before the end, so what it finds is as fresh as before.
  have fresh : begun.session.stage.Leaves (untouched g) ∧
      begun.session.stage.plan = planOf settings registrations interests := by
    rw [session]
    exact ⟨⟨rfl, rfl, rfl, ⟨quiet, Notice.silent_nil⟩, rfl, rfl⟩, rfl⟩
  have resting : Stage.Resting fun s : Stage Generator Store =>
      s.Leaves (untouched g) ∧ s.plan = planOf settings registrations interests :=
    (Stage.resting_leaves _).and (Stage.lasting_plan _).ongoing.toResting
  obtain ⟨notices, -, unstarted', left, -⟩ := begun.stop_eq
  have ended : begun.stop.2.Stopped { untouched g with store := (untouched g).store.shutDown } := by
    apply (stop_stopped _ _).1
    · rw [finished]
      exact begun.session.over_finish
    · exact finishStarted_resting (Stage.resting_leaves _) fresh.1
  have told : ∀ activity ∈ [Activity.registrations, .interests], ∀ n,
      (∀ s : Stage Generator Store, s.Leaves (untouched g) → s.parting activity = n) →
        n ∈ begun.stop.2.work.journal.latest := by
    intro activity known n word
    have told : begun.session.finish.2.stage.Told n :=
      Session.told_finish activity resting
        (fun s hs => by rw [hs.2]; exact period_pos accepted hr hi activity)
        (fun s hs => word s hs.1) fresh (by rw [session]; exact known)
    rw [work, left, finished]
    show n ∈ (Journal.noteAll _ notices).latest
    rw [Journal.latest_noteAll]
    exact List.mem_append_right _ told
  have waiting : begun.stop.2.session.waiting = [] := by
    rw [left, finished]
    exact begun.session.waiting_finish
  refine ⟨r, begun.stop.2, created, runs, unstarted', waiting, ended.past, ?_, ?_,
    ended.leaves.reports.ticks_eq, ended.leaves.board_eq, ?_⟩
  · exact told .registrations (by decide) _ fun _ _ => rfl
  · exact told .interests (by decide) _ fun s hs => congrArg Notice.interestsEnded hs.channels_eq
  · rw [show begun.stop.2.work.registry = ({} : Store).shutDown from ended.leaves.store_eq]
    exact ⟨rfl, rfl, rfl⟩

/-- A case of it: the standard run, interrupted after the first turn at its 250th millisecond if it
lasted so long. -/
theorem failed_standard_start_leaves_nothing :
    Settings.standard.check = .ok () ∧
      ∃ r r', create Settings.standard Clock.stopped (some "permission denied")
          = .ok r ∧
        r.runTo (some { span := TimeSpan.ofMillis 250, turns := 1, calls := 3 })
          = (.error (.output "permission denied"), r') ∧
        r'.started = [] ∧ .interestsEnded 0 ∈ r'.work.journal.latest ∧
        r'.work.journal.ticks = [] ∧ r'.work.board = {} ∧ r'.work.registry.size = 0 ∧
        r'.work.registry.isShutDown = true := by
  have accepted : Settings.standard.check = .ok () := by decide
  obtain ⟨r, r', created, runs, started, -, -, -, ended, ticks, board, size, -, shut⟩ :=
    failed_start_leaves_nothing accepted Clock.stopped "permission denied"
      (some { span := TimeSpan.ofMillis 250, turns := 1, calls := 3 })
  exact ⟨accepted, r, r', created, runs, started, ended, ticks, board, size, shut⟩

end Run

end RegistryLoad
