import RegistryLoad.CommandLine.Choices
import RegistryLoad.Proofs.Load.Stopping

/-!
# What the check of settings is good for

Settings are checked once, before a run is made.  Later on the generator looks at the applications
again, each start at a rate, and each activity that begins at its period.  None of them finds
anything that the check has let through; but the table of the applications may be larger than any,
which nobody looks at, and then the program breaks off.

## Definitions

* `Session.Sound`: every activity has a period, and none has failed for want of one.

## Results

* `Run.create?_cases`: all that can come of settings.
* `Run.outcome_start`: the only reason for which a start can fail.
* `Run.sound_after`, `Run.ready_after`: whatever is done with a run, its session stays sound and its
  activities can be started.
* `Choices.check_of_settings`: the settings that choices lead to have passed.
* `Run.check_suffices`: the check tells all of it, but for the size of the table.
* `Run.excessive_breaks_off`: settings that pass and make no run.
-/

namespace RegistryLoad

variable {τ ρ : Type}

/-! ## Sessions in which nothing fails -/

namespace Session

/-- The session has this plan, and no activity has failed. -/
structure Sound (plan : Plan) (s : Session τ ρ) : Prop where
  plan_eq : s.stage.plan = plan
  unfailed : s.failed = []

variable [Topology τ] [Registry ρ] {plan : Plan} {s : Session τ ρ}

/-- What has a period begins without a failure. -/
theorem Sound.commence (periods : ∀ activity, 0 < (plan.period activity).totalNanos)
    (h : s.Sound plan) (activity : Activity) : (s.commence activity).Sound plan := by
  have resting := (Stage.lasting_plan (τ := τ) (ρ := ρ) plan).ongoing.toResting
  refine ⟨resting.commence h.plan_eq activity, ?_⟩
  have begun := resting.beginning h.plan_eq activity
  rw [Session.commence]
  generalize s.stage.beginning activity = stage at begun
  have period : 0 < (stage.plan.period activity).totalNanos := by
    rw [begun]
    exact periods activity
  rw [dif_pos period]
  split <;> exact h.unfailed

theorem Sound.yield (periods : ∀ activity, 0 < (plan.period activity).totalNanos)
    (h : s.Sound plan) : s.yield.Sound plan := by
  have resting := (Stage.lasting_plan (τ := τ) (ρ := ρ) plan).ongoing.toResting
  exact List.foldlRecOn (motive := Sound plan) s.waiting _ ⟨resting.settle h.plan_eq, h.unfailed⟩
    fun _ h activity _ => h.commence periods activity

theorem Sound.wait (periods : ∀ activity, 0 < (plan.period activity).totalNanos)
    (h : s.Sound plan) (nanos : Nat) : (s.wait nanos).Sound plan := by
  refine ⟨(Stage.lasting_plan plan).ongoing.wait h.plan_eq nanos, ?_⟩
  by_cases still : nanos = 0 ∨ lastMoment ≤ s.now
  · rw [Session.wait_of_still still]
    exact h.unfailed
  · rw [Session.wait_of_ahead still]
    exact (h.yield periods).unfailed

/-- At the end of a sound session there is no failure to report. -/
theorem Sound.finish (periods : ∀ activity, 0 < (plan.period activity).totalNanos)
    (h : s.Sound plan) : s.finish.1 = [] ∧ s.finish.2.Sound plan := by
  have cancelled : s.cancel.Sound plan := ⟨h.plan_eq, h.unfailed⟩
  exact ⟨(cancelled.yield periods).unfailed, (Stage.lasting_plan plan).finish h.plan_eq, rfl⟩

end Session

/-! ## Choices -/

/-- The settings that choices lead to have passed their check. -/
theorem Choices.check_of_settings {choices : Choices} {settings : Settings}
    (accepted : choices.settings = .ok settings) : settings.check = .ok () := by
  unfold Choices.settings at accepted
  cases duration : spanOr choices.duration Settings.defaultDuration with
  | error e => simp [duration, bind, Except.bind] at accepted
  | ok span =>
    cases period : spanOr choices.boardPeriod Settings.defaultBoardPeriod with
    | error e => simp [duration, period, bind, Except.bind] at accepted
    | ok boardPeriod =>
      simp only [duration, period, bind, Except.bind] at accepted
      split at accepted
      · cases accepted
      · rename_i passed
        cases accepted
        exact passed

namespace Run

variable {r : Run} {settings : Settings}

/-! ## Runs -/

/-- Settings that do not pass their check make no run. -/
theorem create?_of_refused {cause : SettingsError} (refused : settings.check = .error cause)
    (clock : Clock) (outputFailure : Option String) :
    create? settings clock outputFailure = some (.error (.settings cause)) := by
  simp only [create?, refused]

/-- Settings that pass their check and have a table for their applications make the same run. -/
theorem create?_of_room (accepted : settings.check = .ok ())
    (room : settings.applications.toNat ≤ Generator.maxApplications) (clock : Clock)
    (outputFailure : Option String) :
    create? settings clock outputFailure = some (create settings clock outputFailure) := by
  simp only [create?, create, accepted, Generator.create?, room, or_true, if_true]
  cases Generator.create topologyName settings.applications settings.poolSize settings.seed <;> rfl

/-- Nobody refuses more applications than there can be a table for. -/
theorem create?_of_excess (accepted : settings.check = .ok ())
    (excess : Generator.maxApplications < settings.applications.toNat) (clock : Clock)
    (outputFailure : Option String) : create? settings clock outputFailure = none := by
  have named : ¬ topologyName.isEmpty = true := by decide
  have full : ¬ (topologyName.isEmpty = true ∨
      settings.applications.toNat ≤ Generator.maxApplications) := by
    rintro (empty | room)
    · exact named empty
    · exact Nat.not_le_of_lt excess room
  rw [create?, accepted]
  simp only [Generator.create?, if_neg full, Option.map_none]

/-- A start succeeds, unless it is that of the score board and its output cannot be opened. -/
theorem outcome_start (accepted : r.settings.check = .ok ()) (activity : Activity) :
    (r.start activity).1 = .ok () ∨
      activity = .board ∧ ∃ reason, r.outputFailure = some reason ∧
        (r.start activity).1 = .error (.output reason) := by
  by_cases known : activity ∈ r.started
  · exact .inl (by rw [start_of_known known])
  · cases obstacle : r.obstacle? activity with
    | none => exact .inl (by rw [start_of_free known obstacle])
    | some e =>
      obtain ⟨board, reason, fails, rfl⟩ := eq_board_of_obstacle accepted obstacle
      exact .inr ⟨board, reason, fails, by rw [start_of_obstacle known obstacle]⟩

/-- Nothing that is done with a sound run makes an activity fail. -/
theorem sound_perform {plan : Plan} (periods : ∀ activity, 0 < (plan.period activity).totalNanos)
    (h : r.session.Sound plan) (deed : Deed) : (r.perform deed).session.Sound plan := by
  cases deed with
  | start activity =>
    rcases r.start_cases activity with ⟨-, complained⟩ | ⟨-, failed⟩ | begun
    · rw [perform, complained]
      exact ⟨h.plan_eq, h.unfailed⟩
    · rw [perform, failed]
      exact h
    · rw [perform, begun]
      exact ⟨h.plan_eq, h.unfailed⟩
  | wait nanos => exact h.wait periods nanos
  | stop =>
    obtain ⟨notices, -, -, session, -⟩ := r.stop_eq
    have finished : r.finishStarted.session.Sound plan := by
      unfold finishStarted
      split
      · exact ⟨h.plan_eq, h.unfailed⟩
      · exact (h.finish periods).2
    rw [perform, session]
    exact ⟨finished.plan_eq, finished.unfailed⟩

/-- **No activity ever fails for want of a period**, whatever is done with a run. -/
theorem sound_after {plan : Plan} (periods : ∀ activity, 0 < (plan.period activity).totalNanos)
    (h : r.session.Sound plan) (deeds : List Deed) : (r.after deeds).session.Sound plan := by
  induction deeds generalizing r with
  | nil => exact h
  | cons deed deeds ih => exact ih (sound_perform periods h deed)

/-- All that can come of settings. -/
theorem create?_cases (settings : Settings) (clock : Clock) (outputFailure : Option String) :
    (∃ cause, settings.check = .error cause ∧
      create? settings clock outputFailure = some (.error (.settings cause))) ∨
    (settings.check = .ok () ∧ settings.applications.toNat ≤ Generator.maxApplications ∧
      ∃ r, create settings clock outputFailure = .ok r ∧
        create? settings clock outputFailure = some (.ok r)) ∨
    (settings.check = .ok () ∧ Generator.maxApplications < settings.applications.toNat ∧
      create? settings clock outputFailure = none) := by
  cases accepted : settings.check with
  | error cause => exact .inl ⟨cause, rfl, create?_of_refused accepted clock outputFailure⟩
  | ok _ =>
    rcases Nat.lt_or_ge Generator.maxApplications settings.applications.toNat with excess | room
    · exact .inr (.inr ⟨rfl, excess, create?_of_excess accepted excess clock outputFailure⟩)
    · obtain ⟨-, -, -, r, -, -, -, created, -⟩ := create_of_check accepted clock outputFailure
      refine .inr (.inl ⟨rfl, room, r, created, ?_⟩)
      rw [create?_of_room accepted room, created]

/-- Whatever is done with a run of settings that have passed, its activities are ready. -/
theorem ready_after {clock : Clock} {outputFailure : Option String}
    (accepted : settings.check = .ok ()) (created : create settings clock outputFailure = .ok r)
    (deeds : List Deed) (activity : Activity) :
    (((r.after deeds).start activity).1 = .ok () ∨
      activity = .board ∧ ∃ reason, outputFailure = some reason ∧
        ((r.after deeds).start activity).1 = .error (.output reason)) ∧
    0 < ((r.after deeds).session.stage.plan.period activity).totalNanos ∧
    (r.after deeds).session.finish.1 = [] := by
  obtain ⟨g, registrations, interests, r', -, hr, hi, created', rfl, failure, -, session⟩ :=
    create_of_check accepted clock outputFailure
  cases created.symm.trans created'
  have periods := period_pos accepted hr hi
  have sound : (r.after deeds).session.Sound (planOf r.settings registrations interests) := by
    apply sound_after periods
    rw [session]
    exact ⟨rfl, rfl⟩
  obtain ⟨same, failure'⟩ := r.after_frame deeds
  have starts := (r.after deeds).outcome_start (by rw [same, accepted]) activity
  rw [failure', failure] at starts
  refine ⟨starts, ?_, (sound.finish periods).1⟩
  rw [sound.plan_eq]
  exact periods activity

/-- **The check of settings is all that is needed**, but for one thing that it does not look at.  A
run is made if the settings pass their check and there can be a table of so many applications.
Otherwise they are refused for the very reason of the check, and the topology never is that reason;
or they pass and have too many applications, and the program breaks off.  Once the settings have
passed, both rates have a schedule, with intervals of a millisecond at least and batches that are not
empty.  Whatever is done with a run, the activities that tick can be started, and the score board can
be unless its output cannot be opened; all activities have a period, and none has failed for want of
one.  Settings that come of what a user chose have passed the check. -/
theorem check_suffices (settings : Settings) (clock : Clock) (outputFailure : Option String) :
    ((∃ r, create? settings clock outputFailure = some (.ok r)) ↔
      settings.check = .ok () ∧ settings.applications.toNat ≤ Generator.maxApplications) ∧
    (∀ e, create? settings clock outputFailure = some (.error e) ↔
      ∃ cause, settings.check = .error cause ∧ e = .settings cause) ∧
    (create? settings clock outputFailure = none ↔
      settings.check = .ok () ∧ Generator.maxApplications < settings.applications.toNat) ∧
    (∀ cause, create? settings clock outputFailure ≠ some (.error (.topology cause))) ∧
    (settings.check = .ok () → ∃ registrations interests,
      settings.registrationSchedule = .ok registrations ∧
      settings.interestSchedule = .ok interests ∧
      1 ≤ registrations.interval.wholeMillis ∧ 1 ≤ registrations.batch.toNat ∧
      1 ≤ interests.interval.wholeMillis ∧ 1 ≤ interests.batch.toNat) ∧
    (∀ r, create? settings clock outputFailure = some (.ok r) → ∀ deeds activity,
      (((r.after deeds).start activity).1 = .ok () ∨
        activity = .board ∧ ∃ reason, outputFailure = some reason ∧
          ((r.after deeds).start activity).1 = .error (.output reason)) ∧
      0 < ((r.after deeds).session.stage.plan.period activity).totalNanos ∧
      (r.after deeds).session.finish.1 = []) ∧
    ∀ choices : Choices, choices.settings = .ok settings → settings.check = .ok () := by
  have outcomes := create?_cases settings clock outputFailure
  refine ⟨?_, ?_, ?_, ?_, ?_, ?_, fun _ => Choices.check_of_settings⟩
  · obtain ⟨cause, refused, answer⟩ | ⟨passed, room, r, -, answer⟩ | ⟨passed, excess, answer⟩ :=
      outcomes
    · simp [answer, refused]
    · simp [answer, passed, room]
    · simp [answer, passed, excess]
  · intro e
    obtain ⟨cause, refused, answer⟩ | ⟨passed, -, r, -, answer⟩ | ⟨passed, -, answer⟩ := outcomes
    · simp [answer, refused, eq_comm]
    · simp [answer, passed]
    · simp [answer, passed]
  · obtain ⟨cause, refused, answer⟩ | ⟨passed, room, r, -, answer⟩ | ⟨passed, excess, answer⟩ :=
      outcomes
    · simp [answer, refused]
    · simp [answer, passed, room]
    · simp [answer, passed, excess]
  · intro cause' topology
    obtain ⟨cause, -, answer⟩ | ⟨-, -, r, -, answer⟩ | ⟨-, -, answer⟩ := outcomes
    all_goals cases answer.symm.trans topology
  · intro passed
    obtain ⟨registrations, interests, hr, hi⟩ := Settings.exists_schedules passed
    have first := Schedule.of_scheduleOf hr
    have second := Schedule.of_scheduleOf hi
    exact ⟨registrations, interests, hr, hi, Schedule.wholeMillis_pos first,
      Schedule.batch_pos first, Schedule.wholeMillis_pos second, Schedule.batch_pos second⟩
  · intro r made deeds activity
    obtain ⟨cause, -, answer⟩ | ⟨passed, -, r', created, answer⟩ | ⟨-, -, answer⟩ := outcomes
    all_goals cases answer.symm.trans made
    exact ready_after passed created deeds activity

/-- Settings with more applications than there can be a table for. -/
def excessive : Settings := { Settings.standard with applications := 18446744073709551615 }

/-- They pass their check, and no run is made of them; nor are they refused. -/
theorem excessive_breaks_off :
    excessive.check = .ok () ∧ create? excessive Clock.stopped none = none := by
  have accepted : excessive.check = .ok () := by decide
  exact ⟨accepted, create?_of_excess accepted (by decide) Clock.stopped none⟩

end Run

end RegistryLoad
