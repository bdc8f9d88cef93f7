import RegistryLoad.Proofs.Load.Ticks
import RegistryLoad.Proofs.Settings.Pace
import RegistryLoad.Proofs.Topology.Numbering

/-!
# The beginning of a run

## Definitions

* `Clock.stopped`: a clock that always shows the same.
* `Run.planOf`, `Run.freshStage`: plan and stage of a run in which nothing has been done.

## Results

* `Generator.create_small`: the size of the pool of a new generator.
* `Settings.exists_schedules`: settings that pass their check have their schedules.
* `Run.create_of_check`: they make a run.
* `Run.obstacle?_of_check`: what can stand in the way of an activity.
* `Run.startEach_append`, `Run.startEach_of_free`, `Run.startEach_activities`: the state in which
  activities are started.
* `Run.exists_begun`: the session of a new run in which they are.
* `Run.duration_pos`, `Run.period_pos`: there is time for them, and each of them has a period.
-/

namespace RegistryLoad

/-- The instances of a new generator can be counted in words, and it can go on behind them. -/
theorem Generator.create_small {name : String} {applications instances seed : UInt64}
    {g : Generator} (made : create name applications instances seed = .ok g) :
    g.Ready g.services.length ∧ g.services.length < 2 ^ 64 ∧
      g.services.length = instances.toNat := by
  obtain ⟨ready, length⟩ := create_ready made
  rw [length]
  exact ⟨ready, instances.toNat_lt, rfl⟩

/-- Both rates of settings that pass their check have a schedule. -/
theorem Settings.exists_schedules {settings : Settings} (accepted : settings.check = .ok ()) :
    ∃ registrations interests, settings.registrationSchedule = .ok registrations ∧
      settings.interestSchedule = .ok interests := by
  have unobjected := settings.check_eq_ok_iff.mp accepted
  simp only [Settings.objections, List.forall_mem_cons] at unobjected
  obtain ⟨registrationRate, interestRate, -⟩ := unobjected
  obtain ⟨registrations, hr⟩ := scheduleOf_ok Settings.registrationRateName
    (by simpa using registrationRate)
  obtain ⟨interests, hi⟩ := scheduleOf_ok Settings.interestRateName (by simpa using interestRate)
  exact ⟨registrations, interests, hr, hi⟩

/-- A clock that has stopped. -/
def Clock.stopped : Clock := .ofReading fun _ => ⟨"", .zero false⟩

namespace Run

/-- Settings that pass their check make a run, with an empty registry and nothing under way. -/
theorem create_of_check {settings : Settings} (accepted : settings.check = .ok ()) (clock : Clock)
    (outputFailure : Option String) :
    ∃ g registrations interests r,
      Generator.create topologyName settings.applications settings.poolSize settings.seed = .ok g ∧
      settings.registrationSchedule = .ok registrations ∧
      settings.interestSchedule = .ok interests ∧
      create settings clock outputFailure = .ok r ∧
      r.settings = settings ∧ r.outputFailure = outputFailure ∧ r.started = [] ∧
      r.session = Session.opening
        { registrations := ⟨registrations, settings.registryTarget⟩
          interests := ⟨interests, settings.interestTarget⟩
          boardPeriod := settings.boardPeriod }
        clock
        { registry := {}
          conveyor := { topology := g }
          subscriptions := { queries := g.queries }
          journal := Journal.note {} (.topologyMade topologyName settings.poolSize
            settings.applications) } := by
  have unobjected := settings.check_eq_ok_iff.mp accepted
  simp only [Settings.objections, List.forall_mem_cons] at unobjected
  obtain ⟨-, -, -, -, applications, -⟩ := unobjected
  obtain ⟨g, made⟩ := Generator.create_ok topologyName settings.applications settings.poolSize
    settings.seed (by decide) (by simpa using applications)
  obtain ⟨registrations, interests, hr, hi⟩ := Settings.exists_schedules accepted
  refine ⟨g, registrations, interests, ⟨settings, outputFailure, _, []⟩, made, hr, hi, ?_, rfl, rfl,
    rfl, rfl⟩
  simp only [create, opening, plan, paceOf, accepted, made, hr, hi]
  rfl

/-! ## Starts -/

variable {r : Run}

/-- Nothing but its output stands in the way of an activity of settings that pass their check. -/
theorem obstacle?_of_check (accepted : r.settings.check = .ok ()) (activity : Activity) :
    r.obstacle? activity = if activity = .board then r.outputFailure.map .output else none := by
  obtain ⟨registrations, interests, hr, hi⟩ := Settings.exists_schedules accepted
  cases activity with
  | registrations => simp [obstacle?, hr, refusal?]
  | interests => simp [obstacle?, hi, refusal?]
  | board => rfl

/-- The only obstacle there can be. -/
theorem eq_board_of_obstacle (accepted : r.settings.check = .ok ()) {activity : Activity}
    {e : RunError} (obstacle : r.obstacle? activity = some e) :
    activity = .board ∧ ∃ reason, r.outputFailure = some reason ∧ e = .output reason := by
  rw [obstacle?_of_check accepted] at obstacle
  split at obstacle
  · rename_i board
    obtain ⟨reason, fails, same⟩ := Option.map_eq_some_iff.mp obstacle
    exact ⟨board, reason, fails, same.symm⟩
  · cases obstacle

theorem obstacle?_of_writable (accepted : r.settings.check = .ok ())
    (writable : r.outputFailure = none) (activity : Activity) : r.obstacle? activity = none := by
  rw [obstacle?_of_check accepted, writable]
  simp

theorem start_of_known {activity : Activity} (known : activity ∈ r.started) :
    r.start activity = (.ok (), r.note (.alreadyStarted activity)) := by
  rw [start, if_pos (List.contains_iff_mem.mpr known)]

theorem start_of_obstacle {activity : Activity} {e : RunError} (new : activity ∉ r.started)
    (obstacle : r.obstacle? activity = some e) : r.start activity = (.error e, r) := by
  rw [start, if_neg (by simpa using new), obstacle]

/-- An activity that can be started finds what it needs and waits for its beginning. -/
theorem start_of_free {activity : Activity} (new : activity ∉ r.started)
    (free : r.obstacle? activity = none) :
    r.start activity = (.ok (),
      { r with
        session := (r.session.withWork (prepared r.work activity)).start activity
        started := r.started ++ [activity] }) := by
  rw [start, if_neg (by simpa using new), free]

/-- Activities that can be started all wait for their beginning, in this order, and those behind
them are started next. -/
theorem startEach_append {firsts : List Activity} (distinct : (r.started ++ firsts).Nodup)
    (free : ∀ activity ∈ firsts, r.obstacle? activity = none) (rest : List Activity) :
    startEach (firsts ++ rest) r = startEach rest
      { r with
        session := firsts.foldl
          (fun s activity => (s.withWork (prepared s.work activity)).start activity) r.session
        started := r.started ++ firsts } := by
  induction firsts generalizing r with
  | nil => simp
  | cons first firsts ih =>
    have new : first ∉ r.started := fun known =>
      (List.nodup_append.mp distinct).2.2 first known first List.mem_cons_self rfl
    rw [List.cons_append, startEach, start_of_free new (free first List.mem_cons_self)]
    refine (ih ?_ ?_).trans ?_
    · simpa using distinct
    · exact fun activity known => free activity (List.mem_cons_of_mem first known)
    · simp [work, Session.work]

theorem startEach_of_free {activities : List Activity} (distinct : (r.started ++ activities).Nodup)
    (free : ∀ activity ∈ activities, r.obstacle? activity = none) :
    startEach activities r = (.ok (),
      { r with
        session := activities.foldl
          (fun s activity => (s.withWork (prepared s.work activity)).start activity) r.session
        started := r.started ++ activities }) := by
  have starts := startEach_append distinct free []
  rwa [List.append_nil] at starts

/-- All activities of a new run can be started if the output of the score board can be opened.
The registrations begin with a full pool and the subscriptions with the first query. -/
theorem startEach_activities (accepted : r.settings.check = .ok ()) (unstarted : r.started = [])
    (writable : r.outputFailure = none) :
    ∃ r', startEach activities r = (.ok (), r') ∧
      r'.settings = r.settings ∧ r'.started = activities ∧
      r'.session.stage =
        { r.session.stage with
          work :=
            { r.work with
              conveyor := Conveyor.start r.work.conveyor.topology
              subscriptions :=
                r.work.subscriptions.restart r.work.conveyor.topology.queries } } := by
  have distinct : (r.started ++ activities).Nodup := by
    rw [unstarted]
    decide
  refine ⟨_, startEach_of_free distinct fun activity _ => obstacle?_of_writable accepted writable
    activity, rfl, ?_, rfl⟩
  rw [unstarted]
  rfl

/-- What the activities of settings are to do, with the schedules of their rates. -/
def planOf (settings : Settings) (registrations interests : Schedule) : Plan where
  registrations := ⟨registrations, settings.registryTarget⟩
  interests := ⟨interests, settings.interestTarget⟩
  boardPeriod := settings.boardPeriod

/-- A stage on which activities wait that have done nothing: the registry is empty and the pool is
full. -/
def freshStage (plan : Plan) (clock : Clock) (g : Generator) (journal : Journal) :
    Stage Generator Store where
  plan := plan
  clock := clock
  work :=
    { registry := {}
      conveyor := Conveyor.start g
      subscriptions := { queries := g.queries }
      journal := journal }

/-- A new run in which all activities are started: they wait on a fresh stage. -/
theorem exists_begun {settings : Settings} (accepted : settings.check = .ok ()) (clock : Clock) :
    ∃ g registrations interests journal r begun,
      Generator.create topologyName settings.applications settings.poolSize settings.seed = .ok g ∧
      settings.registrationSchedule = .ok registrations ∧
      settings.interestSchedule = .ok interests ∧
      journal.ticks = [] ∧
      create settings clock none = .ok r ∧
      startEach activities r = (.ok (), begun) ∧
      begun.settings = settings ∧ begun.started = activities ∧
      begun.session =
        { stage := freshStage (planOf settings registrations interests) clock g journal
          waiting := activities } := by
  obtain ⟨g, registrations, interests, r, made, hr, hi, created, rfl, writable, unstarted,
    session⟩ := create_of_check accepted clock none
  have distinct : (r.started ++ activities).Nodup := by
    rw [unstarted]
    decide
  have starts := startEach_of_free distinct fun activity _ =>
    obstacle?_of_writable accepted writable activity
  rw [unstarted, session] at starts
  exact ⟨g, registrations, interests, _, r, _, made, hr, hi, rfl, created, starts, rfl, rfl, rfl⟩

/-- Settings that pass their check have some time. -/
theorem duration_pos {settings : Settings} (accepted : settings.check = .ok ()) :
    0 < settings.duration.totalNanos := by
  have unobjected := settings.check_eq_ok_iff.mp accepted
  simp only [Settings.objections, List.forall_mem_cons] at unobjected
  obtain ⟨-, -, duration, -⟩ := unobjected
  exact TimeSpan.totalNanos_pos duration

/-- All activities of settings that pass their check have a period. -/
theorem period_pos {settings : Settings} (accepted : settings.check = .ok ())
    {registrations interests : Schedule}
    (hr : settings.registrationSchedule = .ok registrations)
    (hi : settings.interestSchedule = .ok interests) (activity : Activity) :
    0 < ((planOf settings registrations interests).period activity).totalNanos := by
  have unobjected := settings.check_eq_ok_iff.mp accepted
  simp only [Settings.objections, List.forall_mem_cons] at unobjected
  obtain ⟨-, -, -, board, -⟩ := unobjected
  cases activity with
  | registrations => exact Schedule.interval_pos (Schedule.of_scheduleOf hr)
  | interests => exact Schedule.interval_pos (Schedule.of_scheduleOf hi)
  | board => exact TimeSpan.totalNanos_pos board

end Run

/-- Any timer can wait for the interval of a schedule. -/
theorem Schedule.span_interval {rate : Rate} {s : Schedule} (h : ofRate? rate = some s)
    (clock : Clock) : clock.span 0 s.interval.totalNanos = s.interval.totalNanos := by
  apply Clock.span_of_le
  rw [(ofRate?_eq_some h).1, Nat.zero_add]
  calc s.interval.wholeMillis * nanosPerMilli
      ≤ 3600000 * nanosPerMilli := Nat.mul_le_mul_right _ (wholeMillis_le h)
    _ ≤ 2 * lastMoment := by decide
    _ ≤ clock.last := clock.ample

end RegistryLoad
