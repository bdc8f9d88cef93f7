import RegistryLoad.Proofs.Load.Doing

/-!
# Stopping a run

Whoever holds a run starts activities, waits and stops it, in any order and as often as he likes.
Once it was stopped nothing has a turn any more: an activity that is started again begins and ends
at once.  It has prepared its queues by then, and it is these that the next summary looks at.

## Definitions

* `Session.Over`: a session in which no turn can begin.
* `Deed`, `Run.after`: what can be done with a run.
* `Run.Tidy`: as long as nothing is started, nothing is at work.
* `Remains`: what a stopped run leaves behind; `Run.Stopped`: a run with these remains.

## Results

* `Stage.Resting.wait_over`: what calls and channels keep, time keeps where no turn begins.
* `Run.Tidy.after`, `Run.Stopped.after`: whatever is done, a run stays tidy, and a stopped one stays
  stopped.
* `Run.later_stop_agrees`: what every later stop reports.
-/

namespace RegistryLoad

variable {τ ρ : Type}

/-! ## Sessions that are over -/

namespace Session

/-- The session was cancelled, and nothing is running in it. -/
structure Over (s : Session τ ρ) : Prop where
  cancelled : s.cancelled = true
  running : s.running = []

variable [Registry ρ] {s : Session τ ρ}

/-- An activity that begins changes nothing but the stage and the list to which it belongs; in a
cancelled session it does not run. -/
theorem commence_frame (s : Session τ ρ) (activity : Activity) :
    (s.commence activity).cancelled = s.cancelled ∧ (s.commence activity).waiting = s.waiting ∧
      (s.cancelled = true → (s.commence activity).running = s.running) := by
  rw [commence]
  generalize s.stage.beginning activity = stage
  split
  · split
    · exact ⟨rfl, rfl, fun _ => rfl⟩
    · rename_i going
      exact ⟨rfl, rfl, fun cancelled => absurd cancelled going⟩
  · exact ⟨rfl, rfl, fun _ => rfl⟩

theorem waiting_yield (s : Session τ ρ) : s.yield.waiting = [] := by
  refine List.foldlRecOn (motive := fun s : Session τ ρ => s.waiting = []) s.waiting _ rfl ?_
  intro s hs activity _
  rw [(s.commence_frame activity).2.1]
  exact hs

theorem Over.yield (h : s.Over) : s.yield.Over := by
  refine List.foldlRecOn (motive := Over) s.waiting _ ⟨h.cancelled, h.running⟩ ?_
  intro s hs activity _
  obtain ⟨cancelled, -, running⟩ := s.commence_frame activity
  exact ⟨cancelled.trans hs.cancelled, (running hs.cancelled).trans hs.running⟩

theorem cancelled_yield (s : Session τ ρ) : s.yield.cancelled = s.cancelled := by
  refine List.foldlRecOn (motive := fun t : Session τ ρ => t.cancelled = s.cancelled) s.waiting _
    rfl ?_
  intro t ht activity _
  rw [(t.commence_frame activity).1]
  exact ht

theorem over_finish (s : Session τ ρ) : s.finish.2.Over :=
  ⟨s.cancel.cancelled_yield, rfl⟩

theorem waiting_finish (s : Session τ ρ) : s.finish.2.waiting = [] := s.cancel.waiting_yield

/-- Where no turn begins, a wait only lets what is under way go on. -/
theorem wait_of_running [Topology τ] {nanos : Nat} (h : s.yield.running = [])
    (ahead : ¬ (nanos = 0 ∨ lastMoment ≤ s.now)) :
    s.wait nanos = { s.yield with
      stage := { s.yield.stage with now := s.alarm nanos }
      running := [] } := by
  rw [wait_of_ahead ahead, h, Agenda.advance_of_le]
  simp [Agenda.nextMoment?]

theorem Over.wait [Topology τ] (h : s.Over) (nanos : Nat) : (s.wait nanos).Over := by
  by_cases still : nanos = 0 ∨ lastMoment ≤ s.now
  · rw [wait_of_still still]
    exact h
  · rw [wait_of_running h.yield.running still]
    exact ⟨h.yield.cancelled, rfl⟩

end Session

/-- What calls and channels keep lasts through any wait in which no turn begins. -/
theorem Stage.Resting.wait_over [Topology τ] [Registry ρ] {P : Stage τ ρ → Prop} (h : Resting P)
    {s : Session τ ρ} (running : s.yield.running = []) (hs : P s.stage) (nanos : Nat) :
    P (s.wait nanos).stage := by
  by_cases still : nanos = 0 ∨ lastMoment ≤ s.now
  · rw [Session.wait_of_still still]
    exact hs
  · rw [Session.wait_of_running running still]
    exact h.pass _ _ (h.yield hs)

/-! ## What can be done with a run -/

/-- What somebody does who holds a run. -/
inductive Deed where
  | start (activity : Activity)
  | wait (nanos : Nat)
  | stop
  deriving DecidableEq, Repr

namespace Run

def perform (r : Run) : Deed → Run
  | .start activity => (r.start activity).2
  | .wait nanos => r.wait nanos
  | .stop => r.stop.2

/-- The run after some deeds. -/
def after (deeds : List Deed) (r : Run) : Run := deeds.foldl perform r

/-- All that a start does: it complains, it fails, or the activity finds what it needs and waits
for its beginning. -/
theorem start_cases (r : Run) (activity : Activity) :
    (activity ∈ r.started ∧ (r.start activity).2 = r.note (.alreadyStarted activity)) ∨
      ((∃ e, r.obstacle? activity = some e) ∧ (r.start activity).2 = r) ∨
      (r.start activity).2 =
        { r with
          session := (r.session.withWork (prepared r.work activity)).start activity
          started := r.started ++ [activity] } := by
  by_cases known : activity ∈ r.started
  · exact .inl ⟨known, by rw [start_of_known known]⟩
  · cases obstacle : r.obstacle? activity with
    | some e => exact .inr (.inl ⟨⟨e, rfl⟩, by rw [start_of_obstacle known obstacle]⟩)
    | none => exact .inr (.inr (by rw [start_of_free known obstacle]))

/-- Nothing that is done with a run changes its settings, or whether its output can be opened. -/
theorem perform_frame (r : Run) (deed : Deed) :
    (r.perform deed).settings = r.settings ∧
      (r.perform deed).outputFailure = r.outputFailure := by
  cases deed with
  | start activity =>
    rcases r.start_cases activity with ⟨-, complained⟩ | ⟨-, failed⟩ | begun
    · rw [perform, complained]
      exact ⟨rfl, rfl⟩
    · rw [perform, failed]
      exact ⟨rfl, rfl⟩
    · rw [perform, begun]
      exact ⟨rfl, rfl⟩
  | wait nanos => exact ⟨rfl, rfl⟩
  | stop =>
    show r.finishStarted.settings = r.settings ∧
      r.finishStarted.outputFailure = r.outputFailure
    unfold finishStarted
    split <;> exact ⟨rfl, rfl⟩

/-- Starts that all succeed leave the run as the same deeds do. -/
theorem after_of_startEach {activities : List Activity} {r r' : Run}
    (h : startEach activities r = (.ok (), r')) : r.after (activities.map .start) = r' := by
  induction activities generalizing r with
  | nil =>
    cases h
    rfl
  | cons activity rest ih =>
    rw [startEach] at h
    split at h
    · rename_i next started
      have same : r.perform (.start activity) = next := by rw [perform, started]
      rw [List.map_cons, after, List.foldl_cons, same]
      exact ih h
    · cases h

theorem after_frame (r : Run) (deeds : List Deed) :
    (r.after deeds).settings = r.settings ∧ (r.after deeds).outputFailure = r.outputFailure := by
  induction deeds generalizing r with
  | nil => exact ⟨rfl, rfl⟩
  | cons deed deeds ih =>
    obtain ⟨settings, failure⟩ := ih (r.perform deed)
    obtain ⟨settings', failure'⟩ := r.perform_frame deed
    exact ⟨settings.trans settings', failure.trans failure'⟩

/-- The end of what was started leaves whatever calls and channels do not change. -/
theorem finishStarted_resting {P : Stage Generator Store → Prop} (h : Stage.Resting P) {r : Run}
    (hr : P r.session.stage) : P r.finishStarted.session.stage := by
  unfold finishStarted
  split
  · exact hr
  · exact h.finish hr

@[simp] theorem started_finishStarted (r : Run) : r.finishStarted.started = [] := by
  unfold finishStarted
  split
  · rename_i none
    exact List.isEmpty_iff.mp none
  · rfl

/-- All that a stop does behind the end of what was started: it shuts the registry and reports. -/
theorem stop_eq (r : Run) :
    ∃ notices, Notice.Silent notices ∧
      r.stop.2.started = [] ∧
      r.stop.2.session = r.finishStarted.session.withWork
        (Workload.noteAll
          { r.finishStarted.work with registry := r.finishStarted.work.registry.shutDown }
          notices) ∧
      r.stop.1.snapshot.counters = r.finishStarted.work.board ∧
      r.stop.1.registrySize = r.finishStarted.work.registry.size ∧
      r.stop.1.pool = r.finishStarted.work.conveyor.pool.size ∧
      r.stop.1.activeRegistrations = r.finishStarted.work.conveyor.active.size ∧
      r.stop.1.activeInterests = r.finishStarted.work.subscriptions.active.size := by
  have shut : Notice.Silent r.finishStarted.work.registry.shutDownNotices := by
    unfold Store.shutDownNotices
    split
    · exact Notice.silent_nil
    · exact Notice.silent_nil.cons rfl
  refine ⟨r.finishStarted.work.registry.shutDownNotices ++
    [.finalBoard r.stop.1.snapshot r.stop.1.pool r.stop.1.activeRegistrations],
    shut.append (Notice.silent_nil.cons rfl), r.started_finishStarted, ?_, rfl, rfl, rfl, rfl, rfl⟩
  simp only [Workload.noteAll, Journal.noteAll, List.foldl_append]
  rfl

/-- A stop uses no query. -/
theorem used_stop (r : Run) :
    r.stop.2.work.subscriptions.used = r.finishStarted.work.subscriptions.used := by
  obtain ⟨notices, -, -, session, -⟩ := r.stop_eq
  rw [work, session]
  rfl

/-- A stop registers nothing. -/
theorem registered_stop (r : Run) :
    r.stop.2.work.journal.registered = r.finishStarted.work.journal.registered := by
  obtain ⟨notices, silent, -, session, -⟩ := r.stop_eq
  rw [work, session]
  exact Journal.registered_noteAll silent _

/-- The journal of a stopped run reports the ticks that there were. -/
theorem ticks_stop {r : Run} {ticks : List Activity} (h : r.finishStarted.work.Reports ticks) :
    r.stop.2.work.journal.ticks = ticks := by
  obtain ⟨notices, silent, -, session, -⟩ := r.stop_eq
  rw [work, session]
  exact ((h.withRegistry _).noteAll silent).ticks_eq

end Run

/-! ## Before a stop -/

namespace Stage

/-- No call is under way, and no farewell reports a tick. -/
theorem ongoing_reports :
    Ongoing fun s : Stage Generator Store => ∃ ticks, s.work.Reports ticks where
  nextCall _ _ := fun ⟨ticks, h⟩ next => ⟨ticks, h.nextCall next⟩
  settleChannels _ := fun ⟨ticks, h⟩ => ⟨ticks, h.settleChannels⟩
  note _ _ hn := fun ⟨ticks, h⟩ => ⟨ticks, h.note_silent hn⟩
  pass _ _ h := h
  registrations _ := fun ⟨_, h⟩ => ⟨_, reports_act h .registrations⟩
  interests _ := fun ⟨_, h⟩ => ⟨_, reports_act h .interests⟩
  render _ h := h

end Stage

theorem Conveyor.tick_services [Registry ρ] (batch target : UInt64) (c : Conveyor Generator)
    (registry : ρ) (board : Counters) :
    (c.tick batch target registry board).2.conveyor.topology.services = c.topology.services := by
  refine tick_preserves
    (P := fun t : Turn Generator ρ => t.conveyor.topology.services = c.topology.services) ?_ ?_
    (fun _ _ h => h) (fun _ h => h) batch c registry board rfl
  · intro t t' h ht
    obtain ⟨i, -, -, topology, -⟩ := Turn.register?_eq_some ht
    rw [topology, h]
  · intro t t' h ht
    obtain ⟨-, i, -, -, topology, -⟩ := Turn.retire?_eq_some ht
    have kept : (Topology.replacementFor t.conveyor.topology i).2.services
        = t.conveyor.topology.services := by
      show (t.conveyor.topology.replacementFor i).2.services = _
      rw [Generator.replacementFor_eq]
    rw [topology, kept, h]

/-- The instances of the first pool never change. -/
theorem Stage.lasting_services (services : List Instance) :
    Lasting fun s : Stage Generator Store => s.work.conveyor.topology.services = services where
  registrationTick s h := (Conveyor.tick_services _ _ _ _ _).trans h
  interestTick _ h := h
  nextCall s w h next := by
    obtain ⟨conveyor, -⟩ := Workload.applyNext?_eq_some next
    show w.conveyor.topology.services = services
    rw [conveyor]
    exact h
  settleChannels _ h := h
  render _ h := h
  note _ _ h := h
  pass _ _ h := h

namespace Run

/-- A run whose topology began with these services.  As long as nothing is started, nothing waits,
runs or is under way. -/
structure Tidy (services : List Instance) (r : Run) : Prop where
  reports : ∃ ticks, r.work.Reports ticks
  services_eq : r.work.conveyor.topology.services = services
  tidy : r.started = [] →
    r.session.waiting = [] ∧ r.session.running = [] ∧ r.session.stage.Idle

variable {services : List Instance} {r : Run}

theorem Tidy.start (h : r.Tidy services) (activity : Activity) :
    (r.start activity).2.Tidy services := by
  obtain ⟨⟨ticks, reports⟩, services_eq, tidy⟩ := h
  rcases r.start_cases activity with ⟨known, complained⟩ | ⟨-, failed⟩ | begun
  · rw [complained]
    exact ⟨⟨ticks, reports.note_silent rfl⟩, services_eq, tidy⟩
  · rw [failed]
    exact ⟨⟨ticks, reports⟩, services_eq, tidy⟩
  · rw [begun]
    refine ⟨⟨ticks, ?_⟩, ?_, fun none => absurd none (by simp)⟩
    · cases activity with
      | registrations => exact ⟨reports.ticks_eq, reports.leaving⟩
      | interests => exact ⟨reports.ticks_eq, Subscriptions.restart_silent _ reports.leaving⟩
      | board => exact reports
    · cases activity <;> exact services_eq

theorem Tidy.wait (h : r.Tidy services) (nanos : Nat) : (r.wait nanos).Tidy services where
  reports := Stage.ongoing_reports.wait h.reports nanos
  services_eq := (Stage.lasting_services services).ongoing.wait h.services_eq nanos
  tidy := by
    intro none
    obtain ⟨waiting, running, idle⟩ := h.tidy none
    show (r.session.wait nanos).waiting = [] ∧ (r.session.wait nanos).running = [] ∧
      (r.session.wait nanos).stage.Idle
    by_cases still : nanos = 0 ∨ lastMoment ≤ r.session.now
    · rw [Session.wait_of_still still]
      exact ⟨waiting, running, idle⟩
    · have resting : r.session.yield.running = [] := by
        simp [Session.yield, waiting, running]
      rw [Session.wait_of_running resting still]
      exact ⟨r.session.waiting_yield, rfl, r.session.idle_yield.pass _⟩

/-- The end of what was started ends the session. -/
theorem Tidy.finishStarted (h : r.Tidy services) :
    r.finishStarted.Tidy services ∧ r.finishStarted.session.Over := by
  have reports := finishStarted_resting Stage.ongoing_reports.toResting h.reports
  have services_eq := finishStarted_resting (Stage.lasting_services services).ongoing.toResting
    h.services_eq
  by_cases none : r.started = []
  · have ended : r.finishStarted = { r with session := r.session.cancel } := by
      rw [Run.finishStarted, if_pos (by simpa using none)]
    obtain ⟨waiting, running, idle⟩ := h.tidy none
    refine ⟨⟨reports, services_eq, fun _ => ?_⟩, ?_⟩
    · rw [ended]
      exact ⟨waiting, running, idle⟩
    · rw [ended]
      exact ⟨rfl, running⟩
  · have ended : r.finishStarted = { r with session := r.session.finish.2, started := [] } := by
      rw [Run.finishStarted, if_neg (by simpa using none)]
    refine ⟨⟨reports, services_eq, fun _ => ?_⟩, ?_⟩
    · rw [ended]
      exact ⟨r.session.waiting_finish, rfl, r.session.idle_finish⟩
    · rw [ended]
      exact r.session.over_finish

theorem Tidy.stop (h : r.Tidy services) : r.stop.2.Tidy services := by
  obtain ⟨ended, past⟩ := h.finishStarted
  obtain ⟨notices, silent, started, session, -⟩ := r.stop_eq
  obtain ⟨ticks, reports⟩ := ended.reports
  obtain ⟨waiting, running, idle⟩ := ended.tidy r.started_finishStarted
  refine ⟨⟨ticks, ?_⟩, ?_, fun _ => ?_⟩
  · rw [work, session]
    exact (reports.withRegistry _).noteAll silent
  · rw [work, session]
    exact ended.services_eq
  · rw [session]
    exact ⟨waiting, running, idle⟩

/-- **A run stays tidy**, whatever is done with it. -/
theorem Tidy.after (h : r.Tidy services) (deeds : List Deed) : (r.after deeds).Tidy services := by
  induction deeds generalizing r with
  | nil => exact h
  | cons deed deeds ih =>
    apply ih
    cases deed with
    | start activity => exact h.start activity
    | wait nanos => exact h.wait nanos
    | stop => exact h.stop

end Run

/-! ## After a stop -/

/-- What a stopped run leaves behind: score board, registry, the ticks that there were, the
conveyor, and the number of channels in the queue. -/
structure Remains where
  board : Counters
  store : Store
  ticks : List Activity
  conveyor : Conveyor Generator
  channels : Nat

namespace Remains

/-- An activity that is started again prepares its queues. -/
def prepared (m : Remains) : Activity → Remains
  | .registrations => { m with conveyor := Conveyor.start m.conveyor.topology }
  | .interests => { m with channels := 0 }
  | .board => m

def afterDeed (m : Remains) : Deed → Remains
  | .start activity => m.prepared activity
  | .wait _ => m
  | .stop => m

theorem prepared_idem (m : Remains) (activity : Activity) :
    (m.prepared activity).prepared activity = m.prepared activity := by
  cases activity <;> rfl

theorem prepared_comm (m : Remains) (a b : Activity) :
    (m.prepared a).prepared b = (m.prepared b).prepared a := by
  cases a <;> cases b <;> rfl

/-- What is left after some deeds. -/
theorem foldl_afterDeed (deeds : List Deed) (m : Remains) :
    deeds.foldl afterDeed m =
      { m with
        conveyor := if .start .registrations ∈ deeds then Conveyor.start m.conveyor.topology
          else m.conveyor
        channels := if .start .interests ∈ deeds then 0 else m.channels } := by
  induction deeds generalizing m with
  | nil => simp
  | cons deed deeds ih =>
    rw [List.foldl_cons, ih]
    cases deed with
    | start activity => cases activity <;> simp [afterDeed, prepared, Conveyor.start]
    | wait nanos => simp [afterDeed]
    | stop => simp [afterDeed]

end Remains

namespace Stage

/-- A stage on which no call is under way and which is as these remains have it. -/
structure Leaves (m : Remains) (s : Stage Generator Store) : Prop where
  idle : s.Idle
  board_eq : s.work.board = m.board
  store_eq : s.work.registry = m.store
  reports : s.work.Reports m.ticks
  conveyor_eq : s.work.conveyor = m.conveyor
  channels_eq : s.work.subscriptions.active.size = m.channels

/-- Where no call is under way, only the channels have something to do. -/
theorem resting_leaves (m : Remains) : Resting (Leaves m) where
  nextCall s w h next := by
    have none := s.work.applyNext?_eq_none_iff.mpr h.idle
    cases none.symm.trans next
  settleChannels s h := by
    obtain ⟨-, size, -⟩ := s.work.subscriptions.settle_frame (Registry.feed s.work.registry)
    exact ⟨h.idle, h.board_eq, h.store_eq, h.reports.settleChannels, h.conveyor_eq,
      size.trans h.channels_eq⟩
  note s n hn h :=
    ⟨h.idle, h.board_eq, h.store_eq, h.reports.note_silent hn, h.conveyor_eq, h.channels_eq⟩
  pass s now h := ⟨h.idle, h.board_eq, h.store_eq, h.reports, h.conveyor_eq, h.channels_eq⟩

end Stage

namespace Run

/-- A run that was stopped and left this behind.  What was started again since then has prepared its
queues. -/
structure Stopped (m : Remains) (r : Run) : Prop where
  past : r.session.Over
  leaves : r.session.stage.Leaves m
  shut : m.store.isShutDown = true
  restarted : ∀ activity ∈ r.started, m.prepared activity = m

variable {m : Remains} {r : Run}

theorem Stopped.start (h : r.Stopped m) (accepted : r.settings.check = .ok ())
    (activity : Activity) : (r.start activity).2.Stopped (m.prepared activity) := by
  obtain ⟨past, leaves, shut, restarted⟩ := h
  rcases r.start_cases activity with ⟨known, complained⟩ | ⟨⟨e, obstacle⟩, failed⟩ | begun
  · rw [complained, restarted activity known]
    exact ⟨⟨past.cancelled, past.running⟩, (Stage.resting_leaves m).note _ _ rfl leaves, shut,
      restarted⟩
  · obtain ⟨board, -⟩ := eq_board_of_obstacle accepted obstacle
    rw [failed, board]
    exact ⟨past, leaves, shut, restarted⟩
  · rw [begun]
    refine ⟨⟨past.cancelled, past.running⟩, ?_, ?_, ?_⟩
    · obtain ⟨idle, board_eq, store_eq, reports, conveyor_eq, channels_eq⟩ := leaves
      cases activity with
      | registrations =>
        refine ⟨idle, board_eq, store_eq, ⟨reports.ticks_eq, reports.leaving⟩, ?_, channels_eq⟩
        show Conveyor.start r.session.stage.work.conveyor.topology = _
        rw [conveyor_eq]
        rfl
      | interests =>
        exact ⟨idle, board_eq, store_eq,
          ⟨reports.ticks_eq, Subscriptions.restart_silent _ reports.leaving⟩, conveyor_eq, rfl⟩
      | board => exact ⟨idle, board_eq, store_eq, reports, conveyor_eq, channels_eq⟩
    · cases activity <;> exact shut
    · intro b hb
      rcases List.mem_append.mp hb with old | new
      · rw [Remains.prepared_comm, restarted b old]
      · rw [List.mem_singleton.mp new]
        exact m.prepared_idem activity

theorem Stopped.wait (h : r.Stopped m) (nanos : Nat) : (r.wait nanos).Stopped m where
  past := h.past.wait nanos
  leaves := (Stage.resting_leaves m).wait_over h.past.yield.running h.leaves nanos
  shut := h.shut
  restarted := h.restarted

/-- The remains are what a stop finds when everything has ended, with the registry shut. -/
theorem stop_stopped (past : r.finishStarted.session.Over)
    (leaves : r.finishStarted.session.stage.Leaves m) :
    r.stop.2.Stopped { m with store := m.store.shutDown } ∧
      r.stop.1.snapshot.counters = m.board ∧ r.stop.1.registrySize = m.store.size ∧
      r.stop.1.pool = m.conveyor.pool.size ∧
      r.stop.1.activeRegistrations = m.conveyor.active.size ∧
      r.stop.1.activeInterests = m.channels := by
  obtain ⟨notices, silent, started, session, counters, size, pool, active, interests⟩ := r.stop_eq
  obtain ⟨idle, board_eq, store_eq, reports, conveyor_eq, channels_eq⟩ := leaves
  refine ⟨⟨?_, ?_, rfl, ?_⟩, counters.trans board_eq, ?_, ?_, ?_, interests.trans channels_eq⟩
  · rw [session]
    exact ⟨past.cancelled, past.running⟩
  · rw [session]
    refine ⟨idle, board_eq, ?_, ?_, conveyor_eq, channels_eq⟩
    · exact congrArg Store.shutDown store_eq
    · exact (reports.withRegistry _).noteAll silent
  · intro activity known
    rw [started] at known
    cases known
  · exact size.trans (congrArg Store.size store_eq)
  · exact pool.trans (congrArg (·.pool.size) conveyor_eq)
  · exact active.trans (congrArg (·.active.size) conveyor_eq)

/-- A further stop finds what the first one left. -/
theorem Stopped.stop (h : r.Stopped m) :
    r.stop.2.Stopped m ∧
      r.stop.1.snapshot.counters = m.board ∧ r.stop.1.registrySize = m.store.size ∧
      r.stop.1.pool = m.conveyor.pool.size ∧
      r.stop.1.activeRegistrations = m.conveyor.active.size ∧
      r.stop.1.activeInterests = m.channels := by
  have past : r.finishStarted.session.Over := by
    unfold finishStarted
    split
    · exact ⟨rfl, h.past.running⟩
    · exact r.session.over_finish
  have leaves := finishStarted_resting (Stage.resting_leaves m) h.leaves
  have same : { m with store := m.store.shutDown } = m := by
    obtain ⟨board, ⟨entries, count, feed, isShutDown⟩, ticks, conveyor, channels⟩ := m
    have shut : isShutDown = true := h.shut
    rw [Store.shutDown, shut]
  have stopped := stop_stopped past leaves
  rw [same] at stopped
  exact stopped

/-- **A stopped run stays stopped**, whatever is done with it. -/
theorem Stopped.after (h : r.Stopped m) (accepted : r.settings.check = .ok ())
    (deeds : List Deed) : (r.after deeds).Stopped (deeds.foldl Remains.afterDeed m) := by
  induction deeds generalizing r m with
  | nil => exact h
  | cons deed deeds ih =>
    have still : (r.perform deed).settings.check = .ok () := by
      rw [(r.perform_frame deed).1, accepted]
    apply ih _ still
    cases deed with
    | start activity => exact h.start accepted activity
    | wait nanos => exact h.wait nanos
    | stop => exact h.stop.1

/-- What a stop of a tidy run leaves behind. -/
theorem Tidy.exists_remains {services : List Instance} (h : r.Tidy services) :
    ∃ m : Remains, r.stop.2.Stopped m ∧ m.conveyor.topology.services = services ∧
      r.stop.1.snapshot.counters = m.board ∧ r.stop.1.registrySize = m.store.size ∧
      r.stop.1.pool = m.conveyor.pool.size ∧
      r.stop.1.activeRegistrations = m.conveyor.active.size ∧
      r.stop.1.activeInterests = m.channels := by
  obtain ⟨⟨⟨ticks, reports⟩, services_eq, tidy⟩, past⟩ := h.finishStarted
  obtain ⟨-, -, idle⟩ := tidy r.started_finishStarted
  let m : Remains :=
    { board := r.finishStarted.work.board
      store := r.finishStarted.work.registry
      ticks := ticks
      conveyor := r.finishStarted.work.conveyor
      channels := r.finishStarted.work.subscriptions.active.size }
  have leaves : r.finishStarted.session.stage.Leaves m := ⟨idle, rfl, rfl, reports, rfl, rfl⟩
  obtain ⟨stopped, counters, size, pool, active, interests⟩ := stop_stopped past leaves
  exact ⟨_, stopped, services_eq, counters, size, pool, active, interests⟩

/-- A new run is tidy. -/
theorem tidy_of_create {settings : Settings} (accepted : settings.check = .ok ()) (clock : Clock)
    (outputFailure : Option String) :
    ∃ r services, create settings clock outputFailure = .ok r ∧ r.settings = settings ∧
      r.Tidy services ∧ services.length = settings.poolSize.toNat := by
  obtain ⟨g, registrations, interests, r, made, -, -, created, settings_eq, -, -, session⟩ :=
    create_of_check accepted clock outputFailure
  obtain ⟨-, length⟩ := Generator.create_ready made
  refine ⟨r, g.services, created, settings_eq, ⟨⟨[], ?_⟩, ?_, fun _ => ?_⟩, length⟩
  · rw [work, session]
    exact ⟨rfl, Notice.silent_nil⟩
  · rw [work, session]
    rfl
  · rw [session]
    exact ⟨rfl, rfl, rfl⟩

/-- What a stop of a tidy run reports, every later stop reports, except for the queues that a start
has prepared meanwhile. -/
theorem Tidy.stop_again {services : List Instance} (h : r.Tidy services)
    (accepted : r.settings.check = .ok ()) (later : List Deed) :
    let first := r.stop
    let again := (first.2.after later).stop
    again.1.snapshot.counters = first.1.snapshot.counters ∧
      again.1.registrySize = first.1.registrySize ∧
      again.2.work.journal.ticks = first.2.work.journal.ticks ∧
      again.1.pool = (if .start .registrations ∈ later then services.length else first.1.pool) ∧
      again.1.activeRegistrations = (if .start .registrations ∈ later then 0
        else first.1.activeRegistrations) ∧
      again.1.activeInterests = if .start .interests ∈ later then 0
        else first.1.activeInterests := by
  intro first again
  obtain ⟨m, stopped, services_eq, counters, size, pool, active, interests⟩ := h.exists_remains
  have still : r.stop.2.settings.check = .ok () := by
    have frame : r.stop.2.settings = r.settings := (r.perform_frame .stop).1
    rw [frame, accepted]
  obtain ⟨ended, counters', size', pool', active', interests'⟩ := (stopped.after still later).stop
  rw [Remains.foldl_afterDeed] at ended counters' size' pool' active' interests'
  refine ⟨counters'.trans counters.symm, size'.trans size.symm, ?_, ?_, ?_, ?_⟩
  · exact ended.leaves.reports.ticks_eq.trans stopped.leaves.reports.ticks_eq.symm
  · rw [pool', pool]
    split
    · rw [Fifo.size_eq_length, ← services_eq]
      simp [Conveyor.start, Topology.servicePool]
    · rfl
  · rw [active', active]
    split <;> rfl
  · rw [interests', interests]

/-- **A stop is for good.**  Whatever was done with a run before it was stopped, and whatever is
done with it afterwards, the next stop reports the same counters and the same size of the registry,
and there was no further tick.  It also reports the same queues, except that an activity that was
started again meanwhile has prepared new ones: then the pool is full, and there are no active
instances or no channels. -/
theorem later_stop_agrees {settings : Settings} (accepted : settings.check = .ok ()) (clock : Clock)
    (outputFailure : Option String) :
    ∃ r, create settings clock outputFailure = .ok r ∧ ∀ before later,
      let first := (r.after before).stop
      let again := (first.2.after later).stop
      again.1.snapshot.counters = first.1.snapshot.counters ∧
      again.1.registrySize = first.1.registrySize ∧
      again.2.work.journal.ticks = first.2.work.journal.ticks ∧
      again.1.pool = (if .start .registrations ∈ later then settings.poolSize.toNat
        else first.1.pool) ∧
      again.1.activeRegistrations = (if .start .registrations ∈ later then 0
        else first.1.activeRegistrations) ∧
      again.1.activeInterests = if .start .interests ∈ later then 0
        else first.1.activeInterests := by
  obtain ⟨r, services, created, rfl, tidy, length⟩ := tidy_of_create accepted clock outputFailure
  refine ⟨r, created, ?_⟩
  intro before later
  have still : (r.after before).settings.check = .ok () := by
    rw [(r.after_frame before).1, accepted]
  rw [← length]
  exact (tidy.after before).stop_again still later

/-- A case of it: the standard run, stopped after a quarter of a second, with the subscriptions left
alone from then on. -/
theorem later_stop_agrees_standard :
    Settings.standard.check = .ok () ∧
      ∃ r, create Settings.standard Clock.stopped none = .ok r ∧
        let first := (r.after [.start .interests, .start .registrations, .wait 250000000]).stop
        let again := (first.2.after [.stop, .start .registrations, .wait 1, .start .board]).stop
        again.1.snapshot.counters = first.1.snapshot.counters ∧
        again.2.work.journal.ticks = first.2.work.journal.ticks ∧
        again.1.pool = 12000 ∧ again.1.activeRegistrations = 0 ∧
        again.1.activeInterests = first.1.activeInterests := by
  have accepted : Settings.standard.check = .ok () := by decide
  obtain ⟨r, created, agrees⟩ := later_stop_agrees accepted Clock.stopped none
  obtain ⟨counters, -, ticks, pool, active, interests⟩ :=
    agrees [.start .interests, .start .registrations, .wait 250000000]
      [.stop, .start .registrations, .wait 1, .start .board]
  exact ⟨accepted, r, created, counters, ticks, pool, active, interests⟩

/-- A new run in which the two activities that tick are started: they wait on a fresh stage. -/
theorem exists_after_starts {settings : Settings} (accepted : settings.check = .ok ())
    (clock : Clock) (outputFailure : Option String) :
    ∃ g registrations interests journal r,
      Generator.create topologyName settings.applications settings.poolSize settings.seed = .ok g ∧
      settings.registrationSchedule = .ok registrations ∧
      settings.interestSchedule = .ok interests ∧
      journal.ticks = [] ∧
      create settings clock outputFailure = .ok r ∧
      r.settings = settings ∧ r.started = [] ∧ r.outputFailure = outputFailure ∧
      (r.after [.start .registrations, .start .interests]).started
        = [.registrations, .interests] ∧
      (r.after [.start .registrations, .start .interests]).session =
        { stage := freshStage (planOf settings registrations interests) clock g journal
          waiting := [.registrations, .interests] } := by
  obtain ⟨g, registrations, interests, r, made, hr, hi, created, rfl, fails, unstarted, session⟩ :=
    create_of_check accepted clock outputFailure
  have distinct : (r.started ++ [Activity.registrations, .interests]).Nodup := by
    rw [unstarted]
    decide
  have free : ∀ activity ∈ [Activity.registrations, .interests], r.obstacle? activity = none := by
    simp [obstacle?_of_check accepted]
  have starts : r.after [.start .registrations, .start .interests] = _ :=
    after_of_startEach (startEach_of_free distinct free)
  rw [unstarted, session] at starts
  refine ⟨g, registrations, interests, Journal.note {} (.topologyMade topologyName
    r.settings.poolSize r.settings.applications), r, made, hr, hi, rfl, created, rfl, unstarted,
    fails, ?_, ?_⟩
  · rw [starts]
    rfl
  · rw [starts]
    rfl

/-- In the first millisecond of a session each activity ticks once, if it does not tick more than
once in a millisecond. -/
theorem exists_first_ticks {settings : Settings} (accepted : settings.check = .ok ())
    (small : settings.poolSize ≤ settings.registryTarget) {g : Generator}
    (made : Generator.create topologyName settings.applications settings.poolSize settings.seed
      = .ok g) {registrations interests : Schedule}
    (hr : settings.registrationSchedule = .ok registrations)
    (hi : settings.interestSchedule = .ok interests)
    (slow : 1 < registrations.interval.wholeMillis) (slow' : 1 < interests.interval.wholeMillis)
    (clock : Clock) {journal : Journal} (quiet : journal.ticks = []) :
    let s : Session Generator Store :=
      { stage := freshStage (planOf settings registrations interests) clock g journal
        waiting := [.registrations, .interests] }
    ∃ ticks, (s.wait nanosPerMilli).stage.Did ticks ∧ (s.wait nanosPerMilli).stage.Filled g ticks ∧
      ticks.count .registrations = 1 ∧ ticks.count .interests = 1 := by
  intro s
  obtain ⟨ready, few, length⟩ := Generator.create_small made
  have reachable : g.services.length ≤ settings.registryTarget.toNat := by
    rw [length]
    exact UInt64.le_iff_toNat_le.mp small
  obtain ⟨ticks, ⟨did, filled⟩, counted⟩ := Session.exists_ticks
    (R := fun ticks stage => stage.Did ticks ∧ stage.Filled g ticks) (s := s)
    (fun ticks => (Stage.resting_did ticks).and (Stage.resting_filled ready few.le ticks))
    (fun _ _ activity h => ⟨h.1.act activity, h.2.act ready few activity⟩)
    ⟨Stage.did_fresh _ _ _ quiet, Stage.filled_fresh _ _ _ _ reachable⟩ rfl rfl rfl
    (show [Activity.registrations, .interests].Nodup by decide)
    (fun activity _ => period_pos accepted hr hi activity) (show 0 < nanosPerMilli by decide)
  have once : ∀ activity ∈ s.waiting, ∀ {rate : Rate} {schedule : Schedule},
      Schedule.ofRate? rate = some schedule → s.stage.plan.period activity = schedule.interval →
        1 < schedule.interval.wholeMillis → ticks.count activity = 1 := by
    intro activity known rate schedule hs period slow
    obtain ⟨t, due, period_eq, turns⟩ := counted activity known (by rintro rfl; simp [s] at known)
    rw [period, Schedule.span_interval hs, (Schedule.ofRate?_eq_some hs).1] at period_eq
    rw [← Nat.one_mul nanosPerMilli, Clock.alarm_millis _ (by decide)] at turns
    obtain ⟨enough, few⟩ := turns.bounds due period_eq
    rw [Nat.div_eq_of_lt slow] at few
    have some : 0 < ticks.count activity := Nat.pos_of_mul_pos_right enough
    omega
  exact ⟨ticks, did, filled,
    once .registrations (by simp [s]) (Schedule.of_scheduleOf hr) rfl slow,
    once .interests (by simp [s]) (Schedule.of_scheduleOf hi) rfl slow'⟩

/-- What a run has done in its first millisecond, if it does not tick more than once in one and
cannot exceed its target. -/
theorem stop_after_millisecond {settings : Settings} (accepted : settings.check = .ok ())
    (small : settings.poolSize ≤ settings.registryTarget) {registrations interests : Schedule}
    (hr : settings.registrationSchedule = .ok registrations)
    (hi : settings.interestSchedule = .ok interests)
    (slow : 1 < registrations.interval.wholeMillis) (slow' : 1 < interests.interval.wholeMillis)
    (clock : Clock) (outputFailure : Option String) :
    ∃ r, create settings clock outputFailure = .ok r ∧
      let first := (r.after [.start .registrations, .start .interests, .wait nanosPerMilli]).stop
      first.1.pool + first.1.activeRegistrations = settings.poolSize.toNat ∧
      first.1.activeRegistrations = min registrations.batch.toNat settings.poolSize.toNat ∧
      first.1.activeInterests = min interests.batch.toNat settings.interestTarget.toNat := by
  obtain ⟨g, registrations', interests', journal, r, made, hr', hi', quiet, created, -, -, -,
    started, session⟩ := exists_after_starts accepted clock outputFailure
  cases hr'.symm.trans hr
  cases hi'.symm.trans hi
  obtain ⟨ready, few, length⟩ := Generator.create_small made
  obtain ⟨ticks, did, filled, registered, subscribed⟩ := exists_first_ticks accepted small made hr
    hi slow slow' clock quiet
  refine ⟨r, created, ?_⟩
  intro first
  generalize begun_eq : r.after [.start .registrations, .start .interests] = begun
    at started session
  have planned : Stage.Lasting fun s : Stage Generator Store =>
      s.plan = planOf settings registrations interests := Stage.lasting_plan _
  have plan_eq : (begun.session.wait nanosPerMilli).stage.plan = _ :=
    planned.ongoing.wait (s := begun.session) (by rw [session]; rfl) nanosPerMilli
  rw [← session] at did filled
  -- The run as it is stopped, of which only the session matters.
  obtain ⟨ran, ran_eq⟩ : ∃ ran, ran = begun.wait nanosPerMilli := ⟨_, rfl⟩
  have waited : begun.session.wait nanosPerMilli = ran.session := by rw [ran_eq]; rfl
  have going : ran.started ≠ [] := by
    rw [ran_eq, wait, started]
    exact List.cons_ne_nil _ _
  have first_eq : first = ran.stop := by
    rw [ran_eq, ← begun_eq]
    rfl
  rw [waited] at did filled plan_eq
  have did := (Stage.resting_did ticks).finish did
  have filled := (Stage.resting_filled ready few.le ticks).finish filled
  obtain ⟨conserved, -⟩ := filled.balanced.settled (Session.idle_finish _) few
  have level := did.atLevel
  have used := did.used_eq
  have active_eq := filled.filled
  rw [planned.finish plan_eq] at level used active_eq
  rw [subscribed, Nat.one_mul] at used
  rw [registered, Nat.one_mul, length] at active_eq
  rw [Subscriptions.AtLevel, used] at level
  obtain ⟨-, -, -, -, pool, active, channels⟩ := stop_of_started going
  rw [first_eq, pool, active, channels]
  exact ⟨conserved.trans length, active_eq, level⟩

/-- A run that aims at one instance and one channel, and has no instance to spare. -/
def single : Settings :=
  { Settings.standard with registryTarget := 1, interestTarget := 1, poolSize := 1 }

/-- Queues are not for good: after its first millisecond the run has registered its only instance
and opened a channel, and another start and stop later it reports a full pool and no channel. -/
theorem later_stop_differs :
    single.check = .ok () ∧
      ∃ r, create single Clock.stopped none = .ok r ∧
        let first := (r.after [.start .registrations, .start .interests, .wait nanosPerMilli]).stop
        let again := (first.2.after [.start .registrations, .start .interests]).stop
        first.1.pool = 0 ∧ first.1.activeRegistrations = 1 ∧ first.1.activeInterests = 1 ∧
        again.1.pool = 1 ∧ again.1.activeRegistrations = 0 ∧ again.1.activeInterests = 0 := by
  have accepted : single.check = .ok () := by decide
  have hr : single.registrationSchedule = .ok ⟨TimeSpan.ofMillis 100, 1⟩ := by decide
  have hi : single.interestSchedule = .ok ⟨TimeSpan.ofMillis 1000, 1⟩ := by decide
  obtain ⟨r, created, conserved, active, channels⟩ := stop_after_millisecond accepted (by decide)
    hr hi (by decide) (by decide) Clock.stopped none
  obtain ⟨r', services, created', settings_eq, tidy, length⟩ :=
    tidy_of_create accepted Clock.stopped none
  cases created'.symm.trans created
  have still : (r.after [.start .registrations, .start .interests,
      .wait nanosPerMilli]).settings.check = .ok () := by
    rw [(r.after_frame _).1, settings_eq, accepted]
  obtain ⟨-, -, -, pool', active', channels'⟩ :=
    (tidy.after [.start .registrations, .start .interests, .wait nanosPerMilli]).stop_again still
      [.start .registrations, .start .interests]
  refine ⟨accepted, r, created, ?_, active, channels, pool'.trans length, active', channels'⟩
  rw [active] at conserved
  exact Nat.add_right_cancel conserved

end Run

end RegistryLoad
