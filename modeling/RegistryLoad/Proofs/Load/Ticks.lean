import RegistryLoad.Load.Run

/-!
# The ticks that a journal reports

Each tick of the registrations and of the subscriptions is reported once it is over, and nothing
else is reported in that way.  So the journal of a workload tells which ticks there were, and in
which order.

## Definitions

* `Notice.tickOf?`: the activity whose tick a notice reports; most notices report none.
* `Journal.ticks`, `Journal.registered`: the ticks that a journal reports, and the instances that
  these have registered.
* `Workload.Reports`: the ticks that a workload has made by its journal.

## Results

* `Conveyor.tick_silent`, `Subscriptions.tick_silent`, `Subscriptions.settle_silent`: what is said
  in the course of a tick, and by the channels, reports no tick.
* `Workload.Reports.nextCall`, `Workload.Reports.settleChannels`: calls and channels are no ticks.
* `Stage.reports_act`: the turn of an activity is one tick of it, if it ticks at all.
-/

namespace RegistryLoad

variable {τ ρ : Type}

namespace Notice

/-- The activity whose tick a notice reports. -/
def tickOf? : Notice → Option Activity
  | registrationTick _ _ => some .registrations
  | interestTick _ _ => some .interests
  | _ => none

/-- The instances that the tick which a notice reports has registered. -/
def registrations : Notice → Nat
  | registrationTick registered _ => registered
  | _ => 0

theorem registrations_of_tickOf? {n : Notice} (h : n.tickOf? = none) : n.registrations = 0 := by
  cases n with
  | registrationTick _ _ => cases h
  | _ => rfl

/-- None of the notices reports a tick. -/
def Silent (notices : List Notice) : Prop := ∀ n ∈ notices, n.tickOf? = none

theorem silent_nil : Silent [] := by
  intro n hn
  cases hn

theorem Silent.cons {n : Notice} {notices : List Notice} (h : Silent notices)
    (hn : n.tickOf? = none) : Silent (n :: notices) := by
  intro m hm
  rcases List.mem_cons.mp hm with rfl | hm
  · exact hn
  · exact h m hm

theorem Silent.append {a b : List Notice} (ha : Silent a) (hb : Silent b) : Silent (a ++ b) := by
  intro n hn
  rcases List.mem_append.mp hn with hn | hn
  · exact ha n hn
  · exact hb n hn

end Notice

open Notice (Silent)

/-! ## Journals -/

namespace Journal

/-- The activities whose ticks a journal reports, in the order of the ticks. -/
def ticks (j : Journal) : List Activity := j.notices.filterMap Notice.tickOf?

@[simp] theorem ticks_note (j : Journal) (n : Notice) :
    (j.note n).ticks = j.ticks ++ n.tickOf?.toList := by
  cases h : n.tickOf? <;> simp [ticks, notices, note, h]

/-- The instances that were registered by the ticks that a journal reports. -/
def registered (j : Journal) : Nat := j.latest.foldr (fun n before => before + n.registrations) 0

theorem registered_note (j : Journal) (n : Notice) :
    (j.note n).registered = j.registered + n.registrations := rfl

theorem ticks_noteAll {notices : List Notice} (h : Silent notices) (j : Journal) :
    (j.noteAll notices).ticks = j.ticks := by
  induction notices generalizing j with
  | nil => rfl
  | cons n notices ih =>
    have hn : n.tickOf? = none := h n List.mem_cons_self
    have hrest : Silent notices := fun m hm => h m (List.mem_cons_of_mem n hm)
    rw [noteAll, List.foldl_cons, ← noteAll, ih hrest, ticks_note, hn]
    simp

theorem registered_noteAll {notices : List Notice} (h : Silent notices) (j : Journal) :
    (j.noteAll notices).registered = j.registered := by
  induction notices generalizing j with
  | nil => rfl
  | cons n notices ih =>
    have hn : n.tickOf? = none := h n List.mem_cons_self
    have hrest : Silent notices := fun m hm => h m (List.mem_cons_of_mem n hm)
    rw [noteAll, List.foldl_cons, ← noteAll, ih hrest, registered_note,
      Notice.registrations_of_tickOf? hn, Nat.add_zero]

/-- Without a tick nothing was registered. -/
theorem registered_of_ticks {j : Journal} (quiet : j.ticks = []) : j.registered = 0 := by
  obtain ⟨latest⟩ := j
  induction latest with
  | nil => rfl
  | cons n latest ih =>
    have ticks : ticks ⟨n :: latest⟩ = Journal.ticks ⟨latest⟩ ++ n.tickOf?.toList :=
      ticks_note ⟨latest⟩ n
    rw [ticks, List.append_eq_nil_iff, Option.toList_eq_nil_iff] at quiet
    exact (registered_note ⟨latest⟩ n).trans
      (by rw [ih quiet.1, Notice.registrations_of_tickOf? quiet.2])

end Journal

/-! ## What is said in the course of a tick -/

theorem Conveyor.tick_silent [Topology τ] [Registry ρ] (batch target : UInt64) (c : Conveyor τ)
    (registry : ρ) (board : Counters) : Silent (c.tick batch target registry board).2.notices := by
  refine tick_keeps (P := fun t : Turn τ ρ => Silent t.notices) ?_ ?_ ?_ ?_ (fun _ h => h) c
    registry board Notice.silent_nil
  · intro t t' h ht
    obtain ⟨i, -, -, -, -, -, -, said⟩ := Turn.register?_eq_some ht
    rw [said]
    exact h.append (Notice.silent_nil.cons rfl)
  · intro t t' h ht
    obtain ⟨-, i, -, -, -, -, -, -, said⟩ := Turn.retire?_eq_some ht
    rw [said]
    exact h.append (Notice.silent_nil.cons rfl)
  · intro t n h
    simpa [Turn.notices, Turn.note] using h.append (Notice.silent_nil.cons rfl)
  · intro t h
    simpa [Turn.notices, Turn.note] using h.append (Notice.silent_nil.cons rfl)

theorem Channel.farewell_silent (c : Channel) : Silent c.farewell := by
  unfold Channel.farewell
  split
  · exact Notice.silent_nil.cons rfl
  · exact Notice.silent_nil

theorem Channel.settle_silent (feed : Feed) (c : Channel) : Silent (c.settle feed).2 := by
  have finished : Silent [.channelFinished c.id] := Notice.silent_nil.cons rfl
  have lag : Silent (c.catchUp feed).2 := by
    simp only [Channel.catchUp]
    split
    · exact Notice.silent_nil
    · exact Notice.silent_nil.cons rfl
  unfold Channel.settle
  split
  · exact Notice.silent_nil
  · split
    · exact finished
    · dsimp only
      split
      · exact lag.append finished
      · exact lag

namespace Subscriptions

/-- A tick says farewell to channels, and reports no tick itself. -/
theorem tick_silent (feed : Feed) (batch target : UInt64) {s : Subscriptions} (board : Counters)
    (h : Silent s.leaving) :
    Silent (s.tick feed batch target board).2.notices ∧
      Silent (s.tick feed batch target board).2.subscriptions.leaving := by
  refine tick_preserves
    (P := fun t => Silent t.notices ∧ Silent t.subscriptions.leaving) ?_ ?_ ?_ batch s board
    ⟨Notice.silent_nil, h⟩
  · intro t t' ⟨notices, leaving⟩ ht
    obtain ⟨interest, -, -, -, -, -, left, -, said⟩ := Turn.open?_eq_some ht
    rw [said, left]
    exact ⟨notices.append (Notice.silent_nil.cons rfl), leaving⟩
  · intro t t' ⟨notices, leaving⟩ ht
    obtain ⟨-, channel, -, -, -, -, left, -, said⟩ := Turn.close?_eq_some ht
    rw [said, left]
    exact ⟨notices.append (Notice.silent_nil.cons rfl), leaving.append (Channel.farewell_silent _)⟩
  · intro t opened ⟨notices, leaving⟩
    refine ⟨?_, leaving⟩
    simpa [Turn.notices, Turn.note] using notices.append (Notice.silent_nil.cons rfl)

theorem settle_silent (feed : Feed) {s : Subscriptions} (h : Silent s.leaving) :
    Silent (s.settle feed).2 ∧ Silent (s.settle feed).1.leaving := by
  refine ⟨h.append ?_, Notice.silent_nil⟩
  intro n hn
  simp only [List.mem_flatMap, List.mem_map] at hn
  obtain ⟨turn, ⟨channel, -, rfl⟩, hn⟩ := hn
  exact Channel.settle_silent feed channel n hn

theorem restart_silent (queries : Queries) {s : Subscriptions} (h : Silent s.leaving) :
    Silent (s.restart queries).leaving := by
  refine h.append ?_
  intro n hn
  obtain ⟨channel, -, hn⟩ := List.mem_flatMap.mp hn
  exact Channel.farewell_silent channel n hn

end Subscriptions

/-! ## The ticks of a workload -/

namespace Workload

/-- The journal reports these ticks.  The farewells that it does not hold yet report none. -/
structure Reports (w : Workload τ ρ) (ticks : List Activity) : Prop where
  ticks_eq : w.journal.ticks = ticks
  leaving : Silent w.subscriptions.leaving

/-- The notices of a call are about its chain. -/
theorem applyNext?_silent [Registry ρ] {w w' : Workload τ ρ} (h : w.applyNext? = some w') :
    ∃ notices, Silent notices ∧ w'.journal = w.journal.noteAll notices := by
  obtain ⟨registry, conveyor, subscriptions, board, pending, journal⟩ := w
  match pending, h with
  | [], h => cases h
  | ⟨[], total⟩ :: rest, h =>
    cases h
    exact ⟨_, Notice.silent_nil.cons rfl, rfl⟩
  | ⟨call :: calls, total⟩ :: rest, h =>
    simp only [applyNext?] at h
    split at h
    · cases h
      exact ⟨_, Notice.silent_nil.cons rfl, rfl⟩
    · split at h
      · cases h
        exact ⟨_, Notice.silent_nil.cons rfl, rfl⟩
      · cases h
        exact ⟨[], Notice.silent_nil, rfl⟩

namespace Reports

variable {w w' : Workload τ ρ} {ticks : List Activity}

theorem note (h : w.Reports ticks) (n : Notice) : (w.note n).Reports (ticks ++ n.tickOf?.toList) :=
  ⟨by rw [← h.ticks_eq]; exact Journal.ticks_note _ n, h.leaving⟩

theorem note_silent (h : w.Reports ticks) {n : Notice} (hn : n.tickOf? = none) :
    (w.note n).Reports ticks := by
  simpa [hn] using h.note n

theorem noteAll (h : w.Reports ticks) {notices : List Notice} (hn : Silent notices) :
    (w.noteAll notices).Reports ticks :=
  ⟨(Journal.ticks_noteAll hn _).trans h.ticks_eq, h.leaving⟩

/-- The registry has no part in it. -/
theorem withRegistry (h : w.Reports ticks) (registry : ρ) :
    Reports { w with registry := registry } ticks :=
  ⟨h.ticks_eq, h.leaving⟩

theorem nextCall [Registry ρ] (h : w.Reports ticks) (next : w.applyNext? = some w') :
    w'.Reports ticks := by
  obtain ⟨-, subscriptions, -⟩ := applyNext?_eq_some next
  obtain ⟨notices, silent, said⟩ := applyNext?_silent next
  refine ⟨?_, by rw [subscriptions]; exact h.leaving⟩
  rw [said, Journal.ticks_noteAll silent, h.ticks_eq]

theorem settleChannels [Registry ρ] (h : w.Reports ticks) : w.settleChannels.Reports ticks := by
  obtain ⟨notices, leaving⟩ :=
    Subscriptions.settle_silent (Registry.feed w.registry) h.leaving
  exact ⟨(Journal.ticks_noteAll notices _).trans h.ticks_eq, leaving⟩

/-- A tick does not report itself: that is done behind it. -/
theorem registrationTick [Topology τ] [Registry ρ] (h : w.Reports ticks) (batch target : UInt64) :
    (w.registrationTick batch target).2.Reports ticks :=
  ⟨(Journal.ticks_noteAll (w.conveyor.tick_silent batch target w.registry w.board) _).trans
    h.ticks_eq, h.leaving⟩

theorem interestTick [Registry ρ] (h : w.Reports ticks) (batch target : UInt64) :
    (w.interestTick batch target).2.Reports ticks := by
  obtain ⟨notices, leaving⟩ := Subscriptions.tick_silent (Registry.feed w.registry) batch target
    w.board h.leaving
  exact ⟨(Journal.ticks_noteAll notices _).trans h.ticks_eq, leaving⟩

end Reports

end Workload

/-! ## Turns -/

/-- What a turn of an activity adds to the ticks: the score board does not tick. -/
def Activity.ticking : Activity → List Activity
  | registrations => [registrations]
  | interests => [interests]
  | board => []

namespace Stage

/-- Writing the score board changes its output only. -/
theorem act_board [Topology τ] [Registry ρ] (s : Stage τ ρ) :
    s.act .board = s.render.2 ∨ ∃ reason, s.act .board = s.render.2.note (.boardFailed reason) := by
  unfold act
  dsimp only
  split
  · rename_i rendered
    exact .inl (by rw [rendered])
  · rename_i reason _ rendered
    exact .inr ⟨reason, by rw [rendered]⟩

/-- **A turn is a tick**, unless it is the score board's. -/
theorem reports_act [Topology τ] [Registry ρ] {s : Stage τ ρ} {ticks : List Activity}
    (h : s.work.Reports ticks) (activity : Activity) :
    (s.act activity).work.Reports (ticks ++ activity.ticking) := by
  cases activity with
  | registrations => exact (h.registrationTick _ _).note _
  | interests => exact (h.interestTick _ _).note _
  | board =>
    simp only [Activity.ticking, List.append_nil]
    rcases s.act_board with written | ⟨reason, refused⟩
    · rw [written]
      exact h
    · rw [refused]
      exact h.note_silent rfl

end Stage

end RegistryLoad
