import Mathlib.Data.List.Basic
import RegistryLoad.Proofs.Load.Moves

/-!
# The two sides of a workload

Registrations and subscriptions share a registry, its feed and a score board, and yet neither side
can tell whether the other one is at work.

## Definitions

* `Reported`: a workload with what its ticks have told so far.
* `RegistrationSide`, `InterestSide`: what can be seen of either side.
* `Turn.SameConveyor`, `Workload.SameRegistrations`: workloads that the registrations cannot tell
  apart.
* `Subscriptions.Alike`, `Workload.SameInterests`: workloads that the subscriptions cannot tell
  apart.

## Results

* `Conveyor.tick_sameConveyor`, `Subscriptions.Alike.tick`: a tick tells and does the same on both.
* `foldl_filter_related`: a run without the events that a relation does not notice.
* `Reported.sides_do_not_interfere`: each side of a history is that of the history without the
  steps of the other side.
-/

namespace RegistryLoad

variable {τ ρ : Type}

/-! ## What the registrations see -/

/-- Two ticks under way with the same conveyor, registry and calls, and with score boards that agree
on the registrations. -/
structure Turn.SameConveyor (t t' : Turn τ ρ) : Prop where
  conveyor : t'.conveyor = t.conveyor
  registry : t'.registry = t.registry
  latestCalls : t'.latestCalls = t.latestCalls
  board : t.board.SameRegistrations t'.board

namespace Turn.SameConveyor

variable {t t' : Turn τ ρ}

theorem calls (h : t.SameConveyor t') : t'.calls = t.calls :=
  congrArg List.reverse h.latestCalls

theorem note (h : t.SameConveyor t') (n n' : Notice) : (t.note n).SameConveyor (t'.note n') :=
  ⟨h.conveyor, h.registry, h.latestCalls, h.board⟩

theorem register? [Registry ρ] (h : t.SameConveyor t') :
    Option.Rel SameConveyor t.register? t'.register? := by
  unfold Turn.register?
  rw [h.conveyor, h.registry]
  cases t.conveyor.pool.pop? with
  | none => exact .none
  | some next =>
    refine .some ⟨rfl, rfl, ?_, ?_⟩
    · rw [h.latestCalls]
    · exact ⟨congrArg (· + 1) h.board.registrations, h.board.unregistrations, rfl⟩

theorem retire? [Topology τ] [Registry ρ] {target : UInt64} (h : t.SameConveyor t') :
    Option.Rel SameConveyor (t.retire? target) (t'.retire? target) := by
  unfold Turn.retire?
  rw [h.conveyor, h.registry]
  split
  · exact .none
  · cases t.conveyor.active.pop? with
    | none => exact .none
    | some next =>
      refine .some ⟨rfl, rfl, ?_, ?_⟩
      · rw [h.latestCalls]
      · exact ⟨h.board.registrations, congrArg (· + 1) h.board.unregistrations, rfl⟩

theorem registerBatch [Registry ρ] (batch : UInt64) (h : t.SameConveyor t') :
    (t.registerBatch batch).1 = (t'.registerBatch batch).1 ∧
      (t.registerBatch batch).2.SameConveyor (t'.registerBatch batch).2 := by
  obtain ⟨count, same⟩ := steps_related (fun _ _ => register?) batch.toNat h
  unfold Turn.registerBatch
  dsimp only
  refine ⟨count, ?_⟩
  rw [count]
  split
  · exact same.note _ _
  · exact same

theorem endRetiring [Registry ρ] (target : UInt64) (h : t.SameConveyor t') :
    (t.endRetiring target).SameConveyor (t'.endRetiring target) := by
  have looked : SameConveyor { t with registry := Registry.afterLook t.registry }
      { t' with registry := Registry.afterLook t'.registry } :=
    ⟨h.conveyor, congrArg Registry.afterLook h.registry, h.latestCalls, h.board⟩
  unfold Turn.endRetiring
  dsimp only
  rw [h.registry] at looked ⊢
  split
  · exact looked
  · exact looked.note _ _

theorem retireBatch [Topology τ] [Registry ρ] (batch target : UInt64) (h : t.SameConveyor t') :
    (t.retireBatch batch target).1 = (t'.retireBatch batch target).1 ∧
      (t.retireBatch batch target).2.SameConveyor (t'.retireBatch batch target).2 := by
  have retired : ∀ s s' : Turn τ ρ, SameConveyor s s' →
      Option.Rel SameConveyor (s.retire? target) (s'.retire? target) := fun _ _ same => same.retire?
  obtain ⟨count, same⟩ := steps_related retired batch.toNat h
  unfold Turn.retireBatch
  dsimp only
  refine ⟨count, ?_⟩
  rw [count]
  split
  · exact same.endRetiring target
  · exact same

end Turn.SameConveyor

/-- **A tick of the registrations** tells and does the same at score boards that agree on the
registrations. -/
theorem Conveyor.tick_sameConveyor [Topology τ] [Registry ρ] (batch target : UInt64)
    (c : Conveyor τ) (registry : ρ) {board board' : Counters}
    (h : board.SameRegistrations board') :
    (c.tick batch target registry board).1 = (c.tick batch target registry board').1 ∧
      (c.tick batch target registry board).2.SameConveyor
        (c.tick batch target registry board').2 := by
  have start : Turn.SameConveyor
      { conveyor := c, registry := registry, board := board }
      { conveyor := c, registry := registry, board := board' } := ⟨rfl, rfl, rfl, h⟩
  obtain ⟨registered, same⟩ := start.registerBatch batch
  obtain ⟨unregistered, same⟩ := same.retireBatch batch target
  unfold Conveyor.tick
  dsimp only
  rw [registered, unregistered]
  exact ⟨rfl, same⟩

/-- Two workloads that the registrations cannot tell apart. -/
structure Workload.SameRegistrations (w w' : Workload τ ρ) : Prop where
  conveyor : w'.conveyor = w.conveyor
  registry : w'.registry = w.registry
  pending : w'.pending = w.pending
  board : w.board.SameRegistrations w'.board

namespace Workload.SameRegistrations

variable {w w' : Workload τ ρ}

theorem refl (w : Workload τ ρ) : w.SameRegistrations w := ⟨rfl, rfl, rfl, .of_eq rfl⟩

theorem registrationTick [Topology τ] [Registry ρ] (batch target : UInt64)
    (h : w.SameRegistrations w') :
    (w.registrationTick batch target).1 = (w'.registrationTick batch target).1 ∧
      (w.registrationTick batch target).2.SameRegistrations
        (w'.registrationTick batch target).2 := by
  obtain ⟨moved, same⟩ := w.conveyor.tick_sameConveyor batch target w.registry h.board
  unfold Workload.registrationTick
  rw [h.conveyor, h.registry, h.pending]
  refine ⟨moved, same.conveyor, same.registry, ?_, same.board⟩
  dsimp only
  rw [same.calls]

/-- An interest tick goes unnoticed. -/
theorem interestTick [Registry ρ] (batch target : UInt64) (h : w.SameRegistrations w') :
    (w.interestTick batch target).2.SameRegistrations w' := by
  obtain ⟨hc, hr, hp, hb⟩ := w.interestTick_frame batch target
  exact ⟨h.conveyor.trans hc.symm, h.registry.trans hr.symm, h.pending.trans hp.symm,
    h.board.registrations.trans hb.registrations.symm,
    h.board.unregistrations.trans hb.unregistrations.symm,
    h.board.registrySize.trans hb.registrySize.symm⟩

theorem applyNext? [Registry ρ] (h : w.SameRegistrations w') :
    Option.Rel SameRegistrations w.applyNext? w'.applyNext? := by
  obtain ⟨registry, conveyor, subscriptions, board, pending, journal⟩ := w
  obtain ⟨registry', conveyor', subscriptions', board', pending', journal'⟩ := w'
  obtain ⟨rfl, rfl, rfl, hb⟩ := h
  match pending' with
  | [] => exact .none
  | ⟨[], total⟩ :: rest => exact .some ⟨rfl, rfl, rfl, hb⟩
  | ⟨call :: calls, total⟩ :: rest =>
    dsimp only [Workload.applyNext?]
    split
    · exact .some ⟨rfl, rfl, rfl, hb⟩
    · split
      · exact .some ⟨rfl, rfl, rfl, hb⟩
      · exact .some ⟨rfl, rfl, rfl, hb⟩

theorem nextCall [Registry ρ] (h : w.SameRegistrations w') :
    (w.applyNext?.getD w).SameRegistrations (w'.applyNext?.getD w') := by
  have next := h.applyNext?
  generalize w.applyNext? = o, w'.applyNext? = o' at next ⊢
  cases next with
  | none => exact h
  | some hnext => exact hnext

theorem callOf [Registry ρ] (k : Nat) (h : w.SameRegistrations w') :
    (w.callOf k).SameRegistrations (w'.callOf k) := by
  unfold Workload.callOf
  rw [h.pending]
  cases w.pending[k]? with
  | none => exact h
  | some chain =>
    have alone : SameRegistrations { w with pending := [chain] } { w' with pending := [chain] } :=
      ⟨h.conveyor, h.registry, rfl, h.board⟩
    have next := alone.applyNext?
    dsimp only
    generalize { w with pending := [chain] }.applyNext? = o,
      { w' with pending := [chain] }.applyNext? = o' at next ⊢
    cases next with
    | none => exact h
    | some hnext =>
      refine ⟨hnext.conveyor, hnext.registry, ?_, hnext.board⟩
      exact congrArg (w.pending.take k ++ · ++ w.pending.drop (k + 1)) hnext.pending

end Workload.SameRegistrations

/-! ## What the subscriptions see -/

/-- What can be seen of a channel without waiting for changes. -/
structure Channel.Outline where
  id : Nat
  interest : Interest
  closed : Bool
  deriving DecidableEq, Repr

def Channel.outline (c : Channel) : Channel.Outline := ⟨c.id, c.interest, c.closed⟩

namespace Subscriptions

/-- Two subscriptions with the same queries and the same channels, as far as can be seen of
those. -/
structure Alike (s s' : Subscriptions) : Prop where
  queries : s'.queries = s.queries
  used : s'.used = s.used
  nextId : s'.nextId = s.nextId
  channels : s'.active.toList.map Channel.outline = s.active.toList.map Channel.outline

theorem Alike.size_eq {s s' : Subscriptions} (h : s.Alike s') : s'.active.size = s.active.size := by
  have same := congrArg List.length h.channels
  rwa [List.length_map, List.length_map, ← Fifo.size_eq_length, ← Fifo.size_eq_length] at same

/-- Two ticks under way that the subscriptions cannot tell apart. -/
structure Turn.Alike (t t' : Turn) : Prop where
  subscriptions : t.subscriptions.Alike t'.subscriptions
  board : t.board.SameInterests t'.board

namespace Turn.Alike

variable {t t' : Turn}

theorem note (h : t.Alike t') (n n' : Notice) : (t.note n).Alike (t'.note n') :=
  ⟨h.subscriptions, h.board⟩

/-- Channels are opened alike on any two feeds. -/
theorem open? (feed feed' : Feed) (h : t.Alike t') :
    Option.Rel Alike (t.open? feed) (t'.open? feed') := by
  obtain ⟨⟨hq, hu, hi, hc⟩, hb⟩ := h
  unfold Turn.open?
  dsimp only
  rw [hq, hu]
  cases t.subscriptions.queries t.subscriptions.used with
  | none => exact .none
  | some interest =>
    refine .some ⟨⟨rfl, rfl, congrArg (· + 1) hi, ?_⟩, ?_⟩
    · dsimp only
      rw [Fifo.toList_push, Fifo.toList_push, List.map_append, List.map_append, hc, hi]
      rfl
    · exact ⟨congrArg (· + 1) hb.interests, congrArg (· + 1) hb.activeInterests⟩

theorem openBatch (feed feed' : Feed) (batch : UInt64) (h : t.Alike t') :
    (Turn.openBatch feed batch t).1 = (Turn.openBatch feed' batch t').1 ∧
      (Turn.openBatch feed batch t).2.Alike (Turn.openBatch feed' batch t').2 := by
  obtain ⟨count, same⟩ := steps_related (fun _ _ => open? feed feed') batch.toNat h
  unfold Turn.openBatch
  dsimp only
  refine ⟨count, ?_⟩
  rw [count]
  split
  · exact same.note _ _
  · exact same

theorem close? {target : UInt64} (h : t.Alike t') :
    Option.Rel Alike (t.close? target) (t'.close? target) := by
  cases hclose : t.close? target with
  | none =>
    rw [Turn.close?_eq_none_iff, ← h.subscriptions.size_eq, ← Turn.close?_eq_none_iff] at hclose
    rw [hclose]
    exact .none
  | some u =>
    obtain ⟨above, channel, oldest, hq, hu, hi, -, hb, -⟩ := Turn.close?_eq_some hclose
    cases hclose' : t'.close? target with
    | none =>
      rw [Turn.close?_eq_none_iff, h.subscriptions.size_eq] at hclose'
      omega
    | some u' =>
      obtain ⟨-, channel', oldest', hq', hu', hi', -, hb', -⟩ := Turn.close?_eq_some hclose'
      obtain ⟨same, rest⟩ : channel'.outline = channel.outline ∧ _ := by
        have channels := h.subscriptions.channels
        rw [oldest, oldest', List.map_cons, List.map_cons, List.cons.injEq] at channels
        exact channels
      have closed : channel'.closed = channel.closed := congrArg Channel.Outline.closed same
      refine .some ⟨⟨?_, ?_, ?_, rest⟩, ?_⟩
      · rw [hq', hq, h.subscriptions.queries]
      · rw [hu', hu, h.subscriptions.used]
      · rw [hi', hi, h.subscriptions.nextId]
      · rw [hb', hb, closed]
        split
        · exact h.board
        · unfold Counters.closeInterest
          rw [h.board.activeInterests]
          split
          · exact h.board
          · exact ⟨h.board.interests, rfl⟩

end Turn.Alike

/-- **A tick of the subscriptions** tells and does the same on any two feeds, at score boards that
agree on the interests. -/
theorem Alike.tick {s s' : Subscriptions} (feed feed' : Feed) (batch target : UInt64)
    {board board' : Counters} (h : s.Alike s') (hb : board.SameInterests board') :
    (s.tick feed batch target board).1 = (s'.tick feed' batch target board').1 ∧
      (s.tick feed batch target board).2.Alike (s'.tick feed' batch target board').2 := by
  have start : Turn.Alike { subscriptions := s, board := board }
      { subscriptions := s', board := board' } := ⟨h, hb⟩
  obtain ⟨opened, same⟩ := start.openBatch feed feed' batch
  have closes : ∀ t t' : Turn, t.Alike t' → Option.Rel Turn.Alike (t.close? target)
      (t'.close? target) := fun _ _ alike => alike.close?
  obtain ⟨closed, same⟩ := steps_related closes batch.toNat same
  unfold Subscriptions.tick
  dsimp only [Turn.closeBatch]
  rw [opened, closed]
  exact ⟨rfl, same⟩

end Subscriptions

/-- Two workloads that the subscriptions cannot tell apart. -/
structure Workload.SameInterests (w w' : Workload τ ρ) : Prop where
  subscriptions : w.subscriptions.Alike w'.subscriptions
  board : w.board.SameInterests w'.board

namespace Workload.SameInterests

variable {w w' v : Workload τ ρ}

theorem refl (w : Workload τ ρ) : w.SameInterests w := ⟨⟨rfl, rfl, rfl, rfl⟩, ⟨rfl, rfl⟩⟩

/-- What leaves the subscriptions and the counters of interests alone goes unnoticed. -/
theorem congr_left (h : w.SameInterests w') (hs : v.subscriptions = w.subscriptions)
    (hb : w.board.SameInterests v.board) : v.SameInterests w' := by
  refine ⟨?_, h.board.interests.trans hb.interests.symm,
    h.board.activeInterests.trans hb.activeInterests.symm⟩
  rw [hs]
  exact h.subscriptions

theorem interestTick [Registry ρ] (batch target : UInt64) (h : w.SameInterests w') :
    (w.interestTick batch target).1 = (w'.interestTick batch target).1 ∧
      (w.interestTick batch target).2.SameInterests (w'.interestTick batch target).2 := by
  obtain ⟨subscribed, same⟩ := h.subscriptions.tick (Registry.feed w.registry)
    (Registry.feed w'.registry) batch target h.board
  exact ⟨subscribed, same.subscriptions, same.board⟩

/-- Channels get their turn without a change that can be seen. -/
theorem settleChannels [Registry ρ] (h : w.SameInterests w') :
    w.settleChannels.SameInterests w'.settleChannels := by
  have outlines (feed : Feed) (s : Subscriptions) :
      (s.settle feed).1.active.toList.map Channel.outline
        = s.active.toList.map Channel.outline := by
    simp [Subscriptions.settle, Channel.outline, Function.comp_def]
  obtain ⟨⟨hq, hu, hi, hc⟩, hb⟩ := h
  refine ⟨⟨hq, hu, hi, ?_⟩, hb⟩
  unfold Workload.settleChannels
  dsimp only
  rw [outlines, outlines, hc]

/-- Calls that are made go unnoticed. -/
theorem nextCall [Registry ρ] (h : w.SameInterests w') :
    (w.applyNext?.getD w).SameInterests w' := by
  cases next : w.applyNext? with
  | none => exact h
  | some v =>
    obtain ⟨-, hs, hb, -⟩ := applyNext?_eq_some next
    exact h.congr_left hs (by rw [Option.getD_some, hb]; exact ⟨rfl, rfl⟩)

theorem callOf [Registry ρ] (k : Nat) (h : w.SameInterests w') :
    (w.callOf k).SameInterests w' := by
  unfold Workload.callOf
  split
  · exact h
  · split
    · exact h
    · rename_i next
      obtain ⟨-, hs, hb, -⟩ := applyNext?_eq_some next
      exact h.congr_left hs (by rw [hb]; exact ⟨rfl, rfl⟩)

end Workload.SameInterests

/-! ## Histories without the steps of one side -/

/-- The ticks of the subscriptions. -/
def Event.isInterestTick : Event ρ → Bool
  | .move .interestTick => true
  | _ => false

/-- The ticks of the registrations and the calls that follow from them. -/
def Event.isRegistrationStep : Event ρ → Bool
  | .move .registrationTick => true
  | .move .nextCall => true
  | .callOf _ => true
  | _ => false

namespace Workload

variable {w w' : Workload τ ρ}

/-- What a tick of the registrations tells, at an event that is one. -/
def movedBy [Topology τ] [Registry ρ] (plan : Plan) (w : Workload τ ρ) : Event ρ → List Moved
  | .move .registrationTick =>
    [(w.registrationTick plan.registrations.schedule.batch plan.registrations.target).1]
  | _ => []

/-- What a tick of the subscriptions tells, at an event that is one. -/
def subscribedBy [Registry ρ] (plan : Plan) (w : Workload τ ρ) : Event ρ → List Subscribed
  | .move .interestTick =>
    [(w.interestTick plan.interests.schedule.batch plan.interests.target).1]
  | _ => []

theorem SameRegistrations.happen [Topology τ] [Registry ρ] (plan : Plan) {e : Event ρ}
    (kept : e.isInterestTick = false) (h : w.SameRegistrations w') :
    w.movedBy plan e = w'.movedBy plan e ∧
      (w.happen plan e).SameRegistrations (w'.happen plan e) := by
  cases e with
  | move m =>
    cases m with
    | registrationTick =>
      obtain ⟨moved, same⟩ := h.registrationTick plan.registrations.schedule.batch
        plan.registrations.target
      exact ⟨congrArg (fun moved => [moved]) moved, same⟩
    | interestTick => cases kept
    | nextCall => exact ⟨rfl, h.nextCall⟩
    | channels => exact ⟨rfl, h.conveyor, h.registry, h.pending, h.board⟩
  | callOf k => exact ⟨rfl, h.callOf k⟩
  | others change => exact ⟨rfl, h.conveyor, congrArg change h.registry, h.pending, h.board⟩

theorem SameRegistrations.skip [Topology τ] [Registry ρ] (plan : Plan) {e : Event ρ}
    (skipped : e.isInterestTick = true) (h : w.SameRegistrations w') :
    w.movedBy plan e = [] ∧ (w.happen plan e).SameRegistrations w' := by
  unfold Event.isInterestTick at skipped
  split at skipped
  · exact ⟨rfl, h.interestTick plan.interests.schedule.batch plan.interests.target⟩
  · cases skipped

theorem SameInterests.happen [Topology τ] [Registry ρ] (plan : Plan) {e : Event ρ}
    (kept : e.isRegistrationStep = false) (h : w.SameInterests w') :
    w.subscribedBy plan e = w'.subscribedBy plan e ∧
      (w.happen plan e).SameInterests (w'.happen plan e) := by
  cases e with
  | move m =>
    cases m with
    | registrationTick => cases kept
    | interestTick =>
      obtain ⟨subscribed, same⟩ := h.interestTick plan.interests.schedule.batch
        plan.interests.target
      exact ⟨congrArg (fun subscribed => [subscribed]) subscribed, same⟩
    | nextCall => cases kept
    | channels => exact ⟨rfl, h.settleChannels⟩
  | callOf k => cases kept
  | others change => exact ⟨rfl, h.subscriptions, h.board⟩

theorem SameInterests.skip [Topology τ] [Registry ρ] (plan : Plan) {e : Event ρ}
    (skipped : e.isRegistrationStep = true) (h : w.SameInterests w') :
    w.subscribedBy plan e = [] ∧ (w.happen plan e).SameInterests w' := by
  unfold Event.isRegistrationStep at skipped
  split at skipped
  · obtain ⟨hs, hb⟩ := w.registrationTick_frame plan.registrations.schedule.batch
      plan.registrations.target
    exact ⟨rfl, h.congr_left hs hb⟩
  · exact ⟨rfl, h.nextCall⟩
  · exact ⟨rfl, h.callOf _⟩
  · cases skipped

end Workload

/-- A relation that steps of one kind keep when they are taken on the left only, and the others when
they are taken on both sides, holds between a run and the run without the steps of that kind. -/
theorem foldl_filter_related {σ ε : Type} {R : σ → σ → Prop} {step : σ → ε → σ} {skip : ε → Bool}
    (hboth : ∀ s s' e, skip e = false → R s s' → R (step s e) (step s' e))
    (hleft : ∀ s s' e, skip e = true → R s s' → R (step s e) s') (events : List ε) {s s' : σ}
    (h : R s s') : R (events.foldl step s) ((events.filter (!skip ·)).foldl step s') := by
  induction events generalizing s s' with
  | nil => exact h
  | cons e events ih =>
    cases he : skip e with
    | false =>
      rw [List.filter_cons_of_pos (by rw [he]; rfl)]
      exact ih (hboth s s' e he h)
    | true =>
      rw [List.filter_cons_of_neg (by rw [he]; decide)]
      exact ih (hleft s s' e he h)

/-- A workload, and what its ticks have told so far. -/
structure Reported (τ ρ : Type) where
  work : Workload τ ρ
  moved : List Moved := []
  subscribed : List Subscribed := []

/-- What can be seen of the registrations. -/
structure RegistrationSide (ρ : Type) where
  moved : List Moved
  pool : List Instance
  active : List Instance
  pending : List Chain
  registry : ρ
  registrations : UInt64
  unregistrations : UInt64
  registrySize : UInt64

/-- What can be seen of the subscriptions. -/
structure InterestSide where
  subscribed : List Subscribed
  channels : List Channel.Outline
  interests : UInt64
  activeInterests : UInt64
  deriving DecidableEq, Repr

namespace Reported

def happen [Topology τ] [Registry ρ] (plan : Plan) (s : Reported τ ρ) (e : Event ρ) :
    Reported τ ρ where
  work := s.work.happen plan e
  moved := s.moved ++ s.work.movedBy plan e
  subscribed := s.subscribed ++ s.work.subscribedBy plan e

/-- Events one after the other. -/
def history [Topology τ] [Registry ρ] (plan : Plan) (events : List (Event ρ))
    (s : Reported τ ρ) : Reported τ ρ := events.foldl (happen plan) s

def registrationSide (s : Reported τ ρ) : RegistrationSide ρ where
  moved := s.moved
  pool := s.work.conveyor.pool.toList
  active := s.work.conveyor.active.toList
  pending := s.work.pending
  registry := s.work.registry
  registrations := s.work.board.registrations
  unregistrations := s.work.board.unregistrations
  registrySize := s.work.board.registrySize

def interestSide (s : Reported τ ρ) : InterestSide where
  subscribed := s.subscribed
  channels := s.work.subscriptions.active.toList.map Channel.outline
  interests := s.work.board.interests
  activeInterests := s.work.board.activeInterests

/-- Two histories that the registrations cannot tell apart. -/
structure SameRegistrations (s s' : Reported τ ρ) : Prop where
  moved : s'.moved = s.moved
  work : s.work.SameRegistrations s'.work

/-- Two histories that the subscriptions cannot tell apart. -/
structure SameInterests (s s' : Reported τ ρ) : Prop where
  subscribed : s'.subscribed = s.subscribed
  work : s.work.SameInterests s'.work

theorem SameRegistrations.side_eq {s s' : Reported τ ρ} (h : s.SameRegistrations s') :
    s.registrationSide = s'.registrationSide := by
  obtain ⟨hm, hc, hr, hp, hb⟩ := h
  unfold registrationSide
  rw [hm, hc, hr, hp, hb.registrations, hb.unregistrations, hb.registrySize]

theorem SameInterests.side_eq {s s' : Reported τ ρ} (h : s.SameInterests s') :
    s.interestSide = s'.interestSide := by
  obtain ⟨hs, ⟨-, -, -, hc⟩, hb⟩ := h
  unfold interestSide
  rw [hs, hc, hb.interests, hb.activeInterests]

variable [Topology τ] [Registry ρ]

/-- **The registrations do not notice ticks of the subscriptions.** -/
theorem history_sameRegistrations (plan : Plan) (events : List (Event ρ)) {s s' : Reported τ ρ}
    (h : s.SameRegistrations s') :
    (s.history plan events).SameRegistrations
      (s'.history plan (events.filter (!·.isInterestTick))) := by
  refine foldl_filter_related ?_ ?_ events h
  · intro s s' e kept h
    obtain ⟨told, same⟩ := h.work.happen plan kept
    exact ⟨congrArg₂ (· ++ ·) h.moved told.symm, same⟩
  · intro s s' e skipped h
    obtain ⟨told, same⟩ := h.work.skip plan skipped
    refine ⟨?_, same⟩
    show s'.moved = s.moved ++ s.work.movedBy plan e
    rw [told, List.append_nil, h.moved]

/-- **The subscriptions notice neither ticks of the registrations nor calls.** -/
theorem history_sameInterests (plan : Plan) (events : List (Event ρ)) {s s' : Reported τ ρ}
    (h : s.SameInterests s') :
    (s.history plan events).SameInterests
      (s'.history plan (events.filter (!·.isRegistrationStep))) := by
  refine foldl_filter_related ?_ ?_ events h
  · intro s s' e kept h
    obtain ⟨told, same⟩ := h.work.happen plan kept
    exact ⟨congrArg₂ (· ++ ·) h.subscribed told.symm, same⟩
  · intro s s' e skipped h
    obtain ⟨told, same⟩ := h.work.skip plan skipped
    refine ⟨?_, same⟩
    show s'.subscribed = s.subscribed ++ s.work.subscribedBy plan e
    rw [told, List.append_nil, h.subscribed]

/-- **Neither side of a workload interferes with the other.**  Let ticks of both kinds, calls of
the chains in any order, turns of the channels and writes of others happen in any order.  What can
be seen of the registrations, the answers of their ticks included, is what it would be without any
tick of the subscriptions; and what can be seen of the subscriptions is what it would be without
any tick of the registrations and any call. -/
theorem sides_do_not_interfere (plan : Plan) (w : Workload τ ρ) (events : List (Event ρ)) :
    let after (events : List (Event ρ)) : Reported τ ρ := history plan events { work := w }
    (after events).registrationSide =
        (after (events.filter (!·.isInterestTick))).registrationSide ∧
      (after events).interestSide =
        (after (events.filter (!·.isRegistrationStep))).interestSide := by
  intro after
  have registrations := history_sameRegistrations plan events
    (s := { work := w }) ⟨rfl, .refl w⟩
  have interests := history_sameInterests plan events (s := { work := w }) ⟨rfl, .refl w⟩
  exact ⟨registrations.side_eq, interests.side_eq⟩

end Reported

end RegistryLoad
