import RegistryLoad.Load.Conveyor
import RegistryLoad.Load.Subscriptions

/-!
# The workload

Registrations and subscriptions at work on one registry and one score board.  The ticks of
both and the calls of the chains under way are the steps of the workload; in which order they
come is up to whoever drives it.

* `Workload.registrationTick`, `Workload.interestTick`: the ticks.
* `Workload.applyNext?`: the next call of the oldest chain.
* `Workload.drain`: all calls under way.
-/

namespace RegistryLoad

/-- The calls of a tick that are still to be made, of `total` in all. -/
structure Chain where
  calls : List Call
  total : Nat
  deriving Repr

/-- The number of the calls of some chains, and of the chains themselves. -/
def Chain.load : List Chain → Nat
  | [] => 0
  | chain :: rest => chain.calls.length + 1 + load rest

/-- The state of a workload.  `pending` are the chains under way, oldest first. -/
structure Workload (τ ρ : Type) where
  registry : ρ
  conveyor : Conveyor τ
  subscriptions : Subscriptions
  board : Counters := {}
  pending : List Chain := []
  journal : Journal := {}

namespace Workload

variable {τ ρ : Type}

def note (w : Workload τ ρ) (n : Notice) : Workload τ ρ := { w with journal := w.journal.note n }

def noteAll (w : Workload τ ρ) (ns : List Notice) : Workload τ ρ :=
  { w with journal := w.journal.noteAll ns }

/-! ## Registrations -/

/-- A tick of the registrations.  Its calls, if there are any, join the chains under way. -/
def registrationTick [Topology τ] [Registry ρ] (batch target : UInt64) (w : Workload τ ρ) :
    Moved × Workload τ ρ :=
  let (moved, turn) := w.conveyor.tick batch target w.registry w.board
  let calls := turn.calls
  (moved,
    { w with
      registry := turn.registry
      conveyor := turn.conveyor
      board := turn.board
      pending := if calls.isEmpty then w.pending else w.pending ++ [⟨calls, calls.length⟩]
      journal := w.journal.noteAll turn.notices })

/-- Makes the next call of the oldest chain.  A refused call ends its chain, and the calls
behind it are skipped. -/
def applyNext? [Registry ρ] : Workload τ ρ → Option (Workload τ ρ)
  | ⟨registry, conveyor, subscriptions, board, pending, journal⟩ =>
    match pending with
    | [] => none
    | ⟨[], total⟩ :: rest =>
      some ⟨registry, conveyor, subscriptions, board, rest, journal.note (.chainApplied total)⟩
    | ⟨call :: calls, total⟩ :: rest =>
      match call.apply registry with
      | (.error cause, registry) =>
        let stopped := .chainStopped call.subject.id cause calls.length total
        some ⟨registry, conveyor, subscriptions, board, rest, journal.note stopped⟩
      | (.ok _, registry) =>
        if calls.isEmpty then
          some ⟨registry, conveyor, subscriptions, board, rest, journal.note (.chainApplied total)⟩
        else some ⟨registry, conveyor, subscriptions, board, ⟨calls, total⟩ :: rest, journal⟩

/-- The number of calls under way, and of chains. -/
def backlog (w : Workload τ ρ) : Nat := Chain.load w.pending

/-- All that a call does but for its notice: the registry and the chains under way change, and
nothing else. -/
theorem applyNext?_eq_some [Registry ρ] {w w' : Workload τ ρ} (h : w.applyNext? = some w') :
    w'.conveyor = w.conveyor ∧ w'.subscriptions = w.subscriptions ∧ w'.board = w.board ∧
    ((∃ total, w.pending = ⟨[], total⟩ :: w'.pending ∧ w'.registry = w.registry) ∨
      ∃ call calls total rest, w.pending = ⟨call :: calls, total⟩ :: rest ∧
        w'.registry = (call.apply w.registry).2 ∧
        ((∃ cause, (call.apply w.registry).1 = .error cause) ∧ w'.pending = rest ∨
          (∃ answer, (call.apply w.registry).1 = .ok answer) ∧
            w'.pending = if calls.isEmpty then rest else ⟨calls, total⟩ :: rest)) := by
  obtain ⟨registry, conveyor, subscriptions, board, pending, journal⟩ := w
  match pending, h with
  | [], h => cases h
  | ⟨[], total⟩ :: rest, h =>
    cases h
    exact ⟨rfl, rfl, rfl, .inl ⟨total, rfl, rfl⟩⟩
  | ⟨call :: calls, total⟩ :: rest, h =>
    simp only [applyNext?] at h
    split at h
    · rename_i cause after happly
      cases h
      exact ⟨rfl, rfl, rfl, .inr ⟨call, calls, total, rest, rfl, by rw [happly],
        .inl ⟨⟨cause, by rw [happly]⟩, rfl⟩⟩⟩
    · rename_i answer after happly
      split at h
      · rename_i hc
        cases h
        exact ⟨rfl, rfl, rfl, .inr ⟨call, calls, total, rest, rfl, by rw [happly],
          .inr ⟨⟨answer, by rw [happly]⟩, by rw [if_pos hc]⟩⟩⟩
      · rename_i hc
        cases h
        exact ⟨rfl, rfl, rfl, .inr ⟨call, calls, total, rest, rfl, by rw [happly],
          .inr ⟨⟨answer, by rw [happly]⟩, by rw [if_neg hc]⟩⟩⟩

theorem applyNext?_eq_none_iff [Registry ρ] (w : Workload τ ρ) :
    w.applyNext? = none ↔ w.pending = [] := by
  obtain ⟨registry, conveyor, subscriptions, board, pending, journal⟩ := w
  match pending with
  | [] => simp [applyNext?]
  | ⟨[], total⟩ :: rest => simp [applyNext?]
  | ⟨call :: calls, total⟩ :: rest =>
    simp only [applyNext?]
    split
    · simp
    · split <;> simp

theorem backlog_applyNext? [Registry ρ] {w w' : Workload τ ρ} (h : w.applyNext? = some w') :
    w'.backlog < w.backlog := by
  unfold backlog
  obtain ⟨-, -, -, ⟨total, hp, -⟩ | ⟨call, calls, total, rest, hp, -, ⟨-, hp'⟩ | ⟨-, hp'⟩⟩⟩ :=
    applyNext?_eq_some h
  · rw [hp]
    simp [Chain.load]
  · rw [hp, hp']
    simp [Chain.load]
  · rw [hp, hp']
    split <;> simp [Chain.load]

/-- Makes all calls under way. -/
def drain [Registry ρ] (w : Workload τ ρ) : Workload τ ρ :=
  match _ : w.applyNext? with
  | some w' => drain w'
  | none => w
termination_by w.backlog
decreasing_by exact backlog_applyNext? (by assumption)

/-- What each call keeps, all calls under way keep. -/
theorem drain_preserves [Registry ρ] {P : Workload τ ρ → Prop}
    (hstep : ∀ w w', P w → w.applyNext? = some w' → P w') {w : Workload τ ρ} (h : P w) :
    P w.drain := by
  fun_induction drain w with
  | case1 w w' hnext ih => exact ih (hstep w w' h hnext)
  | case2 => exact h

@[simp] theorem pending_drain [Registry ρ] (w : Workload τ ρ) : w.drain.pending = [] := by
  fun_induction drain w with
  | case1 w w' hnext ih => exact ih
  | case2 w hnone => exact w.applyNext?_eq_none_iff.mp hnone

theorem drain_frame [Registry ρ] (w : Workload τ ρ) :
    w.drain.conveyor = w.conveyor ∧ w.drain.board = w.board := by
  refine drain_preserves (P := fun w' => w'.conveyor = w.conveyor ∧ w'.board = w.board) ?_
    ⟨rfl, rfl⟩
  intro w₁ w₂ ⟨conveyor, board⟩ next
  obtain ⟨conveyor', -, board', -⟩ := applyNext?_eq_some next
  exact ⟨conveyor'.trans conveyor, board'.trans board⟩

/-- Makes the first `n` of the calls under way. -/
def makeCalls [Registry ρ] (n : Nat) (w : Workload τ ρ) : Workload τ ρ :=
  (steps applyNext? n w).2

/-- A workload has no more calls to make than its backlog says. -/
theorem drain_eq_makeCalls [Registry ρ] {w : Workload τ ρ} {n : Nat} (enough : w.backlog ≤ n) :
    w.drain = w.makeCalls n := by
  have same : (w.makeCalls n).drain = w.drain := by
    refine steps_preserves (P := fun w' : Workload τ ρ => w'.drain = w.drain) ?_ n rfl
    intro w₁ w₂ same next
    rw [← same, drain.eq_def w₁]
    split <;> rename_i found
    · rw [next] at found
      cases found
      rfl
    · cases next.symm.trans found
  have idle : (w.makeCalls n).applyNext? = none :=
    steps_exhausted backlog (fun _ _ => backlog_applyNext?) enough
  rw [← same, drain.eq_def]
  split <;> rename_i found
  · cases idle.symm.trans found
  · rfl

/-! ## Subscriptions -/

/-- A tick of the subscriptions. -/
def interestTick [Registry ρ] (batch target : UInt64) (w : Workload τ ρ) :
    Subscribed × Workload τ ρ :=
  let feed := Registry.feed w.registry
  let (subscribed, turn) := w.subscriptions.tick feed batch target w.board
  (subscribed,
    { w with
      subscriptions := turn.subscriptions
      board := turn.board
      journal := w.journal.noteAll turn.notices })

/-- Gives every channel its turn. -/
def settleChannels [Registry ρ] (w : Workload τ ρ) : Workload τ ρ :=
  let (subscriptions, notices) := w.subscriptions.settle (Registry.feed w.registry)
  { w with subscriptions := subscriptions, journal := w.journal.noteAll notices }

/-- Everything that waits for no clock: the calls under way, then the channels. -/
def settle [Registry ρ] (w : Workload τ ρ) : Workload τ ρ := w.drain.settleChannels

end Workload

end RegistryLoad
