import RegistryLoad.Load.Session
import RegistryLoad.Proofs.Load.Ledger

/-!
# Moves of a workload

A workload does nothing by itself: ticks, calls and turns of its channels come in an order that
somebody else chooses.  This file says what can come, and watches what comes of it.

## Definitions

* `Move`: what happens to a workload that nobody else touches, its calls one at a time and in
  the order in which they were asked for.
* `Event`: what can happen besides, the chains overtaking each other and others writing to the
  registry.
* `Watched`: a workload, its ledger, and the answers to its calls.

## Results

* `Workload.registrationTick_frame`, `Workload.interestTick_frame`, `Workload.callOf_frame`: what
  ticks and calls leave alone.
* `Watched.happen_booked`: whatever happens, the ledger accounts for conveyor and score board.
* `Watched.conveyor_conserves_instances`: what that says about any history.
-/

namespace RegistryLoad

variable {τ ρ : Type}

/-- What can happen to a workload that nobody else touches. -/
inductive Move where
  | registrationTick
  | interestTick
  | nextCall
  | channels
  deriving DecidableEq, Repr

/-- What can happen to a workload at all.  `callOf k` is the next call of the chain with `k`
older ones before it. -/
inductive Event (ρ : Type) where
  | move (m : Move)
  | callOf (k : Nat)
  | others (change : ρ → ρ)

namespace Workload

/-- The calls that a tick asks for. -/
def asked [Topology τ] [Registry ρ] (pace : Pace) (w : Workload τ ρ) : List Call :=
  (w.conveyor.tick pace.schedule.batch pace.target w.registry w.board).2.calls

/-- The calls that were asked for and not made yet, in their order. -/
def underWay (w : Workload τ ρ) : List Call := w.pending.flatMap (·.calls)

/-- The chain with `k` older ones before it makes its next call, if there is such a chain. -/
def callOf [Registry ρ] (k : Nat) (w : Workload τ ρ) : Workload τ ρ :=
  match w.pending[k]? with
  | none => w
  | some chain =>
    match { w with pending := [chain] }.applyNext? with
    | none => w
    | some alone =>
      { alone with pending := w.pending.take k ++ alone.pending ++ w.pending.drop (k + 1) }

/-- The answer that the chain with `k` older ones before it gets to its next call. -/
def answerTo [Registry ρ] (k : Nat) (w : Workload τ ρ) :
    List (Call × Except RegistryError Bool) :=
  match w.pending[k]?.bind fun chain => chain.calls.head? with
  | none => []
  | some call => [(call, (call.apply w.registry).1)]

def move [Topology τ] [Registry ρ] (plan : Plan) (w : Workload τ ρ) : Move → Workload τ ρ
  | .registrationTick =>
    (w.registrationTick plan.registrations.schedule.batch plan.registrations.target).2
  | .interestTick => (w.interestTick plan.interests.schedule.batch plan.interests.target).2
  | .nextCall => w.applyNext?.getD w
  | .channels => w.settleChannels

def happen [Topology τ] [Registry ρ] (plan : Plan) (w : Workload τ ρ) :
    Event ρ → Workload τ ρ
  | .move m => w.move plan m
  | .callOf k => w.callOf k
  | .others change => { w with registry := change w.registry }

end Workload

/-! ## What they leave alone -/

/-- Two score boards with the same counters of registrations. -/
structure Counters.SameRegistrations (b b' : Counters) : Prop where
  registrations : b'.registrations = b.registrations
  unregistrations : b'.unregistrations = b.unregistrations
  registrySize : b'.registrySize = b.registrySize

/-- Two score boards with the same counters of interests. -/
structure Counters.SameInterests (b b' : Counters) : Prop where
  interests : b'.interests = b.interests
  activeInterests : b'.activeInterests = b.activeInterests

theorem Counters.SameRegistrations.of_eq {b b' : Counters} (h : b' = b) :
    b.SameRegistrations b' := by
  subst h
  exact ⟨rfl, rfl, rfl⟩

namespace Subscriptions

theorem Turn.open?_sameRegistrations {feed : Feed} {board : Counters} {t t' : Turn}
    (h : board.SameRegistrations t.board) (ht : t.open? feed = some t') :
    board.SameRegistrations t'.board := by
  obtain ⟨-, -, -, -, -, -, -, hb, -⟩ := Turn.open?_eq_some ht
  rw [hb]
  exact ⟨h.registrations, h.unregistrations, h.registrySize⟩

theorem Turn.close?_sameRegistrations {target : UInt64} {board : Counters} {t t' : Turn}
    (h : board.SameRegistrations t.board) (ht : t.close? target = some t') :
    board.SameRegistrations t'.board := by
  obtain ⟨-, channel, -, -, -, -, -, hb, -⟩ := Turn.close?_eq_some ht
  rw [hb]
  split
  · exact h
  · unfold Counters.closeInterest
    split
    · exact h
    · exact ⟨h.registrations, h.unregistrations, h.registrySize⟩

theorem tick_sameRegistrations (feed : Feed) (batch target : UInt64) (s : Subscriptions)
    (board : Counters) : board.SameRegistrations (s.tick feed batch target board).2.board :=
  tick_preserves (P := fun t => board.SameRegistrations t.board)
    (fun _ _ => Turn.open?_sameRegistrations) (fun _ _ => Turn.close?_sameRegistrations)
    (fun _ _ h => h) batch s board ⟨rfl, rfl, rfl⟩

end Subscriptions

/-- A tick looks at a registry without changing it, unless somebody else does so meanwhile. -/
theorem Conveyor.tick_registry [Topology τ] [Registry ρ]
    (alone : ∀ registry : ρ, Registry.afterLook registry = registry) (batch target : UInt64)
    (c : Conveyor τ) (registry : ρ) (board : Counters) :
    (c.tick batch target registry board).2.registry = registry := by
  refine tick_preserves (P := fun t : Turn τ ρ => t.registry = registry) ?_ ?_ ?_ ?_ batch c
    registry board rfl
  · intro t t' h ht
    obtain ⟨-, -, -, -, hr, -⟩ := Turn.register?_eq_some ht
    rw [hr, alone, h]
  · intro t t' h ht
    obtain ⟨-, -, -, -, -, hr, -⟩ := Turn.retire?_eq_some ht
    rw [hr, alone, alone, h]
  · exact fun _ _ h => h
  · exact fun _ h => (alone _).trans h

theorem Conveyor.tick_sameInterests [Topology τ] [Registry ρ] (batch target : UInt64)
    (c : Conveyor τ) (registry : ρ) (board : Counters) :
    board.SameInterests (c.tick batch target registry board).2.board := by
  refine tick_preserves (P := fun t : Turn τ ρ => board.SameInterests t.board) ?_ ?_ ?_ ?_ batch c
    registry board ⟨rfl, rfl⟩
  · intro t t' h ht
    obtain ⟨-, -, -, -, -, hb, -⟩ := Turn.register?_eq_some ht
    rw [hb]
    exact ⟨h.interests, h.activeInterests⟩
  · intro t t' h ht
    obtain ⟨-, -, -, -, -, -, hb, -⟩ := Turn.retire?_eq_some ht
    rw [hb]
    exact ⟨h.interests, h.activeInterests⟩
  · exact fun _ _ h => h
  · exact fun _ h => h

namespace Workload

theorem registrationTick_frame [Topology τ] [Registry ρ] (batch target : UInt64)
    (w : Workload τ ρ) :
    (w.registrationTick batch target).2.subscriptions = w.subscriptions ∧
      w.board.SameInterests (w.registrationTick batch target).2.board :=
  ⟨rfl, w.conveyor.tick_sameInterests batch target w.registry w.board⟩

theorem interestTick_frame [Registry ρ] (batch target : UInt64) (w : Workload τ ρ) :
    (w.interestTick batch target).2.conveyor = w.conveyor ∧
      (w.interestTick batch target).2.registry = w.registry ∧
      (w.interestTick batch target).2.pending = w.pending ∧
      w.board.SameRegistrations (w.interestTick batch target).2.board :=
  ⟨rfl, rfl, rfl, Subscriptions.tick_sameRegistrations _ batch target w.subscriptions w.board⟩

theorem callOf_frame [Registry ρ] (k : Nat) (w : Workload τ ρ) :
    (w.callOf k).conveyor = w.conveyor ∧ (w.callOf k).board = w.board := by
  unfold callOf
  split
  · exact ⟨rfl, rfl⟩
  · split
    · exact ⟨rfl, rfl⟩
    · rename_i h
      obtain ⟨hc, -, hb, -⟩ := applyNext?_eq_some h
      exact ⟨hc, hb⟩

/-- The calls of a tick join those under way. -/
theorem underWay_registrationTick [Topology τ] [Registry ρ] (w : Workload τ ρ) (pace : Pace) :
    (w.registrationTick pace.schedule.batch pace.target).2.underWay
      = w.underWay ++ w.asked pace := by
  unfold underWay registrationTick asked
  dsimp only
  split
  · rename_i none
    rw [List.isEmpty_iff.mp none, List.append_nil]
  · simp

/-- The next call is the first one under way, if there is one.  Unless it is refused, the others
stay. -/
theorem nextCall_cases [Registry ρ] (w : Workload τ ρ) :
    ((w.applyNext?.getD w).underWay = w.underWay ∧ w.answerTo 0 = [] ∧
        (w.applyNext?.getD w).registry = w.registry) ∨
      ∃ call others, w.underWay = call :: others ∧
        w.answerTo 0 = [(call, (call.apply w.registry).1)] ∧
        (w.applyNext?.getD w).registry = (call.apply w.registry).2 ∧
        ((∃ cause, (call.apply w.registry).1 = .error cause) ∨
          (w.applyNext?.getD w).underWay = others) := by
  unfold underWay
  cases next : w.applyNext? with
  | none =>
    have idle := w.applyNext?_eq_none_iff.mp next
    exact .inl ⟨rfl, by simp [answerTo, idle], rfl⟩
  | some w' =>
    obtain ⟨-, -, -, ⟨total, waiting, same⟩ |
      ⟨call, calls, total, rest, waiting, after, outcome⟩⟩ := applyNext?_eq_some next
    · refine .inl ⟨?_, by simp [answerTo, waiting], same⟩
      rw [waiting, List.flatMap_cons, List.nil_append, Option.getD_some]
    · refine .inr ⟨call, calls ++ rest.flatMap (·.calls), ?_, by simp [answerTo, waiting], after,
        ?_⟩
      · rw [waiting, List.flatMap_cons, List.cons_append]
      · rcases outcome with ⟨refused, -⟩ | ⟨-, left⟩
        · exact .inl refused
        · right
          rw [Option.getD_some, left]
          cases calls <;> rfl

theorem nextCall_frame [Registry ρ] (w : Workload τ ρ) :
    (w.applyNext?.getD w).conveyor = w.conveyor ∧ (w.applyNext?.getD w).board = w.board := by
  cases h : w.applyNext? with
  | none => exact ⟨rfl, rfl⟩
  | some w' =>
    obtain ⟨hc, -, hb, -⟩ := applyNext?_eq_some h
    exact ⟨hc, hb⟩

end Workload

/-! ## Observation -/

/-- A workload under observation: the ledger of its conveyor, and the calls made so far with
their answers. -/
structure Watched (τ ρ : Type) where
  work : Workload τ ρ
  ledger : Ledger
  answered : List (Call × Except RegistryError Bool) := []

namespace Watched

/-- A workload with a full pool and nothing done yet. -/
def opening [Topology τ] (topology : τ) (registry : ρ) (subscriptions : Subscriptions) :
    Watched τ ρ where
  work :=
    { registry := registry, conveyor := Conveyor.start topology, subscriptions := subscriptions }
  ledger := { initial := Topology.servicePool topology }

def move [Topology τ] [Registry ρ] (plan : Plan) (s : Watched τ ρ) (m : Move) : Watched τ ρ where
  work := s.work.move plan m
  ledger := match m with
    | .registrationTick =>
      s.ledger.enter s.work.conveyor.topology (s.work.asked plan.registrations)
    | _ => s.ledger
  answered := match m with
    | .nextCall => s.answered ++ s.work.answerTo 0
    | _ => s.answered

def happen [Topology τ] [Registry ρ] (plan : Plan) (s : Watched τ ρ) : Event ρ → Watched τ ρ
  | .move m => s.move plan m
  | .callOf k =>
    { s with work := s.work.callOf k, answered := s.answered ++ s.work.answerTo k }
  | .others change => { s with work := s.work.happen plan (.others change) }

/-- Moves one after the other. -/
def run [Topology τ] [Registry ρ] (plan : Plan) (moves : List Move) (s : Watched τ ρ) :
    Watched τ ρ := moves.foldl (move plan) s

/-- Events one after the other. -/
def history [Topology τ] [Registry ρ] (plan : Plan) (events : List (Event ρ)) (s : Watched τ ρ) :
    Watched τ ρ := events.foldl (happen plan) s

/-- The ledger of a topology that was `start` in the beginning accounts for the workload. -/
structure Booked [Topology τ] (start : τ) (s : Watched τ ρ) : Prop where
  accounts : s.ledger.Accounts s.work.conveyor s.work.board
  comesFrom : s.ledger.ComesFrom start s.work.conveyor.topology

theorem opening_booked [Topology τ] (start : τ) (registry : ρ) (subscriptions : Subscriptions) :
    (opening start registry subscriptions).Booked start where
  accounts := Ledger.Accounts.opening start
  comesFrom := ⟨rfl, rfl, rfl⟩

/-- What leaves the conveyor and the counters of registrations alone needs no new entry. -/
theorem Booked.congr [Topology τ] {start : τ} {s : Watched τ ρ} (h : s.Booked start)
    {work : Workload τ ρ} (answered : List (Call × Except RegistryError Bool))
    (hc : work.conveyor = s.work.conveyor) (hb : s.work.board.SameRegistrations work.board) :
    Booked start ⟨work, s.ledger, answered⟩ where
  accounts := by
    have haccounts := h.accounts.board hb.registrations hb.unregistrations
    rw [← hc] at haccounts
    exact haccounts
  comesFrom := by
    show s.ledger.ComesFrom start work.conveyor.topology
    rw [hc]
    exact h.comesFrom

theorem registrationTick_booked [Topology τ] [Registry ρ] (plan : Plan) {start : τ}
    {s : Watched τ ρ} (h : s.Booked start) : (s.move plan .registrationTick).Booked start := by
  have follows := Ledger.tick_follows h.accounts plan.registrations.schedule.batch
    plan.registrations.target s.work.registry
  have entered := h.comesFrom.enter (s.work.asked plan.registrations)
  rw [Workload.asked, ← follows.topology_eq] at entered
  exact ⟨follows.accounts, entered⟩

theorem move_booked [Topology τ] [Registry ρ] (plan : Plan) {start : τ} {s : Watched τ ρ}
    (m : Move) (h : s.Booked start) : (s.move plan m).Booked start := by
  cases m with
  | registrationTick => exact registrationTick_booked plan h
  | interestTick =>
    obtain ⟨hc, -, -, hb⟩ := s.work.interestTick_frame plan.interests.schedule.batch
      plan.interests.target
    exact h.congr _ hc hb
  | nextCall =>
    obtain ⟨hc, hb⟩ := s.work.nextCall_frame
    exact h.congr _ hc (.of_eq hb)
  | channels => exact h.congr _ rfl (.of_eq rfl)

/-- **Whatever happens, the ledger accounts for the workload.** -/
theorem happen_booked [Topology τ] [Registry ρ] (plan : Plan) {start : τ} {s : Watched τ ρ}
    (e : Event ρ) (h : s.Booked start) : (s.happen plan e).Booked start := by
  cases e with
  | move m => exact move_booked plan m h
  | callOf k =>
    obtain ⟨hc, hb⟩ := s.work.callOf_frame k
    exact h.congr _ hc (.of_eq hb)
  | others change => exact h.congr _ rfl (.of_eq rfl)

theorem history_booked [Topology τ] [Registry ρ] (plan : Plan) (events : List (Event ρ))
    {start : τ} {s : Watched τ ρ} (h : s.Booked start) : (s.history plan events).Booked start := by
  induction events generalizing s with
  | nil => exact h
  | cons e events ih => exact ih (happen_booked plan e h)

theorem run_booked [Topology τ] [Registry ρ] (plan : Plan) (moves : List Move) {start : τ}
    {s : Watched τ ρ} (h : s.Booked start) : (s.run plan moves).Booked start := by
  have same : s.run plan moves = s.history plan (moves.map .move) := by
    rw [history, List.foldl_map]
    rfl
  rw [same]
  exact history_booked plan _ h

theorem retired_move_le [Topology τ] [Registry ρ] (plan : Plan) (s : Watched τ ρ) (m : Move) :
    (s.move plan m).ledger.retired.length
      ≤ s.ledger.retired.length + plan.registrations.schedule.batch.toNat := by
  cases m with
  | registrationTick =>
    obtain ⟨⟨-, amount⟩, -, bound⟩ := s.work.conveyor.tick_amount plan.registrations.schedule.batch
      plan.registrations.target s.work.registry s.work.board
    show (Call.retirements (s.ledger.log ++ s.work.asked plan.registrations)).length ≤ _
    rw [Call.retirements_append, List.length_append, Workload.asked, amount]
    exact Nat.add_le_add_left bound _
  | interestTick => exact Nat.le_add_right _ _
  | nextCall => exact Nat.le_add_right _ _
  | channels => exact Nat.le_add_right _ _

/-- A run takes out at most a batch with each move. -/
theorem retired_run_le [Topology τ] [Registry ρ] (plan : Plan) (moves : List Move)
    (s : Watched τ ρ) :
    (s.run plan moves).ledger.retired.length
      ≤ s.ledger.retired.length + moves.length * plan.registrations.schedule.batch.toNat := by
  induction moves generalizing s with
  | nil => exact Nat.le_add_right _ _
  | cons m moves ih =>
    have first := retired_move_le plan s m
    have others := ih (s.move plan m)
    rw [List.length_cons, Nat.succ_mul]
    show ((s.move plan m).run plan moves).ledger.retired.length ≤ _
    omega

/-- **The conveyor loses, repeats and reorders nothing.**  Begin with a full pool, and let ticks
happen with calls in between that are made late, refused or made out of turn, while others write
to the registry.  The instances submitted for removal are the first of those submitted for
registration, which are the first of those supplied.  What lies between is in the two queues, and
the score board has counted both, modulo 64 bits. -/
theorem conveyor_conserves_instances [Topology τ] [Registry ρ] (plan : Plan) (topology : τ)
    (registry : ρ) (subscriptions : Subscriptions) (events : List (Event ρ)) :
    let s := (opening topology registry subscriptions).history plan events
    s.ledger.retired <+: s.ledger.registered ∧
      s.ledger.registered <+: s.ledger.supplied ∧
      s.ledger.supplied = Topology.servicePool topology ++ s.ledger.made ∧
      s.work.conveyor.active.toList = s.ledger.registered.drop s.ledger.retired.length ∧
      s.work.conveyor.pool.toList = s.ledger.supplied.drop s.ledger.registered.length ∧
      s.work.board.registrations.toNat = s.ledger.registered.length % 2 ^ 64 ∧
      s.work.board.unregistrations.toNat = s.ledger.retired.length % 2 ^ 64 ∧
      s.work.conveyor.pool.size + s.work.conveyor.active.size =
        (Topology.servicePool topology).length := by
  intro s
  obtain ⟨hacc, hfrom⟩ := history_booked plan events
    (opening_booked topology registry subscriptions)
  have hreg := hacc.registered_eq
  have hsup := hacc.supplied_eq
  have hcons := hacc.conserves
  refine ⟨⟨_, hreg.symm⟩, ⟨_, hsup.symm⟩, ?_, ?_, ?_, ?_, ?_, ?_⟩
  · rw [Ledger.supplied, hfrom.initial_eq]
  · rw [hreg, List.drop_left]
  · rw [hsup, List.drop_left]
  · rw [hacc.registrations_eq, UInt64.toNat_ofNat']
  · rw [hacc.unregistrations_eq, UInt64.toNat_ofNat']
  · rw [hcons, hfrom.initial_eq]

end Watched

end RegistryLoad
