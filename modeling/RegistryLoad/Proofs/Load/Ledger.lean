import RegistryLoad.Load.Workload
import RegistryLoad.Proofs.Topology.Numbering

/-!
# The ledger of a conveyor

A ledger keeps what a conveyor cannot tell any more: the pool it began with, every call that its
ticks asked for, and every replacement that its topology gave.  What is in the pool and in the
queue of active instances at any time can be read off it.

## Definitions

* `Ledger`, with `Ledger.registered`, `Ledger.retired` and `Ledger.supplied`.
* `Ledger.Accounts`: conveyor and score board are as the ledger has it.
* `Ledger.ComesFrom`: all instances come from one topology.
* `Orderly`: calls in an order in which only registered instances are retired, the oldest
  first, and never more are registered at once than there are.

## Results

* `Ledger.tick_follows`: a tick keeps the accounts, whatever the registry shows meanwhile.
* `Conveyor.tick_amount`: a tick asks for as many calls as it tells.
* `Ledger.Accounts.conserves`: pool and active instances together stay as many as in the
  beginning.
-/

namespace RegistryLoad

variable {τ ρ : Type}

namespace Call

/-- The instance that the call registers, if it registers one. -/
def registered? : Call → Option Instance
  | register i => some i
  | unregister _ => none

/-- The instance that the call takes out, if it takes one out. -/
def retired? : Call → Option Instance
  | register _ => none
  | unregister i => some i

/-- The instances that the calls register, in their order. -/
def registrations (calls : List Call) : List Instance := calls.filterMap registered?

/-- The instances that the calls take out, in their order. -/
def retirements (calls : List Call) : List Instance := calls.filterMap retired?

@[simp] theorem registrations_nil : registrations [] = [] := rfl

@[simp] theorem retirements_nil : retirements [] = [] := rfl

@[simp] theorem registrations_append (a b : List Call) :
    registrations (a ++ b) = registrations a ++ registrations b := List.filterMap_append

@[simp] theorem retirements_append (a b : List Call) :
    retirements (a ++ b) = retirements a ++ retirements b := List.filterMap_append

@[simp] theorem registrations_register (i : Instance) : registrations [register i] = [i] := rfl

@[simp] theorem registrations_unregister (i : Instance) : registrations [unregister i] = [] := rfl

@[simp] theorem retirements_register (i : Instance) : retirements [register i] = [] := rfl

@[simp] theorem retirements_unregister (i : Instance) : retirements [unregister i] = [i] := rfl

end Call

open Call

/-! ## Orderly calls -/

/-- At any point of the calls, the instances taken out are the first of those registered, in the
same order, and at most `capacity` more are registered than taken out. -/
def Orderly (capacity : Nat) (calls : List Call) : Prop :=
  ∀ done, done <+: calls →
    retirements done <+: registrations done ∧
      (registrations done).length ≤ (retirements done).length + capacity

theorem Orderly.nil (capacity : Nat) : Orderly capacity [] := by
  intro done h
  rw [List.prefix_nil.mp h]
  exact ⟨List.prefix_rfl, Nat.zero_le _⟩

theorem Orderly.earlier {capacity : Nat} {done calls : List Call} (h : Orderly capacity calls)
    (hd : done <+: calls) : Orderly capacity done :=
  fun part hp => h part (hp.trans hd)

/-- One more call leaves the calls orderly if it does so at their end. -/
theorem Orderly.concat {capacity : Nat} {calls : List Call} {call : Call}
    (h : Orderly capacity calls)
    (hp : retirements (calls ++ [call]) <+: registrations (calls ++ [call]))
    (hl : (registrations (calls ++ [call])).length ≤
      (retirements (calls ++ [call])).length + capacity) :
    Orderly capacity (calls ++ [call]) := by
  intro done hd
  rcases List.prefix_concat_iff.mp hd with rfl | hd
  · exact ⟨hp, hl⟩
  · exact h done hd

/-! ## Ledgers -/

/-- The pool in the beginning, the calls that were asked for, and the replacements that were
given, each in its order. -/
structure Ledger where
  initial : List Instance
  log : List Call := []
  made : List Instance := []

namespace Ledger

/-- The instances submitted for registration. -/
def registered (l : Ledger) : List Instance := registrations l.log

/-- The instances submitted for removal. -/
def retired (l : Ledger) : List Instance := retirements l.log

/-- All instances that ever were in the pool. -/
def supplied (l : Ledger) : List Instance := l.initial ++ l.made

/-- Enters calls, and the replacements for the instances that they take out. -/
def enter [Topology τ] (l : Ledger) (topology : τ) (calls : List Call) : Ledger where
  initial := l.initial
  log := l.log ++ calls
  made := l.made ++ (replacements (retirements calls) topology).1

@[simp] theorem enter_initial [Topology τ] (l : Ledger) (topology : τ) (calls : List Call) :
    (l.enter topology calls).initial = l.initial := rfl

@[simp] theorem enter_nil [Topology τ] (l : Ledger) (topology : τ) : l.enter topology [] = l := by
  simp [enter, replacements]

/-- Conveyor and score board are as the ledger has it: the active instances are those that were
registered and not retired, the pool holds those that were supplied and not registered. -/
structure Accounts (l : Ledger) (c : Conveyor τ) (board : Counters) : Prop where
  registered_eq : l.registered = l.retired ++ c.active.toList
  supplied_eq : l.supplied = l.registered ++ c.pool.toList
  made_length : l.made.length = l.retired.length
  orderly : Orderly l.initial.length l.log
  registrations_eq : board.registrations = UInt64.ofNat l.registered.length
  unregistrations_eq : board.unregistrations = UInt64.ofNat l.retired.length

theorem Accounts.opening [Topology τ] (topology : τ) :
    Accounts { initial := Topology.servicePool topology } (Conveyor.start topology) {} where
  registered_eq := rfl
  supplied_eq := by simp [supplied, registered, Conveyor.start]
  made_length := rfl
  orderly := Orderly.nil _
  registrations_eq := rfl
  unregistrations_eq := rfl

/-- **Conservation.** -/
theorem Accounts.conserves {l : Ledger} {c : Conveyor τ} {board : Counters}
    (h : l.Accounts c board) : c.pool.size + c.active.size = l.initial.length := by
  have hr := congrArg List.length h.registered_eq
  have hs := congrArg List.length h.supplied_eq
  have hm := h.made_length
  simp only [supplied, List.length_append] at hr hs
  rw [Fifo.size_eq_length, Fifo.size_eq_length]
  omega

/-- A ledger speaks of two counters of the score board only. -/
theorem Accounts.board {l : Ledger} {c : Conveyor τ} {board board' : Counters}
    (h : l.Accounts c board) (hr : board'.registrations = board.registrations)
    (hu : board'.unregistrations = board.unregistrations) : l.Accounts c board' :=
  { h with
    registrations_eq := hr.trans h.registrations_eq
    unregistrations_eq := hu.trans h.unregistrations_eq }

/-- The instances of a ledger come from a topology that has changed, as it gave replacements,
from `start` to `topology`. -/
structure ComesFrom [Topology τ] (l : Ledger) (start topology : τ) : Prop where
  initial_eq : l.initial = Topology.servicePool start
  made_eq : l.made = (replacements l.retired start).1
  topology_eq : topology = (replacements l.retired start).2

theorem ComesFrom.enter [Topology τ] {l : Ledger} {start topology : τ}
    (h : l.ComesFrom start topology) (calls : List Call) :
    (l.enter topology calls).ComesFrom start (replacements (retirements calls) topology).2 := by
  have together : (l.enter topology calls).retired = l.retired ++ retirements calls :=
    retirements_append l.log calls
  refine ⟨h.initial_eq, ?_, ?_⟩
  · rw [together, replacements_append, ← h.topology_eq, ← h.made_eq]
    rfl
  · rw [together, replacements_append, ← h.topology_eq]

/-- What a generator supplied has different ids, as long as its numbers do not come round. -/
theorem ComesFrom.distinct {l : Ledger} {g g' : Generator} {first : Nat} (h : l.ComesFrom g g')
    (ready : g.Ready first) (few : first + l.retired.length ≤ 2 ^ 64) :
    (l.supplied.map (·.id)).Nodup := by
  have numbered := (ready.replacements l.retired).1
  have behind := ready.behind
  rw [supplied, h.initial_eq, h.made_eq]
  apply ready.numbered.distinct_append numbered
  · rw [Nat.zero_add]
    exact behind
  · rw [length_replacements]
    exact few

/-- What a generator supplied repeats an id only at a distance of as many instances as its pool
has, if at all. -/
theorem ComesFrom.spaced {l : Ledger} {g g' : Generator} {first : Nat} (h : l.ComesFrom g g')
    (ready : g.Ready first) (few : first ≤ 2 ^ 64) : Spaced g.services.length l.supplied := by
  have numbered := (ready.replacements l.retired).1
  rw [supplied, h.initial_eq, h.made_eq]
  exact ready.numbered.spaced_append numbered ready.behind few

/-! ## Ticks -/

/-- A tick that began with a topology is, with its calls so far, as the ledger has it. -/
structure Follows [Topology τ] (l : Ledger) (topology : τ) (t : Turn τ ρ) : Prop where
  accounts : (l.enter topology t.calls).Accounts t.conveyor t.board
  topology_eq : t.conveyor.topology = (replacements (retirements t.calls) topology).2

theorem follows_opening [Topology τ] {l : Ledger} {c : Conveyor τ} {board : Counters}
    (h : l.Accounts c board) (registry : ρ) :
    l.Follows c.topology { conveyor := c, registry := registry, board := board } where
  accounts := by simpa [Turn.calls] using h
  topology_eq := rfl

theorem enter_register [Topology τ] (l : Ledger) (topology : τ) (calls : List Call)
    (i : Instance) :
    (l.enter topology (calls ++ [.register i])) =
      { l.enter topology calls with log := (l.enter topology calls).log ++ [.register i] } := by
  simp [enter]

theorem enter_unregister [Topology τ] (l : Ledger) (topology : τ) (calls : List Call)
    (i : Instance) :
    (l.enter topology (calls ++ [.unregister i])) =
      { l.enter topology calls with
        log := (l.enter topology calls).log ++ [.unregister i]
        made := (l.enter topology calls).made ++
          [(Topology.replacementFor (replacements (retirements calls) topology).2 i).1] } := by
  simp [enter, replacements_append, replacements]

/-- Entering the registration of the first spare instance, which becomes the last active one. -/
theorem Accounts.register {l : Ledger} {c c' : Conveyor τ} {board : Counters} {i : Instance}
    (h : l.Accounts c board) (hpool : c.pool.toList = i :: c'.pool.toList)
    (hactive : c'.active.toList = c.active.toList ++ [i]) (size : UInt64) :
    Accounts { l with log := l.log ++ [.register i] } c'
      (board.addRegistration.setRegistrySize size) := by
  have hsize := h.conserves
  rw [Fifo.size_eq_length, Fifo.size_eq_length, hpool, List.length_cons] at hsize
  have hreg : registrations (l.log ++ [.register i]) =
      retirements (l.log ++ [.register i]) ++ c'.active.toList := by
    have := h.registered_eq
    simp only [registered, retired] at this
    simp [hactive, this]
  constructor
  · exact hreg
  · have := h.supplied_eq
    simp only [supplied, registered, hpool] at this ⊢
    simp [this]
  · have := h.made_length
    simp only [retired] at this ⊢
    simp [this]
  · -- There was a spare instance, so that not all of the capacity was in use.
    refine h.orderly.concat ⟨_, hreg.symm⟩ ?_
    rw [hreg, List.length_append, hactive, List.length_append]
    simp only [List.length_cons, List.length_nil]
    omega
  · simp [Counters.addRegistration, Counters.setRegistrySize, h.registrations_eq, registered]
  · simp [Counters.addRegistration, Counters.setRegistrySize, h.unregistrations_eq, retired]

/-- Entering the retirement of the first active instance, for which a fresh one becomes the last
spare one. -/
theorem Accounts.retire {l : Ledger} {c c' : Conveyor τ} {board : Counters} {i fresh : Instance}
    (h : l.Accounts c board) (hactive : c.active.toList = i :: c'.active.toList)
    (hpool : c'.pool.toList = c.pool.toList ++ [fresh]) (size : UInt64) :
    Accounts { l with log := l.log ++ [.unregister i], made := l.made ++ [fresh] } c'
      (board.addUnregistration.setRegistrySize size) := by
  have hsize := h.conserves
  rw [Fifo.size_eq_length, Fifo.size_eq_length, hactive, List.length_cons] at hsize
  have hreg : registrations (l.log ++ [.unregister i]) =
      retirements (l.log ++ [.unregister i]) ++ c'.active.toList := by
    have := h.registered_eq
    simp only [registered, retired, hactive] at this
    simp [this]
  constructor
  · exact hreg
  · have := h.supplied_eq
    simp only [supplied, registered, registrations_append, registrations_unregister,
      List.append_nil] at this ⊢
    rw [hpool, ← List.append_assoc, this, List.append_assoc]
  · have := h.made_length
    simp only [retired] at this ⊢
    simp [this]
  · refine h.orderly.concat ⟨_, hreg.symm⟩ ?_
    rw [hreg, List.length_append]
    omega
  · simp [Counters.addUnregistration, Counters.setRegistrySize, h.registrations_eq, registered]
  · simp [Counters.addUnregistration, Counters.setRegistrySize, h.unregistrations_eq, retired]

theorem register?_follows [Topology τ] [Registry ρ] {l : Ledger} {topology : τ} {t t' : Turn τ ρ}
    (h : l.Follows topology t) (ht : t.register? = some t') : l.Follows topology t' := by
  obtain ⟨i, hpool, hactive, htop, -, hboard, hcalls, -⟩ := Turn.register?_eq_some ht
  obtain ⟨hacc, htopology⟩ := h
  constructor
  · rw [hcalls, hboard, enter_register]
    exact hacc.register hpool hactive _
  · simp [hcalls, htop, htopology]

theorem retire?_follows [Topology τ] [Registry ρ] {l : Ledger} {topology : τ} {target : UInt64}
    {t t' : Turn τ ρ} (h : l.Follows topology t) (ht : t.retire? target = some t') :
    l.Follows topology t' := by
  obtain ⟨-, i, hactive, hpool, htop, -, hboard, hcalls, -⟩ := Turn.retire?_eq_some ht
  obtain ⟨hacc, htopology⟩ := h
  constructor
  · rw [hcalls, hboard, enter_unregister, ← htopology]
    exact hacc.retire hactive hpool _
  · simp [hcalls, htop, htopology, replacements_append, replacements]

/-- A notice or a look at the registry enters no call. -/
theorem Follows.congr [Topology τ] {l : Ledger} {topology : τ} {t t' : Turn τ ρ}
    (h : l.Follows topology t) (hc : t'.conveyor = t.conveyor) (hb : t'.board = t.board)
    (hl : t'.calls = t.calls) : l.Follows topology t' := by
  obtain ⟨hacc, htopology⟩ := h
  exact ⟨by rw [hc, hb, hl]; exact hacc, by rw [hc, hl]; exact htopology⟩

/-- **A tick keeps the accounts**, once its calls are entered, whatever sizes the registry shows
meanwhile. -/
theorem tick_follows [Topology τ] [Registry ρ] {l : Ledger} {c : Conveyor τ} {board : Counters}
    (h : l.Accounts c board) (batch target : UInt64) (registry : ρ) :
    l.Follows c.topology (c.tick batch target registry board).2 :=
  Conveyor.tick_preserves (P := l.Follows c.topology) (fun _ _ => register?_follows)
    (fun _ _ => retire?_follows) (fun _ _ ht => ht.congr rfl rfl rfl)
    (fun _ ht => ht.congr rfl rfl rfl) batch c registry board (follows_opening h registry)

end Ledger

/-! ## What a tick tells -/

/-- Calls with a given number of registrations and of retirements. -/
def Call.Amount (calls : List Call) (registered retired : Nat) : Prop :=
  (registrations calls).length = registered ∧ (retirements calls).length = retired

namespace Turn

/-- A batch of registrations asks for as many as it tells. -/
theorem registerBatch_amount [Registry ρ] (batch : UInt64) {t : Turn τ ρ} (h : t.calls = []) :
    Amount (t.registerBatch batch).2.calls (t.registerBatch batch).1 0 := by
  obtain ⟨-, -, calls⟩ := registerBatch_frame batch t
  rw [calls]
  refine steps_counted (P := fun k (t : Turn τ ρ) => Amount t.calls k 0) ?_ batch.toNat ?_
  · intro k t t' ⟨registered, retired⟩ ht
    obtain ⟨i, -, -, -, -, -, calls, -⟩ := register?_eq_some ht
    simp [Amount, calls, registered, retired]
  · simp [Amount, h]

/-- A batch of retirements asks for as many as it tells. -/
theorem retireBatch_amount [Topology τ] [Registry ρ] (batch target : UInt64) {t : Turn τ ρ}
    {registered : Nat} (h : Amount t.calls registered 0) :
    Amount (t.retireBatch batch target).2.calls registered (t.retireBatch batch target).1 := by
  obtain ⟨-, calls⟩ := retireBatch_frame batch target t
  rw [calls]
  refine steps_counted (P := fun k (t : Turn τ ρ) => Amount t.calls registered k) ?_ batch.toNat h
  intro k t t' ⟨registered, retired⟩ ht
  obtain ⟨-, i, -, -, -, -, -, calls, -⟩ := retire?_eq_some ht
  simp [Amount, calls, registered, retired]

end Turn

/-- **A tick asks for as many calls as it tells**, and for no more than a batch of either kind. -/
theorem Conveyor.tick_amount [Topology τ] [Registry ρ] (batch target : UInt64) (c : Conveyor τ)
    (registry : ρ) (board : Counters) :
    Amount (c.tick batch target registry board).2.calls
        (c.tick batch target registry board).1.registered
        (c.tick batch target registry board).1.unregistered ∧
      (c.tick batch target registry board).1.registered ≤ batch.toNat ∧
      (c.tick batch target registry board).1.unregistered ≤ batch.toNat :=
  ⟨Turn.retireBatch_amount batch target (Turn.registerBatch_amount batch rfl),
    steps_le _ _ _, steps_le _ _ _⟩

end RegistryLoad
