import RegistryLoad.Load.Repeat
import RegistryLoad.Notice
import RegistryLoad.Queue.Fifo
import RegistryLoad.Topology.Generator

/-!
# The conveyor of registrations

Instances travel from a pool of spare ones to a queue of active ones when they are registered,
and leave it, oldest first, when they are retired; a replacement then joins the pool.  So pool
and queue together keep their size.

A tick moves a batch of instances into the queue and, while the registry is above its target, a
batch out of it.  It only decides: the calls of the registry that follow are handed on as a
chain.  It looks at the size of the registry again and again, and is prepared to find another
one each time.

* `Conveyor.tick`: what a tick does to the conveyor, and the calls it asks for.
* `Conveyor.tick_keeps`, `Conveyor.tick_preserves`: what a tick keeps.
-/

namespace RegistryLoad

/-- Spare instances, active ones, and the topology that provides replacements. -/
structure Conveyor (τ : Type) where
  topology : τ
  pool : Fifo Instance := Fifo.empty
  active : Fifo Instance := Fifo.empty

/-- A call of the registry. -/
inductive Call where
  | register (i : Instance)
  | unregister (i : Instance)
  deriving DecidableEq, Repr

namespace Call

/-- The instance that a call is about. -/
def subject : Call → Instance
  | register i => i
  | unregister i => i

/-- Makes the call for the source of the load run. -/
def apply {ρ : Type} [Registry ρ] (call : Call) (registry : ρ) :
    Except RegistryError Bool × ρ :=
  match call with
  | register i => Registry.register registry Source.perf i
  | unregister i => Registry.unregister registry Source.perf i

end Call

/-- What a tick moved. -/
structure Moved where
  registered : Nat
  unregistered : Nat
  deriving DecidableEq, Repr

/-- A tick under way: the conveyor, the registry and the score board as they are by now, and,
latest first, the calls to be made and the notices given. -/
structure Turn (τ ρ : Type) where
  conveyor : Conveyor τ
  registry : ρ
  board : Counters
  latestCalls : List Call := []
  latestNotices : List Notice := []

namespace Turn

variable {τ ρ : Type}

def note (t : Turn τ ρ) (n : Notice) : Turn τ ρ := { t with latestNotices := n :: t.latestNotices }

/-- The calls in the order in which they are to be made. -/
def calls (t : Turn τ ρ) : List Call := t.latestCalls.reverse

/-- The notices in the order in which they were given. -/
def notices (t : Turn τ ρ) : List Notice := t.latestNotices.reverse

/-- Moves the first spare instance to the active ones, if there is one.  The size of the
registry shows on the score board. -/
def register? [Registry ρ] (t : Turn τ ρ) : Option (Turn τ ρ) :=
  t.conveyor.pool.pop?.map fun (i, pool) =>
    { conveyor := { t.conveyor with pool := pool, active := t.conveyor.active.push i }
      registry := Registry.afterLook t.registry
      board := t.board.addRegistration.setRegistrySize (Registry.size t.registry)
      latestCalls := .register i :: t.latestCalls
      latestNotices := .instanceRegistered i.id :: t.latestNotices }

/-- If the registry is above the target, takes the oldest active instance out, if there is one,
and puts a replacement behind the spare ones.  A second look at the registry shows its size on
the score board. -/
def retire? [Topology τ] [Registry ρ] (target : UInt64) (t : Turn τ ρ) : Option (Turn τ ρ) :=
  if Registry.size t.registry ≤ target then none
  else
    t.conveyor.active.pop?.map fun (i, active) =>
      let registry := Registry.afterLook t.registry
      let (fresh, topology) := Topology.replacementFor t.conveyor.topology i
      { conveyor := ⟨topology, t.conveyor.pool.push fresh, active⟩
        registry := Registry.afterLook registry
        board := t.board.addUnregistration.setRegistrySize (Registry.size registry)
        latestCalls := .unregister i :: t.latestCalls
        latestNotices := .instanceUnregistered i.id :: t.latestNotices }

/-- All that a registration does. -/
theorem register?_eq_some [Registry ρ] {t t' : Turn τ ρ} (h : t.register? = some t') :
    ∃ i, t.conveyor.pool.toList = i :: t'.conveyor.pool.toList ∧
      t'.conveyor.active.toList = t.conveyor.active.toList ++ [i] ∧
      t'.conveyor.topology = t.conveyor.topology ∧
      t'.registry = Registry.afterLook t.registry ∧
      t'.board = t.board.addRegistration.setRegistrySize (Registry.size t.registry) ∧
      t'.calls = t.calls ++ [.register i] ∧
      t'.notices = t.notices ++ [.instanceRegistered i.id] := by
  obtain ⟨⟨i, pool⟩, hpop, ht⟩ := Option.map_eq_some_iff.mp h
  subst ht
  exact ⟨i, Fifo.toList_of_pop?_eq_some hpop, Fifo.toList_push _ _, rfl, rfl, rfl,
    List.reverse_cons, List.reverse_cons⟩

/-- All that a retirement does. -/
theorem retire?_eq_some [Topology τ] [Registry ρ] {target : UInt64} {t t' : Turn τ ρ}
    (h : t.retire? target = some t') :
    target < Registry.size t.registry ∧
    ∃ i, t.conveyor.active.toList = i :: t'.conveyor.active.toList ∧
      t'.conveyor.pool.toList = t.conveyor.pool.toList ++
        [(Topology.replacementFor t.conveyor.topology i).1] ∧
      t'.conveyor.topology = (Topology.replacementFor t.conveyor.topology i).2 ∧
      t'.registry = Registry.afterLook (Registry.afterLook t.registry) ∧
      t'.board = t.board.addUnregistration.setRegistrySize
        (Registry.size (Registry.afterLook t.registry)) ∧
      t'.calls = t.calls ++ [.unregister i] ∧
      t'.notices = t.notices ++ [.instanceUnregistered i.id] := by
  unfold retire? at h
  split at h
  · cases h
  · rename_i habove
    obtain ⟨⟨i, active⟩, hpop, ht⟩ := Option.map_eq_some_iff.mp h
    subst ht
    exact ⟨UInt64.not_le.mp habove, i, Fifo.toList_of_pop?_eq_some hpop, Fifo.toList_push _ _, rfl,
      rfl, rfl, List.reverse_cons, List.reverse_cons⟩

/-- Registers a batch, and complains if the pool runs out. -/
def registerBatch [Registry ρ] (batch : UInt64) (t : Turn τ ρ) : Nat × Turn τ ρ :=
  let (n, t) := steps register? batch.toNat t
  (n, if n < batch.toNat then t.note (.poolExhausted n batch) else t)

/-- The complaint about the pool changes nothing else. -/
theorem registerBatch_frame [Registry ρ] (batch : UInt64) (t : Turn τ ρ) :
    (t.registerBatch batch).2.conveyor = (steps register? batch.toNat t).2.conveyor ∧
      (t.registerBatch batch).2.registry = (steps register? batch.toNat t).2.registry ∧
      (t.registerBatch batch).2.calls = (steps register? batch.toNat t).2.calls := by
  unfold registerBatch
  dsimp only
  split <;> exact ⟨rfl, rfl, rfl⟩

/-- The look at the registry that ended a batch of retirements early, and a complaint if the
reason was not that the target had been reached. -/
def endRetiring [Registry ρ] (target : UInt64) (t : Turn τ ρ) : Turn τ ρ :=
  let looked := { t with registry := Registry.afterLook t.registry }
  if Registry.size t.registry ≤ target then looked else looked.note .nothingToRetire

/-- Retires a batch, as long as the registry is above the target. -/
def retireBatch [Topology τ] [Registry ρ] (batch target : UInt64) (t : Turn τ ρ) :
    Nat × Turn τ ρ :=
  let (n, t) := steps (retire? target) batch.toNat t
  (n, if n < batch.toNat then t.endRetiring target else t)

/-- The look at the end changes neither the conveyor nor the calls. -/
theorem retireBatch_frame [Topology τ] [Registry ρ] (batch target : UInt64) (t : Turn τ ρ) :
    (t.retireBatch batch target).2.conveyor = (steps (retire? target) batch.toNat t).2.conveyor ∧
      (t.retireBatch batch target).2.calls = (steps (retire? target) batch.toNat t).2.calls := by
  unfold retireBatch
  dsimp only
  split
  · unfold endRetiring
    dsimp only
    split <;> exact ⟨rfl, rfl⟩
  · exact ⟨rfl, rfl⟩

end Turn

namespace Conveyor

variable {τ ρ : Type}

/-- A conveyor with everything in the pool. -/
def start [Topology τ] (topology : τ) : Conveyor τ :=
  { topology := topology, pool := Fifo.ofList (Topology.servicePool topology) }

/-- A tick with batches of `batch` at a registry that should hold `target` instances. -/
def tick [Topology τ] [Registry ρ] (batch target : UInt64) (c : Conveyor τ) (registry : ρ)
    (board : Counters) : Moved × Turn τ ρ :=
  let (registered, t) :=
    Turn.registerBatch batch { conveyor := c, registry := registry, board := board }
  let (unregistered, t) := t.retireBatch batch target
  (⟨registered, unregistered⟩, t)

/-- What registrations, retirements, the two complaints and looks at the registry keep, a tick
keeps. -/
theorem tick_keeps [Topology τ] [Registry ρ] {P : Turn τ ρ → Prop} {batch target : UInt64}
    (hregister : ∀ t t', P t → t.register? = some t' → P t')
    (hretire : ∀ t t', P t → t.retire? target = some t' → P t')
    (hexhausted : ∀ t n, P t → P (t.note (.poolExhausted n batch)))
    (hnothing : ∀ t, P t → P (t.note .nothingToRetire))
    (hlook : ∀ t, P t → P { t with registry := Registry.afterLook t.registry })
    (c : Conveyor τ) (registry : ρ) (board : Counters)
    (h : P { conveyor := c, registry := registry, board := board }) :
    P (c.tick batch target registry board).2 := by
  have hregistered : P (Turn.registerBatch batch
      { conveyor := c, registry := registry, board := board }).2 := by
    have hs := steps_preserves hregister batch.toNat h
    unfold Turn.registerBatch
    dsimp only
    split
    · exact hexhausted _ _ hs
    · exact hs
  have hs := steps_preserves hretire batch.toNat hregistered
  unfold tick Turn.retireBatch
  dsimp only
  split
  · unfold Turn.endRetiring
    dsimp only
    split
    · exact hlook _ hs
    · exact hnothing _ (hlook _ hs)
  · exact hs

/-- What registrations, retirements, notices and looks at the registry keep, a tick keeps. -/
theorem tick_preserves [Topology τ] [Registry ρ] {P : Turn τ ρ → Prop} {target : UInt64}
    (hregister : ∀ t t', P t → t.register? = some t' → P t')
    (hretire : ∀ t t', P t → t.retire? target = some t' → P t')
    (hnote : ∀ t n, P t → P (t.note n))
    (hlook : ∀ t, P t → P { t with registry := Registry.afterLook t.registry })
    (batch : UInt64) (c : Conveyor τ) (registry : ρ) (board : Counters)
    (h : P { conveyor := c, registry := registry, board := board }) :
    P (c.tick batch target registry board).2 :=
  tick_keeps hregister hretire (fun t _ => hnote t _) (fun t => hnote t _) hlook c registry board h

end Conveyor

end RegistryLoad
