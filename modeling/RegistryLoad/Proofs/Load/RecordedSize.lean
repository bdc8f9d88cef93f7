import Mathlib.Algebra.BigOperators.Ring.List
import Mathlib.Data.List.Nodup
import RegistryLoad.Proofs.Load.Exchange

/-!
# The size of a recorder

A recorder counts the calls that it accepts and does not look at what is registered.  A rejected
registration lets the ones behind it be skipped, whose instances are active nevertheless; other
chains take them out again.  So more removals than registrations can be accepted, and the size
comes round.  This file says what the size is, and when that cannot happen.

## Definitions

* `Workload.InBlocks`: the active instances stand as they do if they come and go in whole batches.
* `Workload.Solo`: they stand as they do if a single one of all is rejected.

## Results

* `Workload.iterate_covered`, `Workload.InBlocks.iterate`, `Workload.Solo.iterate`: three reasons
  why no more is taken out than registered.
* `Workload.size_counts_writes`: the size after any number of rounds.
* `Workload.size_comes_round`: a run at which it passes zero.
-/

namespace RegistryLoad

open Call

namespace Workload

variable {τ : Type} {rejecting : List String}

section

variable {batch target : UInt64} {ledger ledger' : Ledger} {w w' : Workload τ Recorder}
  {joined left : List Instance} {pool : Nat}

/-! ## Small batches -/

/-- A batch that is taken out only at a size above the target is covered by that size, unless it is
larger. -/
theorem Exchanged.covered (h : Exchanged rejecting batch target ledger ledger' w w' joined left)
    (counted : w.registry.Counted) (small : batch.toNat ≤ target.toNat + 1)
    (covered : w.registry.count .unregister ≤ w.registry.count .register) :
    w'.registry.count .unregister ≤ w'.registry.count .register := by
  have size := counted.size_le covered
  have more := h.unregistered_le
  have few := (through_isPrefix rejecting left).length_le
  have length := h.left_length
  rw [h.registered_eq]
  split at length
  · omega
  · rename_i above
    rw [UInt64.le_iff_toNat_le] at above
    omega

/-- **Small batches are covered**, however many rounds there are. -/
theorem iterate_covered [Topology τ] {start : τ} (rest : AtRest start rejecting ledger w)
    (covered : w.registry.count .unregister ≤ w.registry.count .register)
    (small : batch.toNat ≤ target.toNat + 1) (n : Nat) :
    ((round batch target)^[n] w).registry.count .unregister
      ≤ ((round batch target)^[n] w).registry.count .register := by
  obtain ⟨-, -, -, covered⟩ := iterate_round_atRest batch target
    (fun _ w => w.registry.count .unregister ≤ w.registry.count .register)
    (fun rest _ exchanged => exchanged.covered rest.counted small) rest covered n
  exact covered

/-! ## Blocks -/

/-- The active instances stand in blocks of one size, and what would pass of all these blocks, each
for itself, is registered still. -/
def InBlocks (rejecting : List String) (size : Nat) (w : Workload τ Recorder) : Prop :=
  ∃ blocks : List (List Instance), w.conveyor.active.toList = blocks.flatten ∧
    (∀ block ∈ blocks, block.length = size) ∧
    w.registry.count .unregister + (blocks.flatMap (through rejecting)).length
      ≤ w.registry.count .register

theorem InBlocks.covered {size : Nat} (h : InBlocks rejecting size w) :
    w.registry.count .unregister ≤ w.registry.count .register := by
  obtain ⟨blocks, -, -, covered⟩ := h
  omega

theorem dvd_length_flatten {size : Nat} {blocks : List (List Instance)}
    (lengths : ∀ block ∈ blocks, block.length = size) : size ∣ blocks.flatten.length := by
  rw [List.length_flatten]
  refine List.dvd_sum fun length known => ?_
  obtain ⟨block, inside, rfl⟩ := List.mem_map.mp known
  rw [lengths block inside]

/-- Of a number of whole blocks, a batch takes none or one. -/
theorem min_of_blocks {batch pool count : Nat} (aligned : min batch pool ∣ count)
    (few : count ≤ pool) : min batch count = 0 ∨ min batch count = min batch pool := by
  rcases Nat.eq_zero_or_pos count with none | some
  · omega
  · have block := Nat.le_of_dvd some aligned
    omega

theorem min_dvd_of_dvd {batch pool : Nat} (aligned : batch ∣ pool) : min batch pool ∣ pool := by
  rcases Nat.eq_zero_or_pos pool with none | some
  · rw [none]
    exact Nat.dvd_zero _
  · rw [Nat.min_eq_left (Nat.le_of_dvd some aligned)]
    exact aligned

/-- A block that joins goes behind the others. -/
theorem exists_blocks_of_join (rejecting : List String) {blocks : List (List Instance)} {size : Nat}
    (lengths : ∀ block ∈ blocks, block.length = size)
    (length : joined.length = 0 ∨ joined.length = size) :
    ∃ blocks' : List (List Instance), blocks.flatten ++ joined = blocks'.flatten ∧
      (∀ block ∈ blocks', block.length = size) ∧
      (blocks'.flatMap (through rejecting)).length
        = (blocks.flatMap (through rejecting)).length + (through rejecting joined).length := by
  rcases length with none | whole
  · rw [List.length_eq_zero_iff.mp none]
    exact ⟨blocks, List.append_nil _, lengths, rfl⟩
  · refine ⟨blocks ++ [joined], by simp, ?_, by simp⟩
    intro block known
    rcases List.mem_append.mp known with old | new
    · exact lengths block old
    · rw [List.mem_singleton.mp new]
      exact whole

/-- **Blocks stay blocks**, if the pool holds a whole number of them. -/
theorem InBlocks.exchange (h : InBlocks rejecting (min batch.toNat pool) w)
    (aligned : min batch.toNat pool ∣ pool)
    (conserved : w.conveyor.pool.toList.length + w.conveyor.active.toList.length = pool)
    (exchanged : Exchanged rejecting batch target ledger ledger' w w' joined left) :
    InBlocks rejecting (min batch.toNat pool) w' := by
  obtain ⟨blocks, active, lengths, covered⟩ := h
  -- What joins is nothing or a block, since whole blocks are in the pool.
  have whole := dvd_length_flatten lengths
  rw [← active] at whole
  have spare : min batch.toNat pool ∣ w.conveyor.pool.toList.length :=
    (Nat.dvd_add_iff_left whole).mpr (conserved ▸ aligned)
  have joins := min_of_blocks spare (by omega)
  rw [← exchanged.joined_length] at joins
  obtain ⟨blocks', flow, lengths', passing⟩ := exists_blocks_of_join rejecting lengths joins
  rw [← active, exchanged.active_eq] at flow
  -- So is what leaves.
  have moved := exchanged.length_eq
  have leaves : left.length = 0 ∨ left.length = min batch.toNat pool := by
    have length := exchanged.left_length
    split at length
    · exact .inl length
    · have whole' := dvd_length_flatten lengths'
      rw [← flow, List.length_append, ← moved] at whole'
      have one := min_of_blocks whole' (by rw [exchanged.joined_length]; omega)
      rwa [← length] at one
  have registered := exchanged.registered_eq
  have unregistered := exchanged.unregistered_le
  have passed := (through_isPrefix rejecting left).length_le
  by_cases none : left.length = 0
  · rw [List.length_eq_zero_iff.mp none, List.nil_append] at flow
    exact ⟨blocks', flow, lengths', by omega⟩
  · cases blocks' with
    | nil =>
      rw [List.flatten_nil, List.append_eq_nil_iff] at flow
      exact absurd (congrArg List.length flow.1) none
    | cons block rest =>
      have size := lengths' block List.mem_cons_self
      obtain ⟨rfl, active'⟩ := List.append_inj flow ((leaves.resolve_left none).trans size.symm)
      rw [List.flatMap_cons, List.length_append] at passing
      exact ⟨rest, active', fun b known => lengths' b (List.mem_cons_of_mem _ known), by omega⟩

/-- **Blocks stay blocks**, however many rounds there are. -/
theorem InBlocks.iterate [Topology τ] {start : τ}
    (h : InBlocks rejecting (min batch.toNat pool) w) (rest : AtRest start rejecting ledger w)
    (length : (Topology.servicePool start).length = pool)
    (aligned : min batch.toNat pool ∣ pool) (n : Nat) :
    InBlocks rejecting (min batch.toNat pool) ((round batch target)^[n] w) := by
  obtain ⟨-, -, -, blocks⟩ := iterate_round_atRest batch target
    (fun _ w => InBlocks rejecting (min batch.toNat pool) w)
    (fun rest _ exchanged blocks =>
      blocks.exchange aligned (rest.conserves.trans length) exchanged) rest h n
  exact blocks

/-! ## A single rejected id -/

/-- How the active instances stand to the only instance that is rejected.  Before it comes, all of
them are registered.  While it is among them, those in front of it are.  When it has gone, the rest
of its chain was not taken out, and makes up for those that were never registered: what is
registered and the pool together exceed a batch, or the whole pool if that is less. -/
inductive Solo (rejecting : List String) (block : Nat) (ledger : Ledger)
    (w : Workload τ Recorder) : Prop
  | before (covered : w.registry.count .unregister + w.conveyor.active.toList.length
      ≤ w.registry.count .register)
  | within (front : List Instance) (i : Instance) (back : List Instance)
      (active_eq : w.conveyor.active.toList = front ++ i :: back) (rejected : i.id ∈ rejecting)
      (covered : w.registry.count .unregister + front.length ≤ w.registry.count .register)
  | behind (i : Instance) (gone : i ∈ ledger.retired) (rejected : i.id ∈ rejecting)
      (covered : w.registry.count .unregister ≤ w.registry.count .register)
      (reserve : w.registry.count .unregister + block
        ≤ w.registry.count .register + w.conveyor.pool.toList.length)

theorem Solo.covered {block : Nat} (h : Solo rejecting block ledger w) :
    w.registry.count .unregister ≤ w.registry.count .register := by
  cases h with
  | before covered => omega
  | within _ _ _ _ _ covered => omega
  | behind _ _ _ covered _ => exact covered

section

variable
  (conserved : w.conveyor.pool.toList.length + w.conveyor.active.toList.length = pool)
  (conserved' : w'.conveyor.pool.toList.length + w'.conveyor.active.toList.length = pool)
include conserved conserved'

/-- After a tick that takes instances out, the pool has a batch, if it can have one. -/
theorem Exchanged.block_le
    (h : Exchanged rejecting batch target ledger ledger' w w' joined left) (some : left ≠ []) :
    min batch.toNat pool ≤ w'.conveyor.pool.toList.length := by
  have moved := h.length_eq
  have joined_length := h.joined_length
  have left_length := h.left_length
  have positive := List.length_pos_iff.mpr some
  split at left_length
  · omega
  · omega

/-- The rejected instance stays among the active ones, or goes and ends the chain there. -/
theorem Exchanged.solo_of_split
    (h : Exchanged rejecting batch target ledger ledger' w w' joined left)
    {front back : List Instance} {i : Instance}
    (flow : w.conveyor.active.toList ++ joined = front ++ i :: back) (rejected : i.id ∈ rejecting)
    (covered : w.registry.count .unregister + front.length ≤ w'.registry.count .register) :
    Solo rejecting (min batch.toNat pool) ledger' w' := by
  have unregistered := h.unregistered_le
  have passed := (through_isPrefix rejecting left).length_le
  rw [h.active_eq] at flow
  rcases List.append_eq_append_iff.mp flow with ⟨mid, rfl, active'⟩ | ⟨others, rfl, back_eq⟩
  · rw [List.length_append] at covered
    exact .within mid i back active' rejected (by omega)
  cases others with
  | nil =>
    rw [List.append_nil] at unregistered passed
    exact .within [] i back back_eq.symm rejected (by rw [List.length_nil]; omega)
  | cons j others =>
    obtain ⟨rfl, -⟩ := List.cons.inj back_eq
    have stopped : (through rejecting (front ++ i :: others)).length ≤ front.length :=
      length_through_le rejected
    have reserve := h.block_le conserved conserved' (by simp)
    refine .behind i ?_ rejected (by omega) (by omega)
    rw [h.retired_eq]
    simp

/-- **A single rejected instance does no harm.** -/
theorem Solo.exchange (h : Solo rejecting (min batch.toNat pool) ledger w)
    (exchanged : Exchanged rejecting batch target ledger ledger' w w' joined left)
    (once : ∀ i ∈ ledger.retired, i.id ∈ rejecting → ∀ j ∈ joined, j.id ∉ rejecting) :
    Solo rejecting (min batch.toNat pool) ledger' w' := by
  have registered := exchanged.registered_eq
  have unregistered := exchanged.unregistered_le
  have moved := exchanged.length_eq
  have passed := (through_isPrefix rejecting left).length_le
  cases h with
  | before covered =>
    rcases through_cases rejecting joined with all | ⟨i, back, split, rejected⟩
    · rw [all] at registered
      exact .before (by omega)
    · have flow : w.conveyor.active.toList ++ joined =
          (w.conveyor.active.toList ++ through rejecting joined) ++ i :: back := by
        rw [List.append_assoc, ← split]
      refine exchanged.solo_of_split conserved conserved' flow rejected ?_
      rw [List.length_append]
      omega
  | within front i back active_eq rejected covered =>
    have flow : w.conveyor.active.toList ++ joined = front ++ i :: (back ++ joined) := by
      rw [active_eq, List.append_assoc, List.cons_append]
    exact exchanged.solo_of_split conserved conserved' flow rejected (by omega)
  | behind i gone rejected covered reserve =>
    have all : through rejecting joined = joined := by
      rcases through_cases rejecting joined with all | ⟨j, back, split, rejected'⟩
      · exact all
      · refine absurd rejected' (once i gone rejected j ?_)
        rw [split]
        simp
    rw [all] at registered
    -- The pool loses as many as are registered, and has no more than a batch if it was used up.
    have joins := exchanged.joined_length
    have leaves := exchanged.left_length
    refine .behind i ?_ rejected ?_ ?_
    · rw [exchanged.retired_eq]
      exact List.mem_append_left left gone
    · split at leaves <;> omega
    · omega

end

/-- What went in earlier rounds does not come again, while ids are different. -/
theorem Exchanged.apart [Topology τ] {start : τ}
    (exchanged : Exchanged rejecting batch target ledger ledger' w w' joined left)
    (rest : AtRest start rejecting ledger' w')
    (distinct : (ledger'.supplied.map (·.id)).Nodup) {i j : Instance}
    (gone : i ∈ ledger.retired) (new : j ∈ joined) : i.id ≠ j.id := by
  have supplied : ledger'.supplied =
      ledger.retired ++ (w.conveyor.active.toList ++ joined ++ w'.conveyor.pool.toList) := by
    rw [rest.booked.accounts.supplied_eq, rest.booked.accounts.registered_eq,
      exchanged.retired_eq, exchanged.active_eq]
    simp only [List.append_assoc]
  rw [supplied, List.map_append, List.nodup_append] at distinct
  refine distinct.2.2 i.id (List.mem_map_of_mem gone) j.id (List.mem_map_of_mem ?_)
  simp [new]

end

/-- **A single rejected id does no harm**, however many rounds there are, until the numbers of the
instances come round. -/
theorem Solo.iterate {g : Generator} {first : Nat} {ledger : Ledger}
    {w : Workload Generator Recorder} {batch target : UInt64} {pool : Nat} (ready : g.Ready first)
    (single : ∀ x ∈ rejecting, ∀ y ∈ rejecting, x = y)
    (h : Solo rejecting (min batch.toNat pool) ledger w) (rest : AtRest g rejecting ledger w)
    (length : (Topology.servicePool g).length = pool) (n : Nat)
    (few : first + ledger.retired.length + retiredIn batch target w n ≤ 2 ^ 64) :
    ∃ ledger', Solo rejecting (min batch.toNat pool) ledger' ((round batch target)^[n] w) := by
  have step {ledger ledger' : Ledger} {w w' : Workload Generator Recorder}
      {joined left : List Instance} (rest : AtRest g rejecting ledger w)
      (rest' : AtRest g rejecting ledger' w')
      (exchanged : Exchanged rejecting batch target ledger ledger' w w' joined left)
      (solo : first + ledger.retired.length ≤ 2 ^ 64 →
        Solo rejecting (min batch.toNat pool) ledger w)
      (few : first + ledger'.retired.length ≤ 2 ^ 64) :
      Solo rejecting (min batch.toNat pool) ledger' w' := by
    have distinct := rest'.booked.comesFrom.distinct ready few
    have earlier : first + ledger.retired.length ≤ 2 ^ 64 := by
      rw [exchanged.retired_eq, List.length_append] at few
      omega
    refine (solo earlier).exchange (rest.conserves.trans length) (rest'.conserves.trans length)
      exchanged ?_
    intro i gone rejected j new rejected'
    exact exchanged.apart rest' distinct gone new (single i.id rejected j.id rejected')
  obtain ⟨ledger', -, retired, solo⟩ := iterate_round_atRest batch target
    (fun ledger w => first + ledger.retired.length ≤ 2 ^ 64 →
      Solo rejecting (min batch.toNat pool) ledger w) step rest (fun _ => h) n
  exact ⟨ledger', solo (by omega)⟩

/-! ## Any number of rounds -/

/-- **The size of a recorder counts its writes.**  Begin with a generator that has given any
replacements already, a full pool and an empty recorder that rejects some ids, and let ticks follow
each other whose calls are all made before the next tick.  The size is then the accepted
registrations less the accepted removals, modulo 64 bits; so it is that number itself exactly if
that is not negative and fits into 64 bits.  It fits as long as fewer instances were supplied.  It
is not negative if the batch is above the target by one at most, if it holds the whole pool, if the
pool holds a whole number of batches, or if a single id is rejected and the numbers of the instances
have not come round. -/
theorem size_counts_writes {name : String} {applications instances seed : UInt64} {g₀ : Generator}
    (made : Generator.create name applications instances seed = .ok g₀) (earlier : List Instance)
    (rejecting : List String) (subscriptions : Subscriptions) (batch target : UInt64) (n : Nat) :
    let w : Workload Generator Recorder :=
      { registry := { rejecting := rejecting }
        conveyor := Conveyor.start (replacements earlier g₀).2
        subscriptions := subscriptions }
    let r := ((round batch target)^[n] w).registry
    let registered := r.count .register
    let unregistered := r.count .unregister
    let P := instances.toNat
    let T := target.toNat
    let B := batch.toNat
    let used := P + earlier.length + retiredIn batch target w n
    (r.size.toNat : Int) = ((registered : Int) - unregistered) % 2 ^ 64 ∧
      (r.size.toNat + unregistered = registered ↔
        unregistered ≤ registered ∧ registered < unregistered + 2 ^ 64) ∧
      registered ≤ used ∧
      (B ≤ T + 1 ∨ P ≤ B ∨ B ∣ P ∨
          (used ≤ 2 ^ 64 ∧ ∀ x ∈ rejecting, ∀ y ∈ rejecting, x = y) →
        unregistered ≤ registered) := by
  intro w r registered unregistered P T B used
  obtain ⟨ready, length⟩ := Generator.create_ready made
  obtain ⟨-, ready, services⟩ := ready.replacements earlier
  have pool : (Topology.servicePool (replacements earlier g₀).2).length = P :=
    (congrArg List.length services).trans length
  have opening := opening_atRest (replacements earlier g₀).2 rejecting subscriptions
  obtain ⟨ledger, rest, retired, -⟩ :=
    iterate_round_atRest batch target (fun _ _ => True) (fun _ _ _ => id) opening trivial n
  have size : (r.size.toNat : Int) = ((registered : Int) - unregistered) % 2 ^ 64 :=
    rest.counted.size_eq
  have supplied : registered ≤ P + retiredIn batch target w n := by
    have supply := rest.supply
    rw [pool, retired, show Ledger.retired _ = [] from rfl, List.length_nil, Nat.zero_add] at supply
    exact supply
  refine ⟨size, ?_, by omega, ?_⟩
  · have word := r.size.toNat_lt
    omega
  have blocks : InBlocks rejecting (min B P) w := ⟨[], rfl, by simp, Nat.le_refl 0⟩
  rintro (small | large | aligned | ⟨few, single⟩)
  · exact iterate_covered opening (Nat.le_refl 0) small n
  · exact (blocks.iterate opening pool (by rw [Nat.min_eq_right large]) n).covered
  · exact (blocks.iterate opening pool (min_dvd_of_dvd aligned) n).covered
  · have solo : Solo rejecting (min B P)
        { initial := Topology.servicePool (replacements earlier g₀).2 } w :=
      .before (Nat.le_refl 0)
    obtain ⟨ledger', solo⟩ := solo.iterate ready single opening pool n few
    exact solo.covered

/-- A case of it: with one rejected id, six rounds of batches that do not divide the pool. -/
theorem size_counts_writes_of_one :
    ∃ g₀, Generator.create "perfTest" 1 4 42 = .ok g₀ ∧
      let w : Workload Generator Recorder :=
        { registry := { rejecting := ["perfTest-app000-000005"] }
          conveyor := Conveyor.start g₀, subscriptions := { queries := g₀.queries } }
      let r := ((round 3 1)^[6] w).registry
      r.size.toNat + r.count .unregister = r.count .register := by
  obtain ⟨g₀, made⟩ := Generator.create_ok "perfTest" 1 4 42 (by decide) (by decide)
  refine ⟨g₀, made, ?_⟩
  intro w r
  obtain ⟨-, exactly, supplied, covered⟩ := size_counts_writes made [] ["perfTest-app000-000005"]
    { queries := g₀.queries } 3 1 6
  have retired : retiredIn 3 1 w 6 ≤ 6 * 3 := retiredIn_le 3 1 w 6
  have used : (4 : UInt64).toNat + ([] : List Instance).length + retiredIn 3 1 w 6 ≤ 4 + 0 + 6 * 3 :=
    Nat.add_le_add_left retired _
  refine exactly.mpr ⟨covered (.inr (.inr (.inr ⟨Nat.le_trans used (by decide), by simp⟩))), ?_⟩
  exact Nat.lt_of_le_of_lt (Nat.le_trans supplied used) (by omega)

/-! ## A size that comes round -/

/-- The calls of a round are two batches at most, and one more step ends their chain. -/
theorem round_eq_makeCalls [Topology τ] {w : Workload τ Recorder}
    (idle : w.pending = []) (batch target : UInt64) :
    w.round batch target
      = (w.registrationTick batch target).2.makeCalls (2 * batch.toNat + 1) := by
  refine drain_eq_makeCalls ?_
  obtain ⟨joined, left, -, carried, joined_length, left_length⟩ := Conveyor.tick_carried
    (Registry.steady_of_alone (fun _ => rfl) w.registry) batch target w.conveyor w.board
  have few : left.length ≤ batch.toNat := by
    split at left_length <;> omega
  rw [backlog, pending_registrationTick, idle, carried.calls_eq, Chain.ofCalls]
  split
  · exact Nat.zero_le _
  · simp only [List.nil_append, Chain.load, List.length_append, List.length_map]
    omega

theorem iterate_round_eq_makeCalls [Topology τ] {w : Workload τ Recorder}
    (idle : w.pending = []) (batch target : UInt64) (n : Nat) :
    (round batch target)^[n] w =
      (fun w : Workload τ Recorder =>
        (w.registrationTick batch target).2.makeCalls (2 * batch.toNat + 1))^[n] w := by
  induction n with
  | zero => rfl
  | succ n ih =>
    have idle' : ((round batch target)^[n] w).pending = [] := by
      cases n with
      | zero => exact idle
      | succ n =>
        rw [Function.iterate_succ_apply']
        exact pending_drain _
    rw [Function.iterate_succ_apply', Function.iterate_succ_apply', ← ih]
    exact round_eq_makeCalls idle' batch target

/-- Four instances, and two replacements for them that will be rejected. -/
def twoFailures (g : Generator) : Workload Generator Recorder :=
  { registry := { rejecting := ["perfTest-app000-000005", "perfTest-app000-000009"] }
    conveyor := Conveyor.start g, subscriptions := { queries := g.queries } }

/-- **The size comes round.**  A rejected instance lets the rest of its batch be skipped; later on
that rest stands at the head of a batch that leaves.  After six rounds seven registrations and eight
removals are accepted. -/
theorem size_comes_round :
    ∃ g, Generator.create "perfTest" 1 4 42 = .ok g ∧
      let r := ((round 3 1)^[6] (twoFailures g)).registry
      r.count .register = 7 ∧ r.count .unregister = 8 ∧ r.size = 18446744073709551615 := by
  have run : (match Generator.create "perfTest" 1 4 42 with
      | .ok g =>
        let r := ((fun w : Workload Generator Recorder =>
          (w.registrationTick 3 1).2.makeCalls (2 * (3 : UInt64).toNat + 1))^[6]
            (twoFailures g)).registry
        r.count .register == 7 && r.count .unregister == 8 && r.size == 18446744073709551615
      | .error _ => false) = true := by decide +kernel
  obtain ⟨g, made⟩ := Generator.create_ok "perfTest" 1 4 42 (by decide) (by decide)
  rw [made] at run
  simp only [Bool.and_eq_true, beq_iff_eq, and_assoc] at run
  refine ⟨g, made, ?_⟩
  rw [iterate_round_eq_makeCalls rfl]
  exact run

end Workload

end RegistryLoad
