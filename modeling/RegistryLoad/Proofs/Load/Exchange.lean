import Mathlib.Algebra.Group.Int.Defs
import Mathlib.Algebra.Group.Nat.Defs
import RegistryLoad.Proofs.Load.Recording

/-!
# Rounds at a recorder

A tick asks for registrations and removals, and a recorder accepts the calls before the first one
for a rejected id.  What it counts can be told from the instances that come and go and from which of
them are rejected.

## Definitions

* `Recorder.count`: how many calls of a kind were accepted.
* `Recorder.Counted`: the size is the difference of the two kinds, as words.
* `Call.through`: the instances before the first rejected one.
* `Workload.AtRest`: no call is under way, the books are right, and so is the recorder.
* `Workload.Exchanged`: what a round does at a recorder.

## Results

* `Recorder.Counted.size_eq`: the size is the difference modulo 64 bits.
* `Workload.round_atRest`: every round is an exchange.
* `Workload.iterate_round_atRest`: what exchanges keep, any number of rounds keeps.
-/

namespace RegistryLoad

open Call

/-! ## Counting the writes -/

namespace Recorder

/-- How many calls of a kind were accepted. -/
def count (r : Recorder) (kind : WriteKind) : Nat := r.calls.countP (·.kind = kind)

/-- The size is what was registered less what was taken out, as words. -/
def Counted (r : Recorder) : Prop :=
  r.size = UInt64.ofNat (r.count .register) - UInt64.ofNat (r.count .unregister)

variable {r r' : Recorder}

theorem counted_fresh (rejecting : List String) : Counted { rejecting := rejecting } := by
  simp [Counted, count, calls]

theorem count_write (r : Recorder) (call : Call) (size : UInt64) (kind : WriteKind) :
    ({ r with latest := call.record :: r.latest, size := size } : Recorder).count kind
      = r.count kind + if call.record.kind = kind then 1 else 0 := by
  rw [count, calls_write, List.countP_append, List.countP_singleton]
  simp [count]

/-- A call keeps the count, be it accepted or rejected. -/
theorem Counted.apply (h : r.Counted) (call : Call) : (call.apply r).2.Counted := by
  by_cases rejected : call.subject.id ∈ r.rejecting
  · rw [apply_of_mem rejected]
    exact h
  · rw [apply_of_notMem rejected, Counted, count_write, count_write, UInt64.ofNat_add,
      UInt64.ofNat_add]
    show call.resized r.size = _
    rw [h]
    cases call with
    | register i =>
      show _ - _ + 1 = _ + 1 - (_ + 0)
      grind
    | unregister i =>
      show _ - _ - 1 = _ + 0 - (_ + 1)
      grind

/-- If no more was taken out than registered, the size is not above the difference. -/
theorem Counted.size_le (h : r.Counted) (covered : r.count .unregister ≤ r.count .register) :
    r.size.toNat + r.count .unregister ≤ r.count .register := by
  have size : r.size.toNat = (r.count .register - r.count .unregister) % 2 ^ 64 := by
    rw [h, ← UInt64.ofNat_sub covered, UInt64.toNat_ofNat']
  have bound := Nat.mod_le (r.count .register - r.count .unregister) (2 ^ 64)
  omega

/-- The size is the difference, or what remains of it modulo 64 bits. -/
theorem Counted.size_eq (h : r.Counted) :
    (r.size.toNat : Int) = ((r.count .register : Int) - r.count .unregister) % 2 ^ 64 := by
  have size : r.size.toNat = (2 ^ 64 - r.count .unregister % 2 ^ 64
      + r.count .register % 2 ^ 64) % 2 ^ 64 := by
    rw [h, UInt64.toNat_sub, UInt64.toNat_ofNat', UInt64.toNat_ofNat']
  omega

end Recorder

/-! ## What passes -/

namespace Call

variable {rejecting : List String}

/-- The instances before the first rejected one, or all of them. -/
def through (rejecting : List String) (is : List Instance) : List Instance :=
  is.takeWhile fun i => !rejecting.contains i.id

theorem through_isPrefix (rejecting : List String) (is : List Instance) :
    through rejecting is <+: is :=
  List.takeWhile_prefix _

/-- Either all instances pass, or there is one at which they stop. -/
theorem through_cases (rejecting : List String) (is : List Instance) :
    through rejecting is = is ∨
      ∃ i back, is = through rejecting is ++ i :: back ∧ i.id ∈ rejecting := by
  have split : through rejecting is ++ is.dropWhile (fun i => !rejecting.contains i.id) = is :=
    List.takeWhile_append_dropWhile
  cases others : is.dropWhile (fun i => !rejecting.contains i.id) with
  | nil =>
    rw [others, List.append_nil] at split
    exact .inl split
  | cons i back =>
    rw [others] at split
    have stop := List.head?_dropWhile_not (fun i : Instance => !rejecting.contains i.id) is
    rw [others] at stop
    exact .inr ⟨i, back, split.symm, by simpa using stop⟩

/-- No instance passes a rejected one. -/
theorem length_through_le {front back : List Instance} {i : Instance}
    (rejected : i.id ∈ rejecting) :
    (through rejecting (front ++ i :: back)).length ≤ front.length := by
  have here : through rejecting (i :: back) = [] := by
    simp [through, rejected]
  rw [through] at here
  rw [through, List.takeWhile_append, here]
  split
  · simp
  · exact (through_isPrefix rejecting front).length_le

theorem passed_register (rejecting : List String) (is : List Instance) :
    passed rejecting (is.map register) = (through rejecting is).map register :=
  List.takeWhile_map

theorem passed_unregister (rejecting : List String) (is : List Instance) :
    passed rejecting (is.map unregister) = (through rejecting is).map unregister :=
  List.takeWhile_map

/-- What passes of the calls of a tick: the registrations, and if all of them do, the removals. -/
theorem passed_tick (rejecting : List String) (joined left : List Instance) :
    passed rejecting (joined.map register ++ left.map unregister) =
      (through rejecting joined).map register ++
        if (through rejecting joined).length = joined.length then
          (through rejecting left).map unregister
        else [] := by
  have front := passed_register rejecting joined
  have back := passed_unregister rejecting left
  rw [passed] at front back
  rw [passed, List.takeWhile_append, front, back, List.length_map, List.length_map]
  split
  · rename_i all
    have whole := (through_isPrefix rejecting joined).eq_of_length all
    rw [whole]
  · rw [List.append_nil]

end Call

namespace Recorder

variable {rejecting : List String} {joined left : List Instance} {r r' : Recorder}

/-- What is counted more when the calls of a tick were made. -/
theorem count_of_calls_eq (calls : r'.calls = r.calls ++
      (passed rejecting (joined.map register ++ left.map unregister)).map record) :
    r'.count .register = r.count .register + (through rejecting joined).length ∧
      r'.count .unregister = r.count .unregister +
        if (through rejecting joined).length = joined.length then
          (through rejecting left).length
        else 0 := by
  rw [passed_tick] at calls
  constructor
  · rw [count, count, calls]
    split <;> simp [List.countP_map, Function.comp_def, record]
  · rw [count, count, calls]
    split <;> simp [List.countP_map, Function.comp_def, record]

end Recorder

/-- What the calls of a tick enter. -/
theorem Ledger.enter_tick {τ : Type} [Topology τ] (l : Ledger) (topology : τ)
    (joined left : List Instance) :
    (l.enter topology (joined.map register ++ left.map unregister)).registered
        = l.registered ++ joined ∧
      (l.enter topology (joined.map register ++ left.map unregister)).retired
        = l.retired ++ left := by
  simp [registered, retired, enter, registrations, retirements, List.filterMap_map,
    Function.comp_def, registered?, retired?]

/-! ## Rounds -/

namespace Workload

variable {τ : Type} {rejecting : List String}

/-- No call is under way.  The books of `ledger` are right, the recorder has written down what
passed, counted it, and was asked for no fewer registrations. -/
structure AtRest [Topology τ] (start : τ) (rejecting : List String) (ledger : Ledger)
    (w : Workload τ Recorder) : Prop where
  logged : ∃ chains, Logged rejecting chains [] chains w
  booked : Watched.Booked start ⟨w, ledger, []⟩
  counted : w.registry.Counted
  registered_le : w.registry.count .register ≤ ledger.registered.length

/-- From `w` to `w'` the instances `joined` came and `left` went, and of the calls for them those
that passed were counted. -/
structure Exchanged (rejecting : List String) (batch target : UInt64) (ledger ledger' : Ledger)
    (w w' : Workload τ Recorder) (joined left : List Instance) : Prop where
  joined_length : joined.length = min batch.toNat w.conveyor.pool.toList.length
  left_length : left.length =
    if w.registry.size ≤ target then 0
    else min batch.toNat (w.conveyor.active.toList.length + joined.length)
  active_eq : w.conveyor.active.toList ++ joined = left ++ w'.conveyor.active.toList
  retired_eq : ledger'.retired = ledger.retired ++ left
  registered_eq : w'.registry.count .register =
    w.registry.count .register + (through rejecting joined).length
  unregistered_eq : w'.registry.count .unregister =
    w.registry.count .unregister +
      if (through rejecting joined).length = joined.length then (through rejecting left).length
      else 0

section

variable [Topology τ] {start : τ} {ledger : Ledger} {w : Workload τ Recorder}

theorem opening_atRest (start : τ) (rejecting : List String) (subscriptions : Subscriptions) :
    AtRest start rejecting { initial := Topology.servicePool start }
      { registry := { rejecting := rejecting }, conveyor := Conveyor.start start
        subscriptions := subscriptions } where
  logged := ⟨[], opening_logged start rejecting subscriptions⟩
  booked := Watched.opening_booked start ({ rejecting := rejecting } : Recorder) subscriptions
  counted := Recorder.counted_fresh rejecting
  registered_le := Nat.le_refl 0

theorem AtRest.conserves (h : AtRest start rejecting ledger w) :
    w.conveyor.pool.toList.length + w.conveyor.active.toList.length
      = (Topology.servicePool start).length := by
  have conserved := h.booked.accounts.conserves
  rw [h.booked.comesFrom.initial_eq, Fifo.size_eq_length, Fifo.size_eq_length] at conserved
  exact conserved

/-- No more was registered than supplied. -/
theorem AtRest.supply (h : AtRest start rejecting ledger w) :
    w.registry.count .register ≤ (Topology.servicePool start).length + ledger.retired.length := by
  have all := congrArg List.length h.booked.accounts.supplied_eq
  have renewed := h.booked.accounts.made_length
  have asked := h.registered_le
  rw [Ledger.supplied, h.booked.comesFrom.initial_eq, List.length_append, List.length_append] at all
  show _ ≤ _ + ledger.retired.length
  dsimp only at all renewed
  omega

/-- All calls under way are made: the chains that were submitted are done with. -/
theorem drain_logged {finished chains : List (List Call)} {made : List Call}
    (h : Logged rejecting finished made chains w) : Logged rejecting chains [] chains w.drain := by
  have drained : ∃ finished made, Logged rejecting finished made chains w.drain := by
    refine drain_preserves (P := fun w => ∃ finished made,
      Logged rejecting finished made chains w) ?_ ⟨finished, made, h⟩
    intro w₁ w₂ ⟨finished, made, logged⟩ next
    have further := nextCall_logged {} logged
    rw [move, next, Option.getD_some] at further
    exact further
  obtain ⟨finished, made, logged⟩ := drained
  have all := logged.chains_eq
  rw [pending_drain, List.map_nil, List.modifyHead_nil, List.append_nil] at all
  rw [← all, logged.idle (pending_drain w)] at logged
  exact logged

omit [Topology τ] in
/-- The calls under way keep the count. -/
theorem drain_counted (h : w.registry.Counted) : w.drain.registry.Counted := by
  refine drain_preserves (P := fun w : Workload τ Recorder => w.registry.Counted) ?_ h
  intro w₁ w₂ counted next
  obtain ⟨-, -, -, ⟨_, -, same⟩ | ⟨call, _, _, _, -, after, -⟩⟩ := applyNext?_eq_some next
  · rw [same]
    exact counted
  · rw [after]
    exact counted.apply call

theorem flatMap_ofCalls (rejecting : List String) (calls : List Call) :
    ((Chain.ofCalls calls).map (·.calls)).flatMap (passed rejecting) = passed rejecting calls := by
  unfold Chain.ofCalls
  split
  · rename_i none
    rw [none]
    rfl
  · simp

/-- What passes of the calls of a tick is written down in its round. -/
theorem round_logged (h : ∃ chains, Logged rejecting chains [] chains w) (batch target : UInt64) :
    (∃ chains, Logged rejecting chains [] chains (w.round batch target)) ∧
      (w.round batch target).registry.calls = w.registry.calls ++
        (passed rejecting (w.conveyor.tick batch target w.registry w.board).2.calls).map record := by
  obtain ⟨chains, logged⟩ := h
  have finished := drain_logged (registrationTick_logged
    { registrations := { schedule := ⟨.zero, batch⟩, target := target } } logged)
  refine ⟨⟨_, finished⟩, finished.calls_eq.trans ?_⟩
  rw [logged.calls_eq, ← List.map_append, List.append_nil, List.append_nil, List.flatMap_append,
    submission, flatMap_ofCalls]
  rfl

/-- **Every round is an exchange.** -/
theorem round_atRest (h : AtRest start rejecting ledger w) (batch target : UInt64) :
    ∃ ledger' joined left, AtRest start rejecting ledger' (w.round batch target) ∧
      left.length = (w.registrationTick batch target).1.unregistered ∧
      Exchanged rejecting batch target ledger ledger' w (w.round batch target) joined left := by
  obtain ⟨finished, written⟩ := round_logged h.logged batch target
  have ticked := Watched.registrationTick_booked
    { registrations := { schedule := ⟨.zero, batch⟩, target := target } } h.booked
  obtain ⟨conveyor, board⟩ := (w.registrationTick batch target).2.drain_frame
  have booked := ticked.congr [] conveyor (.of_eq board)
  obtain ⟨joined, left, moved, carried, joined_length, left_length⟩ := Conveyor.tick_carried
    (Registry.steady_of_alone (fun _ => rfl) w.registry) batch target w.conveyor w.board
  rw [carried.calls_eq] at written
  obtain ⟨registered, unregistered⟩ := Recorder.count_of_calls_eq written
  have asked : w.asked ({ schedule := ⟨.zero, batch⟩, target := target } : Pace)
      = joined.map register ++ left.map unregister := carried.calls_eq
  obtain ⟨entered, retired⟩ := ledger.enter_tick w.conveyor.topology joined left
  rw [← asked] at entered retired
  have untouched : (w.registrationTick batch target).2.registry = w.registry :=
    w.conveyor.tick_registry (fun _ => rfl) batch target w.registry w.board
  refine ⟨_, joined, left, ⟨finished, booked, drain_counted (untouched ▸ h.counted), ?_⟩, ?_, ?_⟩
  · have few := (through_isPrefix rejecting joined).length_le
    have before := h.registered_le
    have length := congrArg List.length entered
    rw [List.length_append] at length
    show (w.round batch target).registry.count .register ≤ _
    rw [registered]
    refine Nat.le_trans ?_ length.ge
    omega
  · exact (congrArg Moved.unregistered moved).symm
  · refine ⟨joined_length, left_length, ?_, retired, registered, unregistered⟩
    rw [carried.active_eq]
    exact congrArg (fun c => left ++ c.active.toList) conveyor.symm

end

namespace Exchanged

variable {batch target : UInt64} {ledger ledger' : Ledger} {w w' : Workload τ Recorder}
  {joined left : List Instance}

theorem unregistered_le (h : Exchanged rejecting batch target ledger ledger' w w' joined left) :
    w'.registry.count .unregister ≤
      w.registry.count .unregister + (through rejecting left).length := by
  rw [h.unregistered_eq]
  split <;> omega

theorem length_eq (h : Exchanged rejecting batch target ledger ledger' w w' joined left) :
    w.conveyor.active.toList.length + joined.length
      = left.length + w'.conveyor.active.toList.length := by
  have lengths := congrArg List.length h.active_eq
  rwa [List.length_append, List.length_append] at lengths

end Exchanged

/-! ## Any number of rounds -/

/-- How many instances the ticks of the first `n` rounds take out. -/
def retiredIn {ρ : Type} [Topology τ] [Registry ρ] (batch target : UInt64) (w : Workload τ ρ) :
    Nat → Nat
  | 0 => 0
  | n + 1 => retiredIn batch target w n +
      (((round batch target)^[n] w).registrationTick batch target).1.unregistered

theorem retiredIn_le {ρ : Type} [Topology τ] [Registry ρ] (batch target : UInt64)
    (w : Workload τ ρ) (n : Nat) : retiredIn batch target w n ≤ n * batch.toNat := by
  induction n with
  | zero => exact Nat.zero_le _
  | succ n ih =>
    obtain ⟨-, -, few⟩ := Conveyor.tick_amount batch target ((round batch target)^[n] w).conveyor
      ((round batch target)^[n] w).registry ((round batch target)^[n] w).board
    rw [retiredIn, Nat.succ_mul]
    exact Nat.add_le_add ih few

section

variable [Topology τ] {start : τ} {ledger : Ledger} {w : Workload τ Recorder}

/-- What exchanges keep, any number of rounds keeps. -/
theorem iterate_round_atRest (batch target : UInt64) (Keeps : Ledger → Workload τ Recorder → Prop)
    (step : ∀ {ledger ledger' w w' joined left}, AtRest start rejecting ledger w →
      AtRest start rejecting ledger' w' →
      Exchanged rejecting batch target ledger ledger' w w' joined left →
      Keeps ledger w → Keeps ledger' w')
    (rest : AtRest start rejecting ledger w) (opening : Keeps ledger w) (n : Nat) :
    ∃ ledger', AtRest start rejecting ledger' ((round batch target)^[n] w) ∧
      ledger'.retired.length = ledger.retired.length + retiredIn batch target w n ∧
      Keeps ledger' ((round batch target)^[n] w) := by
  induction n with
  | zero => exact ⟨ledger, rest, rfl, opening⟩
  | succ n ih =>
    obtain ⟨ledger', rest', retired, keeps⟩ := ih
    obtain ⟨ledger'', joined, left, rest'', amount, exchanged⟩ := round_atRest rest' batch target
    rw [Function.iterate_succ_apply']
    refine ⟨ledger'', rest'', ?_, step rest' rest'' exchanged keeps⟩
    rw [exchanged.retired_eq, List.length_append, retired, amount, retiredIn, Nat.add_assoc]

end

end Workload

end RegistryLoad
