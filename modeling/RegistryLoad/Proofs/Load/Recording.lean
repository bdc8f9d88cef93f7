import RegistryLoad.Proofs.Load.Effect

/-!
# What a recorder writes down

A recorder rejects the calls for some ids and writes down all others.  A rejected call ends its
chain, and no other: what the recorder has written down is what each chain holds before the first
call for a rejected id, one chain behind the other.

## Definitions

* `Call.record`: what a recorder writes down for a call.
* `Call.passed`: the calls of a chain before the first rejected one.
* `Workload.submitted`: the chains that the ticks of a run submit.
* `Workload.Logged`: the chains that are done with, the calls made of the next one, and the
  recorder's list of both.

## Results

* `Workload.move_logged`, `Workload.run_logged`: every move keeps that list right.
* `Workload.recorded_eq_passed`: what that says about any run.
-/

namespace RegistryLoad

namespace Call

/-- What a recorder writes down for a call. -/
def record : Call → Recorded
  | register i => ⟨.register, i.id, Source.perf⟩
  | unregister i => ⟨.unregister, i.id, Source.perf⟩

/-- The calls before the first one for a rejected id, or all of them. -/
def passed (rejecting : List String) (calls : List Call) : List Call :=
  calls.takeWhile fun call => !rejecting.contains call.subject.id

variable {rejecting : List String} {call : Call} {r : Recorder}

theorem passed_append {made calls : List Call}
    (through : ∀ call ∈ made, call.subject.id ∉ rejecting) :
    passed rejecting (made ++ calls) = made ++ passed rejecting calls := by
  refine List.takeWhile_append_of_pos fun call known => ?_
  simpa using through call known

theorem passed_cons_of_mem (calls : List Call) (rejected : call.subject.id ∈ rejecting) :
    passed rejecting (call :: calls) = [] := by
  simp [passed, rejected]

/-- A call for a rejected id is refused, and nothing changes. -/
theorem apply_of_mem (rejected : call.subject.id ∈ r.rejecting) :
    call.apply r = (.error (.rejected call.subject.id Recorder.rejection), r) := by
  cases call <;> exact if_pos (List.contains_iff_mem.mpr rejected)

/-- The size that a recorder tells after a call that it accepted. -/
def resized : Call → UInt64 → UInt64
  | register _, size => size + 1
  | unregister _, size => size - 1

/-- Any other call is written down and counted. -/
theorem apply_of_notMem (accepted : call.subject.id ∉ r.rejecting) :
    call.apply r =
      (.ok true, { r with latest := call.record :: r.latest, size := call.resized r.size }) := by
  have through : ¬ r.rejecting.contains call.subject.id = true := by
    simpa using accepted
  cases call <;> exact if_neg through

end Call

namespace Recorder

theorem calls_write (r : Recorder) (call : Call) (size : UInt64) :
    ({ r with latest := call.record :: r.latest, size := size } : Recorder).calls
      = r.calls ++ [call.record] :=
  List.reverse_cons

end Recorder

namespace Workload

open Call

variable {τ : Type} [Topology τ] (plan : Plan)

/-- The chain that a move submits: the calls of a tick, if it asks for any. -/
def submission (w : Workload τ Recorder) : Move → List (List Call)
  | .registrationTick => (Chain.ofCalls (w.asked plan.registrations)).map (·.calls)
  | _ => []

/-- The chains that the ticks of a run submit, in their order. -/
def submitted : List Move → Workload τ Recorder → List (List Call)
  | [], _ => []
  | m :: moves, w => w.submission plan m ++ submitted moves (w.move plan m)

/-- Of the `chains` that were submitted, those `finished` are done with, and the calls `made` of the
next one were made.  The recorder has written down what passed of the former, and the latter. -/
structure Logged (rejecting : List String) (finished : List (List Call)) (made : List Call)
    (chains : List (List Call)) (w : Workload τ Recorder) : Prop where
  chains_eq : chains = finished ++ (w.pending.map (·.calls)).modifyHead (made ++ ·)
  idle : w.pending = [] → made = []
  nonempty : ∀ chain ∈ w.pending, chain.calls ≠ []
  accepted : ∀ call ∈ made, call.subject.id ∉ rejecting
  rejecting_eq : w.registry.rejecting = rejecting
  calls_eq : w.registry.calls = (finished.flatMap (passed rejecting) ++ made).map record

variable {rejecting : List String} {finished chains : List (List Call)} {made : List Call}
  {w : Workload τ Recorder}

theorem opening_logged (topology : τ) (rejecting : List String) (subscriptions : Subscriptions) :
    Logged rejecting [] [] []
      { registry := { rejecting := rejecting }, conveyor := Conveyor.start topology
        subscriptions := subscriptions } where
  chains_eq := rfl
  idle _ := rfl
  nonempty := by simp
  accepted := by simp
  rejecting_eq := rfl
  calls_eq := rfl

theorem modifyHead_nil_append (chains : List (List Call)) :
    chains.modifyHead ([] ++ ·) = chains := by
  cases chains <;> rfl

omit [Topology τ] in
/-- What leaves the registry and the chains under way alone needs no new entry. -/
theorem Logged.congr (h : Logged rejecting finished made chains w) {w' : Workload τ Recorder}
    (pending : w'.pending = w.pending) (registry : w'.registry = w.registry) :
    Logged rejecting finished made chains w' where
  chains_eq := by rw [pending]; exact h.chains_eq
  idle := by rw [pending]; exact h.idle
  nonempty := by rw [pending]; exact h.nonempty
  accepted := h.accepted
  rejecting_eq := by rw [registry]; exact h.rejecting_eq
  calls_eq := by rw [registry]; exact h.calls_eq

omit [Topology τ] in
/-- A chain that is done with makes way for the next one. -/
theorem logged_next {chain : List Call} {rest : List Chain}
    (split : chains = finished ++ chain :: rest.map (·.calls)) (pending : w.pending = rest)
    (nonempty : ∀ chain ∈ rest, chain.calls ≠ []) (rejecting_eq : w.registry.rejecting = rejecting)
    (calls_eq : w.registry.calls =
      (finished.flatMap (passed rejecting) ++ passed rejecting chain).map record) :
    Logged rejecting (finished ++ [chain]) [] chains w where
  chains_eq := by
    rw [pending, modifyHead_nil_append, split, List.append_assoc, List.singleton_append]
  idle _ := rfl
  nonempty := by rw [pending]; exact nonempty
  accepted := by simp
  rejecting_eq := rejecting_eq
  calls_eq := by
    rw [calls_eq, List.flatMap_append, List.flatMap_singleton, List.append_nil]

/-- The chain of a tick is submitted behind the others. -/
theorem registrationTick_logged (h : Logged rejecting finished made chains w) :
    Logged rejecting finished made (chains ++ w.submission plan .registrationTick)
      (w.move plan .registrationTick) := by
  have pending : (w.move plan .registrationTick).pending =
      w.pending ++ Chain.ofCalls (w.asked plan.registrations) :=
    w.pending_registrationTick _ _
  have untouched : (w.move plan .registrationTick).registry = w.registry :=
    w.conveyor.tick_registry (fun _ => rfl) _ _ w.registry w.board
  constructor
  · rw [pending, h.chains_eq, submission, List.map_append, List.append_assoc]
    cases waiting : w.pending with
    | nil =>
      rw [h.idle waiting, List.map_nil, List.nil_append, List.modifyHead_nil, List.nil_append,
        modifyHead_nil_append]
    | cons chain rest => simp
  · intro none
    rw [pending, List.append_eq_nil_iff] at none
    exact h.idle none.1
  · intro chain known
    rw [pending, List.mem_append] at known
    rcases known with old | new
    · exact h.nonempty chain old
    · unfold Chain.ofCalls at new
      split at new
      · cases new
      · rename_i some
        rw [List.mem_singleton.mp new]
        exact some
  · exact h.accepted
  · rw [untouched]
    exact h.rejecting_eq
  · rw [untouched]
    exact h.calls_eq

section

omit [Topology τ]

variable {w' : Workload τ Recorder} {call : Call} {calls : List Call} {total : Nat}
  {rest : List Chain}

/-- The next chain is what was made of it and what is still to be made. -/
theorem Logged.split (h : Logged rejecting finished made chains w)
    (waiting : w.pending = ⟨call :: calls, total⟩ :: rest) :
    chains = finished ++ (made ++ call :: calls) :: rest.map (·.calls) ∧
      ∀ chain ∈ rest, chain.calls ≠ [] := by
  constructor
  · rw [h.chains_eq, waiting]
    rfl
  · intro chain known
    apply h.nonempty
    rw [waiting]
    exact List.mem_cons_of_mem _ known

/-- A rejected call ends its chain. -/
theorem Logged.refuse (h : Logged rejecting finished made chains w)
    (waiting : w.pending = ⟨call :: calls, total⟩ :: rest)
    (rejected : call.subject.id ∈ rejecting) (pending : w'.pending = rest)
    (registry : w'.registry = w.registry) :
    Logged rejecting (finished ++ [made ++ call :: calls]) [] chains w' := by
  obtain ⟨split, others⟩ := h.split waiting
  refine logged_next split pending others (by rw [registry]; exact h.rejecting_eq) ?_
  rw [registry, h.calls_eq, passed_append h.accepted, passed_cons_of_mem calls rejected,
    List.append_nil]

/-- An accepted call is written down, and ends its chain if it was the last one. -/
theorem Logged.write (h : Logged rejecting finished made chains w)
    (waiting : w.pending = ⟨call :: calls, total⟩ :: rest)
    (accepted : call.subject.id ∉ rejecting)
    (pending : w'.pending = if calls.isEmpty then rest else ⟨calls, total⟩ :: rest)
    (rejecting_eq : w'.registry.rejecting = rejecting)
    (calls_eq : w'.registry.calls = w.registry.calls ++ [call.record]) :
    ∃ finished made, Logged rejecting finished made chains w' := by
  obtain ⟨split, others⟩ := h.split waiting
  have through : ∀ c ∈ made ++ [call], c.subject.id ∉ rejecting := by
    intro c known
    rcases List.mem_append.mp known with old | new
    · exact h.accepted c old
    · rw [List.mem_singleton.mp new]
      exact accepted
  have written : w'.registry.calls =
      (finished.flatMap (passed rejecting) ++ (made ++ [call])).map record := by
    rw [calls_eq, h.calls_eq]
    simp
  cases calls with
  | nil =>
    refine ⟨_, _, logged_next split pending others rejecting_eq ?_⟩
    have whole : passed rejecting (made ++ [call] ++ []) = made ++ [call] ++ [] :=
      passed_append through
    rw [List.append_nil] at whole
    rw [written, whole]
  | cons following calls =>
    refine ⟨finished, made ++ [call], ?_, ?_, ?_, through, rejecting_eq, written⟩
    · rw [split, pending]
      simp
    · intro none
      rw [pending] at none
      cases none
    · intro chain known
      rw [pending] at known
      rcases List.mem_cons.mp known with rfl | known
      · exact List.cons_ne_nil following calls
      · exact others chain known

end

/-- The next call is written down, or ends its chain. -/
theorem nextCall_logged (h : Logged rejecting finished made chains w) :
    ∃ finished made, Logged rejecting finished made chains (w.move plan .nextCall) := by
  show ∃ finished made, Logged rejecting finished made chains (w.applyNext?.getD w)
  cases next : w.applyNext? with
  | none => exact ⟨finished, made, h⟩
  | some w' =>
    rw [Option.getD_some]
    obtain ⟨-, -, -, ⟨total, waiting, -⟩ |
      ⟨call, calls, total, rest, waiting, after, outcome⟩⟩ := applyNext?_eq_some next
    · exact absurd rfl (h.nonempty ⟨[], total⟩ (by simp [waiting]))
    by_cases rejected : call.subject.id ∈ w.registry.rejecting
    · rw [apply_of_mem rejected] at after outcome
      have left : w'.pending = rest := by
        rcases outcome with ⟨-, left⟩ | ⟨⟨answer, well⟩, -⟩
        · exact left
        · cases well
      exact ⟨_, _, h.refuse waiting (h.rejecting_eq ▸ rejected) left after⟩
    · rw [apply_of_notMem rejected] at after outcome
      have left : w'.pending = if calls.isEmpty then rest else ⟨calls, total⟩ :: rest := by
        rcases outcome with ⟨⟨cause, refused⟩, -⟩ | ⟨-, left⟩
        · cases refused
        · exact left
      refine h.write waiting (h.rejecting_eq ▸ rejected) left ?_ ?_
      · rw [after]
        exact h.rejecting_eq
      · rw [after]
        exact w.registry.calls_write call _

theorem move_logged (m : Move) (h : Logged rejecting finished made chains w) :
    ∃ finished made, Logged rejecting finished made (chains ++ w.submission plan m)
      (w.move plan m) := by
  cases m with
  | registrationTick => exact ⟨finished, made, registrationTick_logged plan h⟩
  | interestTick =>
    obtain ⟨-, registry, pending, -⟩ := w.interestTick_frame plan.interests.schedule.batch
      plan.interests.target
    have silent : chains ++ w.submission plan .interestTick = chains := List.append_nil chains
    rw [silent]
    exact ⟨finished, made, h.congr pending registry⟩
  | nextCall =>
    have silent : chains ++ w.submission plan .nextCall = chains := List.append_nil chains
    rw [silent]
    exact nextCall_logged plan h
  | channels =>
    have silent : chains ++ w.submission plan .channels = chains := List.append_nil chains
    rw [silent]
    exact ⟨finished, made, h.congr rfl rfl⟩

/-- **Whatever the moves, the recorder's list is right.** -/
theorem run_logged (moves : List Move) (h : Logged rejecting finished made chains w) :
    ∃ finished made, Logged rejecting finished made (chains ++ submitted plan moves w)
      (moves.foldl (move plan) w) := by
  induction moves generalizing w finished made chains with
  | nil => exact ⟨_, _, (List.append_nil chains).symm ▸ h⟩
  | cons m moves ih =>
    obtain ⟨_, _, next⟩ := move_logged plan m h
    rw [submitted, ← List.append_assoc]
    exact ih next

/-- A tick submits registrations and, behind them, retirements. -/
theorem exists_of_mem_submitted (moves : List Move) (w : Workload τ Recorder) {chain : List Call}
    (known : chain ∈ submitted plan moves w) :
    ∃ joined left : List Instance, chain = joined.map register ++ left.map unregister := by
  induction moves generalizing w with
  | nil => cases known
  | cons m moves ih =>
    rcases List.mem_append.mp known with now | later
    · cases m with
      | registrationTick =>
        have steady := Registry.steady_of_alone (ρ := Recorder) (fun _ => rfl) w.registry
        obtain ⟨joined, left, -, carried, -⟩ := Conveyor.tick_carried steady
          plan.registrations.schedule.batch plan.registrations.target w.conveyor w.board
        obtain ⟨c, new, rfl⟩ := List.mem_map.mp now
        unfold Chain.ofCalls at new
        split at new
        · cases new
        · rw [List.mem_singleton.mp new]
          exact ⟨joined, left, carried.calls_eq⟩
      | interestTick => cases now
      | nextCall => cases now
      | channels => cases now
    · exact ih _ later

/-- **A rejected call cuts exactly the rest of its own chain.**  Begin with a full pool and an empty
recorder that rejects some ids, and let ticks happen whose calls are made one at a time, in their
order and at any later points.  The chains that were submitted, each with its registrations before
its retirements, are those that are done with, one of which some calls were made, if the next chain
was begun, and others.  The recorder has written down, one chain behind the other, the longest part
of each finished chain that has no rejected id, and the calls made of the one that was begun.  Every
entry carries the source of the load run. -/
theorem recorded_eq_passed (topology : τ) (rejecting : List String)
    (subscriptions : Subscriptions) (moves : List Move) :
    let start : Workload τ Recorder :=
      { registry := { rejecting := rejecting }, conveyor := Conveyor.start topology
        subscriptions := subscriptions }
    let w := moves.foldl (move plan) start
    (∃ finished made,
      submitted plan moves start =
        finished ++ (w.pending.map (·.calls)).modifyHead (made ++ ·) ∧
      (w.pending = [] → made = []) ∧
      (∀ call ∈ made, call.subject.id ∉ rejecting) ∧
      w.registry.calls = (finished.flatMap (passed rejecting) ++ made).map record) ∧
    (∀ chain ∈ submitted plan moves start,
      ∃ joined left : List Instance, chain = joined.map register ++ left.map unregister) ∧
    ∀ entry ∈ w.registry.calls, entry.source = Source.perf := by
  intro start w
  obtain ⟨finished, made, logged⟩ :=
    run_logged plan moves (opening_logged topology rejecting subscriptions)
  rw [List.nil_append] at logged
  refine ⟨⟨finished, made, logged.chains_eq, logged.idle, logged.accepted, logged.calls_eq⟩,
    fun chain known => exists_of_mem_submitted plan moves start known, ?_⟩
  intro entry known
  rw [logged.calls_eq] at known
  obtain ⟨call, -, rfl⟩ := List.mem_map.mp known
  cases call <;> rfl

end Workload

end RegistryLoad
