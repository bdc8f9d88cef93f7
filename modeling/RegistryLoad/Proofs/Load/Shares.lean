import RegistryLoad.Proofs.Load.Moves
import RegistryLoad.Proofs.Topology.Services

/-!
# The shares of applications

Each application of a generator has its share of the pool, and a replacement belongs to the
application of the instance that it replaces.  Hence each application keeps its share of the
instances on a conveyor, wherever they are and however late or badly the calls are made.

## Results

* `Ledger.services_held`: pool and active instances together belong where the first pool did.
* `Watched.applications_keep_shares`: what that says about any history.
-/

namespace RegistryLoad

/-! ## The conveyor -/

/-- **Every application keeps its instances.**  What the replacements brought is what the retired
instances took away, so that pool and active instances belong where the first pool did. -/
theorem Ledger.services_held {l : Ledger} {c : Conveyor Generator} {board : Counters}
    {start : Generator} (accounts : l.Accounts c board) (comesFrom : l.ComesFrom start c.topology) :
    ((c.pool.toList ++ c.active.toList).map Instance.service).Perm
      (start.services.map Instance.service) := by
  have replaced : l.made.map Instance.service = l.retired.map Instance.service := by
    rw [comesFrom.made_eq, Generator.service_replacements]
  have supplied : l.initial ++ l.made = l.retired ++ c.active.toList ++ c.pool.toList := by
    rw [← accounts.registered_eq, ← accounts.supplied_eq, supplied]
  have services := congrArg (List.map Instance.service) supplied
  simp only [List.map_append, replaced, List.append_assoc] at services
  rw [comesFrom.initial_eq] at services
  -- The retired instances stand on both sides, in front and behind.
  rw [List.map_append, ← List.perm_append_left_iff (l.retired.map Instance.service)]
  have swapped : (c.pool.toList.map Instance.service ++ c.active.toList.map Instance.service).Perm
      (c.active.toList.map Instance.service ++ c.pool.toList.map Instance.service) :=
    List.perm_append_comm
  exact (swapped.append_left _).trans (services ▸ List.perm_append_comm)

namespace Watched

variable {ρ : Type}

/-- **Every application keeps its share.**  Begin with a generator that has given any replacements
already and a full pool, and let ticks happen with calls in between that are made late, refused or
made out of turn, while others write to the registry.  At any time the instances in the pool and
the active ones together are shared out to the applications as evenly as they can be, the first
applications having those that remain, and all of them belong to one. -/
theorem applications_keep_shares [Registry ρ] {name : String}
    {applications instances seed : UInt64} {g₀ : Generator}
    (made : Generator.create name applications instances seed = .ok g₀) (earlier : List Instance)
    (plan : Plan) (registry : ρ) (subscriptions : Subscriptions) (events : List (Event ρ)) :
    let s := (opening (replacements earlier g₀).2 registry subscriptions).history plan events
    let held := s.work.conveyor.pool.toList ++ s.work.conveyor.active.toList
    (∀ a < applications.toNat,
      (held.map Instance.service).count (serviceOf name a) =
        instances.toNat / applications.toNat +
          if a < instances.toNat % applications.toNat then 1 else 0) ∧
      ∀ i ∈ held, ∃ a < applications.toNat, i.service = serviceOf name a := by
  intro s held
  obtain ⟨ready, -⟩ := Generator.create_ready made
  obtain ⟨-, -, services⟩ := ready.replacements earlier
  obtain ⟨accounts, comesFrom⟩ := history_booked plan events
    (opening_booked (replacements earlier g₀).2 registry subscriptions)
  have shared : (held.map Instance.service).Perm (g₀.services.map Instance.service) := by
    rw [← services]
    exact Ledger.services_held accounts comesFrom
  constructor
  · intro a known
    rw [shared.count_eq, Generator.count_services made known]
  · intro i known
    exact Generator.exists_service_of_mem made
      (shared.mem_iff.mp (List.mem_map_of_mem known))

/-- A case of it: seven instances of three applications, of which the first one has three, after
ticks between which a call is refused, others write, and one chain overtakes another. -/
theorem three_applications_keep_shares :
    ∃ g₀, Generator.create "a-1" 3 7 5 = .ok g₀ ∧
      let plan : Plan := { registrations := { schedule := ⟨.zero, 4⟩, target := 1 } }
      let events : List (Event Store) :=
        [.move .registrationTick, .move .nextCall, .move .nextCall, .move .registrationTick,
          .callOf 1, .others Store.shutDown, .move .nextCall, .move .registrationTick]
      let s := (opening (replacements [(default : Instance)] g₀).2 ({} : Store)
        { queries := g₀.queries }).history plan events
      let held := s.work.conveyor.pool.toList ++ s.work.conveyor.active.toList
      (held.map Instance.service).count ("app000", "app000.a-1.vip") = 3 ∧
        (held.map Instance.service).count ("app002", "app002.a-1.vip") = 2 := by
  obtain ⟨g₀, made⟩ := Generator.create_ok "a-1" 3 7 5 (by decide) (by decide)
  have first : serviceOf "a-1" 0 = ("app000", "app000.a-1.vip") := by decide +kernel
  have last : serviceOf "a-1" 2 = ("app002", "app002.a-1.vip") := by decide +kernel
  refine ⟨g₀, made, ?_⟩
  intro plan events s held
  obtain ⟨shares, -⟩ := applications_keep_shares made [default] plan ({} : Store)
    { queries := g₀.queries } events
  simp only [held, s, ← first, ← last]
  exact ⟨shares 0 (by decide), shares 2 (by decide)⟩

end Watched

end RegistryLoad
