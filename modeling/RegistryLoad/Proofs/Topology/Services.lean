import Mathlib.Data.Int.CardIntervalMod
import RegistryLoad.Proofs.Topology.Sequence

/-!
# The applications of instances

The pool of a generator is dealt out to its applications in turn, so that each has its share of it.
A replacement belongs to the application of the instance that it replaces.

## Definitions

* `Instance.service`, `serviceOf`: the application and the address that an instance has, and those
  that a topology gives.

## Results

* `serviceOf_injective`: the applications of a topology can be told apart.
* `Generator.service_replacements`: replacements belong where the replaced instances did.
* `Generator.count_services`: the shares in the pool of a new generator.
-/

namespace RegistryLoad

open RegistryLoad.Text

/-! ## Services -/

/-- The application that an instance belongs to, with its address. -/
def Instance.service (i : Instance) : String × String := (i.application, i.virtualAddress)

/-- What a topology writes on the instances of application `a`. -/
def serviceOf (topology : String) (a : Nat) : String × String :=
  (applicationName a, virtualAddressOf topology a)

theorem applicationName_injective : Function.Injective applicationName := by
  intro a b same
  have digits := List.append_cancel_left (String.ofList_injective same)
  exact decimalPadded_injective 3 digits

/-- Three digits are a minimum: applications beyond the thousandth have names of their own, too. -/
theorem serviceOf_injective (topology : String) : Function.Injective (serviceOf topology) :=
  fun _ _ same => applicationName_injective (Prod.mk.inj same).1

namespace Generator

theorem service_replacementFor (g : Generator) (i : Instance) :
    (g.replacementFor i).1.service = i.service := by
  rw [replacementFor_eq]
  rfl

/-- **Replacements belong where the replaced instances did.** -/
theorem service_replacements (is : List Instance) (g : Generator) :
    (replacements is g).1.map Instance.service = is.map Instance.service := by
  induction is generalizing g with
  | nil => rfl
  | cons i is ih =>
    rw [replacements_cons, List.map_cons, List.map_cons, ih]
    exact congrArg (· :: _) (g.service_replacementFor i)

/-! ## The pool of a new generator -/

variable {name : String} {applications instances seed : UInt64} {g : Generator}

/-- The applications take turns. -/
theorem services_of_elements (count : Nat) :
    (elements name applications seed 0 count).map Instance.service =
      (List.range count).map fun n => serviceOf name (n % applications.toNat) := by
  rw [elements, List.map_map, ← List.range_eq_range']
  rfl

/-- Of the first numbers as many have a given remainder as there are full rounds, and one more if
the round that was begun has come to it. -/
theorem countP_mod {m a : Nat} (below : a < m) (n : Nat) :
    (List.range n).countP (fun k => k % m = a) = n / m + if a < n % m then 1 else 0 := by
  have counted := Nat.count_modEq_card n (Nat.zero_lt_of_lt below) a
  simpa only [Nat.count, Nat.ModEq, Nat.mod_eq_of_lt below] using counted

/-- **The shares of the pool.** -/
theorem count_services (made : create name applications instances seed = .ok g) {a : Nat}
    (known : a < applications.toNat) :
    (g.services.map Instance.service).count (serviceOf name a) =
      instances.toNat / applications.toNat +
        if a < instances.toNat % applications.toNat then 1 else 0 := by
  rw [(services_of_create made).1, services_of_elements, List.count, List.countP_map,
    ← countP_mod known]
  apply List.countP_congr
  intro n _
  simp [(serviceOf_injective name).eq_iff]

/-- A generator has an application. -/
theorem applications_pos (made : create name applications instances seed = .ok g) :
    0 < applications.toNat := by
  rw [Nat.pos_iff_ne_zero]
  intro none
  have zero : applications = 0 := UInt64.toNat_inj.mp none
  simp only [create, zero, if_true] at made
  split at made <;> cases made

/-- No other application has an instance in the pool. -/
theorem exists_service_of_mem (made : create name applications instances seed = .ok g)
    {service : String × String} (known : service ∈ g.services.map Instance.service) :
    ∃ a < applications.toNat, service = serviceOf name a := by
  rw [(services_of_create made).1, services_of_elements] at known
  obtain ⟨n, -, same⟩ := List.mem_map.mp known
  exact ⟨n % applications.toNat, Nat.mod_lt n (applications_pos made), same.symm⟩

end Generator

end RegistryLoad
