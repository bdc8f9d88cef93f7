import Mathlib.Data.List.Rotate
import RegistryLoad.Proofs.Topology.Services

/-!
# The interests of a generator

A generator repeats one round of interests for ever: each application by its name and by its
address, then the whole registry.  A window as long as a round is that round, begun somewhere else,
so that it holds each interest once.  An instance that the generator gave is covered by three of
them, one for its application, one for its address and one for everything.

## Definitions

* `Generator.interests`: one round of interests.
* `Generator.window`: as many queries in a row as there are in a round.
* `Generator.Issued`: an instance of the pool, or one that has come from it by replacements.

## Results

* `Generator.window_eq_rotate`: each window is a round that is begun somewhere else.
* `Generator.countP_covers`: how many interests of a round cover an instance.
* `Generator.Issued.service_eq`: an issued instance belongs to an application.
* `Generator.queries_cover_evenly`: the two together.
-/

namespace RegistryLoad

open RegistryLoad.Text

/-! ## Addresses -/

theorem virtualAddressOf_injective (topology : String) :
    Function.Injective (virtualAddressOf topology) := by
  intro a b same
  have letters := congrArg String.toList same
  simp only [virtualAddressOf, String.toList_append, List.append_left_inj, String.toList_inj]
    at letters
  exact applicationName_injective letters

namespace Generator

variable {g : Generator}

/-! ## One round -/

/-- The interests in application `a`. -/
def interestsIn (g : Generator) (a : Nat) : List Interest :=
  [.application (applicationName a), .virtualAddress (virtualAddressOf g.name a)]

/-- One round of interests: each application by its name and by its address, then the whole
registry. -/
def interests (g : Generator) : List Interest :=
  (List.range g.applications.toNat).flatMap g.interestsIn ++ [.fullRegistry]

/-- The number of interests of a round. -/
def round (g : Generator) : Nat := 2 * g.applications.toNat + 1

theorem mem_interests {interest : Interest} :
    interest ∈ g.interests ↔ interest = .fullRegistry ∨ ∃ a < g.applications.toNat,
      interest = .application (applicationName a) ∨
        interest = .virtualAddress (virtualAddressOf g.name a) := by
  simp [interests, interestsIn, or_comm]

/-- No interest is repeated within a round. -/
theorem nodup_interests (g : Generator) : g.interests.Nodup := by
  rw [interests, List.nodup_append]
  refine ⟨List.nodup_flatMap.mpr ⟨?_, ?_⟩, List.nodup_singleton _, ?_⟩
  · intro a _
    simp [interestsIn]
  · -- Names and addresses tell the application.
    refine List.nodup_range.imp ?_
    intro a b other
    simpa [Function.onFun, interestsIn, applicationName_injective.eq_iff,
      (virtualAddressOf_injective g.name).eq_iff] using other.symm
  · intro interest known
    simp only [interestsIn, List.mem_flatMap, List.mem_cons, List.not_mem_nil, or_false] at known
    obtain ⟨a, -, rfl | rfl⟩ := known <;> simp

/-! ## Queries -/

/-- A query depends on its place in a round only. -/
theorem query_mod (g : Generator) (k : Nat) : g.query (k % g.round) = g.query k := by
  simp only [query, round, Nat.mod_mod]

theorem query_congr {k l : Nat} (same : k % g.round = l % g.round) : g.query k = g.query l := by
  rw [← query_mod, same, query_mod]

theorem query_name {a : Nat} (known : a < g.applications.toNat) :
    g.query (2 * a) = .application (applicationName a) := by
  have place : 2 * a % (2 * g.applications.toNat + 1) = 2 * a := Nat.mod_eq_of_lt (by omega)
  have half : 2 * a / 2 = a := by omega
  rw [query, place, if_neg (by omega), if_pos (by omega), half]

theorem query_address {a : Nat} (known : a < g.applications.toNat) :
    g.query (2 * a + 1) = .virtualAddress (virtualAddressOf g.name a) := by
  have place : (2 * a + 1) % (2 * g.applications.toNat + 1) = 2 * a + 1 :=
    Nat.mod_eq_of_lt (by omega)
  have half : (2 * a + 1) / 2 = a := by omega
  rw [query, place, if_neg (by omega), if_neg (by omega), half]

theorem query_last (g : Generator) : g.query (2 * g.applications.toNat) = .fullRegistry := by
  simp [query]

/-- The first queries are in the first applications. -/
theorem flatMap_interestsIn {n : Nat} (few : n ≤ g.applications.toNat) :
    (List.range n).flatMap g.interestsIn = (List.range (2 * n)).map g.query := by
  induction n with
  | zero => rfl
  | succ n ih =>
    have double : 2 * (n + 1) = 2 * n + 1 + 1 := by omega
    have next : g.interestsIn n = [g.query (2 * n), g.query (2 * n + 1)] := by
      rw [query_name few, query_address few, interestsIn]
    rw [double, List.range_succ, List.range_succ, List.range_succ, List.flatMap_append,
      ih (by omega), List.map_append, List.map_append, List.append_assoc, List.flatMap_singleton,
      next]
    rfl

/-- **The first queries are one round.** -/
theorem interests_eq_map_query (g : Generator) :
    g.interests = (List.range g.round).map g.query := by
  rw [interests, flatMap_interestsIn le_rfl, round, List.range_succ, List.map_append,
    List.map_singleton, query_last]

theorem length_interests (g : Generator) : g.interests.length = g.round := by
  rw [interests_eq_map_query, List.length_map, List.length_range]

/-- As many queries as there are in a round, from some query on. -/
def window (g : Generator) (start : Nat) : List Interest :=
  (List.range g.round).map fun k => g.query (start + k)

/-- **A window is a round that is begun somewhere else.** -/
theorem window_eq_rotate (g : Generator) (start : Nat) :
    g.window start = g.interests.rotate start := by
  apply List.ext_getElem
  · simp [window, length_interests]
  · intro k _ _
    rw [List.getElem_rotate]
    simp only [interests_eq_map_query, window, List.getElem_map, List.getElem_range,
      List.length_map, List.length_range]
    rw [query_mod, Nat.add_comm]

theorem window_perm (g : Generator) (start : Nat) : (g.window start).Perm g.interests := by
  rw [window_eq_rotate]
  exact g.interests.rotate_perm start

/-! ## Covered instances -/

/-- **An instance is covered thrice**: by the interest in its application, by that in its address
and by that in everything. -/
theorem countP_covers {a : Nat} {i : Instance} (known : a < g.applications.toNat)
    (service : i.service = serviceOf g.name a) : g.interests.countP (·.covers i) = 3 := by
  obtain ⟨application, address⟩ := Prod.mk.inj service
  have three : (g.interests.filter (·.covers i)).Perm
      [.application i.application, .virtualAddress i.virtualAddress, .fullRegistry] := by
    rw [List.perm_ext_iff_of_nodup (g.nodup_interests.filter _) (by simp)]
    intro interest
    rw [List.mem_filter, mem_interests]
    cases interest with
    | fullRegistry => simp [Interest.covers]
    | application n =>
      simp only [Interest.covers, beq_iff_eq, reduceCtorEq, false_or, or_false, List.mem_cons,
        Interest.application.injEq, List.not_mem_nil]
      exact ⟨fun h => h.2.symm, fun same => ⟨⟨a, known, same.trans application⟩, same.symm⟩⟩
    | virtualAddress n =>
      simp only [Interest.covers, beq_iff_eq, reduceCtorEq, false_or, or_false, List.mem_cons,
        Interest.virtualAddress.injEq, List.not_mem_nil]
      exact ⟨fun h => h.2.symm, fun same => ⟨⟨a, known, same.trans address⟩, same.symm⟩⟩
  rw [List.countP_eq_length_filter, three.length_eq]
  rfl

/-- An instance of the pool, or a replacement for an issued one, whatever was replaced before. -/
inductive Issued (g : Generator) : Instance → Prop
  | pool {i : Instance} (known : i ∈ g.services) : Issued g i
  | replacement {i : Instance} (issued : Issued g i) (earlier : List Instance) :
      Issued g ((replacements earlier g).2.replacementFor i).1

variable {name : String} {applications instances seed : UInt64}

/-- **Issued instances belong to an application**, however often they were replaced. -/
theorem Issued.service_eq (made : create name applications instances seed = .ok g) {i : Instance}
    (issued : g.Issued i) : ∃ a < applications.toNat, i.service = serviceOf name a := by
  induction issued with
  | pool known => exact exists_service_of_mem made (List.mem_map_of_mem known)
  | replacement _ earlier ih => rwa [service_replacementFor]

theorem query_replacementFor (g : Generator) (i : Instance) :
    (g.replacementFor i).2.query = g.query := by
  rw [replacementFor_eq]
  rfl

/-- Replacements do not change the interests. -/
theorem query_replacements (asked : List Instance) (g : Generator) :
    (replacements asked g).2.query = g.query := by
  induction asked generalizing g with
  | nil => rfl
  | cons i asked ih =>
    rw [replacements_cons]
    exact (ih _).trans (g.query_replacementFor i)

theorem frame_of_create (made : create name applications instances seed = .ok g) :
    g.name = name ∧ g.applications = applications := by
  unfold create at made
  split at made
  · cases made
  · split at made
    · cases made
    · cases made
      exact ⟨rfl, rfl⟩

/-- **The queries cover the topology evenly.** -/
theorem queries_cover_evenly (name : String) (applications instances seed : UInt64)
    (some : applications ≠ 0) :
    (name ≠ "" → ∃ g, create name applications instances seed = .ok g) ∧
    ∀ g, create name applications instances seed = .ok g →
      let round := 2 * applications.toNat + 1
      (∀ asked k, (replacements asked g).2.query k = g.query k) ∧
      (∀ k l, k % round = l % round → g.query k = g.query l) ∧
      ∀ start,
        let window := (List.range round).map fun k => g.query (start + k)
        window.Nodup ∧
        (∀ interest, interest ∈ window ↔ interest = .fullRegistry ∨ ∃ a < applications.toNat,
          interest = .application (applicationName a) ∨
            interest = .virtualAddress (virtualAddressOf name a)) ∧
        ∀ i, g.Issued i → window.countP (·.covers i) = 3 := by
  refine ⟨fun named => create_ok name applications instances seed (by simpa using named) some, ?_⟩
  intro g made round
  obtain ⟨rfl, rfl⟩ := frame_of_create made
  refine ⟨fun asked k => congrFun (query_replacements asked g) k, fun k l => query_congr, ?_⟩
  intro start window
  have perm : window.Perm g.interests := g.window_perm start
  refine ⟨perm.nodup_iff.mpr g.nodup_interests, ?_, ?_⟩
  · intro interest
    rw [perm.mem_iff, mem_interests]
  · intro i issued
    obtain ⟨a, known, service⟩ := issued.service_eq made
    rw [perm.countP_eq, countP_covers known service]

/-- A case of it: an instance of two applications that was replaced twice, after another one, and a
window that begins in the middle of a round. -/
theorem twice_replaced_covered :
    ∃ g, create "perf-2" 2 1 9 = .ok g ∧ ∃ i ∈ g.services,
      let fresh := ((replacements [] g).2.replacementFor i).1
      let fresher := ((replacements [i, default] g).2.replacementFor fresh).1
      ((List.range 5).map fun k => g.query (3 + k)).countP (·.covers fresher) = 3 := by
  obtain ⟨exist, cover⟩ := queries_cover_evenly "perf-2" 2 1 9 (by decide)
  obtain ⟨g, made⟩ := exist (by decide)
  have filled : 0 < g.services.length := by
    rw [(create_ready made).2]
    decide
  obtain ⟨i, known⟩ := List.exists_mem_of_length_pos filled
  refine ⟨g, made, i, known, ?_⟩
  intro fresh fresher
  have issued : g.Issued fresher := ((Issued.pool known).replacement []).replacement [i, default]
  obtain ⟨-, -, windows⟩ := cover g made
  exact (windows 3).2.2 fresher issued

end Generator

end RegistryLoad
