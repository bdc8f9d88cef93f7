import Std.Data.TreeMap.Lemmas
import Mathlib.Algebra.Group.Nat.Defs
import Mathlib.Data.List.Perm.Basic
import Mathlib.Tactic.ByContra
import RegistryLoad.Registry.Store

/-!
# The contents of a store

What a write does to the copies of each id, what it answers, and what keeps the count of the ids
right.

## Definitions

* `Store.WellKept`: no id without copies stays, and the count is the number of ids.
* `Store.Holding`: one source holds given instances, and nobody anything else.

## Results

* `copies_register`, `copies_unregister`: the copies of an id after a write.
* `copy?_register`, `copy?_unregister`: the copy of one source after a write.
* `register_of_open`, `unregister_of_present`: all that a write does.
* `feed_register`, `feed_unregister`: what a write announces.
* `unregister_answer`: the answer tells what was held before.
* `wellKept_register`, `wellKept_unregister`: the writes keep a store well-kept.
* `WellKept.count_eq_of_copies`: the count of a well-kept store is told by its copies.
* `holding_register`, `holding_unregister`: how the instances of a single owner come and go.
-/

namespace RegistryLoad

/-! ## Copies -/

namespace Copies

variable (copies : Copies) (owner source : Source) (i : Instance)

@[simp] theorem copy?_nil : copy? [] source = none := rfl

theorem copy?_without :
    (copies.without owner).copy? source = if owner = source then none else copies.copy? source := by
  unfold copy? without
  rw [List.find?_filter]
  by_cases same : owner = source
  · subst same
    simp
  · rw [if_neg same]
    congr 2
    funext entry
    by_cases own : entry.1 = source
    · simp [own, Ne.symm same]
    · simp [own]

theorem copy?_put :
    (copies.put owner i).copy? source = if owner = source then some i else copies.copy? source := by
  have split : (copies.put owner i).copy? source
      = ((copies.without owner).copy? source).or (copy? [(owner, i)] source) := by
    unfold put copy?
    rw [List.find?_append]
    cases (copies.without owner).find? fun entry => entry.1 == source <;> simp
  rw [split, copy?_without]
  by_cases same : owner = source
  · simp [same, copy?]
  · simp [same, copy?]

theorem put_ne_nil : copies.put owner i ≠ [] := by simp [put]

theorem isEmpty_iff_copy? : copies.isEmpty = true ↔ ∀ source, copies.copy? source = none := by
  cases copies with
  | nil => simp
  | cons entry rest =>
    constructor
    · intro h
      cases h
    · intro h
      have held := h entry.1
      simp [copy?] at held

end Copies

/-! ## Writes -/

namespace Store

open Copies

variable {s : Store} (source : Source) (i : Instance) (id : String)

theorem register_of_isShutDown (h : s.isShutDown = true) :
    s.register source i = (.error .shutDown, s) := by
  cases s
  simp_all [register]

theorem unregister_of_isShutDown (h : s.isShutDown = true) :
    s.unregister source i = (.error .shutDown, s) := by
  cases s
  simp_all [unregister]

@[simp] theorem isShutDown_register : (s.register source i).2.isShutDown = s.isShutDown := by
  cases s
  unfold register
  dsimp only
  split <;> rfl

@[simp] theorem isShutDown_unregister : (s.unregister source i).2.isShutDown = s.isShutDown := by
  cases s
  unfold unregister
  dsimp only
  split
  · rfl
  · split
    · rfl
    · split <;> rfl

/-- All that a registration does to an open store. -/
theorem register_of_open (h : s.isShutDown = false) :
    s.register source i = (.ok (s.copies i.id).isEmpty,
      { s with
        entries := s.entries.insert i.id ((s.copies i.id).put source i)
        count := if (s.copies i.id).isEmpty then s.count + 1 else s.count
        feed := s.feed.announce ⟨.added, i⟩ }) := by
  cases s
  simp_all [register, copies]

theorem unregister_of_absent (h : s.isShutDown = false) (absent : s.entries[i.id]? = none) :
    s.unregister source i = (.ok false, s) := by
  cases s
  simp_all [unregister]

variable {held : Copies}

/-- All that an unregistration does to an open store that knows the id. -/
theorem unregister_of_present (h : s.isShutDown = false) (present : s.entries[i.id]? = some held) :
    s.unregister source i = (.ok (held.copy? source).isSome,
      { s with
        entries :=
          if (held.without source).isEmpty then s.entries.erase i.id
          else s.entries.insert i.id (held.without source)
        count := if (held.without source).isEmpty then s.count - 1 else s.count
        feed := (held.copy? source).elim s.feed fun copy =>
          if (held.without source).isEmpty then s.feed.announce ⟨.deleted, copy⟩
          else s.feed }) := by
  obtain ⟨entries, count, feed, isShutDown⟩ := s
  cases copy : held.copy? source <;> simp_all [unregister]

theorem unregister_answer (h : s.isShutDown = false) :
    (s.unregister source i).1 = .ok (s.contains i.id source) := by
  cases present : s.entries[i.id]? with
  | none => simp [unregister_of_absent source i h present, contains, copies, present]
  | some held => simp [unregister_of_present source i h present, contains, copies, present]

theorem feed_register (h : s.isShutDown = false) :
    (s.register source i).2.feed = s.feed.announce ⟨.added, i⟩ := by
  rw [register_of_open source i h]

/-- Only the copy that leaves an id without any is announced as deleted. -/
theorem feed_unregister (h : s.isShutDown = false) :
    (s.unregister source i).2.feed = ((s.copies i.id).copy? source).elim s.feed fun copy =>
      if ((s.copies i.id).without source).isEmpty then s.feed.announce ⟨.deleted, copy⟩
      else s.feed := by
  cases present : s.entries[i.id]? with
  | none => simp [unregister_of_absent source i h present, copies, present]
  | some held => simp [unregister_of_present source i h present, copies, present]

theorem copies_register (h : s.isShutDown = false) :
    (s.register source i).2.copies id
      = if i.id = id then (s.copies id).put source i else s.copies id := by
  by_cases same : i.id = id
  · subst same
    simp [copies, register_of_open source i h]
  · simp [copies, register_of_open source i h, Std.TreeMap.getElem?_insert, same]

theorem copies_unregister (h : s.isShutDown = false) :
    (s.unregister source i).2.copies id
      = if i.id = id then (s.copies id).without source else s.copies id := by
  cases present : s.entries[i.id]? with
  | none =>
    rw [unregister_of_absent source i h present]
    by_cases same : i.id = id
    · subst same
      simp [copies, present, without]
    · rw [if_neg same]
  | some held =>
    by_cases same : i.id = id
    · subst same
      by_cases last : (held.without source).isEmpty
      · simp_all [copies, unregister_of_present source i h present]
      · simp [copies, unregister_of_present source i h present, last, present]
    · by_cases last : (held.without source).isEmpty
      · simp [copies, unregister_of_present source i h present, last, Std.TreeMap.getElem?_erase,
          same]
      · simp [copies, unregister_of_present source i h present, last, Std.TreeMap.getElem?_insert,
          same]

theorem copy?_register (h : s.isShutDown = false) (owner : Source) :
    ((s.register source i).2.copies id).copy? owner
      = if i.id = id ∧ source = owner then some i else (s.copies id).copy? owner := by
  rw [copies_register source i id h]
  by_cases same : i.id = id
  · simp [same, copy?_put]
  · simp [same]

theorem copy?_unregister (h : s.isShutDown = false) (owner : Source) :
    ((s.unregister source i).2.copies id).copy? owner
      = if i.id = id ∧ source = owner then none else (s.copies id).copy? owner := by
  rw [copies_unregister source i id h]
  by_cases same : i.id = id
  · simp [same, copy?_without]
  · simp [same]

theorem contains_register (h : s.isShutDown = false) (owner : Source) :
    (s.register source i).2.contains id owner = true
      ↔ (i.id = id ∧ source = owner) ∨ s.contains id owner = true := by
  rw [contains, copy?_register source i id h]
  by_cases own : i.id = id ∧ source = owner
  · simp [own]
  · simp [own, contains]

theorem contains_unregister (h : s.isShutDown = false) (owner : Source) :
    (s.unregister source i).2.contains id owner = true
      ↔ ¬(i.id = id ∧ source = owner) ∧ s.contains id owner = true := by
  rw [contains, copy?_unregister source i id h]
  by_cases own : i.id = id ∧ source = owner
  · simp [own]
  · simp [own, contains]

/-! ## The count -/

/-- No id is kept that has no copy, and the count is the number of ids. -/
structure WellKept (s : Store) : Prop where
  tidy : ∀ id : String, s.entries[id]? ≠ some ([] : Copies)
  counted : s.count = UInt64.ofNat s.entries.size

theorem wellKept_empty (feed : Feed) : WellKept { feed := feed } := ⟨by simp, by simp⟩

theorem copies_ne_nil_iff : s.copies id ≠ [] ↔ ∃ source, s.contains id source = true := by
  have unheld := isEmpty_iff_copy? (s.copies id)
  rw [List.isEmpty_iff] at unheld
  rw [ne_eq, unheld, not_forall]
  exact exists_congr fun source => by rw [contains, ← ne_eq, Option.ne_none_iff_isSome]

theorem WellKept.mem_iff (h : s.WellKept) : id ∈ s.entries ↔ s.copies id ≠ [] := by
  rw [Std.TreeMap.mem_iff_isSome_getElem?]
  cases present : s.entries[id]? with
  | none => simp [copies, present]
  | some held =>
    have kept : held ≠ [] := by
      rintro rfl
      exact h.tidy id present
    simp [copies, present, kept]

theorem wellKept_register (h : s.WellKept) : (s.register source i).2.WellKept := by
  cases down : s.isShutDown with
  | true =>
    rw [register_of_isShutDown source i down]
    exact h
  | false =>
    have known := h.mem_iff i.id
    constructor
    · intro id
      rw [register_of_open source i down, Std.TreeMap.getElem?_insert]
      split
      · simp [put_ne_nil]
      · exact h.tidy id
    · rw [register_of_open source i down, h.counted, Std.TreeMap.size_insert]
      by_cases fresh : s.copies i.id = []
      · simp [fresh, known]
      · simp [fresh, known]

theorem wellKept_unregister (h : s.WellKept) : (s.unregister source i).2.WellKept := by
  cases down : s.isShutDown with
  | true =>
    rw [unregister_of_isShutDown source i down]
    exact h
  | false =>
    cases present : s.entries[i.id]? with
    | none =>
      rw [unregister_of_absent source i down present]
      exact h
    | some held =>
      have known : i.id ∈ s.entries := by
        rw [Std.TreeMap.mem_iff_isSome_getElem?, present, Option.isSome_some]
      have positive : 1 ≤ s.entries.size := by
        by_contra none
        have vacant : s.entries.isEmpty = true := by
          rw [Std.TreeMap.isEmpty_eq_size_eq_zero]
          simp only [beq_iff_eq]
          omega
        exact Std.TreeMap.isEmpty_iff_forall_not_mem.mp vacant i.id known
      by_cases last : (held.without source).isEmpty
      · constructor
        · intro id
          rw [unregister_of_present source i down present, if_pos last, Std.TreeMap.getElem?_erase]
          split
          · simp
          · exact h.tidy id
        · -- The count goes down here alone, and it was not zero.
          rw [unregister_of_present source i down present, if_pos last, if_pos last, h.counted,
            Std.TreeMap.size_erase, if_pos (Std.TreeMap.mem_iff_contains.mp known),
            UInt64.ofNat_sub positive]
          rfl
      · constructor
        · intro id
          rw [unregister_of_present source i down present, if_neg last,
            Std.TreeMap.getElem?_insert]
          split
          · simpa using last
          · exact h.tidy id
        · rw [unregister_of_present source i down present, if_neg last, if_neg last, h.counted,
            Std.TreeMap.size_insert, if_pos (Std.TreeMap.mem_iff_contains.mp known)]

/-- The ids of a well-kept store, each once; there are as many as the count says, as far as it
can count. -/
theorem WellKept.exists_ids (h : s.WellKept) :
    ∃ ids : List String, ids.Nodup ∧
      (∀ id, id ∈ ids ↔ ∃ source, s.contains id source = true) ∧
      s.count = UInt64.ofNat ids.length := by
  refine ⟨s.entries.keys, Std.TreeMap.nodup_keys, ?_, ?_⟩
  · intro id
    rw [Std.TreeMap.mem_keys, h.mem_iff, copies_ne_nil_iff]
  · rw [Std.TreeMap.length_keys, h.counted]

/-- The count tells no more than the copies do. -/
theorem WellKept.count_eq_of_copies {t : Store} (h : s.WellKept) (h' : t.WellKept)
    (same : ∀ id, s.copies id = t.copies id) : s.count = t.count := by
  obtain ⟨ids, distinct, known, counted⟩ := h.exists_ids
  obtain ⟨ids', distinct', known', counted'⟩ := h'.exists_ids
  have alike : ids.Perm ids' := by
    rw [List.perm_ext_iff_of_nodup distinct distinct']
    intro id
    rw [known, known']
    simp only [contains, same]
  rw [counted, counted', alike.length_eq]

/-! ## A single owner -/

/-- An open store that holds given instances for one source, all under different ids, and
nothing else. -/
structure Holding (s : Store) (owner : Source) (is : List Instance) : Prop where
  opened : s.isShutDown = false
  wellKept : s.WellKept
  distinct : (is.map (·.id)).Nodup
  contains_iff : ∀ id source,
    s.contains id source = true ↔ source = owner ∧ ∃ i ∈ is, i.id = id

variable {owner : Source} {is rest : List Instance}

theorem holding_empty (feed : Feed) (owner : Source) : Holding { feed := feed } owner [] where
  opened := rfl
  wellKept := wellKept_empty feed
  distinct := List.nodup_nil
  contains_iff id source := by simp [contains, copies]

/-- The ids that the instances have are all the ids there are. -/
theorem Holding.count_eq (h : s.Holding owner is) : s.count = UInt64.ofNat is.length := by
  obtain ⟨ids, distinct, known, counted⟩ := h.wellKept.exists_ids
  have same : ids.Perm (is.map (·.id)) := by
    rw [List.perm_ext_iff_of_nodup distinct h.distinct]
    intro id
    rw [known, List.mem_map]
    constructor
    · rintro ⟨source, held⟩
      exact ((h.contains_iff id source).mp held).2
    · intro held
      exact ⟨owner, (h.contains_iff id owner).mpr ⟨rfl, held⟩⟩
  rw [counted, same.length_eq, List.length_map]

theorem Holding.size_eq (h : s.Holding owner is) (few : is.length < 2 ^ 64) :
    s.size = is.length := by
  rw [size, h.count_eq, UInt64.toNat_ofNat_of_lt' few]

/-- A registration under a new id is new to the store, which holds the instance then. -/
theorem holding_register (h : s.Holding owner is) {i : Instance}
    (fresh : ((is ++ [i]).map (·.id)).Nodup) :
    (s.register owner i).1 = .ok true ∧ (s.register owner i).2.Holding owner (is ++ [i]) := by
  have unheld : (s.copies i.id).isEmpty = true := by
    rw [isEmpty_iff_copy?]
    intro source
    rw [← Option.isNone_iff_eq_none, ← Option.isSome_eq_false_iff, ← Bool.not_eq_true,
      ← contains, h.contains_iff]
    rintro ⟨-, j, known, same⟩
    rw [List.map_append, List.nodup_append] at fresh
    exact fresh.2.2 j.id (List.mem_map_of_mem known) i.id (by simp) same
  refine ⟨by rw [register_of_open owner i h.opened, unheld], ?_, ?_, fresh, ?_⟩
  · rw [isShutDown_register, h.opened]
  · exact wellKept_register owner i h.wellKept
  · intro id source
    rw [contains_register owner i id h.opened, h.contains_iff]
    simp only [List.mem_append, List.mem_singleton, or_and_right, exists_or, exists_eq_left]
    constructor
    · rintro (⟨same, rfl⟩ | ⟨own, known⟩)
      · exact ⟨rfl, .inr same⟩
      · exact ⟨own, .inl known⟩
    · rintro ⟨rfl, known | same⟩
      · exact .inr ⟨rfl, known⟩
      · exact .inl ⟨same, rfl⟩

/-- An instance that the store holds is there to be taken out, and the others stay. -/
theorem holding_unregister {i : Instance} (h : s.Holding owner (i :: rest)) :
    (s.unregister owner i).1 = .ok true ∧ (s.unregister owner i).2.Holding owner rest := by
  have distinct := h.distinct
  rw [List.map_cons, List.nodup_cons] at distinct
  have held : s.contains i.id owner = true :=
    (h.contains_iff i.id owner).mpr ⟨rfl, i, List.mem_cons_self, rfl⟩
  refine ⟨by rw [unregister_answer owner i h.opened, held], ?_, ?_, distinct.2, ?_⟩
  · rw [isShutDown_unregister, h.opened]
  · exact wellKept_unregister owner i h.wellKept
  · intro id source
    rw [contains_unregister owner i id h.opened, h.contains_iff]
    constructor
    · rintro ⟨other, rfl, j, known, same⟩
      rcases List.mem_cons.mp known with rfl | known
      · exact absurd ⟨same, rfl⟩ other
      · exact ⟨rfl, j, known, same⟩
    · rintro ⟨rfl, j, known, same⟩
      refine ⟨?_, rfl, j, List.mem_cons_of_mem i known, same⟩
      rintro ⟨clash, -⟩
      exact distinct.1 (List.mem_map.mpr ⟨j, known, same.trans clash.symm⟩)

end Store

end RegistryLoad
