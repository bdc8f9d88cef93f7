import Mathlib.Data.List.Induction
import Mathlib.Data.List.TakeWhile
import RegistryLoad.Proofs.Registry.Contents

/-!
# The history of a store

What a store holds can be told from the flat list of the calls made on it: a source holds a copy
of an id if the last accepted call for that copy registered it.

## Definitions

* `Write`, a call on a store, and `Store.after`, the store after calls.
* `LastCopy`, `Held`: what a source holds according to the calls.
* `Store.Reflects`: the store is as the calls have it.

## Results

* `reflects_write`, `reflects_after`: each call keeps the store as the calls have it.
* `store_refines_history`: contents, size and answers of a store are those of its history.
-/

namespace RegistryLoad

/-- A call on a store. -/
inductive Write where
  | register (source : Source) (i : Instance)
  | unregister (source : Source) (i : Instance)
  | shutDown
  deriving DecidableEq, Repr

namespace Write

/-- Whether the call is for the copy that a source holds of an id. -/
def isOn (id : String) (source : Source) : Write → Bool
  | register owner i => i.id == id && owner == source
  | unregister owner i => i.id == id && owner == source
  | shutDown => false

/-- The calls before the first that shuts down. -/
def accepted (ws : List Write) : List Write := ws.takeWhile (· != shutDown)

variable {ws : List Write} (w : Write)

theorem accepted_eq_self_iff : accepted ws = ws ↔ shutDown ∉ ws := by
  unfold accepted
  rw [List.takeWhile_eq_self_iff]
  constructor
  · intro each known
    simpa using each shutDown known
  · intro opened w known
    rw [bne_iff_ne]
    rintro rfl
    exact opened known

theorem accepted_of_length (whole : (accepted ws).length = ws.length) : accepted ws = ws :=
  (List.takeWhile_prefix _).eq_of_length whole

theorem accepted_append_of_shut (h : shutDown ∈ ws) : accepted (ws ++ [w]) = accepted ws := by
  have part : (accepted ws).length ≠ ws.length := fun whole =>
    accepted_eq_self_iff.mp (accepted_of_length whole) h
  unfold accepted at part ⊢
  rw [List.takeWhile_append, if_neg part]

theorem accepted_append_shutDown : accepted (ws ++ [shutDown]) = accepted ws := by
  by_cases whole : (accepted ws).length = ws.length
  · have same := accepted_of_length whole
    unfold accepted at whole same ⊢
    rw [List.takeWhile_append, if_pos whole, same]
    simp
  · unfold accepted at whole ⊢
    rw [List.takeWhile_append, if_neg whole]

end Write

open Write

/-- The last accepted call for the copy that a source holds of an id registered this instance. -/
def LastCopy (ws : List Write) (id : String) (source : Source) (i : Instance) : Prop :=
  ((accepted ws).filter (isOn id source)).getLast? = some (register source i)

/-- Whether the last accepted call for the copy that a source holds of an id registered it. -/
def Held (ws : List Write) (id : String) (source : Source) : Prop :=
  ∃ i, ((accepted ws).filter (isOn id source)).getLast? = some (register source i)

section

variable {ws : List Write} {i j : Instance} (owner source : Source) (id : String)

theorem not_lastCopy_nil : ¬LastCopy [] id source j := by
  intro last
  simp [LastCopy, accepted] at last

theorem lastCopy_register (h : shutDown ∉ ws) :
    LastCopy (ws ++ [register owner i]) id source j
      ↔ if i.id = id ∧ owner = source then i = j else LastCopy ws id source j := by
  have still : shutDown ∉ ws ++ [register owner i] := by simp [h]
  unfold LastCopy
  rw [accepted_eq_self_iff.mpr still, accepted_eq_self_iff.mpr h, List.filter_append,
    List.getLast?_append]
  by_cases concerned : i.id = id ∧ owner = source
  · simp [isOn, concerned]
  · have skipped : [register owner i].filter (isOn id source) = [] := by
      simpa [isOn] using concerned
    simp [skipped, concerned]

theorem lastCopy_unregister (h : shutDown ∉ ws) :
    LastCopy (ws ++ [unregister owner i]) id source j
      ↔ ¬(i.id = id ∧ owner = source) ∧ LastCopy ws id source j := by
  have still : shutDown ∉ ws ++ [unregister owner i] := by simp [h]
  unfold LastCopy
  rw [accepted_eq_self_iff.mpr still, accepted_eq_self_iff.mpr h, List.filter_append,
    List.getLast?_append]
  by_cases concerned : i.id = id ∧ owner = source
  · simp [isOn, concerned]
  · have skipped : [unregister owner i].filter (isOn id source) = [] := by
      simpa [isOn] using concerned
    simp [skipped, concerned]

theorem lastCopy_shutDown :
    LastCopy (ws ++ [shutDown]) id source j ↔ LastCopy ws id source j := by
  rw [LastCopy, accepted_append_shutDown, ← LastCopy]

theorem lastCopy_of_shut (w : Write) (h : shutDown ∈ ws) :
    LastCopy (ws ++ [w]) id source j ↔ LastCopy ws id source j := by
  rw [LastCopy, accepted_append_of_shut w h, ← LastCopy]

end

namespace Store

/-- The store after a call. -/
def write (s : Store) : Write → Store
  | .register source i => (s.register source i).2
  | .unregister source i => (s.unregister source i).2
  | .shutDown => s.shutDown

/-- The store after calls, made one after the other. -/
def after (s : Store) (ws : List Write) : Store := ws.foldl write s

/-- A store is what the calls made on it since it was empty tell. -/
structure Reflects (s : Store) (ws : List Write) : Prop where
  shut_iff : s.isShutDown = true ↔ Write.shutDown ∈ ws
  copy?_iff : ∀ id source i, (s.copies id).copy? source = some i ↔ LastCopy ws id source i
  wellKept : s.WellKept

theorem reflects_nil (feed : Feed) : Reflects { feed := feed } [] where
  shut_iff := by simp
  copy?_iff id source i := by
    simp [copies, not_lastCopy_nil]
  wellKept := wellKept_empty feed

variable {s : Store} {ws : List Write}

theorem Reflects.contains_iff (h : s.Reflects ws) (id : String) (source : Source) :
    s.contains id source = true ↔ Held ws id source := by
  rw [contains, Option.isSome_iff_exists]
  exact exists_congr fun i => h.copy?_iff id source i

theorem Reflects.isShutDown_eq_false (h : s.Reflects ws) (opened : Write.shutDown ∉ ws) :
    s.isShutDown = false := by
  rw [← Bool.not_eq_true, h.shut_iff]
  exact opened

/-- A store that was shut down takes no call. -/
theorem write_of_isShutDown (w : Write) (shut : s.isShutDown = true) : s.write w = s := by
  cases w with
  | register source i => rw [write, register_of_isShutDown source i shut]
  | unregister source i => rw [write, unregister_of_isShutDown source i shut]
  | shutDown => simp [write, Store.shutDown, ← shut]

/-- A call announces at most one change. -/
theorem feed_write (s : Store) (w : Write) :
    (s.write w).feed = s.feed ∨ ∃ change, (s.write w).feed = s.feed.announce change := by
  cases down : s.isShutDown with
  | true => exact .inl (by rw [write_of_isShutDown w down])
  | false =>
    cases w with
    | register source i => exact .inr ⟨_, feed_register source i down⟩
    | unregister source i =>
      rw [write, feed_unregister source i down]
      cases (s.copies i.id).copy? source with
      | none => exact .inl rfl
      | some copy =>
        dsimp only [Option.elim_some]
        split
        · exact .inr ⟨_, rfl⟩
        · exact .inl rfl
    | shutDown => exact .inl rfl

theorem reflects_write (w : Write) (h : s.Reflects ws) : (s.write w).Reflects (ws ++ [w]) := by
  by_cases down : Write.shutDown ∈ ws
  · have shut := h.shut_iff.mpr down
    rw [write_of_isShutDown w shut]
    constructor
    · simp [shut, down]
    · intro id source i
      rw [h.copy?_iff, lastCopy_of_shut source id w down]
    · exact h.wellKept
  · have opened := h.isShutDown_eq_false down
    cases w with
    | register owner i =>
      constructor
      · simp [write, opened, down]
      · intro id source j
        rw [write, copy?_register owner i id opened, lastCopy_register owner source id down,
          ← h.copy?_iff]
        split <;> simp
      · exact wellKept_register owner i h.wellKept
    | unregister owner i =>
      constructor
      · simp [write, opened, down]
      · intro id source j
        rw [write, copy?_unregister owner i id opened, lastCopy_unregister owner source id down,
          ← h.copy?_iff]
        split <;> simp_all
      · exact wellKept_unregister owner i h.wellKept
    | shutDown =>
      constructor
      · simp [write, Store.shutDown]
      · intro id source i
        rw [lastCopy_shutDown, ← h.copy?_iff]
        rfl
      · exact ⟨h.wellKept.tidy, h.wellKept.counted⟩

theorem reflects_after (feed : Feed) (ws : List Write) :
    (after { feed := feed } ws).Reflects ws := by
  induction ws using List.reverseRecOn with
  | nil => exact reflects_nil feed
  | append_singleton ws w kept =>
    rw [after, List.foldl_append]
    exact reflects_write w kept

/-- **A store is a view of its history.** After any calls on an empty store a source holds a copy
of an id if the last accepted call for that copy registered it, and the size is the number of
ids that any source holds.  (The counter has 64 bits, and it counts all ids that a memory can
hold.)  Before it is shut down a registration tells whether the id was new, and an unregistration
whether this very copy was there.  From the first shutdown on all writes are refused, and they
leave the store, its feed included, as it is. -/
theorem store_refines_history (feed : Feed) (ws : List Write) :
    let s := after { feed := feed } ws
    (∀ id source, s.contains id source = true ↔ Held ws id source) ∧
    (∃ ids : List String, ids.Nodup ∧ (∀ id, id ∈ ids ↔ ∃ source, Held ws id source) ∧
      s.count = UInt64.ofNat ids.length ∧ (ids.length < 2 ^ 64 → s.size = ids.length)) ∧
    (Write.shutDown ∉ ws → ∀ source i,
      (∃ added, (s.register source i).1 = .ok added ∧
        (added = true ↔ ∀ owner, ¬Held ws i.id owner)) ∧
      (∃ removed, (s.unregister source i).1 = .ok removed ∧
        (removed = true ↔ Held ws i.id source))) ∧
    (Write.shutDown ∈ ws → ∀ source i,
      s.register source i = (.error .shutDown, s) ∧
      s.unregister source i = (.error .shutDown, s)) := by
  intro s
  have reflects : s.Reflects ws := reflects_after feed ws
  refine ⟨reflects.contains_iff, ?_, ?_, ?_⟩
  · obtain ⟨ids, distinct, known, counted⟩ := reflects.wellKept.exists_ids
    refine ⟨ids, distinct, ?_, counted, ?_⟩
    · intro id
      rw [known]
      exact exists_congr fun source => reflects.contains_iff id source
    · intro few
      rw [size, counted, UInt64.toNat_ofNat_of_lt' few]
  · intro opened source i
    have down := reflects.isShutDown_eq_false opened
    refine ⟨⟨_, by rw [register_of_open source i down], ?_⟩,
      ⟨_, unregister_answer source i down, ?_⟩⟩
    · rw [Copies.isEmpty_iff_copy?]
      refine forall_congr' fun owner => ?_
      rw [← reflects.contains_iff, contains, Bool.not_eq_true, Option.isSome_eq_false_iff,
        Option.isNone_iff_eq_none]
    · exact reflects.contains_iff i.id source
  · intro shut source i
    have down := reflects.shut_iff.mpr shut
    exact ⟨register_of_isShutDown source i down, unregister_of_isShutDown source i down⟩

end Store

end RegistryLoad
