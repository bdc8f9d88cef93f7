import Mathlib.Data.Finset.Basic
import RegistryLoad.Proofs.Registry.History

/-!
# The replay of a feed

Whoever hears all changes of a store can tell which ids it holds: an added instance brings its id
and a deleted one takes it away.  Whoever hears only the changes that concern an interest can tell
the same of the instances that it covers, as long as an instance is not moved to another
application or address.

## Definitions

* `replay`: the ids that are known after changes.
* `Agreed`: all registrations of one id are alike in what matters.

## Results

* `Store.told_after`: the replay of the changes that matter, after any calls.
* `Store.announced_deletion`: the copy that a deletion carries.
* `Store.replay_reconstructs_store`: what both say of the full feed and of an interest.
-/

namespace RegistryLoad

/-! ## Replaying changes -/

/-- What is known after one more change. -/
def Change.replay (known : Finset String) (change : Change) : Finset String :=
  match change.kind with
  | .added => insert change.subject.id known
  | .deleted => known.erase change.subject.id

/-- The ids that are known after changes, to somebody who knew of none before. -/
def replay (changes : List Change) : Finset String := changes.foldl Change.replay ∅

/-- The changes of instances that matter. -/
def mattering (p : Instance → Bool) (changes : List Change) : List Change :=
  changes.filter fun change => p change.subject

section

variable (p : Instance → Bool) (changes : List Change) (i : Instance) (id : String)

theorem mem_replay_added :
    id ∈ replay (mattering p (changes ++ [⟨.added, i⟩]))
      ↔ (p i = true ∧ i.id = id) ∨ id ∈ replay (mattering p changes) := by
  unfold mattering replay
  rw [List.filter_append, List.foldl_append]
  cases matters : p i with
  | true => simp [matters, Change.replay, eq_comm]
  | false => simp [matters]

theorem mem_replay_deleted :
    id ∈ replay (mattering p (changes ++ [⟨.deleted, i⟩]))
      ↔ ¬(p i = true ∧ i.id = id) ∧ id ∈ replay (mattering p changes) := by
  unfold mattering replay
  rw [List.filter_append, List.foldl_append]
  cases matters : p i with
  | true => simp [matters, Change.replay, eq_comm]
  | false => simp [matters]

end

/-! ## Alike registrations -/

namespace Write

/-- The instance that the call registers, if it registers one. -/
def registered? : Write → Option Instance
  | register _ i => some i
  | unregister _ _ => none
  | shutDown => none

/-- The instances that the calls register. -/
def registered (ws : List Write) : List Instance := ws.filterMap registered?

/-- Either all instances registered under one id matter, or none of them does. -/
def Agreed (p : Instance → Bool) (ws : List Write) : Prop :=
  ∀ i ∈ registered ws, ∀ j ∈ registered ws, i.id = j.id → p i = p j

/-- All instances registered under one id belong to one application and one virtual address. -/
def OneService (ws : List Write) : Prop :=
  ∀ i ∈ registered ws, ∀ j ∈ registered ws, i.id = j.id →
    i.application = j.application ∧ i.virtualAddress = j.virtualAddress

variable {ws : List Write} {p : Instance → Bool}

theorem mem_registered {source : Source} {i : Instance} (known : register source i ∈ ws) :
    i ∈ registered ws := List.mem_filterMap.mpr ⟨_, known, rfl⟩

theorem registered_subset (w : Write) : registered ws ⊆ registered (ws ++ [w]) := by
  unfold registered
  rw [List.filterMap_append]
  exact List.subset_append_left _ _

theorem Agreed.earlier {w : Write} (h : Agreed p (ws ++ [w])) : Agreed p ws :=
  fun i hi j hj => h i (registered_subset w hi) j (registered_subset w hj)

/-- An interest looks at no more than application and address. -/
theorem OneService.agreed (h : OneService ws) (interest : Interest) :
    Agreed interest.covers ws := by
  intro i hi j hj same
  obtain ⟨application, address⟩ := h i hi j hj same
  cases interest with
  | fullRegistry => rfl
  | application name => simp only [Interest.covers, application]
  | virtualAddress name => simp only [Interest.covers, address]

end Write

open Write

theorem LastCopy.mem {ws : List Write} {id : String} {source : Source} {i : Instance}
    (h : LastCopy ws id source i) : i ∈ registered ws ∧ i.id = id := by
  obtain ⟨accepted, concerned⟩ := List.mem_filter.mp (List.mem_of_getLast? h)
  refine ⟨mem_registered ((List.takeWhile_prefix _).mem accepted), ?_⟩
  simp only [isOn, Bool.and_eq_true, beq_iff_eq] at concerned
  exact concerned.1

/-- A source has one copy of an id at a time. -/
theorem LastCopy.unique {ws : List Write} {id : String} {source : Source} {i j : Instance}
    (hi : LastCopy ws id source i) (hj : LastCopy ws id source j) : i = j := by
  rw [LastCopy, hi] at hj
  cases hj
  rfl

/-- What is registered next matters as much as the copies there are of the same id. -/
theorem Write.Agreed.eq_of_lastCopy {ws : List Write} {p : Instance → Bool} {owner source : Source}
    {i j : Instance} {id : String} (h : Agreed p (ws ++ [register owner i]))
    (last : LastCopy ws id source j) (same : i.id = id) : p i = p j := by
  obtain ⟨known, named⟩ := last.mem
  apply h
  · exact mem_registered (List.mem_append_right _ (List.mem_singleton.mpr rfl))
  · exact registered_subset _ known
  · rw [same, named]

/-! ## The replay after calls -/

namespace Store

open Copies

variable {s : Store} {ws : List Write} {p : Instance → Bool} {owner : Source} {i : Instance}

/-- The ids replayed from the changes that matter are those with a copy that matters. -/
def Told (p : Instance → Bool) (s : Store) (ws : List Write) : Prop :=
  ∀ id, id ∈ replay (mattering p s.feed.history)
    ↔ ∃ source i, LastCopy ws id source i ∧ p i = true

theorem told_register (reflects : s.Reflects ws) (opened : Write.shutDown ∉ ws)
    (agreed : Agreed p (ws ++ [.register owner i])) (told : s.Told p ws) :
    (s.write (.register owner i)).Told p (ws ++ [.register owner i]) := by
  have down := reflects.isShutDown_eq_false opened
  intro id
  rw [write, feed_register owner i down, Feed.history_announce, mem_replay_added, told id]
  constructor
  · rintro (⟨matters, rfl⟩ | ⟨source, j, last, matters⟩)
    · exact ⟨owner, i, (lastCopy_register owner owner i.id opened).mpr (by simp), matters⟩
    · by_cases replaced : i.id = id ∧ owner = source
      · -- The new copy matters as much as the old one.
        refine ⟨owner, i, (lastCopy_register owner owner id opened).mpr (by simp [replaced]), ?_⟩
        rw [← matters]
        exact agreed.eq_of_lastCopy last replaced.1
      · exact ⟨source, j, (lastCopy_register owner source id opened).mpr (by simp [replaced, last]),
          matters⟩
  · rintro ⟨source, j, last, matters⟩
    rw [lastCopy_register owner source id opened] at last
    split at last
    · rename_i concerned
      exact .inl ⟨last ▸ matters, concerned.1⟩
    · exact .inr ⟨source, j, last, matters⟩

/-- A deletion is announced if a source takes out the only copy of an id, and it carries the copy
that the calls gave to that source.  Otherwise nothing is announced. -/
theorem announced_deletion (owner : Source) (i : Instance) (reflects : s.Reflects ws)
    (opened : Write.shutDown ∉ ws) :
    (∃ copy, LastCopy ws i.id owner copy ∧
        (∀ source j, LastCopy ws i.id source j → source = owner) ∧
        (s.unregister owner i).2.feed = s.feed.announce ⟨.deleted, copy⟩) ∨
      ((∀ copy, LastCopy ws i.id owner copy →
          ∃ source ≠ owner, ∃ j, LastCopy ws i.id source j) ∧
        (s.unregister owner i).2.feed = s.feed) := by
  have alone_iff : ((s.copies i.id).without owner).isEmpty = true
      ↔ ∀ source j, LastCopy ws i.id source j → source = owner := by
    rw [isEmpty_iff_copy?]
    refine forall_congr' fun source => ?_
    rw [copy?_without, Option.eq_none_iff_forall_ne_some]
    refine forall_congr' fun j => ?_
    rw [← reflects.copy?_iff]
    by_cases same : owner = source
    · simp [same]
    · simp [same, Ne.symm same]
  rw [feed_unregister owner i (reflects.isShutDown_eq_false opened)]
  cases stored : (s.copies i.id).copy? owner with
  | none =>
    refine .inr ⟨fun copy last => ?_, rfl⟩
    rw [← reflects.copy?_iff, stored] at last
    cases last
  | some copy =>
    by_cases alone : ((s.copies i.id).without owner).isEmpty = true
    · exact .inl ⟨copy, (reflects.copy?_iff _ _ _).mp stored, alone_iff.mp alone, if_pos alone⟩
    · refine .inr ⟨fun _ _ => ?_, if_neg alone⟩
      rw [alone_iff] at alone
      push Not at alone
      obtain ⟨source, j, last, other⟩ := alone
      exact ⟨source, other, j, last⟩

theorem told_unregister (reflects : s.Reflects ws) (opened : Write.shutDown ∉ ws)
    (agreed : Agreed p ws) (told : s.Told p ws) :
    (s.write (.unregister owner i)).Told p (ws ++ [.unregister owner i]) := by
  intro id
  simp only [write, lastCopy_unregister owner _ id opened]
  rcases announced_deletion owner i reflects opened with
    ⟨copy, last, only, announced⟩ | ⟨others, silent⟩
  · rw [announced, Feed.history_announce, mem_replay_deleted, told id]
    constructor
    · rintro ⟨kept, source, j, known, matters⟩
      refine ⟨source, j, ⟨?_, known⟩, matters⟩
      rintro ⟨rfl, rfl⟩
      exact kept ⟨by rw [last.unique known, matters], last.mem.2⟩
    · rintro ⟨source, j, ⟨other, known⟩, matters⟩
      refine ⟨?_, source, j, known, matters⟩
      rintro ⟨-, same⟩
      rw [last.mem.2] at same
      subst same
      exact other ⟨rfl, (only source j known).symm⟩
  · rw [silent, told id]
    constructor
    · rintro ⟨source, j, known, matters⟩
      by_cases taken : i.id = id ∧ owner = source
      · -- Another source has a copy of the id, and it matters as much.
        obtain ⟨rfl, rfl⟩ := taken
        obtain ⟨source, other, k, copy⟩ := others j known
        refine ⟨source, k, ⟨fun clash => other clash.2.symm, copy⟩, ?_⟩
        rw [← matters]
        exact agreed k copy.mem.1 j known.mem.1 (copy.mem.2.trans known.mem.2.symm)
      · exact ⟨source, j, ⟨taken, known⟩, matters⟩
    · rintro ⟨source, j, ⟨-, known⟩, matters⟩
      exact ⟨source, j, known, matters⟩

theorem told_write (w : Write) (reflects : s.Reflects ws) (agreed : Agreed p (ws ++ [w]))
    (told : s.Told p ws) : (s.write w).Told p (ws ++ [w]) := by
  by_cases down : Write.shutDown ∈ ws
  · intro id
    simp only [write_of_isShutDown w (reflects.shut_iff.mpr down), lastCopy_of_shut _ id w down]
    exact told id
  · cases w with
    | register owner i => exact told_register reflects down agreed told
    | unregister owner i => exact told_unregister reflects down agreed.earlier told
    | shutDown =>
      intro id
      simp only [lastCopy_shutDown]
      exact told id

/-- **The replay of the changes that matter**: it gives the ids with a copy that matters, if the
registrations of each id agree on that. -/
theorem told_after (window : Nat) (agreed : Agreed p ws) :
    (after { feed := { window := window } } ws).Told p ws := by
  induction ws using List.reverseRecOn with
  | nil =>
    intro id
    simp [after, Feed.history, replay, mattering, not_lastCopy_nil]
  | append_singleton ws w ih =>
    have before := ih agreed.earlier
    rw [after, List.foldl_append]
    exact told_write w (reflects_after _ ws) agreed before

/-- What a call announces: a deletion only if the call takes out a copy, which the deletion
carries. -/
theorem announced_write (w : Write) (reflects : s.Reflects ws) :
    ∃ news, (s.write w).feed.history = s.feed.history ++ news ∧
      ∀ change ∈ news, change.kind = .deleted →
        ∃ source i, w = .unregister source i ∧ LastCopy ws i.id source change.subject := by
  by_cases down : Write.shutDown ∈ ws
  · rw [write_of_isShutDown w (reflects.shut_iff.mpr down)]
    exact ⟨[], by simp⟩
  · cases w with
    | register owner i =>
      rw [write, feed_register owner i (reflects.isShutDown_eq_false down), Feed.history_announce]
      exact ⟨[⟨.added, i⟩], rfl, by simp⟩
    | unregister owner i =>
      rw [write]
      rcases announced_deletion owner i reflects down with
        ⟨copy, last, -, announced⟩ | ⟨-, silent⟩
      · rw [announced, Feed.history_announce]
        refine ⟨[⟨.deleted, copy⟩], rfl, ?_⟩
        intro change known _
        rw [List.mem_singleton.mp known]
        exact ⟨owner, i, rfl, last⟩
      · rw [silent]
        exact ⟨[], by simp⟩
    | shutDown => exact ⟨[], by simp [write, Store.shutDown]⟩

/-- **The feed tells what a store holds.**  After any calls on an empty store the replay of all
changes gives the ids that it holds.  A further call announces a deletion only if it takes a copy
out, and the deletion carries the copy that the same source registered last, whatever instance the
call is given.  If the registrations of each id name one application and one address, the replay of
the changes that an interest covers gives the ids whose copies it covers. -/
theorem replay_reconstructs_store (window : Nat) (ws : List Write) :
    let s := after { feed := { window := window } } ws
    (∀ id, id ∈ replay s.feed.history ↔ ∃ source, s.contains id source = true) ∧
    (∀ w, ∃ news, (s.write w).feed.history = s.feed.history ++ news ∧
      ∀ change ∈ news, change.kind = .deleted →
        ∃ source i, w = .unregister source i ∧ LastCopy ws i.id source change.subject) ∧
    (OneService ws → ∀ (interest : Interest) (id : String),
      id ∈ replay (s.feed.history.filter fun change => interest.covers change.subject)
        ↔ (∃ source, s.contains id source = true) ∧
          ∀ source copy, (s.copies id).copy? source = some copy →
            interest.covers copy = true) := by
  intro s
  have reflects : s.Reflects ws := reflects_after _ ws
  refine ⟨?_, fun w => announced_write w reflects, ?_⟩
  · intro id
    have all : Agreed (fun _ => true) ws := fun _ _ _ _ _ => rfl
    have told := told_after window all id
    rw [mattering, List.filter_true] at told
    rw [told]
    refine exists_congr fun source => ?_
    rw [reflects.contains_iff]
    exact exists_congr fun i => and_iff_left rfl
  · intro service interest id
    have agreed := service.agreed interest
    refine (told_after window agreed id).trans ?_
    constructor
    · rintro ⟨source, i, last, covered⟩
      refine ⟨⟨source, (reflects.contains_iff id source).mpr ⟨i, last⟩⟩, ?_⟩
      intro other j stored
      have copy := (reflects.copy?_iff id other j).mp stored
      rw [← covered]
      exact agreed j copy.mem.1 i last.mem.1 (copy.mem.2.trans last.mem.2.symm)
    · rintro ⟨⟨source, held⟩, all⟩
      obtain ⟨i, last⟩ := (reflects.contains_iff id source).mp held
      exact ⟨source, i, last, all source i ((reflects.copy?_iff id source i).mpr last)⟩

/-- A case of it: two sources with copies of one instance, and calls for removal that name another
application. -/
theorem replay_reconstructs_two_sources :
    let peer : Source := ⟨.replicated, "peer"⟩
    let shop : Instance := Instance.named "a" "shop" "shop.vip"
    let other : Instance := Instance.named "a" "other" "other.vip"
    let ws : List Write :=
      [.register Source.perf shop, .register peer { shop with port := 9 },
        .unregister Source.perf other, .register peer (Instance.named "b" "other" "other.vip"),
        .unregister peer other]
    let s := after { feed := { window := 4 } } ws
    OneService ws ∧ ∀ id,
      id ∈ replay (s.feed.history.filter fun change => (Interest.application "shop").covers
          change.subject)
        ↔ (∃ source, s.contains id source = true) ∧
          ∀ source copy, (s.copies id).copy? source = some copy →
            (Interest.application "shop").covers copy = true := by
  intro peer shop other ws s
  have service : OneService ws := by
    unfold OneService
    decide
  exact ⟨service, (replay_reconstructs_store 4 ws).2.2 service (.application "shop")⟩

end Store

end RegistryLoad
