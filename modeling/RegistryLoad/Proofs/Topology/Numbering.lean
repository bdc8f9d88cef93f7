import Mathlib.Data.List.Infix
import Mathlib.Data.List.Nodup
import RegistryLoad.Topology.Generator
import RegistryLoad.Proofs.Text.Numeral
import RegistryLoad.Text.Split

/-!
# Numbered instances

A generator numbers its instances one after the other, and the number can be read off the id.
So instances have different ids as long as the numbers, which have 64 bits, do not come round.

## Definitions

* `replacements`: replacements asked for one after the other.
* `Numbered`: instances whose ids carry consecutive numbers.
* `Spaced`: instances whose ids repeat at a distance only.
* `Generator.Ready`: a generator and the number of its next instance.

## Results

* `number_of_instanceId`: the id tells the number.
* `create_ready`, `Ready.replacements`: the pool and the replacements are numbered.
* `Numbered.distinct`, `Numbered.spaced_append`: consecutive numbers make different ids.
-/

namespace RegistryLoad

open RegistryLoad.Text

/-! ## Replacements -/

section

variable {τ : Type} [Topology τ]

/-- The replacements for instances, asked for one after the other, and the topology behind
them. -/
def replacements : List Instance → τ → List Instance × τ
  | [], topology => ([], topology)
  | i :: rest, topology =>
    let (fresh, topology) := Topology.replacementFor topology i
    let (others, topology) := replacements rest topology
    (fresh :: others, topology)

theorem replacements_cons (i : Instance) (is : List Instance) (topology : τ) :
    replacements (i :: is) topology =
      ((Topology.replacementFor topology i).1 ::
          (replacements is (Topology.replacementFor topology i).2).1,
        (replacements is (Topology.replacementFor topology i).2).2) := rfl

theorem replacements_append (is js : List Instance) (topology : τ) :
    replacements (is ++ js) topology =
      ((replacements is topology).1 ++ (replacements js (replacements is topology).2).1,
        (replacements js (replacements is topology).2).2) := by
  induction is generalizing topology with
  | nil => rfl
  | cons i is ih => simp only [List.cons_append, replacements, ih]

theorem length_replacements (is : List Instance) (topology : τ) :
    (replacements is topology).1.length = is.length := by
  induction is generalizing topology with
  | nil => rfl
  | cons i is ih => simp only [replacements, List.length_cons, ih]

end

/-! ## Ids -/

/-- What follows the last dash of a text. -/
def afterLastDash (text : List Char) : List Char :=
  (text.reverse.takeWhile (· != '-')).reverse

theorem afterLastDash_append (before : List Char) {last : List Char} (h : '-' ∉ last) :
    afterLastDash (before ++ '-' :: last) = last := by
  have free : ∀ c ∈ last.reverse, (c != '-') = true := bne_of_notMem (mt List.mem_reverse.mp h)
  unfold afterLastDash
  rw [List.reverse_append, List.reverse_cons, List.append_assoc, List.takeWhile_append_of_pos free]
  simp

theorem afterLastDash_instanceId (name app : String) (index : UInt64) :
    afterLastDash (instanceId name app index).toList = decimalPadded 6 index.toNat := by
  have free : '-' ∉ decimalPadded 6 index.toNat := by
    intro dash
    exact absurd (digit?_of_mem_decimalPadded dash) (by decide)
  have shape : (instanceId name app index).toList
      = (name.toList ++ '-' :: app.toList) ++ '-' :: decimalPadded 6 index.toNat := by
    simp [instanceId]
  rw [shape, afterLastDash_append _ free]

/-- **An id tells the number**, whatever the names before it. -/
theorem number_of_instanceId {name name' app app' : String} {m n : UInt64}
    (h : instanceId name app m = instanceId name' app' n) : m = n := by
  have digits := congrArg (fun id => afterLastDash id.toList) h
  simp only [afterLastDash_instanceId] at digits
  exact UInt64.toNat_inj.mp (decimalPadded_injective 6 digits)

/-! ## Numbers -/

/-- An instance whose id carries a number, as far as 64 bits tell it. -/
def HasNumber (name : String) (n : Nat) (i : Instance) : Prop :=
  ∃ app, i.id = instanceId name app (UInt64.ofNat n)

/-- Instances that carry consecutive numbers. -/
def Numbered (name : String) : Nat → List Instance → Prop
  | _, [] => True
  | n, i :: rest => HasNumber name n i ∧ Numbered name (n + 1) rest

/-- Instances of which any `n` in a row have different ids. -/
def Spaced (n : Nat) (is : List Instance) : Prop :=
  ∀ part, part <:+: is → part.length ≤ n → (part.map (·.id)).Nodup

variable {name : String} {m n : Nat} {i j : Instance} {is js : List Instance}

theorem HasNumber.number_eq (hi : HasNumber name m i) (hj : HasNumber name n j)
    (same : i.id = j.id) : m % 2 ^ 64 = n % 2 ^ 64 := by
  obtain ⟨app, hi⟩ := hi
  obtain ⟨app', hj⟩ := hj
  rw [hi, hj] at same
  have words := congrArg UInt64.toNat (number_of_instanceId same)
  rwa [UInt64.toNat_ofNat', UInt64.toNat_ofNat'] at words

theorem numbered_append :
    Numbered name n (is ++ js) ↔ Numbered name n is ∧ Numbered name (n + is.length) js := by
  induction is generalizing n with
  | nil => simp [Numbered]
  | cons i is ih =>
    rw [List.cons_append, Numbered, Numbered, ih, and_assoc, List.length_cons]
    have next : n + 1 + is.length = n + (is.length + 1) := by omega
    rw [next]

theorem Numbered.of_mem (h : Numbered name n is) (known : i ∈ is) :
    ∃ k < is.length, HasNumber name (n + k) i := by
  obtain ⟨before, after, rfl⟩ := List.append_of_mem known
  have here := (numbered_append.mp h).2
  refine ⟨before.length, ?_, here.1⟩
  rw [List.length_append, List.length_cons]
  omega

/-- Consecutive numbers that do not come round make different ids. -/
theorem Numbered.distinct (h : Numbered name n is) (few : is.length ≤ 2 ^ 64) :
    (is.map (·.id)).Nodup := by
  induction is generalizing n with
  | nil => exact List.nodup_nil
  | cons i is ih =>
    rw [List.length_cons] at few
    rw [List.map_cons, List.nodup_cons]
    refine ⟨?_, ih h.2 (by omega)⟩
    intro again
    obtain ⟨j, known, same⟩ := List.mem_map.mp again
    -- The later number is less than `2 ^ 64` ahead, so that it is another one as a word.
    obtain ⟨k, near, hj⟩ := h.2.of_mem known
    have round := hj.number_eq h.1 same
    omega

/-- Runs of numbers one behind the other that do not come round make different ids. -/
theorem Numbered.distinct_append (hi : Numbered name m is) (hj : Numbered name n js)
    (apart : m + is.length ≤ n) (few : n + js.length ≤ m + 2 ^ 64) :
    ((is ++ js).map (·.id)).Nodup := by
  rw [List.map_append]
  refine (hi.distinct (by omega)).append (hj.distinct (by omega)) ?_
  intro id early late
  obtain ⟨i, knownI, rfl⟩ := List.mem_map.mp early
  obtain ⟨j, knownJ, same⟩ := List.mem_map.mp late
  obtain ⟨k, nearK, numberI⟩ := hi.of_mem knownI
  obtain ⟨l, nearL, numberJ⟩ := hj.of_mem knownJ
  have round := numberJ.number_eq numberI same
  omega

/-- Numbers from zero and, behind them, from some other number on that 64 bits can hold: ids repeat
only at a distance of as many as came first, if they repeat at all. -/
theorem Numbered.spaced_append {first : Nat} (hi : Numbered name 0 is)
    (hj : Numbered name first js) (behind : is.length ≤ first) (few : first ≤ 2 ^ 64) :
    Spaced is.length (is ++ js) := by
  rintro part ⟨before, after, split⟩ short
  rw [List.append_assoc, List.append_eq_append_iff] at split
  -- The part lies in the first run, in both, or in the second one.
  rcases split with ⟨rest, rfl, split⟩ | ⟨skipped, rfl, rfl⟩
  · rw [List.append_eq_append_iff] at split
    have hrest := (numbered_append.mp hi).2
    rcases split with ⟨others, rfl, -⟩ | ⟨late, rfl, rfl⟩
    · have hpart := (numbered_append.mp hrest).1
      simp only [List.length_append] at behind
      exact hpart.distinct (by omega)
    · have hlate := (numbered_append.mp hj).1
      simp only [List.length_append] at behind short
      exact hrest.distinct_append hlate (by omega) (by omega)
  · have hpart := (numbered_append.mp (numbered_append.mp hj).2).1
    exact hpart.distinct (by omega)

theorem spaced_of_distinct (h : (is.map (·.id)).Nodup) (capacity : Nat) : Spaced capacity is := by
  intro part inside _
  exact h.sublist (inside.sublist.map _)

theorem Spaced.earlier {capacity : Nat} (h : Spaced capacity js) (early : is <+: js) :
    Spaced capacity is :=
  fun part inside => h part (inside.trans early.isInfix)

/-! ## Generators -/

namespace Generator

theorem instanceAt_hasNumber (name app address : String) (n : Nat) (s : Keystream) :
    HasNumber name n (instanceAt name app address (UInt64.ofNat n) s).1 := ⟨app, rfl⟩

/-- A pool continues the instances made before it, each under the next number. -/
theorem pool_numbered (name : String) (applications : UInt64) (count start : Nat) (s : Keystream)
    (made : List Instance) (h : Numbered name 0 made.reverse) (next : made.length = start) :
    Numbered name 0 (pool name applications count (UInt64.ofNat start) s made).1 ∧
      (pool name applications count (UInt64.ofNat start) s made).1.length = start + count := by
  induction count generalizing start s made with
  | zero => exact ⟨h, by simp [pool, next]⟩
  | succ count ih =>
    have succ : UInt64.ofNat start + 1 = UInt64.ofNat (start + 1) := (UInt64.ofNat_add start 1).symm
    rw [pool]
    dsimp only
    have shift : start + (count + 1) = start + 1 + count := by omega
    rw [succ, shift]
    apply ih
    · rw [List.reverse_cons, numbered_append, List.length_reverse, next, Nat.zero_add]
      exact ⟨h, instanceAt_hasNumber _ _ _ _ _, trivial⟩
    · rw [List.length_cons, next]

/-- A generator with a numbered pool, the number of its next instance being `first`. -/
structure Ready (g : Generator) (first : Nat) : Prop where
  numbered : Numbered g.name 0 g.services
  next : g.nextIndex = UInt64.ofNat first
  behind : g.services.length ≤ first

/-- **The pool of a new generator**: as many instances as were asked for, numbered from zero. -/
theorem create_ready {applications instances seed : UInt64} {g : Generator}
    (h : create name applications instances seed = .ok g) :
    g.Ready instances.toNat ∧ g.services.length = instances.toNat := by
  unfold create at h
  split at h
  · cases h
  · split at h
    · cases h
    · cases h
      obtain ⟨numbered, length⟩ := pool_numbered name applications instances.toNat 0
        (Keystream.ofSeed seed) [] trivial rfl
      rw [Nat.zero_add] at length
      exact ⟨⟨numbered, UInt64.ofNat_toNat.symm, length.le⟩, length⟩

/-- A generator can be made for any name and any applications. -/
theorem create_ok (name : String) (applications instances seed : UInt64)
    (named : name.isEmpty = false) (some : applications ≠ 0) :
    ∃ g, create name applications instances seed = .ok g := by
  simp [create, named, some]

/-- A replacement has the next number, whatever it replaces. -/
theorem Ready.replacementFor (i : Instance) {g : Generator} {first : Nat} (h : g.Ready first) :
    HasNumber g.name first (g.replacementFor i).1 ∧ (g.replacementFor i).2.Ready (first + 1) ∧
      (g.replacementFor i).2.name = g.name ∧ (g.replacementFor i).2.services = g.services := by
  rw [replacementFor_eq, h.next]
  refine ⟨instanceAt_hasNumber _ _ _ _ _, ⟨h.numbered, ?_, Nat.le_succ_of_le h.behind⟩, rfl, rfl⟩
  exact (UInt64.ofNat_add first 1).symm

/-- **Replacements go on where the numbers are.** -/
theorem Ready.replacements (is : List Instance) {g : Generator} {first : Nat} (h : g.Ready first) :
    Numbered g.name first (replacements is g).1 ∧
      (replacements is g).2.Ready (first + is.length) ∧
      (replacements is g).2.services = g.services := by
  induction is generalizing g first with
  | nil => exact ⟨trivial, h, rfl⟩
  | cons i is ih =>
    obtain ⟨number, further, named, kept⟩ := h.replacementFor i
    obtain ⟨numbered, ready, services⟩ := ih further
    have shift : first + (is.length + 1) = first + 1 + is.length := by omega
    rw [named] at numbered
    rw [replacements_cons, List.length_cons, shift]
    exact ⟨⟨number, numbered⟩, ready, services.trans kept⟩

end Generator

end RegistryLoad
