import Mathlib.Data.List.Basic
import Mathlib.Data.List.Range
import RegistryLoad.Proofs.Topology.Numbering

/-!
# The sequence of instances

A seed fixes an endless sequence of instances.  The pool of a generator is the beginning of it, and
the replacements come from where the pool ends: they take the endpoints one after the other, and
the one for an instance of the right application is the very instance that a larger pool has there.

## Definitions

* `Generator.streamAt`: the random stream after some endpoints were drawn from it.
* `Generator.element`: an instance of the sequence.
* `Generator.Reached`: a generator that has come to some place of the sequence.

## Results

* `Generator.services_of_create`: the pool is the beginning of the sequence.
* `Generator.replacementFor_reached`: what a replacement has in common with the sequence.
* `Generator.replacements_continue_pool`, `Generator.generated_ids_distinct`: the two together.
-/

namespace RegistryLoad

namespace Generator

/-! ## The sequence -/

/-- The stream of a seed after `n` endpoints were drawn from it. -/
def streamAt (seed : UInt64) : Nat → Keystream
  | 0 => Keystream.ofSeed seed
  | n + 1 => (Endpoint.draw (streamAt seed n)).2

/-- Endpoint `n` of a seed. -/
def endpointAt (seed : UInt64) (n : Nat) : Endpoint := (Endpoint.draw (streamAt seed n)).1

/-- Instance `n` of the sequence.  The applications take turns. -/
def element (name : String) (applications seed : UInt64) (n : Nat) : Instance :=
  let app := n % applications.toNat
  (endpointAt seed n).place
    (Instance.named (instanceId name (applicationName app) (UInt64.ofNat n)) (applicationName app)
      (virtualAddressOf name app))

/-- The instances from number `start` on. -/
def elements (name : String) (applications seed : UInt64) (start count : Nat) : List Instance :=
  (List.range' start count).map (element name applications seed)

theorem instanceAt_streamAt (name app address : String) (index seed : UInt64) (n : Nat) :
    instanceAt name app address index (streamAt seed n) =
      ((endpointAt seed n).place (Instance.named (instanceId name app index) app address),
        streamAt seed (n + 1)) := by
  unfold instanceAt endpointAt
  rw [streamAt]

/-! ## The pool -/

variable {name : String} {applications seed : UInt64}

/-- A number that a word can hold belongs to the same application as a word. -/
theorem toNat_ofNat_mod {n : Nat} (few : n < 2 ^ 64) :
    (UInt64.ofNat n % applications).toNat = n % applications.toNat := by
  rw [UInt64.toNat_mod, UInt64.toNat_ofNat', Nat.mod_eq_of_lt few]

/-- A pool that is begun where the stream has come to goes on with the sequence. -/
theorem pool_eq_elements (count start : Nat) (made : List Instance)
    (few : start + count ≤ 2 ^ 64) :
    pool name applications count (UInt64.ofNat start) (streamAt seed start) made =
      (made.reverse ++ elements name applications seed start count,
        streamAt seed (start + count)) := by
  induction count generalizing start made with
  | zero => simp [pool, elements]
  | succ count ih =>
    have word : UInt64.ofNat start + 1 = UInt64.ofNat (start + 1) := (UInt64.ofNat_add start 1).symm
    have shift : start + (count + 1) = start + 1 + count := by omega
    have app : (UInt64.ofNat start % applications).toNat = start % applications.toNat :=
      toNat_ofNat_mod (by omega)
    rw [pool]
    dsimp only
    rw [instanceAt_streamAt, word, app, ih (start + 1) _ (by omega), shift]
    simp [elements, element, List.range'_succ]

/-- A generator that has come to number `n` of the sequence of a seed. -/
structure Reached (g : Generator) (name : String) (seed : UInt64) (n : Nat) : Prop where
  name_eq : g.name = name
  next : g.nextIndex = UInt64.ofNat n
  stream_eq : g.stream = streamAt seed n

/-- **A new generator has the beginning of the sequence in its pool**, and has come to the end of
that. -/
theorem services_of_create {count : UInt64} {g : Generator}
    (h : create name applications count seed = .ok g) :
    g.services = elements name applications seed 0 count.toNat ∧
      g.Reached name seed count.toNat := by
  unfold create at h
  split at h
  · cases h
  · split at h
    · cases h
    · have few : 0 + count.toNat ≤ 2 ^ 64 := by
        have below := count.toNat_lt
        omega
      have all := @pool_eq_elements name applications seed count.toNat 0 [] few
      rw [streamAt, Nat.zero_add] at all
      rw [show (0 : UInt64) = UInt64.ofNat 0 from rfl, all] at h
      cases h
      exact ⟨rfl, rfl, UInt64.ofNat_toNat.symm, rfl⟩

theorem length_elements (start count : Nat) :
    (elements name applications seed start count).length = count := by
  rw [elements, List.length_map, List.length_range']

theorem getElem?_elements {k count : Nat} (h : k < count) :
    (elements name applications seed 0 count)[k]? = some (element name applications seed k) := by
  rw [elements, List.getElem?_map, List.getElem?_range' h, Option.map_some, Nat.one_mul,
    Nat.zero_add]

/-- The beginning of the sequence has its own beginnings. -/
theorem elements_prefix {few many : Nat} (h : few ≤ many) :
    elements name applications seed 0 few <+: elements name applications seed 0 many := by
  refine ⟨elements name applications seed few (many - few), ?_⟩
  have parts : few + (many - few) = many := by omega
  rw [elements, elements, elements, ← List.map_append]
  nth_rewrite 2 [← Nat.zero_add few]
  rw [List.range'_append_1, parts]

/-! ## Replacements -/

/-- A replacement stands at the next endpoint of the sequence, whatever it replaces, and the
sequence goes on behind it. -/
theorem Reached.replacementFor (i : Instance) {g : Generator} {n : Nat}
    (h : g.Reached name seed n) :
    (g.replacementFor i).1 = (endpointAt seed n).place
        (Instance.named (instanceId name i.application (UInt64.ofNat n)) i.application
          i.virtualAddress) ∧
      (g.replacementFor i).2.Reached name seed (n + 1) := by
  rw [replacementFor_eq, h.stream_eq, h.name_eq, h.next, instanceAt_streamAt]
  exact ⟨rfl, rfl, (UInt64.ofNat_add n 1).symm, rfl⟩

/-- Each replacement takes the sequence one place further. -/
theorem Reached.replacements (is : List Instance) {g : Generator} {n : Nat}
    (h : g.Reached name seed n) : (replacements is g).2.Reached name seed (n + is.length) := by
  induction is generalizing g n with
  | nil => exact h
  | cons i is ih =>
    have further := ih (h.replacementFor i).2
    have shift : n + (is.length + 1) = n + 1 + is.length := by omega
    rw [replacements_cons, List.length_cons, shift]
    exact further

/-- **Replacements continue the pool.**  Generators of one name, seed and number of applications
differ only in how much of one sequence they have in their pools.  A smaller pool is the beginning
of a larger one.  A replacement has the address and the port of the instance that a larger pool has
in its place, whatever was replaced before; and it is that very instance if the one it replaces
belongs to the right application. -/
theorem replacements_continue_pool (name : String) (applications seed : UInt64)
    (some : applications ≠ 0) :
    (name ≠ "" → ∀ count, ∃ g, create name applications count seed = .ok g) ∧
      ∀ (m n : UInt64) (small large : Generator), create name applications m seed = .ok small →
        create name applications n seed = .ok large →
        (m ≤ n → small.services.length = m.toNat ∧ small.services <+: large.services) ∧
        ∀ (earlier : List Instance) (i : Instance), m.toNat + earlier.length < n.toNat →
          let place := m.toNat + earlier.length
          let fresh := ((RegistryLoad.replacements earlier small).2.replacementFor i).1
          ∃ there, large.services[place]? = .some there ∧
            fresh.ipAddress = there.ipAddress ∧ fresh.port = there.port ∧
            (i.application = applicationName (place % applications.toNat) →
              i.virtualAddress = virtualAddressOf name (place % applications.toNat) →
              fresh = there) := by
  refine ⟨fun named count => create_ok name applications count seed (by simpa using named) some,
    ?_⟩
  intro m n small large hsmall hlarge
  obtain ⟨poolSmall, reached⟩ := services_of_create hsmall
  obtain ⟨poolLarge, -⟩ := services_of_create hlarge
  constructor
  · intro le
    rw [poolSmall, poolLarge]
    exact ⟨length_elements _ _, elements_prefix (UInt64.le_iff_toNat_le.mp le)⟩
  · intro earlier i within place fresh
    obtain ⟨made, -⟩ := (reached.replacements earlier).replacementFor i
    refine ⟨element name applications seed place, ?_, ?_, ?_, ?_⟩
    · rw [poolLarge, getElem?_elements within]
    · exact (congrArg Instance.ipAddress made).trans rfl
    · exact (congrArg Instance.port made).trans rfl
    · intro app address
      rw [app, address] at made
      exact made

/-- The second replacement of a pool of three is instance four of a pool of six, whatever the first
one replaced. -/
theorem second_replacement_of_three :
    ∃ small large, create "perf-Test" 2 3 42 = .ok small ∧ create "perf-Test" 2 6 42 = .ok large ∧
      small.services <+: large.services ∧
      large.services[4]? = .some ((RegistryLoad.replacements
        [Instance.named "other" "shop" ""] small).2.replacementFor
          (Instance.named "any" "app000" "app000.perf-Test.vip")).1 := by
  obtain ⟨exist, -⟩ := replacements_continue_pool "perf-Test" 2 42 (by decide)
  obtain ⟨small, hsmall⟩ := exist (by decide) 3
  obtain ⟨large, hlarge⟩ := exist (by decide) 6
  obtain ⟨beginning, continued⟩ := (replacements_continue_pool "perf-Test" 2 42 (by decide)).2 3 6
    small large hsmall hlarge
  obtain ⟨there, found, -, -, same⟩ := continued [Instance.named "other" "shop" ""]
    (Instance.named "any" "app000" "app000.perf-Test.vip") (show 4 < 6 by decide)
  have equal := same (by decide +kernel) (by decide +kernel)
  refine ⟨small, large, hsmall, hlarge, (beginning (by decide)).2, ?_⟩
  rw [equal]
  exact found

/-! ## Ids -/

/-- **Generated ids never repeat.**  The ids of the pool and of any replacements are different from
each other as long as the numbers fit into 64 bits, whatever the replaced instances say. -/
theorem generated_ids_distinct (name : String) (applications count seed : UInt64)
    (named : name ≠ "") (some : applications ≠ 0) (retired : List Instance)
    (few : count.toNat + retired.length ≤ 2 ^ 64) :
    ∃ g, create name applications count seed = .ok g ∧
      g.services.length = count.toNat ∧
      (RegistryLoad.replacements retired g).1.length = retired.length ∧
      ((g.services ++ (RegistryLoad.replacements retired g).1).map (·.id)).Nodup := by
  obtain ⟨g, made⟩ := create_ok name applications count seed (by simpa using named) some
  obtain ⟨ready, length⟩ := create_ready made
  obtain ⟨numbered, -, -⟩ := ready.replacements retired
  have replaced := length_replacements retired g
  refine ⟨g, made, length, replaced, ?_⟩
  have all : Numbered g.name 0 (g.services ++ (RegistryLoad.replacements retired g).1) := by
    rw [numbered_append, Nat.zero_add, length]
    exact ⟨ready.numbered, numbered⟩
  refine all.distinct ?_
  rw [List.length_append, length, replaced]
  exact few

/-- Two replacements of one instance whose application looks like the end of an id. -/
theorem ids_distinct_of_two_dashes :
    ∃ g, create "a-0" 1 2 7 = .ok g ∧
      ((g.services ++ (RegistryLoad.replacements
        [Instance.named "other" "app000-000001" "", Instance.named "other" "app000-000001" ""]
          g).1).map (·.id)).Nodup := by
  obtain ⟨g, made, -, -, distinct⟩ := generated_ids_distinct "a-0" 1 2 7 (by decide) (by decide)
    [Instance.named "other" "app000-000001" "", Instance.named "other" "app000-000001" ""]
    (by decide)
  exact ⟨g, made, distinct⟩

end Generator

end RegistryLoad
