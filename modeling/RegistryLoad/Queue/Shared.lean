import RegistryLoad.Queue.Fifo

/-!
# Shared queues

Queues that are reached through handles.  Several handles may share one queue, and what is
pushed through one of them is popped through any other; separate queues know nothing of each
other.

* `Shared.queue?`: the queue behind a handle.
-/

namespace RegistryLoad

/-- Queues, and for each handle the number of the queue behind it. -/
structure Shared (α : Type) where
  queues : Array (Fifo α)
  handles : Array Nat
  inRange : ∀ k ∈ handles, k < queues.size

namespace Shared

variable {α : Type}

/-- One queue with one handle. -/
def single (q : Fifo α) : Shared α where
  queues := #[q]
  handles := #[0]
  inRange := by simp

/-- The queue behind handle `h`. -/
def queue? (s : Shared α) (h : Nat) : Option (Fifo α) :=
  s.handles[h]?.bind (s.queues[·]?)

/-- Replaces queue `k`. -/
def setQueue (s : Shared α) (k : Nat) (q : Fifo α) : Shared α where
  queues := s.queues.setIfInBounds k q
  handles := s.handles
  inRange := by simpa using s.inRange

/-- Pushes an item through handle `h`. -/
def push (s : Shared α) (h : Nat) (a : α) : Shared α :=
  match s.handles[h]?, s.queue? h with
  | some k, some q => s.setQueue k (q.push a)
  | _, _ => s

/-- Pops the oldest item through handle `h`. -/
def pop? (s : Shared α) (h : Nat) : Option (α × Shared α) :=
  match s.handles[h]?, (s.queue? h).bind Fifo.pop? with
  | some k, some (a, q) => some (a, s.setQueue k q)
  | _, _ => none

/-- The length of the queue behind handle `h`. -/
def size (s : Shared α) (h : Nat) : Nat := ((s.queue? h).map Fifo.size).getD 0

/-- The lengths seen through all handles. -/
def sizes (s : Shared α) : List Nat := (List.range s.handles.size).map s.size

/-- A further handle of the queue behind handle `h`. -/
def clone (s : Shared α) (h : Nat) : Shared α :=
  match hk : s.handles[h]? with
  | some k =>
    { queues := s.queues
      handles := s.handles.push k
      inRange := by
        intro j hj
        rcases Array.mem_push.mp hj with hj | rfl
        · exact s.inRange j hj
        · exact s.inRange j (Array.mem_of_getElem? hk) }
  | none => s

/-- A handle of a new queue that holds the given items. -/
def adopt (s : Shared α) (items : List α) : Shared α where
  queues := s.queues.push (Fifo.ofList items)
  handles := s.handles.push s.queues.size
  inRange := by
    intro j hj
    rw [Array.size_push]
    rcases Array.mem_push.mp hj with hj | rfl
    · exact Nat.lt_succ_of_lt (s.inRange j hj)
    · exact Nat.lt_succ_self _

/-- A handle of a new queue without items. -/
def create (s : Shared α) : Shared α := s.adopt []

/-! ## What the operations do -/

variable {s : Shared α} {h k : Nat} {q : Fifo α}

/-- There is a queue behind every handle. -/
theorem exists_queue (known : s.handles[h]? = some k) : ∃ q, s.queues[k]? = some q :=
  ⟨_, Array.getElem?_eq_getElem (s.inRange k (Array.mem_of_getElem? known))⟩

theorem queue?_of_known (known : s.handles[h]? = some k) : s.queue? h = s.queues[k]? := by
  rw [queue?, known, Option.bind_some]

theorem queue?_of_unknown (unknown : s.handles[h]? = none) : s.queue? h = none := by
  rw [queue?, unknown, Option.bind_none]

theorem push_of_known (known : s.handles[h]? = some k) (held : s.queues[k]? = some q) (a : α) :
    s.push h a = s.setQueue k (q.push a) := by
  rw [push, queue?_of_known known, known, held]

theorem push_of_unknown (unknown : s.handles[h]? = none) (a : α) : s.push h a = s := by
  rw [push, unknown]

theorem pop?_of_known (known : s.handles[h]? = some k) (held : s.queues[k]? = some q) :
    s.pop? h = q.pop?.map fun taken => (taken.1, s.setQueue k taken.2) := by
  rw [pop?, queue?_of_known known, known, held, Option.bind_some]
  cases q.pop? <;> rfl

theorem pop?_of_unknown (unknown : s.handles[h]? = none) : s.pop? h = none := by
  rw [pop?, unknown]

theorem clone_of_known (known : s.handles[h]? = some k) :
    (s.clone h).queues = s.queues ∧ (s.clone h).handles = s.handles.push k := by
  unfold clone
  split
  · rename_i j found
    rw [known, Option.some.injEq] at found
    exact ⟨rfl, by rw [found]⟩
  · rename_i missing
    rw [known] at missing
    cases missing

theorem clone_of_unknown (unknown : s.handles[h]? = none) : s.clone h = s := by
  unfold clone
  split
  · rename_i j found
    rw [unknown] at found
    cases found
  · rfl

end Shared

end RegistryLoad
