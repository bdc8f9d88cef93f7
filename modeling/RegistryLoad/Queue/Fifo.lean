/-!
# First in, first out

A queue as two lists, the older items in order and the newer ones in reverse.  Its meaning is
`toList`, oldest item first: `toList_push` and `toList_of_pop?_eq_some` say what the operations
do to it.
-/

namespace RegistryLoad

/-- A queue that knows its length. -/
structure Fifo (α : Type) where
  front : List α := []
  back : List α := []
  size : Nat := front.length + back.length
  size_eq : size = front.length + back.length := by rfl

namespace Fifo

variable {α β : Type}

def empty : Fifo α := {}

instance : Inhabited (Fifo α) := ⟨empty⟩

/-- The items, oldest first. -/
def toList (q : Fifo α) : List α := q.front ++ q.back.reverse

/-- The queue of the given items, oldest first. -/
def ofList (items : List α) : Fifo α := { front := items }

def isEmpty (q : Fifo α) : Bool := q.size == 0

/-- Adds the newest item. -/
def push (q : Fifo α) (a : α) : Fifo α where
  front := q.front
  back := a :: q.back
  size := q.size + 1
  size_eq := by rw [q.size_eq, List.length_cons]; omega

/-- Takes the oldest item. -/
def pop? (q : Fifo α) : Option (α × Fifo α) :=
  match hf : q.front with
  | a :: rest =>
    some (a, ⟨rest, q.back, q.size - 1, by rw [q.size_eq, hf, List.length_cons]; omega⟩)
  | [] =>
    match hb : q.back.reverse with
    | a :: rest =>
      some (a, ⟨rest, [], q.size - 1, by
        have hlen := congrArg List.length hb
        rw [List.length_reverse, List.length_cons] at hlen
        rw [q.size_eq, hf]; simp only [List.length_nil]; omega⟩)
    | [] => none

/-- The queue with another oldest item, if it has one. -/
def replaceOldest (q : Fifo α) (a : α) : Fifo α :=
  match q.toList with
  | [] => q
  | _ :: rest => ofList (a :: rest)

@[simp] theorem toList_empty : (empty : Fifo α).toList = [] := rfl

@[simp] theorem toList_ofList (items : List α) : (ofList items).toList = items := by
  simp [toList, ofList]

@[simp] theorem toList_push (q : Fifo α) (a : α) : (q.push a).toList = q.toList ++ [a] := by
  simp [toList, push]

theorem size_eq_length (q : Fifo α) : q.size = q.toList.length := by
  rw [q.size_eq]; simp [toList]

theorem toList_pop? (q : Fifo α) :
    (q.pop?).map (fun p => p.1 :: p.2.toList) = if q.toList = [] then none else some q.toList := by
  unfold pop? toList
  split
  · next a rest hf => simp [hf]
  · next hf =>
    split
    · next a rest hb => simp [hf, hb]
    · next hb => simp [hf, hb]

theorem toList_of_pop?_eq_some {q q' : Fifo α} {a : α} (h : q.pop? = some (a, q')) :
    q.toList = a :: q'.toList := by
  have hl := toList_pop? q
  rw [h, Option.map_some] at hl
  split at hl
  · cases hl
  · exact (Option.some.inj hl).symm

theorem pop?_eq_none_iff (q : Fifo α) : q.pop? = none ↔ q.toList = [] := by
  have hl := toList_pop? q
  constructor
  · intro h
    rw [h, Option.map_none] at hl
    split at hl
    · assumption
    · cases hl
  · intro h
    rw [if_pos h] at hl
    exact Option.map_eq_none_iff.mp hl

end Fifo

end RegistryLoad
