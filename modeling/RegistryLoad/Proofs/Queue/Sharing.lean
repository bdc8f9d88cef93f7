import Mathlib.Data.List.Basic
import RegistryLoad.Queue.Shared

/-!
# Shared queues lose nothing

Clients push and pop through the handles that they have, take further handles of the queues behind
them, and make new queues.  One use takes place after the other, in whatever order the clients come
to it.  Beside the queues, books are kept of what the clients did and were told: which queue each
handle is one of, and what was put into each queue and taken out of it.

## Definitions

* `Shared.Use`, `Shared.Reply`: what a client does, and what it is told.
* `Shared.run`: many uses, with what was told to each.
* `Account`, `Books`: the books, which know nothing but the uses and their replies.
* `Shared.Agrees`: the queues are as the books have them.

## Results

* `Shared.Agrees.perform`: one use leaves queues and books in agreement.
* `Shared.Agrees.run`: so do many.
* `Shared.content?_perform`: a use that writes to one queue leaves the others.
* `Shared.queues_keep_items`: no item is lost, doubled or moved before another one.
-/

namespace RegistryLoad

variable {α : Type}

namespace Shared

/-! ## Uses -/

/-- What a client does. -/
inductive Use (α : Type) where
  | push (handle : Nat) (item : α)
  | pop (handle : Nat)
  | size (handle : Nat)
  | clone (handle : Nat)
  | create (items : List α)
  deriving DecidableEq, Repr

/-- What a client is told. -/
inductive Reply (α : Type) where
  | done
  | popped (item : Option α)
  | counted (size : Nat)
  deriving DecidableEq, Repr

/-- The handle whose queue a use may change. -/
def Use.writes? : Use α → Option Nat
  | .push h _ => some h
  | .pop h => some h
  | _ => none

/-- The queues after a use, and the reply. -/
def perform (s : Shared α) : Use α → Shared α × Reply α
  | .push h a => (s.push h a, .done)
  | .pop h =>
    match s.pop? h with
    | some (a, s') => (s', .popped (some a))
    | none => (s, .popped none)
  | .size h => (s, .counted (s.size h))
  | .clone h => (s.clone h, .done)
  | .create items => (s.adopt items, .done)

/-- The queues after many uses, and each use with its reply. -/
def run (s : Shared α) : List (Use α) → Shared α × List (Use α × Reply α)
  | [] => (s, [])
  | use :: uses =>
    let (s', reply) := s.perform use
    let (last, log) := run s' uses
    (last, (use, reply) :: log)

/-- The items of the queue behind a handle, oldest first. -/
def content? (s : Shared α) (h : Nat) : Option (List α) := (s.queue? h).map Fifo.toList

end Shared

open Shared

/-! ## Books -/

/-- What a queue held when it was made, what was put into it, and what was taken out of it. -/
structure Account (α : Type) where
  initial : List α
  pushed : List α := []
  popped : List α := []
  deriving DecidableEq, Repr

/-- For each handle the number of its queue, and for each queue its account. -/
structure Books (α : Type) where
  owners : List Nat
  accounts : List (Account α)
  deriving DecidableEq, Repr

namespace Books

/-- One queue with one handle. -/
def opening (items : List α) : Books α := { owners := [0], accounts := [{ initial := items }] }

/-- Changes the account of the queue of handle `h`. -/
def amend (b : Books α) (h : Nat) (change : Account α → Account α) : Books α :=
  match b.owners[h]? with
  | some k => { b with accounts := b.accounts.modify k change }
  | none => b

/-- Enters a use and its reply. -/
def enter (b : Books α) : Use α × Reply α → Books α
  | (.push h a, _) => b.amend h fun account => { account with pushed := account.pushed ++ [a] }
  | (.pop h, .popped (some a)) =>
    b.amend h fun account => { account with popped := account.popped ++ [a] }
  | (.pop _, _) => b
  | (.size _, _) => b
  | (.clone h, _) => { b with owners := b.owners ++ b.owners[h]?.toList }
  | (.create items, _) =>
    { owners := b.owners ++ [b.accounts.length], accounts := b.accounts ++ [{ initial := items }] }

def after (b : Books α) (log : List (Use α × Reply α)) : Books α := log.foldl enter b

end Books

/-- What was taken out and what is there is what was there and what was put in, in this order. -/
def Account.Balances (account : Account α) (content : List α) : Prop :=
  account.popped ++ content = account.initial ++ account.pushed

theorem Account.balances_initial (items : List α) :
    Account.Balances { initial := items } (Fifo.ofList items).toList := by
  rw [Balances, Fifo.toList_ofList, List.nil_append, List.append_nil]

namespace Shared

/-- The handles belong to the queues of the books, and every account balances. -/
structure Agrees (s : Shared α) (b : Books α) : Prop where
  owners : s.handles.toList = b.owners
  count : s.queues.size = b.accounts.length
  owned : ∀ k < b.accounts.length, k ∈ b.owners
  balances : ∀ (k : Nat) (account : Account α) (q : Fifo α), b.accounts[k]? = some account →
    s.queues[k]? = some q → account.Balances q.toList

variable {s : Shared α} {b : Books α} {h k : Nat} {q q' : Fifo α}

theorem agrees_opening (items : List α) :
    Agrees (single (Fifo.ofList items)) (Books.opening items) where
  owners := rfl
  count := rfl
  owned := by simp [Books.opening]
  balances := by
    intro k account q listed held
    cases k with
    | zero =>
      obtain rfl := Option.some.inj listed
      obtain rfl := Option.some.inj held
      exact Account.balances_initial items
    | succ k => cases listed

theorem Agrees.owner (agrees : s.Agrees b) (h : Nat) : s.handles[h]? = b.owners[h]? := by
  rw [← agrees.owners, Array.getElem?_toList]

/-- The books have an account for the queue of every handle. -/
theorem Agrees.lt_of_mem (agrees : s.Agrees b) (known : k ∈ b.owners) : k < b.accounts.length := by
  rw [← agrees.owners, Array.mem_toList_iff] at known
  exact agrees.count ▸ s.inRange k known

/-- One queue is replaced, and its account is changed with it. -/
theorem Agrees.amend (agrees : s.Agrees b) (known : s.handles[h]? = some k)
    (held : s.queues[k]? = some q) {change : Account α → Account α}
    (kept : ∀ account : Account α, account.Balances q.toList →
      (change account).Balances q'.toList) :
    (s.setQueue k q').Agrees (b.amend h change) := by
  have amended : b.amend h change = { b with accounts := b.accounts.modify k change } := by
    rw [Books.amend, ← agrees.owner, known]
  rw [amended]
  refine ⟨agrees.owners, ?_, ?_, ?_⟩
  · simpa [setQueue] using agrees.count
  · simpa using agrees.owned
  · intro j account r listed found
    rw [List.getElem?_modify] at listed
    obtain ⟨old, before, rfl⟩ := Option.map_eq_some_iff.mp listed
    simp only [setQueue, Array.getElem?_setIfInBounds] at found
    by_cases same : k = j
    · subst same
      obtain ⟨within, -⟩ := Array.getElem?_eq_some_iff.mp held
      rw [if_pos rfl, if_pos within] at found
      obtain rfl := Option.some.inj found
      rw [if_pos rfl]
      exact kept old (agrees.balances k old q before held)
    · rw [if_neg same] at found
      rw [if_neg same]
      exact agrees.balances j old r before found

theorem Agrees.push (agrees : s.Agrees b) (h : Nat) (a : α) :
    (s.push h a).Agrees (b.enter (.push h a, .done)) := by
  cases known : s.handles[h]? with
  | none =>
    rw [push_of_unknown known, Books.enter, Books.amend, ← agrees.owner, known]
    exact agrees
  | some k =>
    obtain ⟨q, held⟩ := exists_queue known
    rw [push_of_known known held]
    refine agrees.amend known held fun account balances => ?_
    rw [Account.Balances, Fifo.toList_push, ← List.append_assoc, balances, List.append_assoc]

theorem Agrees.pop (agrees : s.Agrees b) (h : Nat) :
    (s.perform (.pop h)).1.Agrees (b.enter (.pop h, (s.perform (.pop h)).2)) := by
  cases known : s.handles[h]? with
  | none =>
    rw [perform, pop?_of_unknown known]
    exact agrees
  | some k =>
    obtain ⟨q, held⟩ := exists_queue known
    rw [perform, pop?_of_known known held]
    cases taken : q.pop? with
    | none => exact agrees
    | some both =>
      obtain ⟨a, q'⟩ := both
      refine agrees.amend known held fun account balances => ?_
      rw [Fifo.toList_of_pop?_eq_some taken] at balances
      rw [Account.Balances, List.append_assoc, List.singleton_append]
      exact balances

theorem Agrees.clone (agrees : s.Agrees b) (h : Nat) :
    (s.clone h).Agrees (b.enter (.clone h, .done)) := by
  cases known : s.handles[h]? with
  | none =>
    rw [clone_of_unknown known, Books.enter, ← agrees.owner, known, Option.toList_none,
      List.append_nil]
    exact agrees
  | some k =>
    obtain ⟨queues, handles⟩ := clone_of_known known
    rw [Books.enter, ← agrees.owner, known, Option.toList_some]
    refine ⟨?_, ?_, fun j below => List.mem_append_left _ (agrees.owned j below), ?_⟩
    · rw [handles, Array.toList_push, agrees.owners]
    · rw [queues]
      exact agrees.count
    · rw [queues]
      exact agrees.balances

theorem Agrees.create (agrees : s.Agrees b) (items : List α) :
    (s.adopt items).Agrees (b.enter (.create items, .done)) where
  owners := by simp [adopt, Books.enter, agrees.owners, agrees.count]
  count := by simp [adopt, Books.enter, agrees.count]
  owned := by
    intro k below
    rw [Books.enter, List.length_append, List.length_singleton] at below
    rw [Books.enter, List.mem_append, List.mem_singleton]
    rcases Nat.lt_succ_iff_lt_or_eq.mp below with earlier | last
    · exact .inl (agrees.owned k earlier)
    · exact .inr last
  balances := by
    intro k account q listed held
    simp only [Books.enter, adopt, Array.getElem?_push, agrees.count] at listed held
    by_cases last : k = b.accounts.length
    · subst last
      rw [List.getElem?_concat_length] at listed
      rw [if_pos rfl] at held
      obtain rfl := Option.some.inj listed
      obtain rfl := Option.some.inj held
      exact Account.balances_initial items
    · obtain ⟨below, -⟩ := List.getElem?_eq_some_iff.mp listed
      rw [List.length_append, List.length_singleton] at below
      rw [List.getElem?_append_left (by omega)] at listed
      rw [if_neg last] at held
      exact agrees.balances k account q listed held

/-- **One use leaves queues and books in agreement.** -/
theorem Agrees.perform (agrees : s.Agrees b) (use : Use α) :
    (s.perform use).1.Agrees (b.enter (use, (s.perform use).2)) := by
  cases use with
  | push h a => exact agrees.push h a
  | pop h => exact agrees.pop h
  | size h => exact agrees
  | clone h => exact agrees.clone h
  | create items => exact agrees.create items

/-- **So do many uses.** -/
theorem Agrees.run (agrees : s.Agrees b) (uses : List (Use α)) :
    (s.run uses).1.Agrees (b.after (s.run uses).2) := by
  induction uses generalizing s b with
  | nil => exact agrees
  | cons use uses ih => exact ih (agrees.perform use)

/-! ## What clients see -/

theorem content?_of_known (known : s.handles[h]? = some k) (held : s.queues[k]? = some q) :
    s.content? h = some q.toList := by
  rw [content?, queue?_of_known known, held, Option.map_some]

theorem content?_of_unknown (unknown : s.handles[h]? = none) : s.content? h = none := by
  rw [content?, queue?_of_unknown unknown, Option.map_none]

/-- A pop takes the oldest item, and there is none only if the queue is empty. -/
theorem perform_pop_reply {content : List α} (seen : s.content? h = some content) :
    (s.perform (.pop h)).2 = .popped content.head? := by
  cases known : s.handles[h]? with
  | none =>
    rw [content?_of_unknown known] at seen
    cases seen
  | some k =>
    obtain ⟨q, held⟩ := exists_queue known
    rw [content?_of_known known held, Option.some.injEq] at seen
    rw [perform, pop?_of_known known held, ← seen]
    cases taken : q.pop? with
    | none => rw [(Fifo.pop?_eq_none_iff q).mp taken]; rfl
    | some both => rw [Fifo.toList_of_pop?_eq_some taken]; rfl

theorem perform_size_reply {content : List α} (seen : s.content? h = some content) :
    (s.perform (.size h)).2 = .counted content.length := by
  obtain ⟨q, behind, rfl⟩ := Option.map_eq_some_iff.mp seen
  rw [perform, size, behind, Option.map_some, Option.getD_some, Fifo.size_eq_length]

theorem content?_congr {s' : Shared α} (known : s.handles[h]? = some k)
    (known' : s'.handles[h]? = some k) (same : s'.queues[k]? = s.queues[k]?) :
    s'.content? h = s.content? h := by
  rw [content?, content?, queue?_of_known known, queue?_of_known known', same]

/-- A queue that is replaced is not seen through the handles of others. -/
theorem content?_setQueue {j : Nat} (known : s.handles[h]? = some k) (other : j ≠ k) :
    (s.setQueue j q).content? h = s.content? h := by
  refine content?_congr known known ?_
  rw [setQueue, Array.getElem?_setIfInBounds, if_neg other]

/-- What is known of an array stays so when something is added. -/
theorem getElem?_push_of_some {β : Type} {items : Array β} {i : Nat} {item : β}
    (known : items[i]? = some item) (next : β) : (items.push next)[i]? = some item := by
  obtain ⟨below, -⟩ := Array.getElem?_eq_some_iff.mp known
  rw [Array.getElem?_push, if_neg (Nat.ne_of_lt below), known]

/-- **A use that writes to one queue leaves the others**, and a use that writes to none leaves
all. -/
theorem content?_perform (use : Use α) (known : s.handles[h]? = some k)
    (apart : ∀ g, use.writes? = some g → s.handles[g]? ≠ some k) :
    (s.perform use).1.content? h = s.content? h := by
  cases use with
  | push g a =>
    cases writer : s.handles[g]? with
    | none => rw [perform, push_of_unknown writer]
    | some j =>
      obtain ⟨q, held⟩ := exists_queue writer
      have other : j ≠ k := fun same => apart g rfl (same ▸ writer)
      rw [perform, push_of_known writer held]
      exact content?_setQueue known other
  | pop g =>
    cases writer : s.handles[g]? with
    | none => rw [perform, pop?_of_unknown writer]
    | some j =>
      obtain ⟨q, held⟩ := exists_queue writer
      have other : j ≠ k := fun same => apart g rfl (same ▸ writer)
      rw [perform, pop?_of_known writer held]
      cases q.pop? with
      | none => rfl
      | some both => exact content?_setQueue known other
  | size g => rfl
  | clone g =>
    cases cloned : s.handles[g]? with
    | none => rw [perform, clone_of_unknown cloned]
    | some j =>
      obtain ⟨queues, handles⟩ := clone_of_known cloned
      refine content?_congr known ?_ ?_
      · rw [perform, handles]
        exact getElem?_push_of_some known j
      · rw [perform, queues]
  | create items =>
    obtain ⟨q, held⟩ := exists_queue known
    refine content?_congr known (getElem?_push_of_some known _) ?_
    rw [held]
    exact getElem?_push_of_some held _

/-- **Shared queues lose, double and reorder nothing.**  Begin with one handle of a queue of any
items, and let clients use the handles that there are in any order: push, pop, ask for the size, take
a further handle of a queue, make new queues.  Keep books of the uses and replies.  Then:

* every queue has a handle, and every handle a queue;
* through each handle of a queue the same items are seen: those that were taken out and those that
  are seen are, in this order, those it was made with and those that were put in;
* a pop gives the oldest item, and none if and only if the queue is empty;
* handles of one queue give the same size, which is the number of its items;
* a use that puts nothing into a queue and takes nothing out of it leaves its items. -/
theorem queues_keep_items (items : List α) (uses : List (Use α)) :
    let ran := (single (Fifo.ofList items)).run uses
    let s := ran.1
    let books := (Books.opening items).after ran.2
    (∀ k, k ∈ books.owners ↔ k < books.accounts.length) ∧
    (∀ (k : Nat) (account : Account α), books.accounts[k]? = some account →
      ∃ content,
        account.popped ++ content = account.initial ++ account.pushed ∧
        ∀ h, books.owners[h]? = some k → s.content? h = some content ∧
          (s.perform (.pop h)).2 = .popped content.head? ∧
          ((s.perform (.pop h)).2 = .popped none ↔ content = []) ∧
          (s.perform (.size h)).2 = .counted content.length) ∧
    ∀ (use : Use α) (h k : Nat), books.owners[h]? = some k →
      (∀ g, use.writes? = some g → books.owners[g]? ≠ some k) →
        (s.perform use).1.content? h = s.content? h := by
  intro ran s books
  have agrees : s.Agrees books := (agrees_opening items).run uses
  refine ⟨fun k => ⟨agrees.lt_of_mem, agrees.owned k⟩, ?_, ?_⟩
  · intro k account listed
    obtain ⟨below, -⟩ := List.getElem?_eq_some_iff.mp listed
    obtain ⟨q, held⟩ : ∃ q, s.queues[k]? = some q :=
      ⟨_, Array.getElem?_eq_getElem (agrees.count ▸ below)⟩
    refine ⟨q.toList, agrees.balances k account q listed held, ?_⟩
    intro h owner
    have seen : s.content? h = some q.toList :=
      content?_of_known ((agrees.owner h).trans owner) held
    have reply := perform_pop_reply seen
    refine ⟨seen, reply, ?_, perform_size_reply seen⟩
    rw [reply, Reply.popped.injEq, List.head?_eq_none_iff]
  · intro use h k owner apart
    refine content?_perform use ((agrees.owner h).trans owner) fun g writes => ?_
    rw [agrees.owner]
    exact apart g writes

/-- Three handles of two queues: what was put in through the second handle comes out through the
first one, and the other queue keeps its item. -/
theorem three_handles_of_two_queues :
    let ran := (single (Fifo.ofList [1, 2])).run
      [.clone 0, .create [], .push 1 3, .push 2 9, .pop 0, .pop 0, .pop 0]
    let books := (Books.opening [1, 2]).after ran.2
    books.owners = [0, 0, 1] ∧
      books.accounts = [⟨[1, 2], [3], [1, 2, 3]⟩, ⟨[], [9], []⟩] ∧
      ran.1.content? 1 = some [] ∧ (ran.1.perform (.pop 1)).2 = .popped none ∧
      (ran.1.perform (.pop 1)).1.content? 2 = ran.1.content? 2 := by
  intro ran books
  obtain ⟨-, queues, others⟩ := queues_keep_items [1, 2]
    [.clone 0, .create [], .push 1 3, .push 2 9, .pop 0, .pop 0, .pop 0]
  have owners : books.owners = [0, 0, 1] := by decide
  have accounts : books.accounts = [⟨[1, 2], [3], [1, 2, 3]⟩, ⟨[], [9], []⟩] := by decide
  obtain ⟨content, kept, seen⟩ := queues 0 ⟨[1, 2], [3], [1, 2, 3]⟩ (by decide)
  have empty : content = [] := List.append_cancel_left (kept.trans (List.append_nil _).symm)
  obtain ⟨shown, -, none, -⟩ := seen 1 (by decide)
  refine ⟨owners, accounts, empty ▸ shown, none.mpr empty, ?_⟩
  refine others (.pop 1) 2 1 (by decide) fun g writes => ?_
  obtain rfl := Option.some.inj writes
  decide

end Shared

end RegistryLoad
