import RegistryLoad.Proofs.Registry.Replay

/-!
# Calls for different ids

A call concerns one id.  What the store holds of that id, what it announces of it and what it
answers depend on the calls for it alone, so calls for different ids may change places.

## Definitions

* `Write.isAbout`, `Change.isAbout`: which id a call or a change is for.
* `Store.answers`: calls made one after the other, each with its answer.
* `Store.Alike`: two stores that show no difference at one id.

## Results

* `alike_of_other`: calls for other ids leave an id as it is.
* `alike_write`: a call for the id keeps stores alike, and they answer the same.
* `alike_after`: all calls come to the same at an id as those for it alone.
* `Store.order_of_ids_is_free`: reordered calls with the same calls for each id in the same order
  lead to the same contents and the same size, with the same answers and the same changes of
  each id.
-/

namespace RegistryLoad

/-- Whether a call is for an id. -/
def Write.isAbout (id : String) : Write → Bool
  | register _ i => i.id == id
  | unregister _ i => i.id == id
  | shutDown => false

/-- Whether a change concerns an id. -/
def Change.isAbout (id : String) (change : Change) : Bool := change.subject.id == id

namespace Store

/-- What a call answers; a shutdown does not. -/
def answer? (s : Store) : Write → Option (Except RegistryError Bool)
  | .register source i => some (s.register source i).1
  | .unregister source i => some (s.unregister source i).1
  | .shutDown => none

/-- Calls made one after the other, each with its answer. -/
def answers (s : Store) : List Write → List (Write × Option (Except RegistryError Bool))
  | [] => []
  | w :: ws => (w, s.answer? w) :: (s.write w).answers ws

/-- The stores take calls or refuse them both, they hold the same of the id, and they have
announced the same of it. -/
structure Alike (id : String) (s t : Store) : Prop where
  shut : s.isShutDown = t.isShutDown
  copies : s.copies id = t.copies id
  announced : s.feed.history.filter (Change.isAbout id) = t.feed.history.filter (Change.isAbout id)

variable {id : String} {s t u : Store} {w : Write} {earlier ws ws' : List Write}

@[simp] theorem after_nil : s.after [] = s := rfl

@[simp] theorem after_cons : s.after (w :: ws) = (s.write w).after ws := rfl

theorem after_append : s.after (ws ++ ws') = (s.after ws).after ws' := by
  simp [after]

namespace Alike

theorem refl (s : Store) : Alike id s s := ⟨rfl, rfl, rfl⟩

theorem symm (h : Alike id s t) : Alike id t s :=
  ⟨h.shut.symm, h.copies.symm, h.announced.symm⟩

theorem trans (h : Alike id s t) (h' : Alike id t u) : Alike id s u :=
  ⟨h.shut.trans h'.shut, h.copies.trans h'.copies, h.announced.trans h'.announced⟩

end Alike

/-! ## One call -/

/-- A call for another id leaves an id as it is: also the deletion that it may announce is of a
copy stored under the other id. -/
theorem alike_of_other (reflects : s.Reflects earlier) (other : w.isAbout id = false)
    (write : w ≠ .shutDown) : Alike id (s.write w) s := by
  by_cases down : Write.shutDown ∈ earlier
  · rw [write_of_isShutDown w (reflects.shut_iff.mpr down)]
    exact Alike.refl s
  · have opened := reflects.isShutDown_eq_false down
    cases w with
    | shutDown => exact absurd rfl write
    | register source i =>
      have distinct : i.id ≠ id := by simpa [Write.isAbout] using other
      constructor
      · simp [Store.write]
      · simp [Store.write, copies_register source i id opened, distinct]
      · simp [Store.write, feed_register source i opened, Change.isAbout, distinct]
    | unregister source i =>
      have distinct : i.id ≠ id := by simpa [Write.isAbout] using other
      constructor
      · simp [Store.write]
      · simp [Store.write, copies_unregister source i id opened, distinct]
      · rcases announced_deletion source i reflects down with
          ⟨copy, last, -, announced⟩ | ⟨-, silent⟩
        · have named : copy.id ≠ id := by rwa [last.mem.2]
          simp [Store.write, announced, Change.isAbout, named]
        · rw [Store.write, silent]

/-- A call for an id does the same to stores that are alike at it, and gets the same answer. -/
theorem alike_write (alike : Alike id s t) (about : w.isAbout id = true) :
    s.answer? w = t.answer? w ∧ Alike id (s.write w) (t.write w) := by
  cases down : s.isShutDown with
  | true =>
    have shut := alike.shut ▸ down
    rw [write_of_isShutDown w down, write_of_isShutDown w shut]
    refine ⟨?_, alike⟩
    cases w with
    | register source i => simp [answer?, register_of_isShutDown, down, shut]
    | unregister source i => simp [answer?, unregister_of_isShutDown, down, shut]
    | shutDown => rfl
  | false =>
    have opened := alike.shut ▸ down
    cases w with
    | shutDown => cases about
    | register source i =>
      obtain rfl : i.id = id := by simpa [Write.isAbout] using about
      refine ⟨?_, ?_, ?_, ?_⟩
      · simp [answer?, register_of_open, down, opened, alike.copies]
      · simp [Store.write, alike.shut]
      · simp [Store.write, copies_register, down, opened, alike.copies]
      · simp [Store.write, feed_register, down, opened, alike.announced]
    | unregister source i =>
      obtain rfl : i.id = id := by simpa [Write.isAbout] using about
      refine ⟨?_, ?_, ?_, ?_⟩
      · simp [answer?, unregister_answer, down, opened, contains, alike.copies]
      · simp [Store.write, alike.shut]
      · simp [Store.write, copies_unregister, down, opened, alike.copies]
      · rw [Store.write, Store.write, feed_unregister source i down,
          feed_unregister source i opened, ← alike.copies]
        cases (s.copies i.id).copy? source with
        | none => exact alike.announced
        | some copy =>
          dsimp only [Option.elim_some]
          split
          · simp [alike.announced]
          · exact alike.announced

/-! ## Calls one after the other -/

/-- **The calls for other ids can be left out.**  At one id a run comes to the same as the calls
for that id alone, and these get the same answers. -/
theorem alike_after (reflects : s.Reflects earlier) (alike : Alike id s t)
    (writes : Write.shutDown ∉ ws) :
    Alike id (s.after ws) (t.after (ws.filter (Write.isAbout id))) ∧
      (s.answers ws).filter (fun entry => entry.1.isAbout id)
        = t.answers (ws.filter (Write.isAbout id)) := by
  induction ws generalizing s t earlier with
  | nil => exact ⟨alike, rfl⟩
  | cons w ws ih =>
    obtain ⟨write, writes⟩ : Write.shutDown ≠ w ∧ Write.shutDown ∉ ws := by
      simpa using writes
    have onward := reflects_write w reflects
    cases about : w.isAbout id with
    | false =>
      have still := (alike_of_other reflects about write.symm).trans alike
      simpa [about, answers] using ih onward still writes
    | true =>
      obtain ⟨answer, next⟩ := alike_write alike about
      simpa [about, answers, answer] using ih onward next writes

/-- What a store has announced stays, and calls add to it. -/
theorem exists_announced (s : Store) (ws : List Write) :
    ∃ news, (s.after ws).feed.history = s.feed.history ++ news := by
  induction ws generalizing s with
  | nil => exact ⟨[], by simp⟩
  | cons w ws ih =>
    obtain ⟨news, announced⟩ := ih (s.write w)
    rcases feed_write s w with silent | ⟨change, told⟩
    · exact ⟨news, by simp [announced, silent]⟩
    · exact ⟨change :: news, by simp [announced, told]⟩

/-- **Calls for different ids are independent.**  Let calls be made on a store, after any calls
before, and the same calls in another order that keeps the order of the calls for each id.  Then
both runs leave the same copies under every id, and the same size.  For every id its calls get the
same answers, and of all that the run announces the changes that concern the id are the same, in
the same order. -/
theorem order_of_ids_is_free (feed : Feed) (earlier ws ws' : List Write)
    (writes : Write.shutDown ∉ ws) (reordered : ws.Perm ws')
    (kept : ∀ id, ws.filter (Write.isAbout id) = ws'.filter (Write.isAbout id)) :
    let s := after { feed := feed } earlier
    (∀ id, (s.after ws).copies id = (s.after ws').copies id) ∧
    (s.after ws).size = (s.after ws').size ∧
    (∀ id, (s.answers ws).filter (fun entry => entry.1.isAbout id)
      = (s.answers ws').filter (fun entry => entry.1.isAbout id)) ∧
    ∃ news news', (s.after ws).feed.history = s.feed.history ++ news ∧
      (s.after ws').feed.history = s.feed.history ++ news' ∧
      ∀ id, news.filter (Change.isAbout id) = news'.filter (Change.isAbout id) := by
  intro s
  have reflects : s.Reflects earlier := reflects_after feed earlier
  have writes' : Write.shutDown ∉ ws' := fun shut => writes (reordered.mem_iff.mpr shut)
  -- Both runs are compared with the calls for one id alone, which are the same in both.
  have alike : ∀ id, Alike id (s.after ws) (s.after ws') := fun id =>
    (alike_after reflects (Alike.refl s) writes).1.trans
      (kept id ▸ (alike_after reflects (Alike.refl s) writes').1.symm)
  refine ⟨fun id => (alike id).copies, ?_, fun id => ?_, ?_⟩
  · have well : (s.after ws).WellKept := by
      simpa [s, ← after_append] using (reflects_after feed (earlier ++ ws)).wellKept
    have well' : (s.after ws').WellKept := by
      simpa [s, ← after_append] using (reflects_after feed (earlier ++ ws')).wellKept
    rw [size, size, well.count_eq_of_copies well' fun id => (alike id).copies]
  · rw [(alike_after reflects (Alike.refl s) writes).2, kept id,
      (alike_after reflects (Alike.refl s) writes').2]
  · obtain ⟨news, announced⟩ := exists_announced s ws
    obtain ⟨news', announced'⟩ := exists_announced s ws'
    refine ⟨news, news', announced, announced', fun id => ?_⟩
    have same := (alike id).announced
    rw [announced, announced', List.filter_append, List.filter_append] at same
    exact List.append_cancel_left same

/-- A case of it: two sources and two ids, an id that goes and comes back, on a store that holds
one of them already. -/
theorem order_of_two_ids_is_free :
    let peer : Source := ⟨.replicated, "peer"⟩
    let a : Instance := Instance.named "a" "shop" "shop.vip"
    let b : Instance := Instance.named "b" "shop" "shop.vip"
    let earlier : List Write := [.register peer b]
    let ws : List Write :=
      [.register Source.perf a, .register peer a, .unregister peer b, .unregister Source.perf a,
        .register peer b, .unregister peer a]
    let ws' : List Write :=
      [.unregister peer b, .register Source.perf a, .register peer b, .register peer a,
        .unregister Source.perf a, .unregister peer a]
    let s := after { feed := { window := 4 } } earlier
    ws ≠ ws' ∧ Write.shutDown ∉ ws ∧ ws.Perm ws' ∧
      (∀ id, ws.filter (Write.isAbout id) = ws'.filter (Write.isAbout id)) ∧
      (∀ id, (s.after ws).copies id = (s.after ws').copies id) ∧
      (s.after ws).size = (s.after ws').size ∧
      ∀ id, (s.answers ws).filter (fun entry => entry.1.isAbout id)
        = (s.answers ws').filter (fun entry => entry.1.isAbout id) := by
  intro peer a b earlier ws ws' s
  have writes : Write.shutDown ∉ ws := by decide
  have reordered : ws.Perm ws' := by decide
  have kept : ∀ id, ws.filter (Write.isAbout id) = ws'.filter (Write.isAbout id) := by
    intro id
    by_cases first : "a" = id
    · subst first
      rfl
    · by_cases second : "b" = id
      · subst second
        rfl
      · simp [ws, ws', a, b, Instance.named, Write.isAbout, first, second]
  obtain ⟨copies, size, answers, -⟩ :=
    order_of_ids_is_free { window := 4 } earlier ws ws' writes reordered kept
  exact ⟨by decide, writes, reordered, kept, copies, size, answers⟩

end Store

end RegistryLoad
