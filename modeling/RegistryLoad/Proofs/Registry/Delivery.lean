import Mathlib.Data.List.DropRight
import RegistryLoad.Proofs.Registry.History
import RegistryLoad.Registry.Audience

/-!
# Deliveries

A channel counts the changes that concern it in the turns that it gets.  What it can find in a turn
are the changes announced since it was opened or had its last turn, and of these the window of the
feed keeps the latest.  So the count is a sum, with a term for each turn that the channel gets while
it is open.

## Definitions

* `Audience.Event`, `Audience.after`: what happens to a registry and its channels.
* `Audience.rounds`: the changes announced before each turn of a channel, since the turn before it.
* `Audience.tally`: the changes in rounds that the window keeps and an interest covers.
* `Audience.Attends`: an open channel that has read a given number of changes.

## Results

* `Feed.unread_eq_rtake`: a listener finds the latest of the changes that it has not read.
* `Audience.continues_happen`: what happens to the feed.
* `Audience.attends_happen`, `Audience.attends_settle`: what happens to an open channel.
* `Audience.delivered_eq_tally`: what a channel has counted after any events.
-/

namespace RegistryLoad

/-! ## Feeds -/

namespace Feed

variable {f f' f'' : Feed}

/-- The feed knows how many changes were announced. -/
def Counts (f : Feed) : Prop := f.count = f.history.length

/-- A feed some time later. -/
structure Continues (f f' : Feed) : Prop where
  window_eq : f'.window = f.window
  counts : f.Counts → f'.Counts
  count_le : f.count ≤ f'.count
  history : f.history <+: f'.history
  frozen : f.closed = true → f' = f

theorem Continues.refl (f : Feed) : f.Continues f :=
  ⟨rfl, id, Nat.le_refl _, List.prefix_rfl, fun _ => rfl⟩

theorem Continues.trans (h : f.Continues f') (h' : f'.Continues f'') : f.Continues f'' where
  window_eq := h'.window_eq.trans h.window_eq
  counts := h'.counts ∘ h.counts
  count_le := h.count_le.trans h'.count_le
  history := h.history.trans h'.history
  frozen closed := by
    have same := h.frozen closed
    rw [h'.frozen (same ▸ closed), same]

theorem continues_announce (change : Change) (live : f.closed = false) :
    f.Continues (f.announce change) where
  window_eq := rfl
  counts counted := by
    rw [Counts, history_announce, List.length_append, List.length_singleton, ← counted]
    rfl
  count_le := Nat.le_succ _
  history := by
    rw [history_announce]
    exact List.prefix_append _ _
  frozen closed := by
    rw [live] at closed
    cases closed

theorem continues_close (f : Feed) : f.Continues f.close where
  window_eq := rfl
  counts := id
  count_le := Nat.le_refl _
  history := List.prefix_rfl
  frozen closed := by
    cases f
    cases closed
    rfl

/-- A listener finds the latest of the changes that it has not read, as many as the window
holds. -/
theorem unread_eq_rtake (counted : f.Counts) (seen : Nat) :
    (f.unread seen).2 = (f.history.drop seen).rtake f.window := by
  have all : f.count = f.latest.length := by rw [counted, history, List.length_reverse]
  have waiting : f.history.drop seen = (f.latest.take (f.count - seen)).reverse := by
    rw [history, List.drop_reverse, all]
  rw [List.rtake_eq_reverse_take_reverse, waiting, List.reverse_reverse, List.take_take,
    Nat.min_comm]
  rfl

/-- A feed keeps as many changes as were asked for, rounded up, if memory can hold them. -/
theorem create?_eq_some_iff {capacity : UInt64} :
    create? capacity = some f ↔ Nat.nextPowerOfTwo (max 1 capacity.toNat) ≤ maxWindow ∧
      f = { window := Nat.nextPowerOfTwo (max 1 capacity.toNat) } := by
  unfold create? roundUp
  dsimp only
  split
  · rename_i small
    rw [Option.some_inj, eq_comm]
    exact ⟨fun same => ⟨small, same⟩, fun both => both.2⟩
  · rename_i large
    simp [large]

end Feed

/-- An open channel's turn: it counts what the window keeps of the changes that it has not read,
as far as they concern it, and has read everything then. -/
theorem Channel.settle_of_open {c : Channel} {feed : Feed} (opened : c.closed = false)
    (listening : c.listening = true) (counted : feed.Counts) :
    (c.settle feed).1.seen = feed.count ∧
      (c.settle feed).1.counter = c.counter + UInt64.ofNat
        (((feed.history.drop c.seen).rtake feed.window).countP fun change =>
          c.interest.covers change.subject) ∧
      ((c.settle feed).1.listening = true ∨ feed.closed = true) := by
  rw [← Feed.unread_eq_rtake counted]
  unfold settle
  rw [listening, opened]
  cases feed.closed with
  | true => exact ⟨rfl, rfl, .inr rfl⟩
  | false => exact ⟨rfl, rfl, .inl listening⟩

/-- A closed channel counts nothing in its turn. -/
theorem Channel.counter_settle_of_closed {c : Channel} {feed : Feed} (closed : c.closed = true) :
    (c.settle feed).1.counter = c.counter := by
  unfold settle
  rw [closed]
  cases c.listening <;> rfl

namespace Audience

/-! ## Events -/

/-- What can happen to a registry and to its channels. -/
inductive Event where
  | write (w : Write)
  | openChannel (interest : Interest)
  | close (k : Nat)
  | letGo (k : Nat)
  | release
  | settle
  deriving DecidableEq, Repr

/-- A call on the registry. -/
def write (a : Audience) : Write → Audience
  | .register source i => (a.register source i).2
  | .unregister source i => (a.unregister source i).2
  | .shutDown => a.shutDown

/-- After an event.  Nobody can call a registry that was given up, or open a channel on it. -/
def happen (a : Audience) : Event → Audience
  | .write w => if a.store.feed.closed then a else a.write w
  | .openChannel interest => if a.store.feed.closed then a else (a.openChannel interest).2
  | .close k => ((a.close? k).map (·.2)).getD a
  | .letGo k => a.dropChannel k
  | .release => a.release
  | .settle => a.settle

/-- After events, one after the other. -/
def after (a : Audience) (es : List Event) : Audience := es.foldl happen a

/-- All changes that were ever announced. -/
def told (a : Audience) : List Change := a.store.feed.history

/-! ## Rounds -/

/-- Whether an event ends channel `k`. -/
def Event.ends (k : Nat) : Event → Bool
  | close j => j == k
  | letGo j => j == k
  | _ => false

/-- For each turn that channel `k` gets while it is open, the changes that were announced since
the turn before it or, at first, since there were `since` changes. -/
def rounds (k : Nat) : Audience → Nat → List Event → List (List Change)
  | _, _, [] => []
  | a, since, .settle :: later => a.told.drop since :: rounds k a.settle a.told.length later
  | a, since, e :: later => if e.ends k then [] else rounds k (a.happen e) since later

/-- How many changes an interest covers among the latest ones of each round, as many as a window
holds. -/
def tally (window : Nat) (interest : Interest) : List (List Change) → Nat
  | [] => 0
  | round :: later =>
    (round.rtake window).countP (fun change => interest.covers change.subject) +
      tally window interest later

/-- Rounds that fit into the window are counted in full. -/
theorem tally_of_short {window : Nat} (interest : Interest) {rounds : List (List Change)}
    (short : ∀ round ∈ rounds, round.length ≤ window) :
    tally window interest rounds
      = rounds.flatten.countP fun change => interest.covers change.subject := by
  induction rounds with
  | nil => rfl
  | cons round later ih =>
    have whole : round.rtake window = round := by
      rw [List.rtake, Nat.sub_eq_zero_of_le (short round List.mem_cons_self), List.drop_zero]
    rw [tally, whole, ih fun r known => short r (List.mem_cons_of_mem _ known),
      List.flatten_cons, List.countP_append]

theorem Event.eq_of_ends {e : Event} {k : Nat} (h : e.ends k = true) :
    e = .close k ∨ e = .letGo k := by
  cases e <;> simp_all [Event.ends]

theorem mem_of_kept {e : Event} {es : List Event} {k : Nat} (h : e.ends k = false) :
    .letGo k ∈ e :: es ↔ .letGo k ∈ es := by
  have other : Event.letGo k ≠ e := by
    rintro rfl
    simp [Event.ends] at h
  simp [other]

theorem rounds_of_kept {e : Event} {k : Nat} (a : Audience) (since : Nat) (es : List Event)
    (kept : e.ends k = false) (between : e ≠ .settle) :
    rounds k a since (e :: es) = rounds k (a.happen e) since es := by
  cases e <;> simp_all [rounds]

theorem rounds_of_ends {e : Event} {k : Nat} (a : Audience) (since : Nat) (es : List Event)
    (ended : e.ends k = true) : rounds k a since (e :: es) = [] := by
  rcases Event.eq_of_ends ended with rfl | rfl <;> simp [rounds, Event.ends]

/-! ## What happens to the feed -/

variable {a : Audience} {k : Nat} {since : Nat} {c : Channel} {e : Event}

theorem happen_close (a : Audience) (k : Nat) :
    a.happen (.close k) = (a.channel? k).elim a fun c =>
      { a with channels := a.channels.setIfInBounds k (some c.close.2) } := by
  unfold happen close?
  dsimp only
  cases a.channel? k <;> rfl

theorem happen_letGo (a : Audience) (k : Nat) :
    a.happen (.letGo k) = (a.channel? k).elim a fun c =>
      { a with
        channels := a.channels.setIfInBounds k none
        leaving := a.leaving ++ c.farewell } := by
  unfold happen dropChannel
  dsimp only
  cases a.channel? k <;> rfl

/-- All that an event does to the feed. -/
theorem feed_happen (a : Audience) (e : Event) :
    (a.happen e).store.feed = a.store.feed ∨
      (a.store.feed.closed = false ∧
        ∃ change, (a.happen e).store.feed = a.store.feed.announce change) ∨
      (e = .release ∧ (a.happen e).store.feed = a.store.feed.close) := by
  cases e with
  | write w =>
    have same : (a.write w).store = a.store.write w := by cases w <;> rfl
    unfold happen
    dsimp only
    split
    · exact .inl rfl
    · rename_i live
      rw [Bool.not_eq_true] at live
      rw [same]
      exact (a.store.feed_write w).imp_right fun announced => .inl ⟨live, announced⟩
  | openChannel interest =>
    unfold happen
    dsimp only
    split <;> exact .inl rfl
  | close k =>
    rw [happen_close]
    cases a.channel? k <;> exact .inl rfl
  | letGo k =>
    rw [happen_letGo]
    cases a.channel? k <;> exact .inl rfl
  | release => exact .inr (.inr ⟨rfl, rfl⟩)
  | settle => exact .inl rfl

theorem continues_happen (a : Audience) (e : Event) :
    a.store.feed.Continues (a.happen e).store.feed := by
  rcases feed_happen a e with silent | ⟨live, change, announced⟩ | ⟨-, ended⟩
  · rw [silent]
    exact Feed.Continues.refl _
  · rw [announced]
    exact Feed.continues_announce change live
  · rw [ended]
    exact Feed.continues_close _

theorem continues_after (a : Audience) (es : List Event) :
    a.store.feed.Continues (a.after es).store.feed := by
  induction es generalizing a with
  | nil => exact Feed.Continues.refl _
  | cons e es ih => exact (continues_happen a e).trans (ih (a.happen e))

/-! ## What happens to a channel -/

theorem lt_size_of_found (found : a.channel? k = some c) : k < a.channels.size := by
  by_contra outside
  simp [channel?, outside] at found

theorem channel?_close (a : Audience) (j k : Nat) :
    (a.happen (.close j)).channel? k
      = if j = k then (a.channel? k).map (fun c => c.close.2) else a.channel? k := by
  rw [happen_close]
  by_cases same : j = k
  · subst same
    rw [if_pos rfl]
    cases found : a.channel? j with
    | none => exact found
    | some c => simp [channel?, lt_size_of_found found]
  · rw [if_neg same]
    cases a.channel? j with
    | none => rfl
    | some c => simp [channel?, Array.getElem?_setIfInBounds_ne same]

theorem channel?_letGo (a : Audience) (j k : Nat) :
    (a.happen (.letGo j)).channel? k = if j = k then none else a.channel? k := by
  rw [happen_letGo]
  by_cases same : j = k
  · subst same
    rw [if_pos rfl]
    cases found : a.channel? j with
    | none => exact found
    | some c =>
      rw [Option.elim_some, channel?, Array.getElem?_setIfInBounds_self]
      split <;> rfl
  · rw [if_neg same]
    cases a.channel? j with
    | none => rfl
    | some c => simp [channel?, Array.getElem?_setIfInBounds_ne same]

theorem channel?_settle (a : Audience) (k : Nat) :
    (a.happen .settle).channel? k
      = (a.channel? k).map fun c => (c.settle a.store.feed).1 := by
  unfold happen settle channel?
  dsimp only
  rw [Array.getElem?_map, Array.getElem?_map]
  cases a.channels[k]? with
  | none => rfl
  | some place => cases place <;> rfl

theorem channels_write (a : Audience) (w : Write) :
    (a.happen (.write w)).channels = a.channels := by
  have same : (a.write w).channels = a.channels := by cases w <;> rfl
  unfold happen
  dsimp only
  split
  · rfl
  · exact same

theorem channels_openChannel (a : Audience) (interest : Interest) :
    (a.happen (.openChannel interest)).channels = a.channels ∨
      ∃ c, (a.happen (.openChannel interest)).channels = a.channels.push (some c) := by
  unfold happen
  dsimp only
  split
  · exact .inl rfl
  · exact .inr ⟨_, rfl⟩

/-- Only its own end and its turns touch a channel. -/
theorem channel?_happen (known : k < a.channels.size) (kept : e.ends k = false)
    (between : e ≠ .settle) : (a.happen e).channel? k = a.channel? k := by
  cases e with
  | write w => rw [channel?, channels_write, ← channel?]
  | openChannel interest =>
    rw [channel?, channel?]
    rcases channels_openChannel a interest with same | ⟨c, further⟩
    · rw [same]
    · rw [further, Array.getElem?_push_lt known, Array.getElem?_eq_getElem known]
  | close j =>
    rw [channel?_close, if_neg]
    simpa [Event.ends] using kept
  | letGo j =>
    rw [channel?_letGo, if_neg]
    simpa [Event.ends] using kept
  | release => rfl
  | settle => exact absurd rfl between

theorem size_le_happen (a : Audience) (e : Event) :
    a.channels.size ≤ (a.happen e).channels.size := by
  cases e with
  | write w => rw [channels_write]
  | openChannel interest =>
    rcases channels_openChannel a interest with same | ⟨c, further⟩
    · rw [same]
    · rw [further, Array.size_push]
      exact Nat.le_succ _
  | close j =>
    rw [happen_close]
    cases a.channel? j <;> simp
  | letGo j =>
    rw [happen_letGo]
    cases a.channel? j <;> simp
  | release => exact Nat.le_refl _
  | settle => simp [happen, settle]

/-- A channel that was let go does not come back. -/
theorem after_gone (es : List Event) (known : k < a.channels.size)
    (gone : a.channel? k = none) : (a.after es).channel? k = none := by
  induction es generalizing a with
  | nil => exact gone
  | cons e es ih =>
    refine ih (known.trans_le (size_le_happen a e)) ?_
    by_cases turn : e = .settle
    · rw [turn, channel?_settle, gone, Option.map_none]
    · cases ended : e.ends k with
      | false => rw [channel?_happen known ended turn, gone]
      | true =>
        rcases Event.eq_of_ends ended with rfl | rfl
        · rw [channel?_close, if_pos rfl, gone, Option.map_none]
        · rw [channel?_letGo, if_pos rfl]

theorem after_letGo (es : List Event) (known : k < a.channels.size) :
    (a.after (.letGo k :: es)).channel? k = none := by
  apply after_gone es (known.trans_le (size_le_happen a _))
  rw [channel?_letGo, if_pos rfl]

/-- A closed channel counts nothing more. -/
theorem after_closed (es : List Event) (found : a.channel? k = some c) (closed : c.closed = true) :
    ((a.after es).channel? k).map (fun c => (c.interest, c.counter))
      = if .letGo k ∈ es then none else some (c.interest, c.counter) := by
  induction es generalizing a c with
  | nil => simp [after, found]
  | cons e es ih =>
    have known := lt_size_of_found found
    by_cases turn : e = .settle
    · have turned := channel?_settle a k
      rw [found, Option.map_some] at turned
      have rest := ih turned (by rw [Channel.closed_settle, closed])
      rw [Channel.interest_settle, Channel.counter_settle_of_closed closed] at rest
      simp only [turn, List.mem_cons, reduceCtorEq, false_or]
      exact rest
    · cases ended : e.ends k with
      | false =>
        simp only [mem_of_kept ended]
        exact ih (by rw [channel?_happen known ended turn, found]) closed
      | true =>
        rcases Event.eq_of_ends ended with rfl | rfl
        · simp only [List.mem_cons, reduceCtorEq, false_or]
          have turned := channel?_close a k k
          rw [if_pos rfl, found, Option.map_some] at turned
          have rest := ih turned rfl
          exact rest
        · rw [after_letGo es known, if_pos List.mem_cons_self]
          rfl

/-! ## Open channels -/

/-- Channel `k` is open and has read as much as there was when `since` changes were announced.  It
stops listening only when no further change can come. -/
structure Attends (a : Audience) (k : Nat) (c : Channel) (since : Nat) : Prop where
  found : a.channel? k = some c
  opened : c.closed = false
  seen : c.seen = since
  bound : since ≤ a.store.feed.count
  listening : c.listening = true ∨ a.store.feed.closed = true ∧ since = a.store.feed.count

theorem attends_happen (h : a.Attends k c since) (kept : e.ends k = false)
    (between : e ≠ .settle) : (a.happen e).Attends k c since := by
  have later := continues_happen a e
  refine ⟨?_, h.opened, h.seen, h.bound.trans later.count_le, ?_⟩
  · rw [channel?_happen (lt_size_of_found h.found) kept between, h.found]
  · rcases h.listening with listening | ⟨ended, all⟩
    · exact .inl listening
    · right
      rw [later.frozen ended]
      exact ⟨ended, all⟩

theorem attends_settle (h : a.Attends k c since) (counted : a.store.feed.Counts) :
    ∃ c', a.settle.Attends k c' a.told.length ∧ c'.interest = c.interest ∧
      c'.counter = c.counter + UInt64.ofNat
        (((a.told.drop since).rtake a.store.feed.window).countP fun change =>
          c.interest.covers change.subject) := by
  have all : a.store.feed.count = a.told.length := counted
  refine ⟨(c.settle a.store.feed).1, ?_⟩
  have found : a.settle.channel? k = some (c.settle a.store.feed).1 := by
    have turned := channel?_settle a k
    rwa [h.found, Option.map_some] at turned
  have opened : (c.settle a.store.feed).1.closed = false := by rw [Channel.closed_settle, h.opened]
  cases listening : c.listening with
  | true =>
    obtain ⟨seen, counter, still⟩ := Channel.settle_of_open h.opened listening counted
    rw [h.seen] at counter
    refine ⟨⟨found, opened, seen.trans all, all.ge, ?_⟩, Channel.interest_settle _ _, counter⟩
    exact still.imp_right fun ended => ⟨ended, all.symm⟩
  | false =>
    -- Nothing was announced since the channel stopped listening.
    have idle : c.settle a.store.feed = (c, []) := by simp [Channel.settle, listening]
    obtain ⟨ended, last⟩ : a.store.feed.closed = true ∧ since = a.store.feed.count := by
      rcases h.listening with still | silent
      · rw [listening] at still
        cases still
      · exact silent
    have none : a.told.drop since = [] := List.drop_eq_nil_of_le (by omega)
    rw [idle] at found ⊢
    refine ⟨⟨found, h.opened, ?_, all.ge, .inr ⟨ended, all.symm⟩⟩, rfl, ?_⟩
    · rw [h.seen, last, all]
    · simp [none]

/-- **What an open channel counts**: what the window keeps of each round, as far as it concerns
the channel. -/
theorem delivered_after (es : List Event) (h : a.Attends k c since)
    (counted : a.store.feed.Counts) :
    ((a.after es).channel? k).map (fun c => (c.interest, c.counter))
      = if .letGo k ∈ es then none
        else some (c.interest, c.counter + UInt64.ofNat
          (tally a.store.feed.window c.interest (rounds k a since es))) := by
  induction es generalizing a c since with
  | nil => simp [after, h.found, rounds, tally]
  | cons e es ih =>
    have later := continues_happen a e
    by_cases turn : e = .settle
    · subst turn
      obtain ⟨c', attends, interest, counter⟩ := attends_settle h counted
      have rest := ih attends (later.counts counted)
      rw [interest, counter] at rest
      simp only [List.mem_cons, reduceCtorEq, false_or, rounds, tally]
      rw [UInt64.ofNat_add, ← UInt64.add_assoc]
      exact rest
    · cases ended : e.ends k with
      | false =>
        have rest := ih (attends_happen h ended turn) (later.counts counted)
        rw [later.window_eq] at rest
        simp only [mem_of_kept ended, rounds_of_kept a since es ended turn]
        exact rest
      | true =>
        rw [rounds_of_ends a since es ended, tally]
        rcases Event.eq_of_ends ended with rfl | rfl
        · have closed := channel?_close a k k
          rw [if_pos rfl, h.found, Option.map_some] at closed
          have rest := after_closed es closed rfl
          simp only [List.mem_cons, reduceCtorEq, false_or, UInt64.reduceOfNat, UInt64.add_zero]
          exact rest
        · rw [after_letGo es (lt_size_of_found h.found), if_pos List.mem_cons_self]
          rfl

/-- The rounds of a channel follow each other on the feed, from where the channel began. -/
theorem rounds_prefix (es : List Event) (since : Nat) (bound : since ≤ a.told.length) :
    a.told.take since ++ (rounds k a since es).flatten <+: (a.after es).told := by
  induction es generalizing a since with
  | nil =>
    rw [rounds, List.flatten_nil, List.append_nil]
    exact List.take_prefix _ _
  | cons e es ih =>
    have grown := (continues_happen a e).history
    by_cases turn : e = .settle
    · subst turn
      have rest := ih (a := a.settle) a.told.length (Nat.le_refl _)
      rw [show a.settle.told = a.told from rfl, List.take_length] at rest
      rw [rounds, List.flatten_cons, ← List.append_assoc, List.take_append_drop]
      exact rest
    · cases ended : e.ends k with
      | false =>
        have rest := ih (a := a.happen e) since (bound.trans grown.length_le)
        have same : (a.happen e).told.take since = a.told.take since := by
          obtain ⟨news, split⟩ := grown
          rw [told, ← split]
          exact List.take_append_of_le_length bound
        rw [rounds_of_kept a since es ended turn, ← same]
        exact rest
      | true =>
        rw [rounds_of_ends a since es ended, List.flatten_nil, List.append_nil]
        exact (List.take_prefix _ _).trans (continues_after a (e :: es)).history

/-! ## Deliveries -/

/-- Only the end of the registry ends its feed. -/
theorem closed_happen (a : Audience) (kept : e ≠ .release) :
    (a.happen e).store.feed.closed = a.store.feed.closed := by
  rcases feed_happen a e with silent | ⟨-, change, announced⟩ | ⟨release, -⟩
  · rw [silent]
  · rw [announced]
    rfl
  · exact absurd release kept

theorem closed_after (es : List Event) (kept : .release ∉ es) :
    (a.after es).store.feed.closed = a.store.feed.closed := by
  induction es generalizing a with
  | nil => rfl
  | cons e es ih =>
    rw [List.mem_cons, not_or] at kept
    exact (ih kept.2).trans (closed_happen a (Ne.symm kept.1))

/-- A new channel has read all that was announced before. -/
theorem attends_openChannel (interest : Interest) (live : a.store.feed.closed = false)
    (counted : a.store.feed.Counts) :
    (a.happen (.openChannel interest)).Attends a.channels.size
      (Channel.opening a.store.feed a.channels.size interest) a.told.length := by
  have opened : a.happen (.openChannel interest) = (a.openChannel interest).2 := by
    simp [happen, live]
  rw [opened]
  refine ⟨?_, rfl, counted, Nat.le_of_eq counted.symm, .inl rfl⟩
  simp [channel?, openChannel]

theorem feed_of_create? {capacity : UInt64} (made : create? capacity = some a) :
    a.store.feed = { window := Nat.nextPowerOfTwo (max 1 capacity.toNat) } := by
  obtain ⟨store, created, rfl⟩ := Option.map_eq_some_iff.mp made
  obtain ⟨feed, chosen, rfl⟩ := Option.map_eq_some_iff.mp created
  exact (Feed.create?_eq_some_iff.mp chosen).2

/-- **A channel counts exactly what reaches it.**  Open a channel on a registry that was not given
up, and let anything happen before and after.  Unless the channel is let go, it has then counted,
modulo 64 bits, for each turn that it got while it was open, those of the changes announced since
the turn before it, or since its opening, that concern it and were the latest ones, as many as the
window of the feed holds.  These rounds of changes follow each other on the feed from the opening
on, so that no change is counted twice, and none that came before the opening or after the close;
and rounds that fit into the window are counted in full. -/
theorem delivered_eq_tally {capacity : UInt64} {start : Audience}
    (made : create? capacity = some start) {before : List Event} (kept : .release ∉ before)
    (interest : Interest) (later : List Event) :
    let a := start.after before
    let k := a.channels.size
    let opened := a.happen (.openChannel interest)
    let window := Nat.nextPowerOfTwo (max 1 capacity.toNat)
    let heard := rounds k opened opened.told.length later
    ((opened.after later).channel? k).map (fun c => (c.interest, c.delivered))
        = (if .letGo k ∈ later then none
          else some (interest, tally window interest heard % 2 ^ 64)) ∧
      opened.told ++ heard.flatten <+: (opened.after later).told ∧
      ((∀ round ∈ heard, round.length ≤ window) → tally window interest heard
        = heard.flatten.countP fun change => interest.covers change.subject) := by
  intro a k opened window heard
  have feed := feed_of_create? made
  have earlier := continues_after start before
  have live : a.store.feed.closed = false := by rw [closed_after before kept, feed]
  have counted : a.store.feed.Counts := earlier.counts (by rw [feed]; rfl)
  have size : opened.store.feed.window = window := by
    rw [(continues_happen a _).window_eq, earlier.window_eq, feed]
  have same : opened.told = a.told := by simp [opened, told, happen, live, openChannel]
  refine ⟨?_, ?_, tally_of_short interest⟩
  · have attends := attends_openChannel interest live counted
    rw [← same] at attends
    have count := delivered_after later attends ((continues_happen a _).counts counted)
    rw [size] at count
    have shown := congrArg (Option.map fun p : Interest × UInt64 => (p.1, p.2.toNat)) count
    rw [Option.map_map] at shown
    refine shown.trans ?_
    split
    · rfl
    · rw [Option.map_some, Channel.opening, UInt64.zero_add, UInt64.toNat_ofNat']
  · have follows := rounds_prefix (k := k) later opened.told.length (Nat.le_refl _)
    rw [List.take_length] at follows
    exact follows

/-- A case of it: a window of two changes, three changes in the first round and one in the second,
and one more after the close. -/
theorem delivered_eq_three :
    let add (id : String) : Event := .write (.register Source.perf (Instance.named id "shop" "v"))
    ∃ start, create? 2 = some start ∧ .release ∉ [add "a"] ∧
      let a := start.after [add "a"]
      let opened := a.happen (.openChannel .fullRegistry)
      let later : List Event := [add "b", add "c", add "d", .settle, add "e", .settle,
        .close a.channels.size, add "f", .settle]
      ((opened.after later).channel? a.channels.size).map (fun c => (c.interest, c.delivered))
        = some (.fullRegistry, 3) := by
  intro add
  have two : Nat.nextPowerOfTwo (max 1 (2 : UInt64).toNat) = 2 := by decide +kernel
  have chosen : Feed.create? 2 = some { window := 2 } :=
    Feed.create?_eq_some_iff.mpr ⟨by rw [two]; decide, by rw [two]⟩
  have made : create? 2 = some { store := { feed := { window := 2 } } } := by
    rw [create?, Store.create?, chosen]
    rfl
  have kept : Event.release ∉ [add "a"] := by decide
  refine ⟨_, made, kept, ?_⟩
  intro a opened later
  rw [(delivered_eq_tally made kept .fullRegistry later).1, two]
  rfl

end Audience

end RegistryLoad
