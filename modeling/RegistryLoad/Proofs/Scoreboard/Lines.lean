import RegistryLoad.Proofs.Json.Number
import RegistryLoad.Proofs.Text.Joined
import RegistryLoad.Scoreboard.Output

/-!
# The lines of the score board are read back

A snapshot is written as one line of JSON, and the reader finds in it the time and the counters that
were written.  The rates and the elapsed time come back as numbers too, although not always as the
same ones.

## Definitions

* `Snapshot.IsFinite`: the elapsed time and the rates are finite.
* `Snapshot.ReadAs`: which snapshot is read from the values of another.
* `Draft.put`: a draft with a member more.

## Results

* `ofLine_line`: reading the line of a snapshot.
* `newline_not_mem_line`, `splitOn_output`: what is written splits into the lines.
* `isFinite_of_ofLine`: whatever is read has finite numbers.
* `json_lines_round_trip`: the lines of many snapshots, and the line of a snapshot that was read.
-/

namespace RegistryLoad.Snapshot

open RegistryLoad.Json RegistryLoad.Text

/-! ## Values -/

theorem readText_quoted (text : String) (rest : List Char) :
    readText (quoted text.toList ++ rest) = .ok (text, rest) := by
  have opened (text : List Char) : readText ('"' :: text)
      = (string text).map fun read => (String.ofList read.1, read.2) := rfl
  rw [quoted, List.cons_append, List.cons_append, List.append_assoc, List.singleton_append, opened,
    string_quoted]
  simp only [Except.map, String.ofList_toList]

/-- The text of a number behind its sign. -/
theorem readNumber_text (p : Parts) (negative : Bool) {rest : List Char} (stop : Delimited rest) :
    readNumber ((if negative then ['-'] else []) ++ p.text ++ rest)
      = (p.outcome negative).map (·, rest) := by
  unfold readNumber
  cases negative with
  | true =>
    rw [if_pos rfl, List.append_assoc, List.singleton_append, skipSpace_cons (by decide)]
    exact number_text p true stop
  | false =>
    have read := number_text p false stop
    obtain ⟨c, tail, shape⟩ := List.exists_cons_of_ne_nil p.whole_digits.1
    have digit : (digit? c).isSome := p.whole_digits.2 c (by rw [shape]; exact List.mem_cons_self)
    rw [Parts.text, shape] at read ⊢
    rw [if_neg Bool.false_ne_true, List.nil_append, List.cons_append, List.cons_append,
      skipSpace_cons (isSpace_of_digit digit)]
    split
    · rename_i minus
      obtain ⟨rfl, -⟩ := List.cons.inj minus
      exact absurd digit (by decide)
    · rename_i same
      obtain ⟨rfl, rfl⟩ := List.cons.inj same
      rw [if_pos digit]
      exact read
    · rename_i none
      cases none

theorem readCount_decimal (n : UInt64) {rest : List Char} (stop : Delimited rest) :
    readCount (decimal n.toNat ++ rest) = .ok (n, rest) := by
  have read := readNumber_text (Parts.ofNat n.toNat) false stop
  rw [Parts.outcome_ofNat (UInt64.toNat_lt_size n), Parts.text_ofNat] at read
  unfold readCount
  simp only [Bool.false_eq_true, if_false, List.nil_append] at read
  rw [read]
  simp [bind, Except.bind, Except.map, pure, Except.pure]

/-- Numbers of which one is read where the other was written. -/
def RealReadAs (x y : Binary64) : Prop :=
  ∀ rest, Delimited rest → readReal (numberText x ++ rest) = .ok (y, rest)

/-- **A finite number can be read** where it was written. -/
theorem exists_realReadAs {x : Binary64} (finite : x.isFinite = true) : ∃ y, RealReadAs x y := by
  obtain ⟨p, same, accepted⟩ := @Parts.exists_parts numberLayout (by decide) x finite
  obtain ⟨n, outcome⟩ := Parts.outcome_ok accepted x.isNegative
  refine ⟨n.toReal, fun rest stop => ?_⟩
  unfold readReal numberText
  rw [if_pos finite, same, readNumber_text p x.isNegative stop, outcome]
  rfl

/-- A number that is read is finite. -/
theorem isFinite_of_readReal {text rest : List Char} {x : Binary64}
    (h : readReal text = .ok (x, rest)) : x.isFinite = true := by
  obtain ⟨⟨n, rest'⟩, read, same⟩ := exists_of_map_eq_ok h
  obtain ⟨rfl, -⟩ := Prod.mk.inj same
  unfold readNumber at read
  split at read
  · exact isFinite_of_number read
  · split at read
    · exact isFinite_of_number read
    · cases read
  · cases read

/-! ## Drafts -/

namespace Draft

/-- A draft with a member of a snapshot more. -/
def put (d : Draft) (s : Snapshot) : Member → Draft
  | .timestamp => { d with timestamp := some s.timestamp }
  | .elapsed => { d with elapsed := some s.elapsed }
  | .registrations => { d with registrations := some s.counters.registrations }
  | .unregistrations => { d with unregistrations := some s.counters.unregistrations }
  | .interests => { d with interests := some s.counters.interests }
  | .activeInterests => { d with activeInterests := some s.counters.activeInterests }
  | .registrySize => { d with registrySize := some s.counters.registrySize }
  | .registrationRate => { d with registrationRate := some s.registrationRate }
  | .unregistrationRate => { d with unregistrationRate := some s.unregistrationRate }
  | .interestRate => { d with interestRate := some s.interestRate }

theorem has_put (d : Draft) (s : Snapshot) (m k : Member) :
    (d.put s m).has k = (d.has k || decide (k = m)) := by
  cases m <;> cases k <;> simp [put, has]

theorem has_empty (m : Member) : Draft.has {} m = false := by
  cases m <;> rfl

/-- All members of a snapshot make up the snapshot. -/
theorem finish_all (s : Snapshot) :
    (Member.all.foldl (fun (d : Draft) m => d.put s m) {}).finish = .ok s := rfl

end Draft

/-! ## Reading what was written -/

/-- A snapshot that is read where another one was written: the time and the counters are the same
ones. -/
structure ReadAs (s again : Snapshot) : Prop where
  timestamp : again.timestamp = s.timestamp
  counters : again.counters = s.counters
  elapsed : RealReadAs s.elapsed again.elapsed
  registrationRate : RealReadAs s.registrationRate again.registrationRate
  unregistrationRate : RealReadAs s.unregistrationRate again.unregistrationRate
  interestRate : RealReadAs s.interestRate again.interestRate

/-- All double precision numbers of a snapshot are finite. -/
structure IsFinite (s : Snapshot) : Prop where
  elapsed : s.elapsed.isFinite = true
  registrationRate : s.registrationRate.isFinite = true
  unregistrationRate : s.unregistrationRate.isFinite = true
  interestRate : s.interestRate.isFinite = true

theorem IsFinite.exists_readAs {s : Snapshot} (h : s.IsFinite) : ∃ again, ReadAs s again := by
  obtain ⟨elapsed, readElapsed⟩ := exists_realReadAs h.elapsed
  obtain ⟨registrationRate, readRegistrations⟩ := exists_realReadAs h.registrationRate
  obtain ⟨unregistrationRate, readUnregistrations⟩ := exists_realReadAs h.unregistrationRate
  obtain ⟨interestRate, readInterests⟩ := exists_realReadAs h.interestRate
  exact ⟨⟨s.timestamp, elapsed, s.counters, registrationRate, unregistrationRate, interestRate⟩,
    rfl, rfl, readElapsed, readRegistrations, readUnregistrations, readInterests⟩

section Reading

variable {s again : Snapshot} {rest : List Char}

/-- **The value of a member is read** into the draft. -/
theorem readMember_memberText (h : ReadAs s again) (d : Draft) (m : Member)
    (stop : Delimited rest) :
    d.readMember m (s.memberText m ++ rest) = .ok (d.put again m, rest) := by
  cases m <;>
    simp [Draft.readMember, memberText, Draft.put, readText_quoted, readCount_decimal _ stop,
      h.elapsed rest stop, h.registrationRate rest stop, h.unregistrationRate rest stop,
      h.interestRate rest stop, h.timestamp, h.counters, bind, Except.bind, pure, Except.pure]

/-- A member as it is written. -/
def entry (s : Snapshot) (m : Member) : List Char := quoted m.key.toList ++ ':' :: s.memberText m

theorem ofKey?_key (m : Member) : Member.ofKey? m.key.toList = some m := by
  cases m <;> decide

theorem readEntry_entry (h : ReadAs s again) {d : Draft} {m : Member} (absent : d.has m = false)
    (stop : Delimited rest) : readEntry d (s.entry m ++ rest) = .ok (d.put again m, rest) := by
  have text : s.entry m ++ rest
      = '"' :: (m.key.toList.flatMap escaped ++ '"' :: ':' :: (s.memberText m ++ rest)) := by
    simp [entry, quoted]
  unfold readEntry
  simp only [text, punctuation_cons, string_quoted, ofKey?_key, absent, bind, Except.bind,
    show isSpace '"' = false by decide, show isSpace ':' = false by decide,
    readMember_memberText h d m stop, Bool.false_eq_true, if_false]

theorem delimited_comma (text : List Char) : Delimited (',' :: text) := by
  intro c known
  obtain rfl := Option.some.inj known
  decide

theorem delimited_brace (text : List Char) : Delimited ('\x7d' :: text) := by
  intro c known
  obtain rfl := Option.some.inj known
  decide

/-- What follows an entry delimits its value. -/
theorem delimited_entries (ms : List Member) (rest : List Char) :
    Delimited (ms.flatMap (fun m => ',' :: s.entry m) ++ '\x7d' :: rest) := by
  cases ms with
  | nil => exact delimited_brace rest
  | cons m ms => exact delimited_comma _

/-- **Entries are read** one after the other, as long as none of them is there already. -/
theorem readEntries_entries (h : ReadAs s again) {ms : List Member} {d : Draft} {fuel : Nat}
    (absent : ∀ m ∈ ms, d.has m = false) (distinct : ms.Nodup) (enough : ms.length < fuel) :
    readEntries fuel false d (ms.flatMap (fun m => ',' :: s.entry m) ++ '\x7d' :: rest)
      = (ms.foldl (fun (d : Draft) m => d.put again m) d).finish.map (·, rest) := by
  induction ms generalizing d fuel with
  | nil =>
    obtain ⟨fuel, rfl⟩ := Nat.exists_eq_add_one_of_ne_zero (Nat.ne_of_gt enough)
    rfl
  | cons m ms ih =>
    obtain ⟨fuel, rfl⟩ := Nat.exists_eq_add_one_of_ne_zero (Nat.ne_zero_of_lt enough)
    have step (text : List Char) : readEntries (fuel + 1) false d (',' :: text)
        = readEntry d text >>= fun next => readEntries fuel false next.1 next.2 := rfl
    rw [List.flatMap_cons, List.cons_append, List.cons_append, List.append_assoc, step,
      readEntry_entry h (absent m List.mem_cons_self) (delimited_entries ms rest)]
    obtain ⟨fresh, distinct⟩ := List.nodup_cons.mp distinct
    refine ih (fun k known => ?_) distinct (Nat.lt_of_succ_lt_succ enough)
    rw [Draft.has_put, absent k (List.mem_cons_of_mem _ known), Bool.false_or,
      decide_eq_false_iff_not]
    rintro rfl
    exact fresh known

/-- The line, entry by entry. -/
theorem line_eq (s : Snapshot) :
    s.line = '\x7b' :: (s.entry .timestamp
      ++ (Member.all.tail.flatMap (fun m => ',' :: s.entry m) ++ ['\x7d'])) := by
  have entries : (Member.all.map s.entry) = s.entry .timestamp :: Member.all.tail.map s.entry := rfl
  have joined : [','].intercalate (Member.all.map s.entry)
      = s.entry .timestamp ++ Member.all.tail.flatMap (fun m => ',' :: s.entry m) := by
    rw [entries, intercalate_cons, List.flatMap_map]
  rw [← List.append_assoc, ← joined]
  rfl

/-- All entries are read, from the first one on. -/
theorem readEntries_all (h : ReadAs s again) {fuel : Nat} (enough : Member.all.length ≤ fuel) :
    readEntries (fuel + 1) true {} (s.entry .timestamp
      ++ (Member.all.tail.flatMap (fun m => ',' :: s.entry m) ++ '\x7d' :: rest))
        = .ok (again, rest) := by
  have first (text : List Char) : readEntries (fuel + 1) true {} (s.entry .timestamp ++ text)
      = readEntry {} (s.entry .timestamp ++ text) >>= fun next =>
        readEntries fuel false next.1 next.2 := rfl
  have others : ∀ m ∈ Member.all.tail, (Draft.put {} again .timestamp).has m = false := by
    intro m known
    rw [Draft.has_put, Draft.has_empty, Bool.false_or, decide_eq_false_iff_not]
    rintro rfl
    exact absurd known (by decide)
  rw [first, readEntry_entry h (Draft.has_empty _) (delimited_entries _ _)]
  simp only [bind, Except.bind]
  rw [readEntries_entries h others (by decide) enough]
  exact congrArg (Except.map (·, rest)) (Draft.finish_all again)

theorem read_line (h : ReadAs s again) (rest : List Char) :
    read (s.line ++ rest) = .ok (again, rest) := by
  have opened (text : List Char) :
      read ('\x7b' :: text) = readEntries (text.length + 1) true {} text := rfl
  have enough : Member.all.length ≤ (s.entry .timestamp
      ++ (Member.all.tail.flatMap (fun m => ',' :: s.entry m) ++ '\x7d' :: rest)).length := by
    have written := length_le_length_flatMap (f := fun m => ',' :: s.entry m) (by simp)
      Member.all.tail
    have parts : Member.all.length = Member.all.tail.length + 1 := rfl
    rw [List.length_append, List.length_append, List.length_cons]
    omega
  rw [line_eq, List.cons_append, List.append_assoc, List.append_assoc, List.singleton_append,
    opened, readEntries_all h enough]

/-- **The line of a snapshot is read back**, with or without the line break behind it. -/
theorem ofLine_line (h : ReadAs s again) {blanks : List Char} (hb : ∀ c ∈ blanks, isSpace c) :
    ofLine (s.line ++ blanks) = .ok again := by
  have skipped : skipSpace blanks = [] := List.dropWhile_eq_nil_iff.mpr hb
  unfold ofLine
  rw [read_line h]
  simp only [bind, Except.bind, skipped, pure, Except.pure]

/-! ## One line each -/

theorem isShown_numberText (x : Binary64) : ∀ c ∈ numberText x, IsShown c := by
  unfold numberText
  split
  · rename_i finite
    obtain ⟨p, same, -⟩ := @Parts.exists_parts numberLayout (by decide) x finite
    rw [same]
    intro c known
    rcases List.mem_append.mp known with sign | digit
    · split at sign
      · rw [List.mem_singleton.mp sign]
        decide
      · cases sign
    · exact p.isShown_text c digit
  · have all : "null".toList.all (fun c => decide (IsShown c)) = true := by decide
    exact fun c known => of_decide_eq_true (List.all_eq_true.mp all c known)

theorem isShown_memberText (s : Snapshot) (m : Member) : ∀ c ∈ s.memberText m, IsShown c := by
  have count (n : Nat) : ∀ c ∈ decimal n, IsShown c :=
    fun _ known => isShown_of_digit (digit?_of_mem_decimal known)
  cases m
  case timestamp => exact isShown_quoted _
  case elapsed | registrationRate | unregistrationRate | interestRate => exact isShown_numberText _
  all_goals exact count _

theorem isShown_entry (s : Snapshot) (m : Member) : ∀ c ∈ s.entry m, IsShown c := by
  intro c known
  rw [entry, List.mem_append, List.mem_cons] at known
  rcases known with key | rfl | value
  · exact isShown_quoted _ c key
  · decide
  · exact s.isShown_memberText m c value

/-- **A line holds no line break.** -/
theorem newline_not_mem_line (s : Snapshot) : '\n' ∉ s.line := by
  intro known
  rw [line_eq, List.mem_cons, List.mem_append, List.mem_append, List.mem_flatMap] at known
  rcases known with opening | first | ⟨m, -, other⟩ | closing
  · exact absurd opening (by decide)
  · exact (s.isShown_entry _ _ first).ne_newline rfl
  · rcases List.mem_cons.mp other with comma | entry
    · exact absurd comma (by decide)
    · exact (s.isShown_entry _ _ entry).ne_newline rfl
  · exact absurd closing (by decide)

end Reading

/-! ## What is read is finite -/

/-- The numbers that were read so far are finite. -/
structure Draft.IsFinite (d : Draft) : Prop where
  elapsed : ∀ x, d.elapsed = some x → x.isFinite = true
  registrationRate : ∀ x, d.registrationRate = some x → x.isFinite = true
  unregistrationRate : ∀ x, d.unregistrationRate = some x → x.isFinite = true
  interestRate : ∀ x, d.interestRate = some x → x.isFinite = true

section Finite

variable {d d' : Draft} {text rest : List Char} {s : Snapshot}

theorem Draft.isFinite_empty : Draft.IsFinite {} := by
  constructor <;> intro x none <;> cases none

theorem Draft.IsFinite.readMember (h : d.IsFinite) {m : Member}
    (read : d.readMember m text = .ok (d', rest)) : d'.IsFinite := by
  have real {x : Binary64} {r : List Char} (known : readReal text = .ok (x, r)) :
      ∀ y, some x = some y → y.isFinite = true := by
    rintro y ⟨⟩
    exact isFinite_of_readReal known
  cases m <;> obtain ⟨⟨v, r⟩, value, same⟩ := exists_of_bind_eq_ok read <;>
    obtain ⟨rfl, -⟩ := Prod.mk.inj (Except.ok.inj same)
  case elapsed => exact ⟨real value, h.2, h.3, h.4⟩
  case registrationRate => exact ⟨h.1, real value, h.3, h.4⟩
  case unregistrationRate => exact ⟨h.1, h.2, real value, h.4⟩
  case interestRate => exact ⟨h.1, h.2, h.3, real value⟩
  all_goals exact ⟨h.1, h.2, h.3, h.4⟩

theorem Draft.IsFinite.readEntry (h : d.IsFinite)
    (read : Snapshot.readEntry d text = .ok (d', rest)) : d'.IsFinite := by
  obtain ⟨opened, -, read⟩ := exists_of_bind_eq_ok read
  obtain ⟨⟨key, behind⟩, -, read⟩ := exists_of_bind_eq_ok read
  dsimp only at read
  split at read
  · split at read
    · cases read
    · obtain ⟨value, -, read⟩ := exists_of_bind_eq_ok read
      exact h.readMember read
  · obtain ⟨value, -, read⟩ := exists_of_bind_eq_ok read
    obtain ⟨after, -, read⟩ := exists_of_bind_eq_ok read
    obtain ⟨rfl, -⟩ := Prod.mk.inj (Except.ok.inj read)
    exact h

theorem Draft.IsFinite.readItems {ms : List Member} {first : Bool} (h : d.IsFinite)
    (read : Snapshot.readItems ms first d text = .ok (d', rest)) : d'.IsFinite := by
  induction ms generalizing first d text with
  | nil =>
    obtain ⟨rfl, -⟩ := Prod.mk.inj (Except.ok.inj read)
    exact h
  | cons m ms ih =>
    obtain ⟨item, -, read⟩ := exists_of_bind_eq_ok read
    obtain ⟨⟨next, after⟩, value, read⟩ := exists_of_bind_eq_ok read
    exact ih (h.readMember value) read

/-- A complete draft holds the members of its snapshot. -/
theorem Draft.eq_of_complete? (complete : d.complete? = some s) :
    d = Member.all.foldl (fun (d : Draft) m => d.put s m) {} := by
  simp only [Draft.complete?, Option.bind_eq_bind, Option.bind_eq_some_iff, Option.pure_def,
    Option.some.injEq] at complete
  obtain ⟨_, h₁, _, h₂, _, h₃, _, h₄, _, h₅, _, h₆, _, h₇, _, h₈, _, h₉, _, h₁₀, rfl⟩ := complete
  cases d
  simp only at h₁ h₂ h₃ h₄ h₅ h₆ h₇ h₈ h₉ h₁₀
  simp only [h₁, h₂, h₃, h₄, h₅, h₆, h₇, h₈, h₉, h₁₀]
  rfl

theorem Draft.IsFinite.finish (h : d.IsFinite) (finished : d.finish = .ok s) : s.IsFinite := by
  unfold Draft.finish at finished
  split at finished
  · rename_i complete
    obtain rfl := Except.ok.inj finished
    obtain rfl := Draft.eq_of_complete? complete
    exact ⟨h.elapsed _ rfl, h.registrationRate _ rfl, h.unregistrationRate _ rfl,
      h.interestRate _ rfl⟩
  · cases finished

theorem Draft.IsFinite.readEntries {fuel : Nat} {first : Bool} (h : d.IsFinite)
    (read : Snapshot.readEntries fuel first d text = .ok (s, rest)) : s.IsFinite := by
  induction fuel generalizing first d text with
  | zero => cases read
  | succ fuel ih =>
    unfold Snapshot.readEntries at read
    split at read
    · cases read
    · obtain ⟨found, complete, same⟩ := exists_of_map_eq_ok read
      obtain ⟨rfl, -⟩ := Prod.mk.inj same
      exact h.finish complete
    · split at read
      · obtain ⟨⟨next, after⟩, entry, read⟩ := exists_of_bind_eq_ok read
        exact ih (h.readEntry entry) read
      · split at read
        · obtain ⟨⟨next, after⟩, entry, read⟩ := exists_of_bind_eq_ok read
          exact ih (h.readEntry entry) read
        · cases read

/-- **Whatever is read has finite numbers**, be it an object or a list. -/
theorem isFinite_of_ofLine (read : ofLine text = .ok s) : s.IsFinite := by
  obtain ⟨⟨found, behind⟩, taken, same⟩ := exists_of_bind_eq_ok read
  have finite : found.IsFinite := by
    unfold Snapshot.read at taken
    split at taken
    · obtain ⟨⟨d, after⟩, items, taken⟩ := exists_of_bind_eq_ok taken
      obtain ⟨whole, complete, taken⟩ := exists_of_bind_eq_ok taken
      obtain ⟨last, -, taken⟩ := exists_of_bind_eq_ok taken
      obtain ⟨rfl, -⟩ := Prod.mk.inj (Except.ok.inj taken)
      exact (Draft.isFinite_empty.readItems items).finish complete
    · exact Draft.isFinite_empty.readEntries taken
    · cases taken
  dsimp only at same
  split at same
  · obtain rfl := Except.ok.inj same
    exact finite
  · cases same

end Finite

/-! ## The round trip -/

/-- **What is written splits into the lines**, one for each snapshot. -/
theorem splitOn_output (snapshots : List Snapshot) :
    (snapshots.flatMap (·.output .json)).splitOn '\n' = snapshots.map line ++ [[]] := by
  have joined : snapshots.flatMap (·.output .json)
      = ['\n'].intercalate (snapshots.map line ++ [[]]) := by
    rw [← flatMap_append_singleton, List.flatMap_map]
    rfl
  rw [joined, List.splitOn_intercalate '\n' ?_ (by simp)]
  intro text known
  rcases List.mem_append.mp known with written | last
  · obtain ⟨s, -, rfl⟩ := List.mem_map.mp written
    exact s.newline_not_mem_line
  · rw [List.mem_singleton.mp last]
    exact List.not_mem_nil

theorem IsFinite.ofLine_output {s : Snapshot} (h : s.IsFinite) :
    ∃ again, ofLine s.line = .ok again ∧ ofLine (s.output .json) = .ok again ∧
      again.timestamp = s.timestamp ∧ again.counters = s.counters := by
  obtain ⟨again, read⟩ := h.exists_readAs
  have bare := @ofLine_line s again read [] (by simp)
  rw [List.append_nil] at bare
  exact ⟨again, bare, ofLine_line read (by simp [isSpace]), read.timestamp, read.counters⟩

/-- **The round trip of the score board.**  Snapshots that are written one after the other are split
at the line breaks into one line each, and every line is read as a snapshot of the same time and the
same counters.  A snapshot that was read from any text at all, written again, is read again with the
same time and the same counters. -/
theorem json_lines_round_trip :
    (∀ snapshots : List Snapshot, (∀ s ∈ snapshots, s.IsFinite) →
      ∃ lines, (snapshots.flatMap (·.output .json)).splitOn '\n' = lines ++ [[]] ∧
        List.Forall₂ (fun line s => ∃ again, ofLine line = .ok again ∧
          again.timestamp = s.timestamp ∧ again.counters = s.counters) lines snapshots) ∧
    ∀ text s, ofLine text = .ok s →
      ∃ again, ofLine s.line = .ok again ∧ ofLine (s.output .json) = .ok again ∧
        again.timestamp = s.timestamp ∧ again.counters = s.counters := by
  refine ⟨fun snapshots finite => ⟨snapshots.map line, splitOn_output snapshots, ?_⟩,
    fun text s read => (isFinite_of_ofLine read).ofLine_output⟩
  rw [List.forall₂_map_left_iff, List.forall₂_same]
  intro s known
  obtain ⟨again, read, -, same⟩ := (finite s known).ofLine_output
  exact ⟨again, read, same⟩

/-- A time with a quote, a line break and a character outside the basic plane, beside the largest
number of the format; and a list of values in place of an object. -/
theorem json_lines_of_breaks_and_lists :
    (∃ lines, ([(⟨"\"\n😀", ⟨0x7FEFFFFFFFFFFFFF⟩, ⟨0xFFFFFFFFFFFFFFFF, 0, 1, 2, 3⟩, ⟨0⟩, ⟨1⟩,
        ⟨0x8000000000000000⟩⟩ : Snapshot), ⟨"", ⟨0⟩, {}, ⟨0⟩, ⟨0⟩, ⟨0⟩⟩].flatMap
          (·.output .json)).splitOn '\n' = lines ++ [[]] ∧ lines.length = 2) ∧
    ∃ s, ofLine "[\"a\\n\",1,2,3,4,5,6,0.5,0,1e3]".toList = .ok s ∧
      ∃ again, ofLine s.line = .ok again ∧ again.timestamp = "a\n" ∧
        again.counters = ⟨2, 3, 4, 5, 6⟩ := by
  obtain ⟨written, readAgain⟩ := json_lines_round_trip
  constructor
  · obtain ⟨lines, split, read⟩ := written
      [⟨"\"\n😀", ⟨0x7FEFFFFFFFFFFFFF⟩, ⟨0xFFFFFFFFFFFFFFFF, 0, 1, 2, 3⟩, ⟨0⟩, ⟨1⟩,
        ⟨0x8000000000000000⟩⟩, ⟨"", ⟨0⟩, {}, ⟨0⟩, ⟨0⟩, ⟨0⟩⟩] (by
          rintro s (_ | ⟨_, _ | ⟨_, ⟨⟩⟩⟩) <;> constructor <;> decide)
    exact ⟨lines, split, read.length_eq⟩
  · have list : ofLine "[\"a\\n\",1,2,3,4,5,6,0.5,0,1e3]".toList = .ok ⟨"a\n",
        ⟨0x3FF0000000000000⟩, ⟨2, 3, 4, 5, 6⟩, ⟨0x3FE0000000000000⟩, ⟨0⟩,
        ⟨0x408F400000000000⟩⟩ := by
      decide
    obtain ⟨again, read, -, timestamp, counters⟩ := readAgain _ _ list
    exact ⟨_, list, again, read, timestamp, counters⟩

end RegistryLoad.Snapshot
