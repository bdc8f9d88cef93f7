import RegistryLoad.Proofs.Json.Quoted
import RegistryLoad.Proofs.Json.Scale

/-!
# Numbers are read back

A number in its shortest decimal is a JSON number, whatever notation it is written in, and the
reader accepts it: the digits that fit into 64 bits never denote more than the decimal.  What comes
back need not be the number that was written, since the reader rounds more than once.

## Definitions

* `Parts`: the digits before the point, behind it, and the exponent.
* `Parts.outcome`: what the reader makes of them.

## Results

* `number_text`: reading the text of the parts.
* `exists_parts`: a finite number is written in parts that are accepted.
* `isFinite_of_number`: every number that is accepted is finite.
-/

namespace RegistryLoad.Json

open RegistryLoad.Text

/-! ## Steps that succeed -/

/-- Two steps succeed only if the first one does. -/
theorem exists_of_bind_eq_ok {ε α β : Type} {x : Except ε α} {f : α → Except ε β} {b : β}
    (h : x >>= f = .ok b) : ∃ a, x = .ok a ∧ f a = .ok b := by
  cases x with
  | error e => cases h
  | ok a => exact ⟨a, rfl, h⟩

theorem exists_of_map_eq_ok {ε α β : Type} {x : Except ε α} {f : α → β} {b : β}
    (h : x.map f = .ok b) : ∃ a, x = .ok a ∧ f a = b := by
  cases x with
  | error e => cases h
  | ok a => exact ⟨a, rfl, Except.ok.inj h⟩

/-! ## Digits that fit into 64 bits -/

theorem appendDigit?_eq {n v : Nat} {c : Char} (h : pushDigit? n c = some v) :
    appendDigit? n c = if v < UInt64.size then some v else none := by
  rw [appendDigit?, h, Option.filter_some]
  simp only [decide_eq_true_eq]

theorem appendDigit?_lt {n v : Nat} {c : Char} (h : appendDigit? n c = some v) :
    v < UInt64.size := by
  rw [appendDigit?, Option.filter_eq_some_iff] at h
  exact of_decide_eq_true h.2

theorem foldl_pushWhole {digits : List Char} {n v : Nat} (word : v < UInt64.size)
    (h : digits.foldlM pushDigit? n = some v) :
    digits.foldl Significand.pushWhole ⟨n, 0⟩ = ⟨v, 0⟩ := by
  induction digits generalizing n with
  | nil =>
    obtain rfl := Option.some.inj h
    rfl
  | cons c digits ih =>
    obtain ⟨d, -, pushed, rest⟩ := foldlM_pushDigit?_cons h
    have small : 10 * n + d < UInt64.size :=
      ((Nat.le_mul_of_pos_right _ (Nat.pow_pos (by decide))).trans
        (le_foldlM_pushDigit? rest)).trans_lt word
    have one : Significand.pushWhole ⟨n, 0⟩ c = ⟨10 * n + d, 0⟩ := by
      rw [Significand.pushWhole, if_pos rfl, appendDigit?_eq pushed, if_pos small]
    rw [List.foldl_cons, one]
    exact ih rest

/-- Digits before the point that fit are all kept. -/
theorem wholeDigits_eq {digits : List Char} {v : Nat} (word : v < UInt64.size)
    (h : digits.foldlM pushDigit? 0 = some v) : wholeDigits digits = ⟨v, 0⟩ :=
  foldl_pushWhole word h

theorem value_pushWhole_lt {s : Significand} (h : s.value < UInt64.size) (c : Char) :
    (s.pushWhole c).value < UInt64.size := by
  unfold Significand.pushWhole
  split
  · split
    · rename_i fits
      exact appendDigit?_lt fits
    · exact h
  · exact h

theorem value_wholeDigits_lt (digits : List Char) : (wholeDigits digits).value < UInt64.size := by
  have kept : ∀ s : Significand, s.value < UInt64.size →
      (digits.foldl Significand.pushWhole s).value < UInt64.size := by
    induction digits with
    | nil => exact fun _ h => h
    | cons c digits ih => exact fun s h => ih _ (value_pushWhole_lt h c)
  exact kept ⟨0, 0⟩ (by decide)

theorem fractionDigits_lt {n : Nat} (h : n < UInt64.size) (digits : List Char) :
    (fractionDigits n digits).1 < UInt64.size := by
  induction digits generalizing n with
  | nil => exact h
  | cons c digits ih =>
    unfold fractionDigits
    split
    · rename_i fits
      exact ih (appendDigit?_lt fits)
    · exact h

/-- **The digits behind the point that fit** denote at most what all of them do. -/
theorem fractionDigits_spec {digits : List Char} {n v : Nat}
    (h : digits.foldlM pushDigit? n = some v) :
    (fractionDigits n digits).2 ≤ digits.length ∧
      (fractionDigits n digits).1 * 10 ^ (digits.length - (fractionDigits n digits).2) ≤ v := by
  induction digits generalizing n with
  | nil =>
    obtain rfl := Option.some.inj h
    exact ⟨le_rfl, by simp [fractionDigits]⟩
  | cons c digits ih =>
    have start := le_foldlM_pushDigit? h
    obtain ⟨d, -, pushed, rest⟩ := foldlM_pushDigit?_cons h
    unfold fractionDigits
    rw [appendDigit?_eq pushed]
    split_ifs with fits
    · obtain ⟨places, bound⟩ := ih rest
      dsimp only
      rw [List.length_cons, Nat.add_sub_add_right]
      exact ⟨Nat.succ_le_succ places, bound⟩
    · exact ⟨Nat.zero_le _, start⟩

/-! ## The parts of a number -/

/-- A text of at least one digit. -/
def IsDigits (text : List Char) : Prop := text ≠ [] ∧ ∀ c ∈ text, (digit? c).isSome

/-- The parts of a number after its sign. -/
structure Parts where
  whole : List Char
  fraction : Option (List Char) := none
  exponent : Option Int := none
  whole_digits : IsDigits whole
  /-- No zero stands in front of another digit. -/
  leading : whole.head? = some '0' → whole.length = 1
  fraction_digits : ∀ digits ∈ fraction, IsDigits digits

namespace Parts

/-- The text of the parts. -/
def text (p : Parts) : List Char :=
  p.whole ++ (p.fraction.elim [] ('.' :: ·) ++ p.exponent.elim [] Binary64.exponentText)

/-- The digits that fit into 64 bits, and how many of them stand behind the point. -/
def kept (p : Parts) : Nat × Nat :=
  fractionDigits (wholeDigits p.whole).value (p.fraction.getD [])

/-- The power of ten that belongs to the kept digits. -/
def power (p : Parts) : Int :=
  ((wholeDigits p.whole).dropped : Int) - p.kept.2 + p.exponent.getD 0

/-- The number that the parts are read as. -/
def outcome (p : Parts) (negative : Bool) : Except ReadError Number :=
  if !negative && p.fraction.isNone && p.exponent.isNone && (wholeDigits p.whole).dropped = 0 then
    .ok (.natural (UInt64.ofNat (wholeDigits p.whole).value))
  else (scale p.kept.1 p.power).map fun x => .real (if negative then x.neg else x)

end Parts

/-! ## Reading the parts -/

theorem isSpace_of_digit {c : Char} (h : (digit? c).isSome) : isSpace c = false := by
  rw [← Bool.not_eq_true]
  intro space
  simp only [isSpace, Bool.or_eq_true, beq_iff_eq] at space
  rcases space with ((rfl | rfl) | rfl) | rfl <;> exact absurd h (by decide)

/-- A text that does not go on with a digit. -/
def NoDigit (text : List Char) : Prop := ∀ c, text.head? = some c → digit? c = none

/-- A text that cannot be the rest of a number. -/
def Delimited (text : List Char) : Prop :=
  ∀ c, text.head? = some c → digit? c = none ∧ c ≠ '.' ∧ c ≠ 'e' ∧ c ≠ 'E'

theorem spanDigits_append {digits rest : List Char} (h : IsDigits digits) (stop : NoDigit rest) :
    spanDigits (digits ++ rest) = (digits, rest) := by
  unfold spanDigits
  rw [List.takeWhile_append_of_pos h.2, List.dropWhile_append_of_pos h.2]
  cases rest with
  | nil => simp
  | cons c rest => simp [stop c rfl]

theorem readWhole_append {digits rest : List Char} (h : IsDigits digits)
    (leading : digits.head? = some '0' → digits.length = 1) (stop : NoDigit rest) :
    readWhole (digits ++ rest) = .ok (digits, rest) := by
  unfold readWhole
  rw [spanDigits_append h stop]
  split
  · rename_i same
    exact absurd (congrArg Prod.fst same) h.1
  · rename_i same
    exact absurd (congrArg Prod.fst same) h.1
  · rename_i same
    obtain rfl := congrArg Prod.fst same
    exact absurd (leading rfl) (by simp)
  · rename_i same
    rw [same]

theorem fraction?_append {digits rest : List Char} (h : IsDigits digits) (stop : NoDigit rest) :
    fraction? ('.' :: digits ++ rest) = .ok (some digits, rest) := by
  obtain ⟨c, digits, rfl⟩ := List.exists_cons_of_ne_nil h.1
  rw [List.cons_append]
  simp only [fraction?, spanDigits_append h stop]

theorem fraction?_of_ne {text : List Char} (h : text.head? ≠ some '.') :
    fraction? text = .ok (none, text) := by
  unfold fraction?
  split
  · exact absurd rfl h
  · rfl

theorem isDigits_decimal (n : Nat) : IsDigits (decimal n) :=
  ⟨decimal_ne_nil n, fun _ => digit?_of_mem_decimal⟩

theorem exponentSign_sign (e : Int) (text : List Char) :
    exponentSign ((if e < 0 then '-' else '+') :: text) = (decide (e < 0), text) := by
  split
  · rename_i negative
    simp [exponentSign, negative]
  · rename_i positive
    simp [exponentSign, positive]

theorem exponent?_append (e : Int) {rest : List Char} (stop : NoDigit rest) :
    exponent? (Binary64.exponentText e ++ rest) = .ok (some e, rest) := by
  have read : natural? (decimal e.natAbs) = some e.natAbs := by
    rw [natural?_eq_foldlM (decimal_ne_nil _), foldlM_decimal]
  have value : (if decide (e < 0) = true then -(e.natAbs : Int) else e.natAbs) = e := by
    split_ifs with negative <;> rw [decide_eq_true_eq] at negative <;> omega
  have digits : readExponent ((if e < 0 then '-' else '+') :: (decimal e.natAbs ++ rest))
      = .ok (e, rest) := by
    unfold readExponent
    rw [exponentSign_sign]
    dsimp only
    rw [spanDigits_append (isDigits_decimal _) stop]
    obtain ⟨c, tail, shape⟩ := List.exists_cons_of_ne_nil (decimal_ne_nil e.natAbs)
    rw [shape] at read ⊢
    simp only [read, Option.getD_some, value]
  rw [Binary64.exponentText, List.cons_append, List.cons_append, exponent?, if_pos (by decide),
    digits]
  rfl

theorem exponent?_of_delimited {text : List Char} (h : Delimited text) :
    exponent? text = .ok (none, text) := by
  unfold exponent?
  split
  · rename_i c rest
    obtain ⟨-, -, lower, upper⟩ := h c rfl
    simp [lower, upper]
  · rfl

namespace Delimited

variable {rest : List Char}

/-- What stands in front of a delimiter after the fraction. -/
theorem behindFraction (h : Delimited rest) (e : Option Int) :
    NoDigit (e.elim [] Binary64.exponentText ++ rest) ∧
      (e.elim [] Binary64.exponentText ++ rest).head? ≠ some '.' := by
  cases e with
  | none => exact ⟨fun c known => (h c known).1, fun point => (h '.' point).2.1 rfl⟩
  | some e =>
    refine ⟨fun c known => ?_, ?_⟩
    · obtain rfl := Option.some.inj known
      decide
    · simp [Binary64.exponentText]

/-- What stands in front of a delimiter after the digits before the point. -/
theorem behindWhole (h : Delimited rest) (f : Option (List Char)) (e : Option Int) :
    NoDigit (f.elim [] ('.' :: ·) ++ (e.elim [] Binary64.exponentText ++ rest)) := by
  cases f with
  | none => exact (h.behindFraction e).1
  | some f =>
    intro c known
    obtain rfl := Option.some.inj known
    decide

end Delimited

/-- **The parts of a number are read** as what they stand for. -/
theorem number_text (p : Parts) (negative : Bool) {rest : List Char} (stop : Delimited rest) :
    number negative (p.text ++ rest) = (p.outcome negative).map (·, rest) := by
  obtain ⟨afterFraction, noPoint⟩ := stop.behindFraction p.exponent
  have whole := readWhole_append p.whole_digits p.leading (stop.behindWhole p.fraction p.exponent)
  have fraction : fraction? (p.fraction.elim [] ('.' :: ·)
      ++ (p.exponent.elim [] Binary64.exponentText ++ rest))
        = .ok (p.fraction, p.exponent.elim [] Binary64.exponentText ++ rest) := by
    cases known : p.fraction with
    | none => exact fraction?_of_ne noPoint
    | some f => exact fraction?_append (p.fraction_digits f known) afterFraction
  have exponent : exponent? (p.exponent.elim [] Binary64.exponentText ++ rest)
      = .ok (p.exponent, rest) := by
    cases p.exponent with
    | none => exact exponent?_of_delimited stop
    | some e => exact exponent?_append e fun c known => (stop c known).1
  unfold number
  rw [Parts.text, List.append_assoc, List.append_assoc, whole]
  simp only [bind, Except.bind, fraction, exponent]
  unfold Parts.outcome Parts.power Parts.kept
  split
  · rfl
  · cases scale (fractionDigits (wholeDigits p.whole).value (p.fraction.getD [])).1
      ((wholeDigits p.whole).dropped
        - (fractionDigits (wholeDigits p.whole).value (p.fraction.getD [])).2
        + p.exponent.getD 0) <;> rfl

/-! ## Which numbers are accepted -/

namespace Parts

variable {p : Parts}

theorem kept_lt (p : Parts) : p.kept.1 < UInt64.size :=
  fractionDigits_lt (value_wholeDigits_lt _) _

theorem outcome_ok (h : ∃ x, scale p.kept.1 p.power = .ok x) (negative : Bool) :
    ∃ n, p.outcome negative = .ok n := by
  obtain ⟨x, given⟩ := h
  unfold outcome
  rw [given]
  split
  · exact ⟨_, rfl⟩
  · exact ⟨_, rfl⟩

/-- A count is a number of one part. -/
def ofNat (n : Nat) : Parts where
  whole := decimal n
  whole_digits := isDigits_decimal n
  leading := by
    intro zero
    rcases Nat.eq_zero_or_pos n with rfl | positive
    · rw [decimal, if_pos (by decide)]
      rfl
    · exact absurd zero (head?_decimal positive)
  fraction_digits := by simp

theorem text_ofNat (n : Nat) : (ofNat n).text = decimal n := by
  simp [text, ofNat]

theorem outcome_ofNat {n : Nat} (h : n < UInt64.size) :
    (ofNat n).outcome false = .ok (.natural (UInt64.ofNat n)) := by
  have whole : wholeDigits (ofNat n).whole = ⟨n, 0⟩ := wholeDigits_eq h (foldlM_decimal n)
  unfold outcome
  rw [whole]
  rfl

/-- Without an exponent, numbers of up to nineteen digits before the point are accepted. -/
theorem scale_of_short (short : p.whole.length ≤ 19) (none : p.exponent = none) :
    ∃ x, scale p.kept.1 p.power = .ok x := by
  refine scale_of_nonpos p.kept_lt ?_
  obtain ⟨v, value⟩ := exists_foldlM_pushDigit? p.whole_digits.2 0
  have word : v < UInt64.size := by
    calc v < (0 + 1) * 10 ^ p.whole.length := foldlM_pushDigit?_lt value
      _ ≤ 10 ^ 19 := by
        rw [Nat.zero_add, Nat.one_mul]
        exact Nat.pow_le_pow_right (by decide) short
      _ ≤ UInt64.size := by decide
  rw [power, wholeDigits_eq word value, none, Option.getD_none]
  dsimp only
  omega

/-- With one digit before the point, numbers below the largest one but one are accepted. -/
theorem scale_of_scientific {c : Char} {digits : List Char} {m : Nat} {lead : Int}
    (whole : p.whole = [c]) (fraction : p.fraction.getD [] = digits)
    (exponent : p.exponent = some lead) (value : (c :: digits).foldlM pushDigit? 0 = some m)
    (bound : (m : ℚ) * 10 ^ (lead - digits.length) ≤ Binary64.belowLargest) :
    ∃ x, scale p.kept.1 p.power = .ok x := by
  obtain ⟨d, small, pushed, rest⟩ := foldlM_pushDigit?_cons value
  have one : wholeDigits p.whole = ⟨10 * 0 + d, 0⟩ := by
    rw [whole]
    refine wholeDigits_eq (small.trans_le' ?_ |>.trans (by decide)) ?_
    · omega
    · rw [List.foldlM_cons, pushed]
      rfl
  have kept : p.kept = fractionDigits (10 * 0 + d) digits := by rw [Parts.kept, one, fraction]
  obtain ⟨places, below⟩ := fractionDigits_spec rest
  rw [← kept] at places below
  have power : p.power = lead - p.kept.2 := by
    rw [Parts.power, one, exponent, Option.getD_some]
    dsimp only
    omega
  rcases le_total p.power 0 with nonpos | nonneg
  · exact scale_of_nonpos p.kept_lt nonpos
  · obtain ⟨k, same⟩ := Int.eq_ofNat_of_zero_le nonneg
    rw [same]
    refine scale_of_le p.kept_lt ?_
    have split : (k : ℤ) = ((digits.length - p.kept.2 : Nat) : ℤ) + (lead - digits.length) := by
      omega
    have exact : (p.kept.1 : ℚ) * 10 ^ k ≤ Binary64.belowLargest := by
      calc (p.kept.1 : ℚ) * 10 ^ k
          = p.kept.1 * 10 ^ (digits.length - p.kept.2) * 10 ^ (lead - digits.length) := by
            rw [← zpow_natCast, split, zpow_add₀ (by norm_num), zpow_natCast, mul_assoc]
        _ ≤ m * 10 ^ (lead - digits.length) := by
            have cast : (p.kept.1 : ℚ) * 10 ^ (digits.length - p.kept.2) ≤ m := by
              exact_mod_cast below
            gcongr
        _ ≤ Binary64.belowLargest := bound
    exact_mod_cast exact

/-! ## How numbers are written -/

theorem isDigits_singleton {c : Char} (h : (digit? c).isSome) : IsDigits [c] :=
  ⟨List.cons_ne_nil c [], fun _ known => List.mem_singleton.mp known ▸ h⟩

theorem isDigits_zero : IsDigits ['0'] := isDigits_singleton (by decide)

/-- Digits before and behind a point. -/
def pointed {whole fraction : List Char} (hw : IsDigits whole)
    (leading : whole.head? = some '0' → whole.length = 1) (hf : IsDigits fraction) : Parts where
  whole := whole
  fraction := some fraction
  whole_digits := hw
  leading := leading
  fraction_digits := by
    rintro digits ⟨⟩
    exact hf

/-- The parts of a zero. -/
def zero : Parts := pointed isDigits_zero (fun _ => rfl) isDigits_zero

/-- The parts of a decimal in positional notation. -/
theorem exists_positional {digits : List Char} {whole : Int} (h : IsDigits digits)
    (leading : digits.head? ≠ some '0') (short : whole ≤ 19) :
    ∃ p : Parts, p.text = Binary64.positional digits whole ∧ p.whole.length ≤ 19 ∧
      p.exponent = none := by
  have zeros (k : Nat) : ∀ c ∈ List.replicate k '0', (digit? c).isSome := by
    intro c known
    rw [List.eq_of_mem_replicate known]
    decide
  unfold Binary64.positional
  split_ifs with below
  · have fraction : IsDigits (List.replicate (-whole).toNat '0' ++ digits) :=
      ⟨by simp [h.1], List.forall_mem_append.mpr ⟨zeros _, h.2⟩⟩
    exact ⟨pointed isDigits_zero (fun _ => rfl) fraction, by simp [text, pointed],
      by simp [pointed], rfl⟩
  · dsimp only
    split_ifs with fits
    · have filled : IsDigits (digits ++ List.replicate (whole.toNat - digits.length) '0') :=
        ⟨by simp [h.1], List.forall_mem_append.mpr ⟨h.2, zeros _⟩⟩
      refine ⟨pointed filled (fun zero => ?_) isDigits_zero, by simp [text, pointed], ?_, rfl⟩
      · rw [List.head?_append_of_ne_nil _ h.1] at zero
        exact absurd zero leading
      · simp only [pointed, List.length_append, List.length_replicate]
        omega
    · have front : IsDigits (digits.take whole.toNat) := by
        refine ⟨?_, fun c known => h.2 c (List.mem_of_mem_take known)⟩
        simp only [ne_eq, List.take_eq_nil_iff, not_or]
        exact ⟨by omega, h.1⟩
      have back : IsDigits (digits.drop whole.toNat) := by
        refine ⟨?_, fun c known => h.2 c (List.mem_of_mem_drop known)⟩
        simp only [ne_eq, List.drop_eq_nil_iff]
        exact fits
      refine ⟨pointed front (fun zero => ?_) back, by simp [text, pointed], ?_, rfl⟩
      · rw [List.head?_take, if_neg (by omega)] at zero
        exact absurd zero leading
      · simp only [pointed, List.length_take]
        omega

/-- The parts of a decimal with an exponent. -/
theorem exists_scientific {c : Char} {digits : List Char} (h : IsDigits (c :: digits))
    (lead : Int) :
    ∃ p : Parts, p.text = Binary64.scientific (c :: digits) lead ∧ p.whole = [c] ∧
      p.fraction.getD [] = digits ∧ p.exponent = some lead := by
  have first : IsDigits [c] := isDigits_singleton (h.2 c List.mem_cons_self)
  cases digits with
  | nil =>
    exact ⟨⟨[c], none, some lead, first, fun _ => rfl, by simp⟩,
      by simp [text, Binary64.scientific], rfl, rfl, rfl⟩
  | cons d digits =>
    refine ⟨⟨[c], some (d :: digits), some lead, first, fun _ => rfl, ?_⟩,
      by simp [text, Binary64.scientific], rfl, rfl, rfl⟩
    intro f known
    obtain rfl := Option.some.inj known
    exact ⟨by simp, fun c mem => h.2 c (List.mem_cons_of_mem _ mem)⟩

/-- **A decimal below the largest number but one** is written in parts that are accepted. -/
theorem exists_render {layout : Binary64.Layout} (highest : layout.highest ≤ 19)
    {d : Binary64.Decimal} (positive : 0 < d.digits) (bound : d.value ≤ Binary64.belowLargest) :
    ∃ p : Parts, p.text = layout.render d ∧ ∃ x, scale p.kept.1 p.power = .ok x := by
  obtain ⟨nonempty, k, all⟩ := Binary64.significant_spec positive
  have digits : IsDigits (Binary64.significant d.digits) := by
    refine ⟨nonempty, fun c mem => digit?_of_mem_decimal (n := d.digits) ?_⟩
    rw [all]
    exact List.mem_append_left _ mem
  have leading : (Binary64.significant d.digits).head? ≠ some '0' := by
    have head := head?_decimal positive
    rwa [all, List.head?_append_of_ne_nil _ nonempty] at head
  have length := congrArg List.length all
  rw [List.length_append, List.length_replicate] at length
  unfold Binary64.Layout.render
  dsimp only
  split_ifs with positional
  · obtain ⟨p, same, short, none⟩ := @exists_positional _
      (d.power + (decimal d.digits).length - 1 + 1) digits leading (by omega)
    exact ⟨p, same, scale_of_short short none⟩
  · cases shape : Binary64.significant d.digits with
    | nil => exact absurd shape nonempty
    | cons c rest =>
      rw [shape] at digits all length
      obtain ⟨p, same, whole, fraction, exponent⟩ := exists_scientific digits
        (d.power + (decimal d.digits).length - 1)
      obtain ⟨m, value⟩ := exists_foldlM_pushDigit? digits.2 0
      refine ⟨p, same, scale_of_scientific whole fraction exponent value ?_⟩
      have total : m * 10 ^ k = d.digits := by
        have read := foldlM_decimal d.digits
        rw [all, List.foldlM_append, value, Option.bind_eq_bind, Option.bind_some,
          foldlM_pushDigit?_zeros] at read
        exact Option.some.inj read
      have places : d.power + (decimal d.digits).length - 1 - (rest.length : Int)
          = (k : ℤ) + d.power := by
        rw [length, List.length_cons]
        push_cast
        ring
      refine le_of_eq_of_le ?_ bound
      rw [places, zpow_add₀ (by norm_num), zpow_natCast, ← mul_assoc, Binary64.Decimal.value,
        ← total]
      push_cast
      ring

/-- The largest number of the format. -/
theorem exists_render_largest {layout : Binary64.Layout} (highest : layout.highest ≤ 19) :
    ∃ p : Parts, p.text = layout.render ⟨17976931348623157, 292⟩ ∧
      ∃ x, scale p.kept.1 p.power = .ok x := by
  have written : Binary64.significant 17976931348623157 = '1' :: "7976931348623157".toList := by
    decide +kernel
  have length : (decimal 17976931348623157).length = 17 :=
    @length_decimal_eq _ 16 (by decide) (by decide)
  have digits : IsDigits ('1' :: "7976931348623157".toList) :=
    ⟨List.cons_ne_nil _ _, List.all_eq_true.mp (by decide)⟩
  obtain ⟨p, same, whole, fraction, exponent⟩ := exists_scientific digits 308
  have kept : p.kept = (17976931348623157, 16) := by
    rw [Parts.kept, whole, fraction]
    decide
  have power : p.power = 292 := by
    rw [Parts.power, kept, whole, exponent]
    decide
  refine ⟨p, ?_, ?_⟩
  · unfold Binary64.Layout.render
    dsimp only
    rw [same, written, length, if_neg (by omega)]
    congr 1
  · rw [kept, power]
    exact ⟨(Binary64.ofNat 17976931348623157).mul (powerOfTen 292), by decide +kernel⟩

/-- **A finite number is written** in parts that are accepted, behind its sign. -/
theorem exists_parts {layout : Binary64.Layout} (highest : layout.highest ≤ 19) {x : Binary64}
    (finite : x.isFinite = true) :
    ∃ p : Parts, layout.renderFinite x = (if x.isNegative then ['-'] else []) ++ p.text ∧
      ∃ y, scale p.kept.1 p.power = .ok y := by
  unfold Binary64.Layout.renderFinite
  dsimp only
  cases zeroed : x.isZero with
  | true => exact ⟨zero, rfl, scale_of_short (by decide) rfl⟩
  | false =>
    rw [Binary64.isFinite_iff] at finite
    rcases Nat.lt_or_ge x.magnitude (Binary64.infiniteBits - 1) with less | large
    · obtain ⟨p, same, accepted⟩ := exists_render highest (Binary64.shortest_pos zeroed)
        (Binary64.value_shortest_le less)
      exact ⟨p, by rw [same]; rfl, accepted⟩
    · obtain ⟨p, same, accepted⟩ := exists_render_largest highest
      have largest : x.magnitude = Binary64.infiniteBits - 1 := by omega
      exact ⟨p, by rw [same, Binary64.shortest_largest largest]; rfl, accepted⟩

end Parts

/-! ## Accepted numbers -/

/-- **Every number that is accepted is finite.** -/
theorem isFinite_of_number {negative : Bool} {text rest : List Char} {n : Number}
    (h : number negative text = .ok (n, rest)) : n.toReal.isFinite = true := by
  obtain ⟨⟨whole, afterWhole⟩, -, h⟩ := exists_of_bind_eq_ok h
  obtain ⟨⟨fraction, afterFraction⟩, -, h⟩ := exists_of_bind_eq_ok h
  obtain ⟨⟨exponent, afterExponent⟩, -, h⟩ := exists_of_bind_eq_ok h
  dsimp only at h
  split at h
  · obtain ⟨rfl, -⟩ := Prod.mk.inj (Except.ok.inj h)
    exact isFinite_ofNat_word (UInt64.toNat_lt_size _).le
  · obtain ⟨x, scaled, h⟩ := exists_of_bind_eq_ok h
    obtain ⟨rfl, -⟩ := Prod.mk.inj (Except.ok.inj h)
    have finite := isFinite_of_scale (fractionDigits_lt (value_wholeDigits_lt _) _) scaled
    cases negative with
    | false => exact finite
    | true => exact Binary64.isFinite_neg finite

/-! ## No control characters -/

theorem isShown_of_digit {c : Char} (h : (digit? c).isSome) : IsShown c := by
  unfold digit? at h
  split at h
  · rename_i range
    have low : '0'.toNat ≤ c.toNat := range.1
    exact (show 0x20 ≤ '0'.toNat by decide).trans low
  · cases h

theorem Parts.isShown_text (p : Parts) : ∀ c ∈ p.text, IsShown c := by
  intro c known
  rw [Parts.text, List.mem_append, List.mem_append] at known
  rcases known with whole | fraction | exponent
  · exact isShown_of_digit (p.whole_digits.2 c whole)
  · cases given : p.fraction with
    | none =>
      rw [given] at fraction
      cases fraction
    | some f =>
      rw [given] at fraction
      rcases List.mem_cons.mp fraction with rfl | digit
      · decide
      · exact isShown_of_digit ((p.fraction_digits f given).2 c digit)
  · cases given : p.exponent with
    | none =>
      rw [given] at exponent
      cases exponent
    | some e =>
      rw [given] at exponent
      simp only [Option.elim_some, Binary64.exponentText, List.mem_cons] at exponent
      rcases exponent with rfl | rfl | digit
      · decide
      · split <;> decide
      · exact isShown_of_digit (digit?_of_mem_decimal digit)

end RegistryLoad.Json
