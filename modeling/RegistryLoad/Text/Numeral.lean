/-!
# Numerals

Decimal digits of a natural number, and the numerals a user may type for a 64-bit count: an
optional `+` and at least one ASCII digit, whatever number of leading zeros, as long as the
value fits.

* `decimal_ne_nil`: no number is written without a digit.
-/

namespace RegistryLoad.Text

/-- The character of a digit below ten. -/
def digitChar (d : Nat) : Char := Char.ofNat ('0'.toNat + d)

/-- The decimal digits of `n`, most significant first, without leading zeros. -/
def decimal (n : Nat) : List Char :=
  if n < 10 then [digitChar n] else decimal (n / 10) ++ [digitChar (n % 10)]

/-- The digits of `n`, filled up with zeros on the left to at least `width` characters. -/
def decimalPadded (width n : Nat) : List Char :=
  List.replicate (width - (decimal n).length) '0' ++ decimal n

/-- The value of an ASCII digit. -/
def digit? (c : Char) : Option Nat :=
  if '0' ≤ c ∧ c ≤ '9' then some (c.toNat - '0'.toNat) else none

/-- One digit read after a number: the number grows by a decimal place. -/
def pushDigit? (n : Nat) (c : Char) : Option Nat :=
  (digit? c).map (10 * n + ·)

/-- The value of a non-empty text of ASCII digits. -/
def natural? : List Char → Option Nat
  | [] => none
  | text => text.foldlM pushDigit? 0

/-- One leading `+` may be left out of a numeral. -/
def dropPlus : List Char → List Char
  | '+' :: rest => rest
  | text => text

/-- The value of a numeral that fits into 64 bits. -/
def word? (text : List Char) : Option UInt64 :=
  match natural? (dropPlus text) with
  | some n => if n < UInt64.size then some (UInt64.ofNat n) else none
  | none => none

theorem decimal_ne_nil (n : Nat) : decimal n ≠ [] := by
  unfold decimal
  split <;> simp

end RegistryLoad.Text
