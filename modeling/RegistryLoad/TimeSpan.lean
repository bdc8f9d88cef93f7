import RegistryLoad.Text.Blank
import RegistryLoad.Text.Numeral

/-!
# Time spans

Whole seconds and nanoseconds.  A span is typed as a numeral with an optional unit (`read?`) and
shown in the largest unit that fits it (`text`).
-/

namespace RegistryLoad

open RegistryLoad.Text

/-- The nanoseconds of a second. -/
def nanosPerSecond : Nat := 1000000000

/-- The nanoseconds of a millisecond. -/
def nanosPerMilli : Nat := 1000000

/-- A length of time. -/
structure TimeSpan where
  seconds : UInt64
  nanos : Nat
  nanos_lt : nanos < nanosPerSecond := by decide
  deriving DecidableEq, Repr

namespace TimeSpan

def ofSeconds (n : UInt64) : TimeSpan := { seconds := n, nanos := 0 }

def ofMillis (n : UInt64) : TimeSpan where
  seconds := n / 1000
  nanos := (n % 1000).toNat * nanosPerMilli
  nanos_lt := by
    have h : (n % 1000).toNat < 1000 := by
      rw [UInt64.toNat_mod]
      exact Nat.mod_lt _ (by decide)
    unfold nanosPerMilli nanosPerSecond
    omega

/-- The span with the given parts, if the second one is less than a second. -/
def ofParts? (seconds : UInt64) (nanos : Nat) : Option TimeSpan :=
  if h : nanos < nanosPerSecond then some ⟨seconds, nanos, h⟩ else none

def zero : TimeSpan := ofSeconds 0

def isZero (t : TimeSpan) : Bool := t.seconds == 0 && t.nanos == 0

/-- The span in nanoseconds. -/
def totalNanos (t : TimeSpan) : Nat := t.seconds.toNat * nanosPerSecond + t.nanos

/-- The whole milliseconds of the span. -/
def wholeMillis (t : TimeSpan) : Nat := t.totalNanos / nanosPerMilli

/-! ## Showing a span -/

/-- The digits after the point of `part / 10 ^ places`, without zeros at the end; no point if
nothing is left. -/
def fractionText (places part : Nat) : List Char :=
  match (decimalPadded places part).reverse.dropWhile (· == '0') with
  | [] => []
  | ds => '.' :: ds.reverse

/-- The span in the largest unit of which it holds at least one: seconds, milliseconds,
microseconds, nanoseconds. -/
def text (t : TimeSpan) : List Char :=
  if t.seconds ≠ 0 then decimal t.seconds.toNat ++ fractionText 9 t.nanos ++ ['s']
  else if 1000000 ≤ t.nanos then
    decimal (t.nanos / 1000000) ++ fractionText 6 (t.nanos % 1000000) ++ "ms".toList
  else if 1000 ≤ t.nanos then
    decimal (t.nanos / 1000) ++ fractionText 3 (t.nanos % 1000) ++ "µs".toList
  else decimal t.nanos ++ "ns".toList

/-! ## Reading a span -/

/-- The seconds of one unit. -/
def unitSeconds? : Char → Option Nat
  | 'h' => some 3600
  | 'm' => some 60
  | 's' => some 1
  | _ => none

/-- The text before a unit at its end and the seconds of that unit; one second per unit if the
text names none. -/
def splitUnit (text : List Char) : List Char × Nat :=
  match text.getLast?.bind unitSeconds? with
  | some unit => (text.dropLast, unit)
  | none => (text, 1)

/-- Reads a numeral of seconds, minutes or hours between blanks.  Blanks may stand before the
unit too.  Nothing is read if the seconds do not fit into 64 bits. -/
def read? (input : List Char) : Option TimeSpan :=
  let (count, unit) := splitUnit (trim input)
  match word? (trim count) with
  | some n =>
    if n.toNat * unit < UInt64.size then some (ofSeconds (n * UInt64.ofNat unit)) else none
  | none => none

end TimeSpan

end RegistryLoad
