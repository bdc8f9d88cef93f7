import RegistryLoad.Decimal.Binary64
import RegistryLoad.Json.Reader

/-!
# Numbers of JSON

A number without sign, fraction and exponent that fits into 64 bits is a natural number; every
other one is a double precision number.  Its digits are collected as long as they fit into 64
bits, the rest only counts for the power of ten, and the power is applied by one product or one
or two quotients, so that the last bit need not be that of the nearest number.
-/

namespace RegistryLoad.Json

open RegistryLoad.Text

/-- A number as it was written. -/
inductive Number where
  | natural (n : UInt64)
  | real (x : Binary64)
  deriving DecidableEq, Repr

/-- The number in double precision. -/
def Number.toReal : Number → Binary64
  | natural n => Binary64.ofNat n.toNat
  | real x => x

/-- Digits that were collected, and how many digits before the point were left out. -/
structure Significand where
  value : Nat
  dropped : Nat
  deriving DecidableEq, Repr

/-- The value with one digit more, if that fits into 64 bits. -/
def appendDigit? (value : Nat) (c : Char) : Option Nat :=
  (pushDigit? value c).filter (· < UInt64.size)

/-- A digit before the point.  From the first one that does not fit, all are left out. -/
def Significand.pushWhole (s : Significand) (c : Char) : Significand :=
  if s.dropped = 0 then
    match appendDigit? s.value c with
    | some value => ⟨value, 0⟩
    | none => ⟨s.value, 1⟩
  else ⟨s.value, s.dropped + 1⟩

/-- The digits before the point. -/
def wholeDigits (digits : List Char) : Significand :=
  digits.foldl Significand.pushWhole ⟨0, 0⟩

/-- The digits behind the point as far as they fit, and how many those are. -/
def fractionDigits (value : Nat) : List Char → Nat × Nat
  | [] => (value, 0)
  | c :: rest => match appendDigit? value c with
    | some value =>
      let (value, places) := fractionDigits value rest
      (value, places + 1)
    | none => (value, 0)

/-- The largest power of ten of the format. -/
def maxPower : Nat := 308

def powerOfTen (n : Nat) : Binary64 := Binary64.ofNat (Nat.pow 10 n)

/-- The number `digits * 10 ^ power` by at most one product or two quotients.  What is too large
for the format is no number. -/
def scale (digits : Nat) (power : Int) : Except ReadError Binary64 :=
  let x := Binary64.ofNat digits
  if 0 ≤ power then
    if x.isZero then .ok x
    else if (maxPower : Int) < power then .error .malformed
    else
      let y := x.mul (powerOfTen power.toNat)
      if y.isInfinite then .error .malformed else .ok y
  else
    let places := (-power).toNat
    if places ≤ maxPower then .ok (x.div (powerOfTen places))
    else if places ≤ 2 * maxPower then
      .ok ((x.div (powerOfTen maxPower)).div (powerOfTen (places - maxPower)))
    else .ok (Binary64.zero false)

/-- The sign of an exponent, and the text behind it. -/
def exponentSign : List Char → Bool × List Char
  | '+' :: rest => (false, rest)
  | '-' :: rest => (true, rest)
  | rest => (false, rest)

/-- The exponent behind its mark. -/
def readExponent (text : List Char) : Except ReadError (Int × List Char) :=
  let (negative, rest) := exponentSign text
  match spanDigits rest with
  | ([], []) => .error .truncated
  | ([], _ :: _) => .error .malformed
  | (digits, rest) =>
    let n := (natural? digits).getD 0
    .ok (if negative then -(n : Int) else n, rest)

/-- An exponent, if there is one. -/
def exponent? (text : List Char) : Except ReadError (Option Int × List Char) :=
  match text with
  | c :: rest =>
    if c = 'e' || c = 'E' then (readExponent rest).map fun (e, rest) => (some e, rest)
    else .ok (none, text)
  | [] => .ok (none, text)

/-- The digits of a fraction, if there is one.  A point needs a digit behind it. -/
def fraction? (text : List Char) : Except ReadError (Option (List Char) × List Char) :=
  match text with
  | '.' :: rest =>
    match spanDigits rest with
    | ([], []) => .error .truncated
    | ([], _ :: _) => .error .malformed
    | (digits, rest) => .ok (some digits, rest)
  | _ => .ok (none, text)

/-- The digits before the point: at least one, and no zero in front of another. -/
def readWhole (text : List Char) : Except ReadError (List Char × List Char) :=
  match spanDigits text with
  | ([], []) => .error .truncated
  | ([], _ :: _) => .error .malformed
  | ('0' :: _ :: _, _) => .error .malformed
  | (digits, rest) => .ok (digits, rest)

/-- A number after its sign. -/
def number (negative : Bool) : Reader Number := fun text => do
  let (whole, rest) ← readWhole text
  let (fraction, rest) ← fraction? rest
  let (exponent, rest) ← exponent? rest
  let s := wholeDigits whole
  if !negative && fraction.isNone && exponent.isNone && s.dropped = 0 then
    return (.natural (UInt64.ofNat s.value), rest)
  else
    let (value, places) := fractionDigits s.value (fraction.getD [])
    let x ← scale value ((s.dropped : Int) - places + exponent.getD 0)
    return (.real (if negative then x.neg else x), rest)

end RegistryLoad.Json
