/-!
# Double precision numbers

Rates and elapsed times are numbers of the 64-bit binary format.  They are kept by their bits,
and every operation is exact arithmetic on natural numbers followed by one rounding
(`ofRatio`), so that no step hangs on a machine operation that a proof cannot open.
-/

namespace RegistryLoad

/-! ## Rounding a quotient -/

/-- The integer nearest to `num / den`; of two equally near ones the even one. -/
def roundHalfEven (num den : Nat) : Nat :=
  let q := num / den
  let r := num % den
  if 2 * r < den then q
  else if den < 2 * r then q + 1
  else q + q % 2

/-! ## The format -/

/-- A number of the 64-bit binary format: a sign bit, eleven bits of exponent and fifty-two
bits of fraction. -/
structure Binary64 where
  bits : UInt64
  deriving DecidableEq, Repr, Inhabited

namespace Binary64

/-- The smallest exponent of the last place of a number. -/
def minExponent : Int := -1074

/-- The unit of the sign bit. -/
def signUnit : Nat := 0x8000000000000000

/-- The unit of the exponent field, and the leading bit of a normal mantissa. -/
def exponentUnit : Nat := 0x10000000000000

/-- The bits of an infinite magnitude. -/
def infiniteBits : Nat := 0x7FF0000000000000

/-- The number with the given sign and magnitude bits. -/
def ofMagnitude (negative : Bool) (magnitude : Nat) : Binary64 :=
  ⟨UInt64.ofNat ((if negative then signUnit else 0) + magnitude)⟩

def zero (negative : Bool) : Binary64 := ofMagnitude negative 0

def infinity (negative : Bool) : Binary64 := ofMagnitude negative infiniteBits

/-- The one result of every operation without a value. -/
def nan : Binary64 := ⟨0x7FF8000000000000⟩

def isNegative (x : Binary64) : Bool := signUnit ≤ x.bits.toNat

/-- The bits without the sign. -/
def magnitude (x : Binary64) : Nat := x.bits.toNat % signUnit

def isNaN (x : Binary64) : Bool := infiniteBits < x.magnitude

def isInfinite (x : Binary64) : Bool := x.magnitude == infiniteBits

def isZero (x : Binary64) : Bool := x.magnitude == 0

/-- Neither infinite nor without a value. -/
def isFinite (x : Binary64) : Bool := x.magnitude < infiniteBits

/-- The exponent field.  Zero stands for the numbers below the normal ones. -/
def biasedExponent (x : Binary64) : Nat := x.magnitude / exponentUnit

/-- The integer `m` of a finite magnitude `m * 2 ^ exponent`. -/
def mantissa (x : Binary64) : Nat :=
  let fraction := x.magnitude % exponentUnit
  if x.biasedExponent = 0 then fraction else exponentUnit + fraction

/-- The exponent of the last place of a finite number. -/
def exponent (x : Binary64) : Int :=
  minExponent + (x.biasedExponent - 1 : Nat)

/-- The numerator of a finite magnitude. -/
def numerator (x : Binary64) : Nat := x.mantissa * Nat.pow 2 x.exponent.toNat

/-- The denominator of a finite magnitude. -/
def denominator (x : Binary64) : Nat := Nat.pow 2 (-x.exponent).toNat

/-- The exponent of the highest binary place of `num / den`. -/
def leadingExponent (num den : Nat) : Int :=
  let e : Int := (num.log2 : Int) - (den.log2 : Int)
  if num * Nat.pow 2 (-e).toNat < den * Nat.pow 2 e.toNat then e - 1 else e

/-- The exponent of the last place that the format keeps of `num / den`. -/
def lastPlace (num den : Nat) : Int := max (leadingExponent num den - 52) minExponent

/-- The number of units of the last place nearest to `num / den`. -/
def roundedMantissa (num den : Nat) : Nat :=
  let e := lastPlace num den
  roundHalfEven (num * Nat.pow 2 (-e).toNat) (den * Nat.pow 2 e.toNat)

/-- The magnitude bits nearest to `num / den`.  A mantissa rounded up to the next power of two
carries into the exponent field by itself, and what is too large becomes infinite. -/
def magnitudeOf (num den : Nat) : Nat :=
  if num = 0 then 0
  else min infiniteBits
    ((lastPlace num den - minExponent).toNat * exponentUnit + roundedMantissa num den)

/-- The number of the format nearest to `num / den`, ties going to the even mantissa. -/
def ofRatio (negative : Bool) (num den : Nat) : Binary64 :=
  ofMagnitude negative (magnitudeOf num den)

def ofNat (n : Nat) : Binary64 := ofRatio false n 1

/-- The number nearest to `digits * 10 ^ power`. -/
def ofDecimal (negative : Bool) (digits : Nat) (power : Int) : Binary64 :=
  ofRatio negative (digits * Nat.pow 10 power.toNat) (Nat.pow 10 (-power).toNat)

def neg (x : Binary64) : Binary64 := ofMagnitude (!x.isNegative) x.magnitude

/-- The product, rounded once. -/
def mul (x y : Binary64) : Binary64 :=
  let negative := x.isNegative != y.isNegative
  if x.isNaN || y.isNaN then nan
  else if x.isInfinite || y.isInfinite then
    if x.isZero || y.isZero then nan else infinity negative
  else ofRatio negative (x.numerator * y.numerator) (x.denominator * y.denominator)

/-- The quotient, rounded once.  Dividing by zero gives an infinity, and no value for zero by
zero. -/
def div (x y : Binary64) : Binary64 :=
  let negative := x.isNegative != y.isNegative
  if x.isNaN || y.isNaN then nan
  else if x.isInfinite then
    if y.isInfinite then nan else infinity negative
  else if y.isInfinite then zero negative
  else if y.isZero then
    if x.isZero then nan else infinity negative
  else ofRatio negative (x.numerator * y.denominator) (x.denominator * y.numerator)

/-- Greater than zero. -/
def isPositive (x : Binary64) : Bool := !x.isNaN && !x.isNegative && !x.isZero

theorem denominator_pos (x : Binary64) : 0 < x.denominator := Nat.two_pow_pos _

end Binary64

end RegistryLoad
