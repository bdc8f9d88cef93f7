import RegistryLoad.Decimal.Binary64
import RegistryLoad.Text.Numeral

/-!
# Shortest decimals

The fewest decimal digits that still denote a given double precision number, and their layout.

* `shortest`: the digits and the power of ten of the shortest decimal between the two halfway
  points around the number; of several the one nearest to it.
* `Layout.render`: positional notation near one, exponents elsewhere.
-/

namespace RegistryLoad.Binary64

open RegistryLoad.Text

/-! ## The digits -/

/-- A positive decimal `digits * 10 ^ power`. -/
structure Decimal where
  digits : Nat
  power : Int
  deriving DecidableEq, Repr

/-- The numbers that round to `mantissa * 2 ^ exponent`, as bounds in quarters of the last
place.  Below a power of two the next number is half a place away, so the lower bound is
nearer; the bounds themselves round to it when the mantissa is even. -/
structure Interval where
  low : Nat
  value : Nat
  high : Nat
  closed : Bool

def interval (x : Binary64) : Interval :=
  let m := x.mantissa
  let narrow := m = exponentUnit ∧ minExponent < x.exponent
  ⟨if narrow then 4 * m - 1 else 4 * m - 2, 4 * m, 4 * m + 2, m % 2 = 0⟩

/-- Whether `a / b` lies between the bounds `low / b` and `high / b`. -/
def Interval.holds (i : Interval) (scale a : Nat) : Bool :=
  if i.closed then i.low * scale ≤ a && a ≤ i.high * scale
  else i.low * scale < a && a < i.high * scale

/-- The exponent of the leading decimal digit of `num / den`: the `k` with
`10 ^ k ≤ num / den < 10 ^ (k + 1)`, searched from an estimate that is at most one too high. -/
def leadingPower (num den : Nat) : Int :=
  let estimate : Int := ((decimal num).length : Int) - (decimal den).length
  if num * Nat.pow 10 (-estimate).toNat < den * Nat.pow 10 estimate.toNat then estimate - 1
  else estimate

/-- The shortest decimal on the grid of multiples of `10 ^ power` that lies in the interval:
one of the two neighbours of the value, the nearer one if both do, the even one if both are
equally near. -/
def onGrid? (x : Binary64) (power : Int) : Option Decimal :=
  let i := x.interval
  -- a quarter of the last place is `quarterNum / quarterDen`
  let e := x.exponent - 2
  let quarterNum := Nat.pow 2 e.toNat * Nat.pow 10 (-power).toNat
  let unit := Nat.pow 2 (-e).toNat * Nat.pow 10 power.toNat
  let scaled := i.value * quarterNum
  let below := scaled / unit
  let above := below + 1
  let hitBelow := 0 < below && i.holds quarterNum (below * unit)
  let hitAbove := i.holds quarterNum (above * unit)
  if hitBelow && hitAbove then
    some ⟨roundHalfEven scaled unit, power⟩
  else if hitBelow then some ⟨below, power⟩
  else if hitAbove then some ⟨above, power⟩
  else none

/-- Seventeen digits always denote the number, so the search needs no more grids. -/
def maxDigits : Nat := 17

/-- The first grid, from coarse to fine, with a decimal in the interval. -/
def shortest (x : Binary64) : Decimal :=
  let lead := leadingPower x.numerator x.denominator
  let grids := (List.range maxDigits).map fun (k : Nat) => lead - (k : Int)
  (grids.findSome? x.onGrid?).getD ⟨x.mantissa, 0⟩

/-! ## The layout -/

/-- Which numbers are written positionally, by the exponent of their leading digit. -/
structure Layout where
  lowest : Int
  highest : Int
  deriving DecidableEq, Repr

/-- The digits without the zeros at their end, which carry no information. -/
def significant (n : Nat) : List Char :=
  match (decimal n).reverse.dropWhile (· == '0') with
  | [] => ['0']
  | ds => ds.reverse

/-- An exponent after its mark, always with a sign. -/
def exponentText (e : Int) : List Char :=
  'e' :: (if e < 0 then '-' else '+') :: decimal e.natAbs

/-- Digits with a point after the first `whole` of them, a zero standing where no digit does. -/
def positional (digits : List Char) (whole : Int) : List Char :=
  if whole ≤ 0 then "0.".toList ++ List.replicate (-whole).toNat '0' ++ digits
  else
    let w := whole.toNat
    if digits.length ≤ w then digits ++ List.replicate (w - digits.length) '0' ++ ".0".toList
    else digits.take w ++ '.' :: digits.drop w

/-- Digits with a point after the first, if more follow, and an exponent. -/
def scientific (digits : List Char) (lead : Int) : List Char :=
  match digits with
  | d :: [] => d :: exponentText lead
  | d :: ds => d :: '.' :: ds ++ exponentText lead
  | [] => []

/-- A positive decimal in the notation that the layout asks for. -/
def Layout.render (layout : Layout) (d : Decimal) : List Char :=
  let lead := d.power + (decimal d.digits).length - 1
  let digits := significant d.digits
  if layout.lowest ≤ lead ∧ lead < layout.highest then positional digits (lead + 1)
  else scientific digits lead

/-- A finite number: sign, then the shortest digits.  A zero keeps its sign. -/
def Layout.renderFinite (layout : Layout) (x : Binary64) : List Char :=
  let sign := if x.isNegative then ['-'] else []
  if x.isZero then sign ++ "0.0".toList else sign ++ layout.render x.shortest

end RegistryLoad.Binary64
