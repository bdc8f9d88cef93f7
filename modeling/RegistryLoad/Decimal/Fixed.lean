import RegistryLoad.Decimal.Binary64
import RegistryLoad.Text.Numeral

/-!
# Fixed places

A number written with one digit after the point and no exponent, however large it is.  The
exact value is rounded, and a half goes to the even digit.
-/

namespace RegistryLoad.Binary64

open RegistryLoad.Text

/-- The nearest whole number of tenths of a finite magnitude. -/
def tenths (x : Binary64) : Nat := roundHalfEven (10 * x.numerator) x.denominator

/-- Tenths as a text with one digit after the point. -/
def tenthsText (n : Nat) : List Char := decimal (n / 10) ++ '.' :: decimal (n % 10)

/-- The number with one digit after the point.  The sign of a number that rounds to zero is
kept, and the numbers without digits have names. -/
def fixedText (x : Binary64) : List Char :=
  if x.isNaN then "NaN".toList
  else
    let sign := if x.isNegative then ['-'] else []
    if x.isInfinite then sign ++ "inf".toList else sign ++ tenthsText x.tenths

end RegistryLoad.Binary64
