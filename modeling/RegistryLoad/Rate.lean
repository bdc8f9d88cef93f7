import RegistryLoad.Text.Blank
import RegistryLoad.Text.Numeral
import RegistryLoad.Text.Split

/-!
# Rates

How many events are wanted per second, minute or hour.  A rate is typed as a count, or as a
count and a unit around a slash (`read?`), and shown in the second form (`text`).
-/

namespace RegistryLoad

open RegistryLoad.Text

/-- The period that a rate counts in. -/
inductive RateUnit where
  | second
  | minute
  | hour
  deriving DecidableEq, Repr

namespace RateUnit

/-- The length of the period in milliseconds. -/
def millis : RateUnit → Nat
  | second => 1000
  | minute => 60000
  | hour => 3600000

/-- The letter of the period. -/
def letter : RateUnit → Char
  | second => 's'
  | minute => 'm'
  | hour => 'h'

/-- The names of the period that a user may type. -/
def names : RateUnit → List String
  | second => ["s", "sec"]
  | minute => ["m", "min"]
  | hour => ["h", "hour"]

def all : List RateUnit := [second, minute, hour]

/-- The period with the given name. -/
def named? (name : List Char) : Option RateUnit :=
  all.find? fun u => u.names.any fun n => n.toList == name

end RateUnit

/-- Events per period. -/
structure Rate where
  count : UInt64
  unit : RateUnit
  deriving DecidableEq, Repr

namespace Rate

/-- The count, a slash and the letter of the period. -/
def text (r : Rate) : List Char :=
  decimal r.count.toNat ++ ['/', r.unit.letter]

/-- Reads a rate between blanks: a numeral of events per second, or a numeral, a slash and the
name of a period, with blanks around each. -/
def read? (input : List Char) : Option Rate :=
  match splitFirst '/' (trim input) with
  | (count, none) => (word? count).map (Rate.mk · .second)
  | (count, some name) =>
    match RateUnit.named? (trim name), word? (trim count) with
    | some unit, some n => some ⟨n, unit⟩
    | _, _ => none

end Rate

end RegistryLoad
