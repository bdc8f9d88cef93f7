import RegistryLoad.Decimal.Fixed
import RegistryLoad.Scoreboard.Snapshot
import RegistryLoad.Text.Grouped
import RegistryLoad.Text.RuledTable

/-!
# The score board as a table

A heading with the time, and one row for each counter.  The three counters of processed events
have a rate beside them; the two levels have none.
-/

namespace RegistryLoad.Snapshot

open RegistryLoad.Text

/-- One line of the board: what is counted, how often, and how fast. -/
structure Entry where
  label : String
  value : UInt64
  rate : Option Binary64

/-- The lines of the board from top to bottom. -/
def entries (s : Snapshot) : List Entry :=
  [⟨"Registrations processed", s.counters.registrations, some s.registrationRate⟩,
   ⟨"Unregistrations processed", s.counters.unregistrations, some s.unregistrationRate⟩,
   ⟨"Interests processed", s.counters.interests, some s.interestRate⟩,
   ⟨"Active interests", s.counters.activeInterests, none⟩,
   ⟨"Registry size", s.counters.registrySize, none⟩]

/-- The cells of a line.  Numbers stand right, and a line without a rate has a dash. -/
def Entry.cells (e : Entry) : List Cell :=
  [⟨e.label.toList, .left⟩,
   ⟨grouped e.value.toNat, .right⟩,
   ⟨(e.rate.map Binary64.fixedText).getD ['-'], .right⟩]

/-- The table under the heading. -/
def table (s : Snapshot) : RuledTable where
  header := ["Score board".toList, "Value".toList, "Per second".toList]
  rows := s.entries.map Entry.cells

/-- The time that has passed, and the moment of the snapshot. -/
def heading (s : Snapshot) : List Char :=
  "Score board after ".toList ++ s.elapsed.fixedText ++ "s (".toList ++ s.timestamp.toList ++ [')']

/-- Heading and table, a line break between two lines and none at the end. -/
def tableText (s : Snapshot) : List Char :=
  ['\n'].intercalate (s.heading :: s.table.lines)

end RegistryLoad.Snapshot
