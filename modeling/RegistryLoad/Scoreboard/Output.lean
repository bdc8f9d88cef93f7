import RegistryLoad.Scoreboard.Line
import RegistryLoad.Scoreboard.Table

/-!
# The score board's output

A snapshot is written as a table or as a line of JSON, either of which ends with a line break,
so that snapshots can be written one after the other.
-/

namespace RegistryLoad

/-- The layout of the score board. -/
inductive BoardFormat where
  | table
  | json
  deriving DecidableEq, Repr

namespace Snapshot

/-- The snapshot without the line break behind it. -/
def body (s : Snapshot) : BoardFormat → List Char
  | .table => s.tableText
  | .json => s.line

/-- The snapshot as it is written. -/
def output (s : Snapshot) (format : BoardFormat) : List Char := s.body format ++ ['\n']

end Snapshot

end RegistryLoad
