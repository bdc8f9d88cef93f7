import RegistryLoad.CommandLine.Program

/-!
# The command line program

Looks at the environment, tries the output of the score board, runs in simulated time, and
prints.  Everything that is decided is decided in `Program`.
-/

namespace RegistryLoad.Program

/-- The variables that may name a setting, with their values. -/
def readEnvironment : IO (List (String × String)) :=
  Field.all.filterMapM fun f => do
    return (← IO.getEnv f.envVariable).map fun text => (f.envVariable, text)

/-- Tries to open a file for writing at its end. -/
def openingReason? (path : String) : IO (Option String) := do
  try
    let _ ← IO.FS.Handle.mk path .append
    return none
  catch
    | .noFileOrDirectory _ _ _ | .noSuchThing _ _ _ => return some OpeningFailure.noSuchFile.message
    | .inappropriateType _ _ _ => return some OpeningFailure.isDirectory.message
    | e => return some e.toString

/-- Writes the score boards to their file or, if they have none, to standard output. -/
def writeBoards (settings : Settings) (text : String) : IO Unit :=
  match settings.boardOutput with
  | some path => do (← IO.FS.Handle.mk path .append).putStr text
  | none => IO.print text

/-- Says why no run was completed. -/
def endWith (ending : Ending) : IO UInt32 := do
  match ending with
  | .halted .help => usage.forM IO.println
  | .halted .version => IO.println Program.version
  | .halted (.misuse cause) => IO.eprintln ("error: " ++ cause.message)
  | _ => (ending.complaint?).forM IO.eprintln
  return ending.status

end RegistryLoad.Program

open RegistryLoad

def main (args : List String) : IO UInt32 := do
  let found ← Program.readEnvironment
  match Program.prepare args fun name => found.lookup name with
  | .error ending => Program.endWith ending
  | .ok (settings, verbose) =>
    let reason ← match settings.boardOutput with
      | some path => Program.openingReason? path
      | none => pure none
    match Program.run settings Program.simulatedClock fun _ => reason with
    | .error ending => Program.endWith ending
    | .ok (summary, r) =>
      Program.writeBoards settings (Program.boards settings r)
      (Program.report verbose settings summary r).forM IO.println
      return 0
