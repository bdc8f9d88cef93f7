import RegistryLoad.CommandLine.Arguments
import RegistryLoad.Load.Run

/-!
# The program

From a command line to the end of a run.  The outside world enters by three functions: the
environment, the clock, and the reason for which a file cannot be opened.

* `Program.prepare`: the settings, or the ending that comes before any run.
* `Program.run`: the run.
-/

namespace RegistryLoad

/-! ## Opening a file -/

/-- Why a file cannot be opened for writing at its end. -/
inductive OpeningFailure where
  | noSuchFile
  | isDirectory
  deriving DecidableEq, Repr

def OpeningFailure.message : OpeningFailure → String
  | .noSuchFile => "No such file or directory (os error 2)"
  | .isDirectory => "Is a directory (os error 21)"

/-! ## Endings -/

/-- How the program ends other than by a completed run. -/
inductive Ending where
  | halted (cause : Halt)
  | refused (cause : SettingsError)
  | unprepared (cause : RunError)
  | broken (cause : RunError)
  /-- The program broke off before there was a run. -/
  | crashed
  deriving DecidableEq, Repr

/-- The message of an error and that of its cause. -/
def RunError.chain (e : RunError) : String :=
  e.message ++ ": " ++ match e with
    | .settings cause => cause.message
    | .topology cause => cause.message
    | .output reason => reason

namespace Ending

/-- The status that the program ends with. -/
def status : Ending → UInt32
  | halted .help | halted .version => 0
  | halted (.misuse _) => 2
  | crashed => 101
  | _ => 1

/-- What the program says about an error of its own. -/
def complaint? : Ending → Option String
  | halted _ => none
  | refused cause => some ("Error: Failed to parse command line arguments: " ++ cause.message)
  | unprepared cause => some ("Error: Failed to set up the test: " ++ cause.chain)
  | broken cause => some ("Error: Test run failed: " ++ cause.chain)
  | crashed => some "capacity overflow"

end Ending

namespace Program

/-- The settings that a command line and an environment ask for, and whether more than usual is
to be reported. -/
def prepare (args : List String) (env : Environment) : Except Ending (Settings × Bool) :=
  match CommandLine.read args env with
  | .error cause => .error (.halted cause)
  | .ok (choices, verbose) =>
    match choices.settings with
    | .error cause => .error (.refused cause)
    | .ok settings => .ok (settings, verbose)

/-- A run with the given settings, to its end.  `failure?` tells why the output of the score
board cannot be opened. -/
def run (settings : Settings) (clock : Clock) (failure? : String → Option String) :
    Except Ending (Summary × Run) :=
  match Run.create? settings clock (settings.boardOutput.bind failure?) with
  | none => .error .crashed
  | some (.error cause) => .error (.unprepared cause)
  | some (.ok r) =>
    match r.runUntil none with
    | (.error cause, _) => .error (.broken cause)
    | (.ok summary, r) => .ok (summary, r)

/-! ## What the program says -/

/-- The clock of simulated time: it shows how much of it has passed. -/
def simulatedClock : Clock := .ofReading fun now =>
  let span := (TimeSpan.ofParts? (UInt64.ofNat (now / nanosPerSecond))
    (now % nanosPerSecond)).getD TimeSpan.zero
  ⟨String.ofList span.text, Binary64.ofRatio false now nanosPerSecond⟩

/-- The least important notices that are shown. -/
def lowest (verbose : Bool) : Level := if verbose then .debug else .info

/-- A notice on a line of its own. -/
def noticeLine (n : Notice) : String := n.level.name ++ " " ++ n.text

/-- What is said about a completed run. -/
def report (verbose : Bool) (settings : Settings) (summary : Summary) (r : Run) : List String :=
  let shown := r.work.journal.notices.filter fun n => (lowest verbose).rank ≤ n.level.rank
  ["INFO Starting load generator with " ++ String.ofList settings.text] ++ shown.map noticeLine ++
  ["INFO Registry holds " ++ Notice.num summary.registrySize ++ " instances, " ++
    Notice.num summary.activeInterests ++ " interest channels open",
   "INFO Exiting"]

/-- The score boards of a completed run as they are written. -/
def boards (settings : Settings) (r : Run) : String :=
  String.ofList (r.session.stage.sink.written.flatMap fun s => s.output settings.boardFormat)

/-- How the program is used. -/
def usage : List String :=
  ["Synthetic load generator for registry registrations and interest subscriptions", "",
   "Options:"] ++ Field.all.map (fun f => "  " ++ f.usage) ++
    Flag.all.map (fun f => "  " ++ f.usage)

/-- The name and the version of the program. -/
def version : String := "registry-load 0.1.0"

end Program

end RegistryLoad
