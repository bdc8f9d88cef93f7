import RegistryLoad.CommandLine.Choices
import RegistryLoad.Text.Split

/-!
# Reading a command line

Arguments are read from left to right and the environment after them.  The value of an option
stands in the same argument behind an equals sign, or in the next one; in the latter case it is
looked at only when the next option or flag begins or the arguments end.  So an argument that
nobody knows is reported before an unsuitable value right in front of it.

* `CommandLine.read`: what a command line and an environment say.
-/

namespace RegistryLoad

/-- Why a command line is refused. -/
inductive UsageError where
  /-- A text that does not suit its setting. -/
  | unsuitable (field : Field) (text : String)
  /-- An option without its value. -/
  | missing (field : Field)
  /-- An option that was given before. -/
  | repeated (field : Field)
  /-- A flag that was given before. -/
  | repeatedFlag (flag : Flag)
  /-- A flag with a value. -/
  | superfluous (flag : Flag) (text : String)
  /-- An argument that nobody knows. -/
  | unknown (argument : String)
  deriving DecidableEq, Repr

def UsageError.message : UsageError → String
  | .unsuitable field text => "invalid value '" ++ text ++ "' for '" ++ field.usage ++ "'"
  | .missing field => "a value is required for '" ++ field.usage ++ "' but none was supplied"
  | .repeated field => "the argument '" ++ field.usage ++ "' cannot be used multiple times"
  | .repeatedFlag flag => "the argument '" ++ flag.usage ++ "' cannot be used multiple times"
  | .superfluous flag text =>
    "unexpected value '" ++ text ++ "' for '" ++ flag.usage ++ "' found; no more were expected"
  | .unknown argument => "unexpected argument '" ++ argument ++ "' found"

/-- Why the reading of a command line ends before its end. -/
inductive Halt where
  | help
  | version
  | misuse (cause : UsageError)
  deriving DecidableEq, Repr

/-- The environment: the texts of its variables. -/
abbrev Environment := String → Option String

/-! ## Arguments -/

/-- An argument by its form. -/
inductive Argument where
  | separator
  | long (name : String) (value : Option String)
  | short (letters : List Char)
  | plain
  deriving DecidableEq, Repr

/-- Two dashes stand alone or before a name, one dash before letters; a dash alone is plain. -/
def Argument.ofText (text : String) : Argument :=
  match text.toList with
  | ['-', '-'] => .separator
  | '-' :: '-' :: rest =>
    let (name, value) := Text.splitFirst '=' rest
    .long (String.ofList name) (value.map String.ofList)
  | '-' :: c :: rest => .short (c :: rest)
  | _ => .plain

namespace CommandLine

/-- A command line read in part.  `pending` is an option whose value is still to come or still
to be looked at; behind a separator all arguments are plain. -/
structure Progress where
  choices : Choices := {}
  verbose : Bool := false
  pending : Option (Field × Option String) := none
  separated : Bool := false
  deriving Repr

/-- Ends the reading with an error. -/
def misuse {α : Type} (cause : UsageError) : Except Halt α := .error (.misuse cause)

namespace Progress

/-- An option with its value. -/
def choose (p : Progress) (f : Field) (text : String) : Except Halt Progress :=
  if p.choices.has f then misuse (.repeated f)
  else match p.choices.set? f text with
    | some choices => .ok { p with choices := choices }
    | none => misuse (.unsuitable f text)

/-- Looks at the pending option. -/
def flush (p : Progress) : Except Halt Progress :=
  match p.pending with
  | none => .ok p
  | some (f, none) => misuse (.missing f)
  | some (f, some text) => { p with pending := none }.choose f text

/-- Raises a flag. -/
def raise (p : Progress) (flag : Flag) : Except Halt Progress := do
  let p ← p.flush
  match flag with
  | .help => .error .help
  | .version => .error .version
  | .verbose =>
    if p.verbose then misuse (.repeatedFlag .verbose) else return { p with verbose := true }

/-- An option or a flag by its name. -/
def long (p : Progress) (name : String) (value : Option String) : Except Halt Progress :=
  match Field.named? name, Flag.named? name, value with
  | some f, _, some text => do (← p.flush).choose f text
  | some f, _, none => do return { ← p.flush with pending := some (f, none) }
  | none, some flag, some text => misuse (.superfluous flag text)
  | none, some flag, none => p.raise flag
  | none, none, _ => misuse (.unknown ("--" ++ name))

/-- A flag by its letter. -/
def short (p : Progress) (letter : Char) : Except Halt Progress :=
  match Flag.ofLetter? letter with
  | some flag => p.raise flag
  | none => misuse (.unknown (String.ofList ['-', letter]))

/-- A text that is no option: the value that is waited for, if there is such. -/
def plain (p : Progress) (text : String) : Except Halt Progress :=
  match p.pending, p.separated with
  | some (f, none), false => .ok { p with pending := some (f, some text) }
  | _, _ => misuse (.unknown text)

/-- Reads one more argument. -/
def next (p : Progress) (text : String) : Except Halt Progress :=
  if p.separated then p.plain text
  else match Argument.ofText text with
    | .separator => .ok { p with separated := true }
    | .long name value => p.long name value
    | .short letters => letters.foldlM short p
    | .plain => p.plain text

/-- Looks a setting up in the environment, unless something was said about it. -/
def lookUp (env : Environment) (p : Progress) (f : Field) : Except Halt Progress :=
  if p.choices.has f then .ok p
  else match env f.envVariable with
    | some text => p.choose f text
    | none => .ok p

end Progress

/-- What a command line says, and the environment where the command line says nothing.  The flag
tells whether more than usual is to be reported. -/
def read (args : List String) (env : Environment) : Except Halt (Choices × Bool) := do
  let p ← args.foldlM Progress.next {}
  let p ← p.flush
  let p ← Field.all.foldlM (Progress.lookUp env) p
  return (p.choices, p.verbose)

end CommandLine

end RegistryLoad
