/-!
# What a user can name

The settings that have an option of their own and a variable in the environment, and the flags
that stand alone.
-/

namespace RegistryLoad

/-- The settings that a user can name. -/
inductive Field where
  | registrationRate
  | registryTarget
  | interestRate
  | interestTarget
  | duration
  | poolSize
  | applications
  | seed
  | boardPeriod
  | boardFormat
  | boardOutput
  deriving DecidableEq, Repr

namespace Field

/-- The settings in the order in which the environment is searched for them. -/
def all : List Field :=
  [registrationRate, registryTarget, interestRate, interestTarget, duration, poolSize,
   applications, seed, boardPeriod, boardFormat, boardOutput]

/-- The words of the option. -/
def words : Field → List String
  | registrationRate => ["reg", "rate"]
  | registryTarget => ["reg", "target"]
  | interestRate => ["interest", "rate"]
  | interestTarget => ["interest", "target"]
  | duration => ["test", "duration"]
  | poolSize => ["pool", "size"]
  | applications => ["apps"]
  | seed => ["seed"]
  | boardPeriod => ["scoreboard", "interval"]
  | boardFormat => ["scoreboard", "format"]
  | boardOutput => ["scoreboard", "output"]

/-- The option without its dashes. -/
def name (f : Field) : String := "-".intercalate f.words

/-- What stands for the value in messages. -/
def placeholder (f : Field) : String := "_".intercalate (f.words.map String.toUpper)

/-- The variable of the environment. -/
def envVariable (f : Field) : String := "PERF_" ++ f.placeholder

/-- The option in messages. -/
def usage (f : Field) : String := "--" ++ f.name ++ " <" ++ f.placeholder ++ ">"

/-- The setting with the given option. -/
def named? (name : String) : Option Field := all.find? fun f => f.name == name

end Field

/-- The options without a value. -/
inductive Flag where
  | verbose
  | help
  | version
  deriving DecidableEq, Repr

namespace Flag

def all : List Flag := [verbose, help, version]

/-- The flag without its dashes. -/
def name : Flag → String
  | verbose => "verbose"
  | help => "help"
  | version => "version"

/-- The letter that stands for the flag after a single dash. -/
def letter : Flag → Char
  | verbose => 'v'
  | help => 'h'
  | version => 'V'

/-- The flag in messages. -/
def usage (f : Flag) : String := "--" ++ f.name

def named? (name : String) : Option Flag := all.find? fun f => f.name == name

def ofLetter? (letter : Char) : Option Flag := all.find? fun f => f.letter == letter

end Flag

end RegistryLoad
