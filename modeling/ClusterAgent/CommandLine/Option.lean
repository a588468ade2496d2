/-!
Options of command lines, and what is left of a command line that has been read.
-/
namespace ClusterAgent.CommandLine

/-- An option: what it is called, and whether a value follows it. -/
structure OptionSpec where
  /-- The names with their dashes, the one that stands for the option first. -/
  names : List String
  takesValue : Bool := true
  deriving Repr, DecidableEq

/-- What an option was set to. -/
structure Setting where
  name : String
  value : String := ""
  deriving Repr, DecidableEq

/-- Why a command line is not carried out. -/
inductive Stop
  /-- Help was asked for. -/
  | help
  | misuse
  deriving Repr, DecidableEq

/-- The exit status of a program that stops. -/
def Stop.status : Stop → Nat
  | help => 0
  | misuse => 2

/-- The last value that an option was set to. -/
def lastValue? (settings : List Setting) (name : String) : Option String :=
  (settings.reverse.find? fun s => s.name == name).map (·.value)

/-- All values that an option was set to. -/
def values (settings : List Setting) (name : String) : List String :=
  (settings.filter fun s => s.name == name).map (·.value)

def helpName : String := "--help"

end ClusterAgent.CommandLine
