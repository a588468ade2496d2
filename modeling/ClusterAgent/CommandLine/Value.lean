import ClusterAgent.CommandLine.Verbatim
import ClusterAgent.Text.Numeral

/-!
The values that a command line gives to options and operands. A value that cannot be read is a
misuse.
-/
namespace ClusterAgent.CommandLine

def asInteger (s : String) : Except Stop Int := (Text.readInteger s).mapError fun _ => .misuse

def asNumber (s : String) : Except Stop Binary64 := (Text.readNumber s).mapError fun _ => .misuse

namespace Reading

def value? (r : Reading) (name : String) : Option String := lastValue? r.settings name

/-- The value of an option that has to be set. -/
def required (r : Reading) (name : String) : Except Stop String :=
  match r.value? name with
  | some s => .ok s
  | none => .error .misuse

def integer (r : Reading) (name : String) (default : Int) : Except Stop Int :=
  (r.value? name).elim (.ok default) asInteger

def number (r : Reading) (name : String) (default : Binary64) : Except Stop Binary64 :=
  (r.value? name).elim (.ok default) asNumber

end Reading
end ClusterAgent.CommandLine
