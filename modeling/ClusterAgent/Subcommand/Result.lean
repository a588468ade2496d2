import ClusterAgent.Failure.Basic
import ClusterAgent.Text.Terminal

/-!
What comes of a subcommand: its exit status and what it writes.
-/
namespace ClusterAgent

structure SubcommandResult where
  status : Int := 0
  output : String := ""
  errors : String := ""
  /-- A failure that nothing is written about. -/
  failure : Option Failure := none
  deriving Repr

namespace SubcommandResult

/-- A line on the output. -/
def printed (line : String) : SubcommandResult := { output := line ++ "\n" }

/-- A failure that is reported in one line. -/
def refused (line : String) : SubcommandResult :=
  { status := 1, errors := Text.unstyled line ++ "\n" }

def failed (f : Failure) : SubcommandResult := { status := 1, failure := some f }

/-- A result that follows what was already written. -/
def after (written : String) (r : SubcommandResult) : SubcommandResult :=
  { r with output := written ++ r.output }

end SubcommandResult
end ClusterAgent
