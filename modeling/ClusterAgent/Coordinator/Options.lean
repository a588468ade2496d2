import ClusterAgent.CommandLine.Guarded
import ClusterAgent.Number
import ClusterAgent.Text.Numeral

/-!
The command line of a coordinator with a fixed list of jobs.
-/
namespace ClusterAgent

structure CoordinatorOptions where
  address : String := "0.0.0.0:6123"
  /-- The file with the jobs. -/
  jobsFile : Option String := none
  /-- Seconds. -/
  delay : Binary64 := .ofInt 0
  deriving Repr

namespace CoordinatorOptions

open CommandLine

def specs : List OptionSpec :=
  [{ names := ["--listen"] }, { names := ["--jobs"] }, { names := ["--delay"] }]

/-- The delay has to be a number. -/
def check (s : Setting) : Except Stop Unit :=
  if s.name = "--delay" then
    match Text.readNumber s.value with
    | .ok _ => .ok ()
    | .error _ => .error .misuse
  else .ok ()

def ofWords (words : List String) : Except Stop CoordinatorOptions := do
  let settings ← readGuarded check specs words
  let defaults : CoordinatorOptions := {}
  return {
    address := (lastValue? settings "--listen").getD defaults.address
    jobsFile := lastValue? settings "--jobs"
    delay := ((lastValue? settings "--delay").bind fun s => (Text.readNumber s).toOption).getD
      defaults.delay }

end CoordinatorOptions
end ClusterAgent
