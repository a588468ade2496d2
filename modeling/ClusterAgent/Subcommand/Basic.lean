import ClusterAgent.CommandLine.Value
import ClusterAgent.Settings

/-!
What the program can be asked to do, and how it is asked on a command line.
-/
namespace ClusterAgent

/-- A container that is to be assembled and started. -/
structure LaunchOrder where
  image : String
  /-- Megabytes. -/
  memory : Int
  artifacts : List LocalPath := []
  /-- A missing or empty identifier is made up. -/
  application : Option String := none
  /-- The staging root. -/
  destination : Option String := none
  /-- Whether to wait until the container has exited. -/
  waits : Bool := false
  command : List String := []
  deriving Repr

inductive Subcommand
  | statusServer (coordinator : String) (port : Int) (timeout : String)
  | mockCoordinator (port : Int) (jobsFile : Option String) (delay : Binary64)
  /-- Lists the jobs that a status server reports. -/
  | jobs (server : String)
  | heap (memory : Int) (ratio : Binary64) (cap : Int)
  /-- Stages one artifact. -/
  | provision (artifact : LocalPath) (application : String) (destination : Option String)
  | launch (order : LaunchOrder)
  deriving Repr

namespace Subcommand

open CommandLine

/-- The local files that a subcommand reads. -/
def localFiles : Subcommand → List LocalPath
  | provision artifact _ _ => [artifact]
  | launch order => order.artifacts
  | _ => []

def statusServerOptions : List OptionSpec :=
  [{ names := ["--coordinator", "-c"] }, { names := ["--port"] }, { names := ["--timeout"] }]

def readStatusServer (r : Reading) : Except Stop Subcommand := do
  let [] := r.operands | throw .misuse
  let port ← r.integer "--port" BindAddress.defaultPort
  return .statusServer (← r.required "--coordinator") port
    ((r.value? "--timeout").getD StatusSettings.defaultTimeout)

def mockCoordinatorOptions : List OptionSpec :=
  [{ names := ["--port"] }, { names := ["--jobs"] }, { names := ["--delay"] }]

def readMockCoordinator (r : Reading) : Except Stop Subcommand := do
  let [] := r.operands | throw .misuse
  let port ← r.integer "--port" CoordinatorAddress.defaultPort
  return .mockCoordinator port (r.value? "--jobs") (← r.number "--delay" (.ofInt 0))

def jobsOptions : List OptionSpec := [{ names := ["--server", "-s"] }]

def readJobs (r : Reading) : Except Stop Subcommand := do
  let [] := r.operands | throw .misuse
  return .jobs (← r.required "--server")

def heapOptions : List OptionSpec := [{ names := ["--ratio"] }, { names := ["--cap"] }]

def readHeap (settings : AgentSettings) (r : Reading) : Except Stop Subcommand := do
  let [memory] := r.operands | throw .misuse
  return .heap (← asInteger memory) (← r.number "--ratio" settings.heapRatio)
    (← r.integer "--cap" settings.heapCap)

def provisionOptions : List OptionSpec := [{ names := ["--dest", "-d"] }]

def readProvision (r : Reading) : Except Stop Subcommand := do
  let [artifact, application] := r.operands | throw .misuse
  return .provision (.ofText artifact) application (r.value? "--dest")

def launchOptions : List OptionSpec :=
  [{ names := ["--memory", "-m"] }, { names := ["--artifact", "-a"] }, { names := ["--app-id"] },
    { names := ["--dest", "-d"] }, { names := ["--wait"], takesValue := false },
    { names := ["--no-wait"], takesValue := false }]

/-- Of the two flags the last one counts. -/
def waitsFor (r : Reading) : Bool :=
  match r.settings.reverse.find? fun s => s.name == "--wait" || s.name == "--no-wait" with
  | some flag => flag.name == "--wait"
  | none => false

def readLaunch (r : Reading) : Except Stop Subcommand := do
  let image :: command := r.operands | throw .misuse
  return .launch {
    image
    memory := ← asInteger (← r.required "--memory")
    artifacts := (values r.settings "--artifact").map .ofText
    application := r.value? "--app-id"
    destination := r.value? "--dest"
    waits := waitsFor r
    command }

/-- Reads the words after the name of a subcommand. -/
def ofNamed (settings : AgentSettings) (name : String) (words : List String) :
    Except Stop Subcommand :=
  let read (options : List OptionSpec) (f : Reading → Except Stop Subcommand) := do
    f (← readVerbatim true options words)
  match name with
  | "status-server" => read statusServerOptions readStatusServer
  | "mock-coordinator" => read mockCoordinatorOptions readMockCoordinator
  | "jobs" => read jobsOptions readJobs
  | "heap" => read heapOptions (readHeap settings)
  | "provision" => read provisionOptions readProvision
  | "launch" => read launchOptions readLaunch
  | _ => .error .misuse

/-- Reads a command line. -/
def ofWords (settings : AgentSettings) (words : List String) : Except Stop Subcommand := do
  match (← readVerbatim false [] words).operands with
  | [] => .error .misuse
  | name :: rest => ofNamed settings name rest

end Subcommand
end ClusterAgent
