import ClusterAgent.Coordinator.Jobs
import ClusterAgent.Coordinator.Options

/-!
Serving a coordinator until it is interrupted.
-/
namespace ClusterAgent.Coordinator

/-- A port that the system chooses. -/
def loopback : String := "127.0.0.1:0"

/-- Starts a server on an address, and gives the port that it is bound to. -/
def listen {ε : Type} (address : String) : Action ε Int := do
  Action.note (.listened address)
  Action.note .serverStarted
  return (← get).boundPort address

/-- Serves until the first interruption; answers that are still held back are released then. -/
def run (options : CoordinatorOptions) : Action JobsError Unit := do
  let jobs ← loadJobs options.jobsFile
  modify fun w => { w with coordinator := { jobs, delay := .binary options.delay } }
  let port ← listen options.address
  Action.logInfo s!"Mock coordinator listening on port {port} with {jobs.length} job(s)"
  Action.note .serverAwaited
  Action.logInfo "Keyboard interrupt received, shutting down mock coordinator."
  modify fun w => { w with coordinator := w.coordinator.release }
  Action.note .serverStopped

end ClusterAgent.Coordinator
