import ClusterAgent.BindAddress
import ClusterAgent.Log.Settings
import ClusterAgent.Text.Case
import ClusterAgent.World

/-!
Starting the status service as a program. Without a coordinator it does not start.
-/
namespace ClusterAgent

structure ServerSettings where
  coordinatorHost : Option String
  /-- The address to listen on. -/
  address : String
  logLevel : String
  deriving Repr

/-- A server that runs. -/
structure ServerRun where
  address : BindAddress
  logLevel : String
  /-- The level of the configured loggers, which the server's own does not change. -/
  rootLogLevel : String := LogSettings.defaultLevel
  deriving Repr, DecidableEq

namespace ServerSettings

/-- The server to run; none when no coordinator is known. -/
def start (s : ServerSettings) : Action UriError (Option ServerRun) := do
  if s.coordinatorHost.getD "" = "" then
    Action.logEntry .error <| "FLOE_COORDINATOR_HOST environment variable is not set. " ++
      "Please set it to the host of the coordinator."
    return none
  else
    let address ← liftM (BindAddress.parse s.address)
    Action.logInfo s!"Starting HTTP server on {address.host}:{address.port}"
    return some { address, logLevel := Text.lower s.logLevel }

end ServerSettings
end ClusterAgent
