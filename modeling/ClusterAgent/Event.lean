import ClusterAgent.Container.Request
import ClusterAgent.Environment
import ClusterAgent.Number
import ClusterAgent.Storage.FileTree
import ClusterAgent.Token.Session

/-!
What operations ask of others: services, runtimes, programs and peers.
-/
namespace ClusterAgent

/-- A program with its arguments, and the variables that are set for it. -/
structure Command where
  words : List String
  environment : Environment := []
  deriving Repr, DecidableEq

inductive Event
  /-- A token service was asked for tokens. -/
  | tokensRequested (paths : List String)
  | sessionRequested (request : SessionRequest)
  /-- A container was to be started while the files were as given. -/
  | launchRequested (request : RunRequest) (files : FileTree)
  | containerCalled (call : ContainerCall)
  | commandRun (command : Command)
  /-- A runtime's socket was looked for. -/
  | socketProbed (path : String)
  | dockerOpened
  | podmanOpened (address : String)
  | documentRequested (url : String)
  /-- A server was bound to an address. -/
  | listened (address : String)
  | serverStarted
  | serverAwaited
  | serverStopped
  | channelOpened (target : String)
  | methodCalled (method : String) (request : WideText) (timeout : Number)
  | channelClosed
  deriving Repr

end ClusterAgent
