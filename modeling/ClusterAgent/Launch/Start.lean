import ClusterAgent.Container.Client
import ClusterAgent.Launch.Parameters
import ClusterAgent.Storage.Files

/-!
Starting the container of a launch specification. Its credentials are handed over in a file that
only its owner may read.
-/
namespace ClusterAgent

inductive LaunchError
  | storage (e : StorageError)
  | parameters (e : ParameterError)
  | container (e : ContainerError)
  /-- The container was started without an identifier. -/
  | noContainer
  /-- A message cannot be written. -/
  | numeral (e : Text.NumeralError)
  deriving Repr

def LaunchError.message : LaunchError → String
  | storage e => e.message
  | parameters e => e.message
  | container e => e.message
  | noContainer => "Container id is None after creation"
  | numeral e => e.message

namespace LaunchSpec

/-- The permission bits of token files: the owner reads and writes. -/
def tokenFileMode : Nat := 0o600

def tokenFile (directory : LocalPath) (name : String) : LocalPath :=
  directory.append (.ofText (name ++ ".tokens"))

/-- Writes a file for its owner alone, also over a file that others could read. -/
def writeTokenFile (path : LocalPath) (content : List UInt8) : Action StorageError Unit := do
  Files.write path content tokenFileMode
  Files.setMode path tokenFileMode

/-- Megabytes of the host. -/
def hostMegabytes (bytes : Int) : Int :=
  ((Binary64.ofRatio (bytes < 0) bytes.natAbs (1024 * 1024)).truncate).toOption.getD 0

/-- Warns of a host with too little memory. -/
def warnOfHost (spec : LaunchSpec) : Action LaunchError Unit := do
  let host := hostMegabytes (← get).hostMemory
  if host < spec.budget then
    let budget ← liftM ((Text.writeInteger spec.budget).mapError LaunchError.numeral)
    Action.logWarning s!"Memory budget {budget}MB exceeds host memory {host}MB"

/-- What is said of a container that has been started. -/
def startMessage (spec : LaunchSpec) (id : Datum) (name : String) :
    Except Text.NumeralError String := do
  let id ← id.written
  return s!"Container {id} started with name {name} ({← sizesText spec.budget spec.heap})"

/-- Runs the container once its token file is there. -/
def runContainer (spec : LaunchSpec) (start : RunRequest → Action ContainerError Datum)
    (image name : String) (file : LocalPath) (command : List String) :
    Action LaunchError Datum := do
  let parameters ←
    liftM ((LaunchParameters.ofSpec spec file command).mapError LaunchError.parameters)
  let request : RunRequest := ⟨image, name, parameters.fields⟩
  Action.note (.launchRequested request (← get).files)
  let id ← (start request).mapFailure .container
  if id.isBlank then throw .noContainer
  Action.logInfo (← liftM ((spec.startMessage id name).mapError LaunchError.numeral))
  return id

/-- Starts an image as the container of a specification, by way of a client's `start`. -/
def launch (spec : LaunchSpec) (start : RunRequest → Action ContainerError Datum)
    (image name : String) (tokensDirectory : LocalPath) (command : List String) :
    Action LaunchError Datum := do
  spec.warnOfHost
  (Files.ensureDirectory tokensDirectory).mapFailure .storage
  let file := tokenFile tokensDirectory name
  (writeTokenFile file spec.credentials).mapFailure .storage
  spec.runContainer start image name file command

end LaunchSpec
end ClusterAgent
