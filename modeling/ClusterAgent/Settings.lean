import ClusterAgent.BindAddress
import ClusterAgent.Container.Backend
import ClusterAgent.Coordinator.Basic
import ClusterAgent.Duration
import ClusterAgent.Environment
import ClusterAgent.Heap
import ClusterAgent.Token.Service

/-!
Settings that environment variables make. A variable that is set to nothing is set.
-/
namespace ClusterAgent

/-- Settings of launching and storage. -/
structure AgentSettings where
  heapRatio : Binary64 := defaultHeapRatio
  heapCap : Int := defaultHeapCap
  classpath : List String := Environment.defaultClasspath
  tokenFile : Option String := none
  endpoint : Option String := none
  region : String := "us-east-1"
  accessKeyId : Option String := none
  accessKeySecret : Option String := none
  /-- The role that sessions are delegated to. -/
  role : Option String := none
  /-- Seconds. -/
  sessionDuration : Int := TokenService.defaultDuration
  podmanSocket : String := ContainerHost.defaultSocket
  deriving Repr

namespace AgentSettings

/-- The pieces between commas, without those that are blank. -/
def classpathEntries (s : String) : List String :=
  (s.splitOn ",").filter fun entry => Text.trim entry != ""

/-- A variable as it is read, or a default when it is not set. -/
def readOr {α ε : Type} (env : Environment) (name : String) (default : α)
    (read : String → Except ε α) : Except ε α :=
  match Table.get? env name with
  | none => .ok default
  | some s => read s

def ofEnvironment (env : Environment) : Except Text.NumeralError AgentSettings := do
  let defaults : AgentSettings := {}
  let heapRatio ← readOr env "FLOE_HEAP_CUTOFF_RATIO" defaults.heapRatio Text.readNumber
  let heapCap ← readOr env "FLOE_HEAP_LIMIT_CAP" defaults.heapCap Text.readInteger
  let sessionDuration ←
    readOr env "FLOE_S3_TOKEN_DURATION" defaults.sessionDuration Text.readInteger
  return {
    heapRatio
    heapCap
    classpath := ((Table.get? env "FLOE_APPLICATION_CLASSPATH").map classpathEntries).getD
      defaults.classpath
    tokenFile := Table.get? env "FLOE_TOKEN_FILE"
    endpoint := Table.get? env "FLOE_S3_ENDPOINT"
    region := (Table.get? env "FLOE_S3_REGION").getD defaults.region
    accessKeyId := Table.get? env "FLOE_S3_ACCESS_KEY"
    accessKeySecret := Table.get? env "FLOE_S3_SECRET_KEY"
    role := Table.get? env "FLOE_S3_DELEGATION_ROLE_ARN"
    sessionDuration
    podmanSocket := (Table.get? env "PODMAN_SOCK").getD defaults.podmanSocket }

end AgentSettings

/-- Settings of status queries and of the status server. -/
structure StatusSettings where
  coordinatorHost : Option String
  coordinatorPort : Int
  /-- Seconds. -/
  timeout : Binary64
  /-- Where the status server listens. -/
  serverAddress : String
  deriving Repr

inductive StatusSettingsError
  | port (e : Text.NumeralError)
  | timeout (e : DurationError)
  deriving Repr, DecidableEq

def StatusSettingsError.message : StatusSettingsError → String
  | port e => e.message
  | timeout e => e.message

namespace StatusSettings

def hostVariable : String := "FLOE_COORDINATOR_HOST"

def portVariable : String := "FLOE_COORDINATOR_PORT"

def timeoutVariable : String := "FLOE_ASK_TIMEOUT"

def addressVariable : String := "FLOE_STATUS_HTTP"

def defaultTimeout : String := "100 s"

/-- Where a server listens on all interfaces. -/
def addressOfPort (port : Int) : String := s!"http://0.0.0.0:{port}"

def defaultServerAddress : String := addressOfPort BindAddress.defaultPort

def ofEnvironment (env : Environment) : Except StatusSettingsError StatusSettings := do
  let port := AgentSettings.readOr env portVariable CoordinatorAddress.defaultPort
    Text.readInteger
  let coordinatorPort ← port.mapError .port
  let timeout ← (Duration.parse ((Table.get? env timeoutVariable).getD defaultTimeout)).mapError
    .timeout
  return {
    coordinatorHost := Table.get? env hostVariable
    coordinatorPort
    timeout
    serverAddress := (Table.get? env addressVariable).getD defaultServerAddress }

end StatusSettings
end ClusterAgent
