import ClusterAgent.Container.Client

/-!
The choice of a container runtime: Docker when its service answers, and otherwise Podman on a
socket.
-/
namespace ClusterAgent

/-- What comes of asking the Podman program for its state. -/
inductive PodmanState
  | missing
  | failing
  | ok
  deriving Repr, DecidableEq

/-- The container runtimes of a host. -/
structure ContainerHost where
  docker : Except ServiceFault ContainerService
  podmanState : PodmanState
  /-- Whether there is a file at the path of a socket. -/
  socketExists : String → Bool
  podman : ContainerService

inductive BackendError
  | podmanMissing
  | podmanFailing
  | noSocket (address : String)
  | service (f : ServiceFault)
  deriving Repr

def BackendError.message : BackendError → String
  | podmanMissing => "No container backend (docker or podman) available: " ++
      "[Errno 2] No such file or directory: 'podman'"
  | podmanFailing => "No container backend (docker or podman) available: " ++
      "Command '['podman', 'info']' returned non-zero exit status 125."
  | noSocket address =>
    s!"Podman socket not found at {address}. Set PODMAN_SOCK to the podman API socket."
  | service f => f.message

namespace ContainerHost

def defaultSocket : String := "unix:///run/podman/podman.sock"

/-- The path of a socket address. Only the scheme `unix` in lower case is taken off. -/
def socketPath (address : String) : String :=
  if "unix://".isPrefixOf address then String.ofList (address.toList.drop 7) else address

/-- The Docker service, unless it cannot be made or does not answer. -/
def dockerService (h : ContainerHost) : Except ServiceFault ContainerService := do
  let service ← h.docker
  match service.pingFault with
  | some fault => .error fault
  | none => .ok service

def selectPodman (h : ContainerHost) (address : String) : Action BackendError ContainerClient := do
  Action.note (.commandRun { words := ["podman", "info"] })
  match h.podmanState with
  | .missing => throw .podmanMissing
  | .failing => throw .podmanFailing
  | .ok =>
    Action.note (.socketProbed (socketPath address))
    if !h.socketExists (socketPath address) then throw (.noSocket address)
    Action.note (.podmanOpened address)
    match h.podman.pingFault with
    | some fault => throw (.service fault)
    | none =>
      Action.logInfo "Using Podman as container backend."
      return ⟨.podman, h.podman⟩

/-- A client of the first runtime that answers. -/
def select (h : ContainerHost) (address : String) : Action BackendError ContainerClient := do
  if h.docker.isOk then Action.note .dockerOpened
  match h.dockerService with
  | .ok service =>
    Action.logInfo "Using Docker as container backend."
    return ⟨.docker, service⟩
  | .error fault =>
    Action.logWarning s!"Docker not available: {fault.message}"
    h.selectPodman address

end ContainerHost
end ClusterAgent
