import ClusterAgent.Failure.Reports
import ClusterAgent.Subcommand.Basic
import ClusterAgent.Subcommand.Host
import ClusterAgent.Subcommand.Result

/-!
Launching a container from the command line: its specification is assembled, a runtime is chosen,
and the container is started and waited for.
-/
namespace ClusterAgent.LaunchOrder

open SubcommandResult

/-- The identifier of the application; a random one is drawn unless one is given. -/
def applicationId (o : LaunchOrder) : Action Failure String := do
  match o.application.filter (· != "") with
  | some id => return id
  | none => return "application_" ++ String.ofList ((← drawIdentifier).toList.take 12)

/-- Stages the artifacts and assembles the specification. -/
def specification (o : LaunchOrder) (settings : AgentSettings) (application : String) :
    Action Failure LaunchSpec := do
  let here := (← get).workingDirectory.text
  let storage ← (Storage.forUri ((o.destination.filter (· != "")).getD here)).reported
  let request : LaunchRequest := {
    budget := o.memory
    application
    artifacts := o.artifacts
    root := o.destination
    classpath := settings.classpath
    heapRatio := .binary settings.heapRatio
    heapCap := settings.heapCap
    userTokens := ← (Credentials.held settings.tokenFile).reported }
  (request.assemble storage (.sessions settings.role settings.sessionDuration)).reported

/-- A container that has been started. -/
structure Started where
  client : ContainerClient
  container : Datum
  heap : Int

def start (o : LaunchOrder) (host : SubcommandHost) (application : String) :
    Action Failure Started := do
  let spec ← o.specification host.settings application
  let client ← (host.containers.select host.settings.podmanSocket).reported
  let directory := host.temporary.append (.ofText "floe-tokens")
  let container ← (spec.launch client.start o.image s!"floe-{application}" directory
    o.command).reported
  return ⟨client, container, spec.heap⟩

/-- The most characters of a container's output that are shown. -/
def shownLogs : Nat := 2000

/-- The result of waiting for a container. A container that does not exit with zero gives its exit
status, and the end of its output is shown; a status that is no number is written out. -/
def awaited (client : ContainerClient) (container : Datum) :
    Action ContainerError SubcommandResult := do
  let code ← client.wait container
  if code.isZero then return {}
  let logs := (← client.logs container).toList
  let shown := String.ofList (logs.drop (logs.length - shownLogs))
  let r := refused s!"Exit {code.shown}. Logs:\n{shown}"
  match code with
  | .int i => return { r with status := i }
  | .bool _ => return r
  | .null => return { r with status := 0 }
  | code => return r.after (code.shown ++ "\n")

def carryOut (o : LaunchOrder) (host : SubcommandHost) : Action Failure SubcommandResult := do
  let application ← o.applicationId
  let started ← tryCatch (Except.ok <$> o.start host application) fun f => return .error f
  match started with
  | .error f => return refused s!"Error launching {o.image}: {f.message}"
  | .ok started =>
    let line := s!"Started container {started.container.shown} for {application} " ++
      s!"(heap {started.heap}MB)\n"
    if !o.waits then return { output := line }
    let waited := (awaited started.client started.container).reported
    return (← tryCatch waited fun f => return failed f).after line

end ClusterAgent.LaunchOrder
