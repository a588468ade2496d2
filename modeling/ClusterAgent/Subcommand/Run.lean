import ClusterAgent.Status.Routing
import ClusterAgent.Subcommand.Launch
import ClusterAgent.Uri.Locator

/-!
Carrying out subcommands.
-/
namespace ClusterAgent.Subcommand

open SubcommandResult

/-- The program that runs the modules of the agent. -/
def interpreter : List String := ["python", "-m"]

/-- Host and port on both sides of the last colon. Without a host the whole text is the host. -/
def coordinatorVariables (coordinator : String) : Environment :=
  let cs := coordinator.toList.reverse
  let host := String.ofList ((cs.dropWhile (· != ':')).drop 1).reverse
  if host = "" then [(StatusSettings.hostVariable, coordinator)]
  else [(StatusSettings.hostVariable, host),
    (StatusSettings.portVariable, String.ofList (cs.takeWhile (· != ':')).reverse)]

/-- The program that serves the running jobs over HTTP. -/
def serverCommand (coordinator : String) (port : Int) (timeout : String) : Command where
  words := interpreter ++ ["floe.status.server"]
  environment := [(StatusSettings.addressVariable, StatusSettings.addressOfPort port)] ++
    coordinatorVariables coordinator ++ [(StatusSettings.timeoutVariable, timeout)]

/-- The program of a coordinator with a fixed list of jobs. -/
def coordinatorCommand (port : Int) (jobsFile : Option String) (delay : Binary64) : Command where
  words := interpreter ++ ["floe.testing.mock_coordinator", "--listen", s!"0.0.0.0:{port}",
    "--delay", delay.toText] ++ ((jobsFile.filter (· != "")).map (["--jobs", ·])).getD []

/-- Where a status server shows the running jobs. -/
def jobsLocator (host : SubcommandHost) (server : String) : Except LocatorError Locator := do
  let url := Text.trimEndOf '/' server ++ StatusService.jobsPath
  return (← Locator.parse host.asciiName url).asked

/-- A failure to list the jobs, in one line. -/
def notListed (message : String) : SubcommandResult := refused s!"Error listing jobs: {message}"

/-- Shows a document that a status server has answered with: JSON, nested at most `depth` deep, in a
readable form, and anything else as it is. A document that tells of no success, and has no text to
tell it with, is a failure that nothing is written about. -/
def showJobs (host : SubcommandHost) (depth : Nat) (d : FetchedDocument) :
    Except Failure SubcommandResult :=
  if !d.isSuccess then (host.text d).map notListed
  else match Json.readLenient depth d.body with
    | .ok document => return match host.unprinted? document with
      | none => printed (Json.printAscii .readable document)
      | some message => notListed message
    | .error (.json .malformed) => return match host.text d with
      | .ok text => printed text
      | .error f => notListed f.message
    | .error e => return notListed e.message

/-- Asks for the running jobs, and shows the answer. -/
def fetchedJobs (host : SubcommandHost) (server : String) : Action Failure SubcommandResult := do
  match jobsLocator host server with
  | .error e => return notListed e.message
  | .ok locator =>
    Action.note (.documentRequested locator.text)
    match host.fetch locator.text with
    | .error message => return notListed message
    | .ok document =>
      if locator.isComplete then liftM (showJobs host (← get).jsonDepth document)
      else return notListed (LocatorError.incomplete locator.text).message

/-- Stages an artifact, and shows what is stored. -/
def provisioned (artifact : LocalPath) (application : String) (destination : Option String) :
    Action Failure SubcommandResult := Action.reported do
  let here := (artifact.absolute (← get).workingDirectory).text
  let storage ← Storage.forUri ((destination.filter (· != "")).getD here)
  let resource ← Resource.provision storage artifact application destination
  return printed (Json.printAscii .readable (Schema.toJson resource))

/-- Carries out a subcommand. A failure is one that nothing is written about. -/
def carryOut (host : SubcommandHost) : Subcommand → Action Failure SubcommandResult
  | statusServer coordinator port timeout => do
    Action.note (.commandRun (serverCommand coordinator port timeout))
    return {}
  | mockCoordinator port jobsFile delay => do
    Action.note (.commandRun (coordinatorCommand port jobsFile delay))
    return {}
  | jobs server => fetchedJobs host server
  | heap memory ratio cap => do
    let limit ← liftM (Failure.ofExcept (heapLimit memory (.binary ratio) cap))
    return printed (← liftM (Failure.ofExcept (Text.writeInteger limit)))
  | provision artifact application destination =>
    tryCatch (provisioned artifact application destination) fun f =>
      return refused s!"Error provisioning {artifact.text}: {f.message}"
  | launch order => order.carryOut host

/-- The result of a command line, unless it is not carried out. -/
def run (host : SubcommandHost) (words : List String) :
    StateM World (Except CommandLine.Stop SubcommandResult) := fun w =>
  match ofWords host.settings words with
  | .error stop => (.error stop, w)
  | .ok subcommand =>
    match (subcommand.carryOut host).run w with
    | (.ok r, w) => (.ok r, w)
    | (.error f, w) => (.ok (failed f), w)

end ClusterAgent.Subcommand
