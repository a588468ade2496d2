import ClusterAgent.Json.Printer
import ClusterAgent.Launch.Spec
import ClusterAgent.Storage.Error

/-!
The parameters that a container is run with. Local resources and the token file are mounted
read-only; the container is told of all its resources in its environment.
-/
namespace ClusterAgent

/-- Why a specification has no parameters. -/
inductive ParameterError
  | numeral (e : Text.NumeralError)
  | uri (e : UriError)
  deriving Repr, DecidableEq

def ParameterError.message : ParameterError → String
  | numeral e => e.message
  | uri e => e.message

structure LaunchParameters where
  environment : Environment
  /-- The path inside the container for each path of the host that is mounted. -/
  volumes : Table String String
  workingDirectory : String
  memoryLimit : String
  /-- The words of the command; none leaves the choice to the image. -/
  command : List String
  deriving Repr, DecidableEq

namespace LaunchParameters

def workingDirectoryPath : String := "/floe/work"

/-- Where a container finds its tokens. -/
def tokenFilePath : String := "/run/floe/container_tokens"

def tokenFileVariable : String := "FLOE_TOKEN_FILE"

def resourcesVariable : String := "FLOE_LOCAL_RESOURCES"

/-- What stands after the last slash of a path. -/
def baseName (path : String) : String :=
  String.ofList (path.toList.reverse.takeWhile (· != '/')).reverse

/-- Mounts the local resources; a path that is mounted already takes the place of its last
resource. -/
def mountResources (volumes : Table String String) :
    List Resource → Except UriError (Table String String)
  | [] => .ok volumes
  | r :: rest => do
    let uri ← Uri.parse r.uri
    if uri.scheme = "file" then
      mountResources
        (volumes.insert uri.path (workingDirectoryPath ++ "/" ++ baseName uri.path)) rest
    else mountResources volumes rest

/-- The descriptions of the resources as a JSON document, if it can be written. -/
def resourcesText (resources : List Resource) : Except Text.NumeralError String :=
  if resources.all Resource.isWritable then
    .ok (Json.printAscii .ascii (.arr (resources.map Schema.toJson)))
  else .error .unwritable

/-- The environment of a specification, with the text that lists its resources. -/
def environmentOf (spec : LaunchSpec) (resources : String) : Environment :=
  Table.insert (Table.insert spec.environment tokenFileVariable tokenFilePath) resourcesVariable
    resources

def ofSpec (spec : LaunchSpec) (tokenFile : LocalPath) (command : List String) :
    Except ParameterError LaunchParameters := do
  let resources ← (resourcesText spec.resources).mapError .numeral
  let volumes ←
    (mountResources [(tokenFile.text, tokenFilePath)] spec.resources).mapError .uri
  let budget ← (Text.writeInteger spec.budget).mapError .numeral
  return {
    environment := environmentOf spec resources
    volumes
    workingDirectory := workingDirectoryPath
    memoryLimit := budget ++ "m"
    command }

/-- A mount as the container services take it. -/
def mountDatum (target : String) : Datum :=
  .record [("bind", .string target), ("mode", .string "ro")]

def strings (t : Table String String) : Datum := .record (t.map fun p => (p.1, .string p.2))

/-- The parameters by name. -/
def fields (p : LaunchParameters) : List (WideText × Datum) :=
  [(("environment" : WideText), strings p.environment),
    (("volumes" : WideText), .record (p.volumes.map fun v => (v.1, mountDatum v.2))),
    (("working_dir" : WideText), .string p.workingDirectory),
    (("mem_limit" : WideText), .string p.memoryLimit)] ++
  if p.command.isEmpty then []
  else [(("command" : WideText), .list (p.command.map .string))]

end LaunchParameters
end ClusterAgent
