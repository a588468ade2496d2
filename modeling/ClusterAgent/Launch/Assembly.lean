import ClusterAgent.Heap
import ClusterAgent.Launch.Spec
import ClusterAgent.Schema.Report
import ClusterAgent.Token.Bundle

/-!
Assembling launch specifications: the artifacts are staged, the heap and the environment are
computed, and tokens are bundled for every place that the container has to reach. The first failure
aborts the assembly.
-/
namespace ClusterAgent

/-- What a container is to be launched with. -/
structure LaunchRequest where
  /-- Megabytes. -/
  budget : Int
  application : String
  artifacts : List LocalPath
  /-- Where artifacts are staged; the home directory when it is missing or empty. -/
  root : Option String := none
  /-- Paths of resources that are already in storage. -/
  existing : List String := []
  classpath : List String := Environment.defaultClasspath
  baseEnvironment : Environment := []
  heapRatio : Number := .binary defaultHeapRatio
  heapCap : Int := defaultHeapCap
  userTokens : List Token := []
  deriving Repr

inductive AssemblyError
  | heap (e : HeapError)
  /-- A size cannot be written. -/
  | numeral (e : Text.NumeralError)
  | storage (e : StorageError)
  | credentials (e : CredentialError)
  /-- The parts make no specification. -/
  | invalid (faults : List Schema.Fault) (parts : Datum)
  deriving Repr

def AssemblyError.message : AssemblyError → String
  | heap e => e.message
  | numeral e => e.message
  | storage e => e.message
  | credentials e => e.message
  | invalid faults parts => Schema.report (Schema.Record.name LaunchSpec) parts faults

namespace LaunchRequest

def applicationVariable : String := "FLOE_APP_ID"

def heapVariable : String := "FLOE_HEAP_OPTS"

/-- The environment of a container: the base, what the launcher sets, and the class path. -/
def environment (r : LaunchRequest) (heap : Int) : Except Text.NumeralError Environment := do
  let base := Table.insert r.baseEnvironment applicationVariable r.application
  let options := s!"-Xmx{← Text.writeInteger heap}m"
  return Environment.withClasspath r.classpath (Table.insert base heapVariable options)
    Environment.pathSeparator

/-- Stages the artifacts and describes all resources. -/
def resources (r : LaunchRequest) (storage : Storage) : Action StorageError (List Resource) := do
  let staged ← r.artifacts.mapM fun a => Resource.provision storage a r.application r.root
  let present ← r.existing.mapM (Resource.register storage)
  return staged ++ present

/-- The paths that need tokens: those of the resources, and the staging root. -/
def tokenPaths (r : LaunchRequest) (storage : Storage) (resources : List Resource) :
    Action StorageError (List String) := do
  let root ← storage.qualify (← Resource.rootOrHome storage r.root)
  return resources.map (·.uri) ++ [root]

/-- The specification with the resources, once tokens are bundled for them. -/
def equip (r : LaunchRequest) (storage : Storage) (service : TokenService) (heap : Int)
    (resources : List Resource) : Action AssemblyError LaunchSpec := do
  let environment ← liftM ((r.environment heap).mapError AssemblyError.numeral)
  let paths ← (r.tokenPaths storage resources).mapFailure .storage
  let credentials ← (Credentials.bundle service paths r.userTokens).mapFailure .credentials
  let sizes ← liftM ((LaunchSpec.sizesText r.budget heap).mapError AssemblyError.numeral)
  Action.logInfo
    s!"Assembled launch spec for {r.application}: {sizes} resources={resources.length}"
  match LaunchSpec.ofParts r.budget heap environment resources credentials with
  | .ok spec => return spec
  | .error faults =>
    throw (.invalid faults (.record
      (LaunchSpec.partFields r.budget heap environment resources credentials)))

def assemble (r : LaunchRequest) (storage : Storage) (service : TokenService) :
    Action AssemblyError LaunchSpec := do
  let heap ← liftM ((heapLimit r.budget r.heapRatio r.heapCap).mapError AssemblyError.heap)
  let resources ← (r.resources storage).mapFailure .storage
  r.equip storage service heap resources

end LaunchRequest
end ClusterAgent
