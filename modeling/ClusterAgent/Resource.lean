import ClusterAgent.Storage.Basic

/-!
Resources of a container: artifacts that are staged in storage before the container starts, and
files that are already there.
-/
namespace ClusterAgent

/-- Who may see a resource. -/
inductive ResourceVisibility
  | application
  deriving Repr, DecidableEq

inductive ResourceType
  | file
  deriving Repr, DecidableEq

/-- A resource as its storage describes it. -/
structure Resource where
  uri : String
  size : Int
  /-- Milliseconds. -/
  timestamp : Int
  visibility : ResourceVisibility := .application
  type : ResourceType := .file
  deriving Repr, DecidableEq

namespace Resource

/-- The directory below a staging root that holds the applications. -/
def stagingNamespace : String := ".floe"

/-- A root that is missing or empty gives way to the home directory. -/
def rootOrHome (storage : Storage) (root : Option String) : Action StorageError String :=
  match root.filter (· != "") with
  | some r => pure r
  | none => storage.home

/-- Where a file of an application is staged. -/
def stagingPath (storage : Storage) (application fileName : String) (root : Option String) :
    Action StorageError String := do
  let root ← rootOrHome storage root
  return joinPath (← storage.qualify root) [stagingNamespace, application, fileName]

/-- Describes what is stored at a path. -/
def register (storage : Storage) (path : String) : Action StorageError Resource := do
  let status ← storage.stat path
  return { uri := status.path, size := status.length, timestamp := status.modified }

/-- Stages a local file for an application, and describes the stored copy. -/
def provision (storage : Storage) (source : LocalPath) (application : String)
    (root : Option String) : Action StorageError Resource := do
  let target ← stagingPath storage application source.name root
  Action.logInfo s!"Copying from {source.text} to {target}"
  storage.copy source target
  register storage target

end Resource
end ClusterAgent
