import ClusterAgent.Storage.Files
import ClusterAgent.Storage.Timestamp

/-!
Cluster-visible storage: a locally mounted path, or a bucket of an object store. Both name what they
hold by URIs and copy local files to them.
-/
namespace ClusterAgent

/-- The bucket and key of an `s3` URI. A query or fragment is not part of the key, and neither are
the slashes before it. -/
def ObjectAddress.parse (uri : String) : Except StorageError ObjectAddress :=
  match Uri.parse uri with
  | .error e => .error (.uri e)
  | .ok u =>
    if u.scheme != "s3" || u.authority = "" then .error (.notObject uri)
    else .ok ⟨u.authority, Text.trimStartOf '/' u.path⟩

/-- Joins a root and relative parts with one slash each. -/
def joinPath (root : String) (parts : List String) : String :=
  "/".intercalate (Text.trimEndOf '/' root :: parts.map (Text.trimOf '/'))

/-- Size and modification time of a stored file or object, under its qualified URI. -/
structure FileStatus where
  path : String
  length : Int
  /-- Milliseconds. -/
  modified : Int
  deriving Repr, DecidableEq

/-- Storage that containers can reach. -/
inductive Storage
  /-- A path that all hosts mount; the home directory is the user's when none is given. -/
  | mounted (home : Option String)
  | bucket (name : String)
  deriving Repr, DecidableEq

namespace Storage

/-- The local path that a plain path or a `file` URI stands for. Only URIs are unquoted. -/
def localPath (path : String) : Except StorageError LocalPath :=
  match Uri.parse path with
  | .error e => .error (.uri e)
  | .ok u =>
    if u.scheme = "" then .ok (.ofText path)
    else if u.scheme = "file" then .ok (.ofText (Uri.unquote u.path))
    else .error (.notLocal path)

def qualifyLocal (path : String) : Action StorageError String := do
  let p ← liftM (localPath path)
  return (p.absolute (← get).workingDirectory).toUri

/-- The bucket of an `s3` URI is its own; other paths are keys of `bucket`. -/
def qualifyObject (bucket path : String) : String :=
  if "s3://".isPrefixOf path then path else "s3://" ++ bucket ++ "/" ++ Text.trimStartOf '/' path

/-- The qualified URI of a path. -/
def qualify : Storage → String → Action StorageError String
  | mounted _, path => qualifyLocal path
  | bucket name, path => pure (qualifyObject name path)

/-- The user's home directory. -/
def userHome : Action StorageError String := do
  let home := Text.trimEndOf '/' (← get).home
  let home := if home = "" then "/" else home
  if home.toList.head? = some '~' then throw .noHome
  return (LocalPath.ofText home).text

/-- The qualified URI of the home directory. -/
def home : Storage → Action StorageError String
  | mounted h => do
    match h.filter (· != "") with
    | some path => qualifyLocal path
    | none => qualifyLocal (← userHome)
  | bucket name => do
    return "s3://" ++ name ++ "/user/" ++ (← get).user

/-- Puts a local file into the object store at the present time. -/
def upload (source : LocalPath) (address : ObjectAddress) : Action StorageError Unit := do
  match (← get).uploadFault with
  | some fault => throw (.service fault)
  | none =>
    let content ← Files.read source
    modify fun w =>
      { w with objects := w.objects.insert address ⟨content, w.now / 1000⟩ }

/-- Copies a local file to a path of the storage, over any file that is there. -/
def copy : Storage → LocalPath → String → Action StorageError Unit
  | mounted _, source, path => do
    let target ← liftM (localPath path)
    Files.ensureDirectory target.parent
    Files.copy source target
  | bucket name, source, path => do
    upload source (← liftM (ObjectAddress.parse (qualifyObject name path)))

/-- Size and modification time of a node, in bytes and milliseconds; those of a directory are
given, the time in nanoseconds. -/
def nodeStatus (directory : Nat × Int) : FileNode → Nat × Int
  | .file content modified _ => (content.length, Timestamp.ofFile modified)
  | .directory => (directory.1, Timestamp.ofFile directory.2)

/-- Size and modification time of what a path leads to. -/
def stat : Storage → String → Action StorageError FileStatus
  | mounted _, path => do
    let p ← liftM (localPath path)
    let node ← Files.stat p
    let uri ← qualifyLocal path
    let w ← get
    let key := (w.files.locate w.workingDirectory p).toOption.getD []
    let (length, modified) := nodeStatus (w.directoryStatus w.files key) node
    return ⟨uri, length, modified⟩
  | bucket name, path => do
    let uri := qualifyObject name path
    let address ← liftM (ObjectAddress.parse uri)
    match (← get).objects.head address with
    | .ok object => return ⟨uri, object.content.length, Timestamp.ofObject object.modified⟩
    | .error fault => throw (.service fault)

/-- The storage that a URI lies in, by its scheme. -/
def forUri (uri : String) : Action StorageError Storage := do
  match Uri.parse uri with
  | .error e => throw (.uri e)
  | .ok u =>
    if u.scheme = "s3" then
      let address ← liftM (ObjectAddress.parse uri)
      Action.logInfo s!"Using S3 bucket {address.bucket} as staging filesystem."
      return bucket address.bucket
    else if u.scheme = "" || u.scheme = "file" then return mounted none
    else throw (.unsupportedScheme u.scheme uri)

end Storage
end ClusterAgent
