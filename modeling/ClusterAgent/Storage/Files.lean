import ClusterAgent.Storage.Error
import ClusterAgent.World

/-!
Actions on the file tree of the world. An action that is refused changes no file; creating a
directory with its parents may have created some of them.
-/
namespace ClusterAgent.Files

/-- Refuses a path that holds the null character. -/
def checkPath (path : LocalPath) : Action StorageError Unit :=
  if path.parts.any (·.toList.contains '\x00') then throw .nullByte else pure ()

/-- Runs a look-up in the tree; a refusal names the path. -/
def query {α : Type} (path : LocalPath) (f : FileTree → LocalPath → Except OsCode α) :
    Action StorageError α := do
  checkPath path
  let w ← get
  match f w.files w.workingDirectory with
  | .ok a => pure a
  | .error code => throw (.os ⟨code, some path.text⟩)

/-- Runs a change of the tree; a refusal names the path and changes nothing. -/
def update (path : LocalPath) (f : FileTree → LocalPath → Except OsCode FileTree) :
    Action StorageError Unit := do
  let files ← query path f
  modify fun w => { w with files }

def stat (path : LocalPath) : Action StorageError FileNode := query path fun t d => t.stat d path

def read (path : LocalPath) : Action StorageError (List UInt8) :=
  query path fun t d => t.readFile d path

/-- Writes a file at the present time. -/
def write (path : LocalPath) (content : List UInt8) (mode : Nat) : Action StorageError Unit := do
  let w ← get
  update path fun t d => t.writeFile d path content w.now mode

/-- Sets the permission bits of a file. -/
def setMode (path : LocalPath) (mode : Nat) : Action StorageError Unit :=
  update path fun t d => t.setMode d path mode

/-- Sets the modification time of a file. A refusal does not name the path. -/
def setTime (path : LocalPath) (modified : Int) : Action StorageError Unit :=
  Action.mapFailure (fun
    | .os e => .os { e with path := none }
    | e => e) (update path fun t d => t.setTime d path modified)

/-- The permission bits of a new file that asks for none in particular. -/
def defaultMode : Nat := 0o644

/-- Whether a path leads to a directory of the world. A name that is too long is refused. -/
def isDirectory (path : LocalPath) : Action StorageError Bool := do
  let w ← get
  match w.files.stat w.workingDirectory path with
  | .ok node => pure (node == .directory)
  | .error .nameTooLong => throw (.os ⟨.nameTooLong, some path.text⟩)
  | .error _ => pure false

/-- Creates one directory; it is no error when it is there. -/
def makeDirectory (path : LocalPath) : Action StorageError Unit :=
  tryCatch (update path fun t d => t.makeDirectory d path) fun
    | .os e => do
      if e.code = .noEntry then throw (.os e)
      else if ← isDirectory path then pure ()
      else throw (.os e)
    | e => throw e

/-- Creates a directory with its parents, of which `depth` more may be missing. -/
def makeDirectories (path : LocalPath) : (depth : Nat) → Action StorageError Unit
  | 0 => makeDirectory path
  | depth + 1 =>
    if path.parent = path then makeDirectory path
    else
      tryCatch (makeDirectory path) fun
        | .os ⟨.noEntry, _⟩ => do
          makeDirectories path.parent depth
          makeDirectory path
        | e => throw e

/-- Creates a directory with all missing parents. -/
def ensureDirectory (path : LocalPath) : Action StorageError Unit :=
  makeDirectories path path.parts.length

/-- Whether two paths lead to one node. -/
def same (p q : LocalPath) : Action StorageError Bool := do
  checkPath p
  checkPath q
  let w ← get
  match w.files.locate w.workingDirectory p, w.files.locate w.workingDirectory q with
  | .ok k, .ok l => pure (k == l && (w.files.node? k).isSome)
  | _, _ => pure false

/-- Copies a file over another, which is created when it is missing. -/
def copy (source target : LocalPath) : Action StorageError Unit := do
  if ← same source target then throw (.sameFile source.text target.text)
  let content ← read source
  write target content defaultMode

/-- Places a file with its missing directories. Its time is the epoch. -/
def place (path : LocalPath) (content : List UInt8) : Action StorageError Unit := do
  ensureDirectory path.parent
  write path content defaultMode
  setTime path 0

end ClusterAgent.Files
