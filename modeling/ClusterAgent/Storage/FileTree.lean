import ClusterAgent.Storage.LocalPath
import ClusterAgent.Table

/-!
A tree of directories and files without links. Paths are resolved part by part: every part but the
last has to exist, and only a directory has parts below it.
-/
namespace ClusterAgent

/-- Why the file system refuses an operation. -/
inductive OsCode
  | noEntry
  | exists
  | notDirectory
  | isDirectory
  | nameTooLong
  deriving Repr, DecidableEq

def OsCode.number : OsCode → Nat
  | noEntry => 2
  | «exists» => 17
  | notDirectory => 20
  | isDirectory => 21
  | nameTooLong => 36

def OsCode.text : OsCode → String
  | noEntry => "No such file or directory"
  | «exists» => "File exists"
  | notDirectory => "Not a directory"
  | isDirectory => "Is a directory"
  | nameTooLong => "File name too long"

/-- A refused operation with the path that it was given, unless the operation keeps it to itself. -/
structure OsError where
  code : OsCode
  path : Option String
  deriving Repr, DecidableEq

def OsError.message (e : OsError) : String :=
  s!"[Errno {e.code.number}] {e.code.text}" ++ e.path.elim "" fun p => ": " ++ Text.quoted p

/-- A file holds bytes, a modification time in nanoseconds, and permission bits. -/
inductive FileNode
  | directory
  | file (content : List UInt8) (modified : Int) (mode : Nat)
  deriving Repr, DecidableEq

/-- Nodes under the parts of their absolute paths. The root is a directory without an entry. -/
abbrev FileTree := Table (List String) FileNode

namespace FileTree

def node? (t : FileTree) (key : List String) : Option FileNode :=
  if key = [] then some .directory else t.get? key

def isDirectory (t : FileTree) (key : List String) : Bool := t.node? key == some .directory

/-- Names have at most 255 bytes. -/
def nameFits (part : String) : Bool := part.utf8ByteSize ≤ 255

/-- Paths have fewer than 4096 bytes. -/
def pathFits (path : LocalPath) : Bool := path.text.utf8ByteSize < 4096

/-- Where a path leads from a directory. The last part need not exist. -/
def locateFrom (t : FileTree) (current : List String) : List String → Except OsCode (List String)
  | [] => .ok current
  | part :: rest =>
    if !t.isDirectory current then .error .notDirectory
    else if !nameFits part then .error .nameTooLong
    else
      let next := if part = ".." then current.dropLast else current ++ [part]
      if rest.isEmpty then .ok next
      else if (t.node? next).isSome then locateFrom t next rest
      else .error .noEntry

/-- Where a path leads, from the working directory when it is relative. -/
def locate (t : FileTree) (workingDirectory path : LocalPath) : Except OsCode (List String) :=
  if !pathFits path then .error .nameTooLong
  else t.locateFrom (if path.anchor = .relative then workingDirectory.parts else []) path.parts

/-- The node that a path leads to. -/
def stat (t : FileTree) (workingDirectory path : LocalPath) : Except OsCode FileNode := do
  let key ← t.locate workingDirectory path
  match t.node? key with
  | some node => .ok node
  | none => .error .noEntry

def makeDirectory (t : FileTree) (workingDirectory path : LocalPath) : Except OsCode FileTree := do
  let key ← t.locate workingDirectory path
  if (t.node? key).isSome then .error .exists else .ok (t.insert key .directory)

def readFile (t : FileTree) (workingDirectory path : LocalPath) : Except OsCode (List UInt8) := do
  match ← t.stat workingDirectory path with
  | .directory => .error .isDirectory
  | .file content _ _ => .ok content

/-- Replaces the content of a file, which keeps its permission bits; a new file takes `mode`. -/
def writeFile (t : FileTree) (workingDirectory path : LocalPath) (content : List UInt8)
    (modified : Int) (mode : Nat) : Except OsCode FileTree := do
  let key ← t.locate workingDirectory path
  match t.node? key with
  | some .directory => .error .isDirectory
  | some (.file _ _ present) => .ok (t.insert key (.file content modified present))
  | none => .ok (t.insert key (.file content modified mode))

/-- Replaces the permission bits of a file; those of a directory are not kept. -/
def setMode (t : FileTree) (workingDirectory path : LocalPath) (mode : Nat) :
    Except OsCode FileTree := do
  let key ← t.locate workingDirectory path
  match t.node? key with
  | some (.file content modified _) => .ok (t.insert key (.file content modified mode))
  | some .directory => .ok t
  | none => .error .noEntry

/-- Replaces the modification time of a file; directories keep none. -/
def setTime (t : FileTree) (workingDirectory path : LocalPath) (modified : Int) :
    Except OsCode FileTree := do
  let key ← t.locate workingDirectory path
  match t.node? key with
  | some (.file content _ mode) => .ok (t.insert key (.file content modified mode))
  | some .directory => .ok t
  | none => .error .noEntry

/-- A directory with all directories above it. -/
def ofDirectory (path : LocalPath) : FileTree :=
  (List.range path.parts.length).map fun i => (path.parts.take (i + 1), .directory)

/-- The files below a directory, by the parts that lead to them from there. -/
def filesBelow (t : FileTree) (key : List String) : List (List String × FileNode) :=
  t.filterMap fun (k, node) =>
    if key.isPrefixOf k && k != key && node != .directory then some (k.drop key.length, node)
    else none

/-- The files below the directory that a path leads to, by their relative paths. -/
def filesUnder (t : FileTree) (workingDirectory path : LocalPath) : List (String × FileNode) :=
  match t.locate workingDirectory path with
  | .ok key => (t.filesBelow key).map fun p => ("/".intercalate p.1, p.2)
  | .error _ => []

/-- The relative paths of the files below a directory, in order. -/
def listing (t : FileTree) (workingDirectory path : LocalPath) : List String :=
  ((t.filesUnder workingDirectory path).map (·.1)).mergeSort fun a b => decide (a ≤ b)

end FileTree
end ClusterAgent
