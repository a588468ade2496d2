import ClusterAgent.Subcommand.Run

/-!
The program. A subcommand is carried out on a copy of the local files that it names, and the files
that it has written are then put in place. No service is reached from here, and the programs that a
subcommand asks for are printed rather than run.
-/
namespace ClusterAgent.Program

/-- Why services do not answer. -/
def offline : String := "No connections are made by this program."

/-- Nanoseconds since the epoch. -/
def nanoseconds (t : IO.FS.SystemTime) : Int := t.sec * 1000000000 + t.nsec.toNat

/-- The tree with a file of the host, which is left out when it cannot be read. -/
def addFile (workingDirectory : LocalPath) (tree : FileTree) (path : LocalPath) : IO FileTree := do
  let path := path.absolute workingDirectory
  try
    let content ← IO.FS.readBinFile path.text
    let tree := (FileTree.ofDirectory path.parent).foldl (fun t e => t.insert e.1 e.2) tree
    return tree.insert path.parts (.file content.toList 0 Files.defaultMode)
  catch _ => return tree

/-- The present time, as the file system shows it on a new file. -/
def now : IO Int := do
  let (_, path) ← IO.FS.createTempFile
  let time := (← path.metadata).modified
  IO.FS.removeFile path
  return nanoseconds time

def world (workingDirectory : LocalPath) (files : FileTree) : IO World := do
  let time ← now
  let number ← IO.rand 0 0xFFFFFFFFFFFFFFFF
  return {
    files
    workingDirectory
    home := (← IO.getEnv "HOME").getD "/"
    user := (← IO.getEnv "USER").getD ""
    now := time
    uploadFault := some (.unreachable offline)
    sessionAnswer := fun _ => .error (.unreachable offline)
    boundPort := fun _ => 0
    clock := .whole (time / 1000000000)
    randomNumber := fun n => number * 0x10000000000000000 + n }

def host : SubcommandHost where
  containers := {
    docker := .error (.unreachable offline)
    podmanState := .missing
    socketExists := fun _ => false
    podman := { run := .error (.unreachable offline) } }
  fetch _ := .error offline
  temporary := .ofText "/tmp"

/-- Puts what was written in place. -/
def put (before : FileTree) (entry : List String × FileNode) : IO Unit := do
  let path : LocalPath := ⟨.root, entry.1⟩
  if before.get? entry.1 != some entry.2 then
    match entry.2 with
    | .directory => IO.FS.createDirAll path.text
    | .file content _ mode =>
      IO.FS.writeBinFile path.text ⟨content.toArray⟩
      if mode != Files.defaultMode then
        IO.setAccessRights path.text { user := { read := true, write := true } }

/-- A program with its variables as a line for a shell. -/
def commandLine (c : Command) : String :=
  " ".intercalate (c.environment.map (fun v => v.1 ++ "=" ++ Text.quoted v.2) ++
    c.words.map Text.quoted)

/-- Carries out a command line, and gives the exit status. -/
def run (words : List String) : IO UInt32 := do
  let workingDirectory := LocalPath.ofText (← IO.currentDir).toString
  let named := match Subcommand.ofWords host.settings words with
    | .ok subcommand => subcommand.localFiles
    | .error _ => []
  let before ← named.foldlM (addFile workingDirectory) (.ofDirectory workingDirectory)
  let (result, after) := (Subcommand.run host words).run (← world workingDirectory before)
  for entry in after.files do put before entry
  for entry in after.log do IO.eprintln s!"[{entry.level.name}] {entry.message}"
  for event in after.journal do
    if let .commandRun command := event then IO.println (commandLine command)
  match result with
  | .error stop => return stop.status.toUInt32
  | .ok result =>
    IO.print result.output
    IO.eprint result.errors
    if let some failure := result.failure then IO.eprintln failure.message
    return (result.status % 256).toNat.toUInt32

end ClusterAgent.Program

def main (words : List String) : IO UInt32 := ClusterAgent.Program.run words
