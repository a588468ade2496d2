import ClusterAgent.Event
import ClusterAgent.Log
import ClusterAgent.Coordinator.Basic
import ClusterAgent.Json.Encoding
import ClusterAgent.Status.Fault
import ClusterAgent.Storage.ObjectStore

/-!
What an operation can see and change outside its arguments, and actions on it. A failed action keeps
the changes that it made before it failed.
-/
namespace ClusterAgent

structure World where
  files : FileTree := []
  /-- The size and the modification time of a directory of a tree, in bytes and nanoseconds. -/
  directoryStatus : FileTree → List String → Nat × Int := fun _ _ => (4096, 0)
  objects : ObjectStore := []
  /-- The fault that every upload meets, before it reads its file. -/
  uploadFault : Option ServiceFault := none
  workingDirectory : LocalPath
  /-- The `HOME` variable. -/
  home : String
  user : String
  /-- The time that stores give to what is written, in nanoseconds. -/
  now : Int := 0
  /-- The memory of the host, in bytes. -/
  hostMemory : Int := 8 * 1024 * 1024 * 1024
  /-- How deep a JSON document may nest so that the stack has room for reading it. -/
  jsonDepth : Nat := Json.usualDepth
  /-- What the session service answers to a request, by the number of requests before it. -/
  sessionAnswer : Nat → Except ServiceFault SessionKeys
  /-- The coordinator at the other end of every channel. -/
  coordinator : Coordinator := {}
  /-- The port that a server is bound to, by the address that it is to listen on. -/
  boundPort : String → Int
  /-- Whether channels become ready. -/
  channelReady : Bool := true
  /-- The fault that every call meets, before it reaches the coordinator. -/
  channelFault : Option RpcFault := none
  /-- Seconds since the epoch. -/
  clock : Number
  /-- The random number of 128 bits that is drawn, by the number of those drawn before it. -/
  randomNumber : Nat → Nat
  drawn : Nat := 0
  log : List LogEntry := []
  journal : List Event := []

/-- An action on the world that may fail with an `ε`. -/
abbrev Action (ε α : Type) := ExceptT ε (StateM World) α

namespace Action

variable {ε : Type}

def logEntry (level : LogLevel) (message : String) : Action ε Unit :=
  modify fun w => { w with log := w.log ++ [⟨level, message⟩] }

def logDebug (message : String) : Action ε Unit := logEntry .debug message

def logInfo (message : String) : Action ε Unit := logEntry .info message

def logWarning (message : String) : Action ε Unit := logEntry .warning message

/-- Notes an event in the journal. -/
def note (event : Event) : Action ε Unit :=
  modify fun w => { w with journal := w.journal ++ [event] }

/-- Runs an action, and turns its failures into others. -/
def mapFailure {ε' α : Type} (f : ε → ε') (a : Action ε α) : Action ε' α :=
  fun w => let (r, w') := a.run w; (r.mapError f, w')

end Action
end ClusterAgent
