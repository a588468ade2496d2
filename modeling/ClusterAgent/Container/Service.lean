import ClusterAgent.Schema.Datum
import ClusterAgent.Storage.ObjectStore

/-!
Container services: what the service of a container runtime answers.
-/
namespace ClusterAgent

/-- What a service gives for a container that it has started. -/
inductive RunReply
  /-- The container itself, with its identifier. -/
  | container (id : Datum)
  | list (items : List RunReply)
  | tuple (items : List RunReply)
  /-- Items that can be read once. -/
  | stream (items : List RunReply)
  | value (v : Datum)
  deriving Repr, Inhabited

structure ContainerService where
  pingFault : Option ServiceFault := none
  run : Except ServiceFault RunReply
  /-- The chunks of a container's output. -/
  logs : List (List UInt8) := []
  /-- What waiting for a container's exit gives. -/
  exit : Datum := .null

end ClusterAgent
