import ClusterAgent.Table

/-!
An object store: named buckets hold objects under keys.
-/
namespace ClusterAgent

/-- Why a remote service refuses a request. -/
inductive ServiceFault
  /-- The service answered with an error of its own. -/
  | rejected (code message operation : String)
  | unreachable (message : String)
  | internal (message : String)
  | missingField (name : String)
  | invalid (message : String)
  | io (message : String)
  deriving Repr, DecidableEq

structure ObjectAddress where
  bucket : String
  key : String
  deriving Repr, DecidableEq

/-- An object with its modification time in whole microseconds. -/
structure StoredObject where
  content : List UInt8
  modified : Int
  deriving Repr, DecidableEq

abbrev ObjectStore := Table ObjectAddress StoredObject

namespace ObjectStore

/-- The answer for an object that is not there. -/
def notFound : ServiceFault := .rejected "404" "Not Found" "HeadObject"

def head (s : ObjectStore) (address : ObjectAddress) : Except ServiceFault StoredObject :=
  match s.get? address with
  | some object => .ok object
  | none => .error notFound

/-- The objects in the order of their buckets and keys. -/
def sorted (s : ObjectStore) : List (ObjectAddress × StoredObject) :=
  s.mergeSort fun a b =>
    decide (a.1.bucket < b.1.bucket) || (a.1.bucket == b.1.bucket && decide (a.1.key ≤ b.1.key))

end ObjectStore
end ClusterAgent
