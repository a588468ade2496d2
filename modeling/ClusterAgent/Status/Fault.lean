/-!
Faults of remote calls.
-/
namespace ClusterAgent

/-- The status codes of remote calls. -/
inductive RpcCode
  | ok
  | cancelled
  | unknown
  | invalidArgument
  | deadlineExceeded
  | notFound
  | alreadyExists
  | permissionDenied
  | unauthenticated
  | resourceExhausted
  | failedPrecondition
  | aborted
  | outOfRange
  | unimplemented
  | internal
  | unavailable
  | dataLoss
  deriving Repr, DecidableEq

namespace RpcCode

def name : RpcCode → String
  | ok => "OK"
  | cancelled => "CANCELLED"
  | unknown => "UNKNOWN"
  | invalidArgument => "INVALID_ARGUMENT"
  | deadlineExceeded => "DEADLINE_EXCEEDED"
  | notFound => "NOT_FOUND"
  | alreadyExists => "ALREADY_EXISTS"
  | permissionDenied => "PERMISSION_DENIED"
  | unauthenticated => "UNAUTHENTICATED"
  | resourceExhausted => "RESOURCE_EXHAUSTED"
  | failedPrecondition => "FAILED_PRECONDITION"
  | aborted => "ABORTED"
  | outOfRange => "OUT_OF_RANGE"
  | unimplemented => "UNIMPLEMENTED"
  | internal => "INTERNAL"
  | unavailable => "UNAVAILABLE"
  | dataLoss => "DATA_LOSS"

def all : List RpcCode :=
  [ok, cancelled, unknown, invalidArgument, deadlineExceeded, notFound, alreadyExists,
    permissionDenied, unauthenticated, resourceExhausted, failedPrecondition, aborted, outOfRange,
    unimplemented, internal, unavailable, dataLoss]

def ofName? (s : String) : Option RpcCode := all.find? fun c => c.name == s

end RpcCode

/-- Why a remote call has no answer. -/
inductive RpcFault
  | status (code : RpcCode) (details : Option String)
  /-- A fault that tells nothing but its message. -/
  | plain (message : String)
  deriving Repr, DecidableEq

namespace RpcFault

def code : RpcFault → RpcCode
  | status c _ => c
  | plain _ => .unknown

def details : RpcFault → String
  | status _ d => d.getD "None"
  | plain m => m

end RpcFault
end ClusterAgent
