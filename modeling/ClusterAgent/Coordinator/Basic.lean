import ClusterAgent.Number
import ClusterAgent.Schema.Record
import ClusterAgent.Status.Message

/-!
Coordinators: the address and the method of the status protocol, and a coordinator with a fixed list
of jobs, whose answer can be replaced.
-/
namespace ClusterAgent

structure CoordinatorAddress where
  host : String
  port : Int
  deriving Repr, DecidableEq

namespace CoordinatorAddress

def defaultPort : Int := 6123

/-- What a channel is opened to. -/
def target (a : CoordinatorAddress) : String := s!"{a.host}:{a.port}"

def url (a : CoordinatorAddress) : String := s!"grpc://{a.target}"

end CoordinatorAddress

/-- The method that answers a request for the running jobs. -/
def runningJobsMethod : String := "/floe.Coordinator/RequestRunningJobs"

structure Coordinator where
  jobs : List JobSnapshot := []
  /-- How many seconds an answer is held back, unless the coordinator is released. -/
  delay : Number := .binary (.ofInt 0)
  /-- What is answered in place of the jobs. -/
  reply : Option (List UInt8) := none
  requests : Nat := 0
  released : Bool := false
  deriving Repr

/-- A job has a text that is not to be encoded. -/
structure EncodingError where
  text : WideText
  deriving Repr, DecidableEq

def EncodingError.message (e : EncodingError) : String :=
  "Error serializing to JSON: UnicodeEncodeError: " ++ Utf8.surrogateMessage e.text

namespace Coordinator

/-- The texts of the jobs, in the order in which they are encoded. -/
def texts (c : Coordinator) : List WideText := c.jobs.flatMap fun j => j.id :: j.name.toList

/-- The answer to a request. -/
def answer (c : Coordinator) : Except EncodingError (List UInt8) :=
  match c.reply with
  | some bytes => .ok bytes
  | none =>
    match Utf8.encodeWide? (Schema.encode (RunningJobs.mk c.jobs)) with
    | some bytes => .ok bytes
    | none => .error ⟨(c.texts.find? fun t => (WideText.toChars? t).isNone).getD []⟩

def countRequest (c : Coordinator) : Coordinator := { c with requests := c.requests + 1 }

def release (c : Coordinator) : Coordinator := { c with released := true }

end Coordinator
end ClusterAgent
