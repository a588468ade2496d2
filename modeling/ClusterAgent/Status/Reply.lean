import ClusterAgent.Json.Encoding
import ClusterAgent.Schema.Literal
import ClusterAgent.Status.Message
import ClusterAgent.Status.Outcome

/-!
Replies of a coordinator. A reply that validates is a success; any other is reported with the type
that it claims to be of, or with the kind of document that it is.
-/
namespace ClusterAgent

/-- The reply is a document that nests too deeply to be described. -/
structure NestingError where
  /-- Whether an array goes too far, or else an object. -/
  inArray : Bool
  deriving Repr, DecidableEq

def NestingError.message (e : NestingError) : String := Json.nestingMessage e.inArray

namespace Reply

/-- The type that a document names, or else its kind. -/
def typeOf (document : Json) : WideText :=
  match document with
  | .obj members =>
    match Json.member? members "type" with
    | some (.str name) => name
    | _ => (Datum.ofJson document).kind
  | _ => (Datum.ofJson document).kind

/-- What a reply is that nests at most `depth` deep. Whatever is no document counts as bytes. -/
def describe (reply : List UInt8) (depth : Nat := Json.usualDepth) : Except NestingError WideText :=
  match Json.readLenient depth reply with
  | .ok document => .ok (typeOf document)
  | .error (.json (.tooDeep inArray)) => .error ⟨inArray⟩
  | .error _ => .ok "bytes"

end Reply

namespace Outcome

def ofRunningJobs (r : RunningJobs) : Outcome := success (r.jobs.map .ofSnapshot)

/-- A reply of the wrong type. -/
def ofForeign (type : WideText) : Outcome :=
  malformedResponse (WideText.ofString ("RequestRunningJobs requires a response of type " ++
    "RunningJobs. Instead the response is of type ") ++ type ++ [.char '.'])

/-- What a reply comes to; it is described only if it nests at most `depth` deep. -/
def ofReply (depth : Nat) (reply : List UInt8) : Except NestingError Outcome :=
  match Schema.parse (α := RunningJobs) reply with
  | .ok r => .ok (ofRunningJobs r)
  | .error _ => (Reply.describe reply depth).map ofForeign

end Outcome
end ClusterAgent
