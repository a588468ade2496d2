import ClusterAgent.Status.Client
import ClusterAgent.Status.Rendering

/-!
Answers to requests for the running jobs. A query that goes wrong, or whose outcome cannot be
written, is logged and answered with its message; only a document that has no encoding is not
answered.
-/
namespace ClusterAgent

structure HttpResponse where
  status : Int
  mediaType : String
  body : List UInt8
  deriving Repr, DecidableEq

/-- Plain texts name their encoding. -/
def HttpResponse.contentType (r : HttpResponse) : String :=
  if "text/".isPrefixOf r.mediaType then r.mediaType ++ "; charset=utf-8" else r.mediaType

/-- A document has a surrogate, and so no encoding. -/
structure SurrogateError where
  text : WideText
  deriving Repr, DecidableEq

namespace StatusDocument

def respond (d : StatusDocument) : Except SurrogateError HttpResponse :=
  match Utf8.encodeWide? d.body, WideText.toString? d.mediaType with
  | some body, some mediaType => .ok ⟨d.statusCode, mediaType, body⟩
  | _, _ => .error ⟨d.body⟩

/-- The document that says what went wrong with a query. -/
def ofError {ε : Type} (message : String) : Action ε StatusDocument := do
  Action.logEntry .error s!"HTTP: jobs info failed: {message}"
  return failure message

/-- The document for a request; there is no query when no client has been connected. -/
def ofQuery {ε : Type} (query : Option (Action QueryError Outcome)) : Action ε StatusDocument :=
  match query with
  | none => ofError "Coordinator reference is not resolved."
  | some query => fun w =>
    match query.run w with
    | (.ok outcome, w) =>
      match outcome.rendered with
      | .ok document => (.ok document, w)
      | .error e => ofError e.message w
    | (.error e, w) => ofError e.message w

/-- The response to a request for the running jobs. -/
def handle (query : Option (Action QueryError Outcome)) : Action SurrogateError HttpResponse := do
  match (← ofQuery query).respond with
  | .ok response => return response
  | .error e => throw e

end StatusDocument
end ClusterAgent
