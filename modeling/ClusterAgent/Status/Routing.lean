import ClusterAgent.Json.Printer
import ClusterAgent.Status.Handler
import ClusterAgent.Text.Case

/-!
The status service over HTTP: one page with the running jobs. It is served only after the client has
connected to its coordinator, and the client is closed at the end.
-/
namespace ClusterAgent

structure HttpRequest where
  method : String
  path : String
  deriving Repr, DecidableEq

/-- What a status service answers from. -/
structure StatusSource where
  query : Action QueryError Outcome
  close : Action SurrogateError Unit

namespace StatusService

def jobsPath : String := "/jobsInfo"

/-- The page that a path leads to: what follows a question mark or a number sign does not count,
and neither do slashes at the end. -/
def page (path : String) : String :=
  let name := path.toList.takeWhile fun c => c != '?' && c != '#'
  let trimmed := (name.reverse.dropWhile (· == '/')).reverse
  if trimmed = jobsPath.toList then jobsPath else String.ofList name

/-- An answer that only tells what is wrong with a request. -/
def refusal (method : String) (status : Int) (detail : String) : HttpResponse where
  status := status
  mediaType := "application/json"
  body :=
    if method = "HEAD" then []
    else Utf8.encode (Json.printAscii .compact (.ofFields [("detail", .text detail)]))

/-- Answers one request. -/
def respond (query : Option (Action QueryError Outcome)) (r : HttpRequest) :
    Action SurrogateError HttpResponse := do
  let method := Text.upper r.method
  if page r.path != jobsPath then return refusal method 404 "Not Found"
  else if method != "GET" then return refusal method 405 "Method Not Allowed"
  else StatusDocument.handle query

/-- Ends a service. -/
def shutDown (source : StatusSource) : Action SurrogateError Unit := do
  Action.logInfo "Shutting down coordinator client"
  source.close

end StatusService
end ClusterAgent
