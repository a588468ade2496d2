import ClusterAgent.Schema.Datum

/-!
What a container service is called with.
-/
namespace ClusterAgent

/-- A request to start an image as a container in the background. -/
structure RunRequest where
  image : String
  name : String
  /-- Parameters by name, each name once. -/
  parameters : List (WideText × Datum)
  deriving Repr

/-- All that a service is called with: containers run in the background under their names. -/
def RunRequest.fields (r : RunRequest) : List (WideText × Datum) :=
  (("detach" : WideText), .bool true) :: (("name" : WideText), .string r.name) :: r.parameters

inductive ContainerCall
  | run (request : RunRequest)
  /-- Looks a container up by its identifier. -/
  | get (id : Datum)
  deriving Repr

end ClusterAgent
