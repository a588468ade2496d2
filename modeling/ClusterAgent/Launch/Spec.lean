import ClusterAgent.Environment
import ClusterAgent.Storage.Record

/-!
Launch specifications: all that a container is started with.
-/
namespace ClusterAgent

/-- A container's memory, environment, resources and credentials. The heap fits the memory. -/
structure LaunchSpec where
  /-- Megabytes. -/
  budget : Int
  /-- Megabytes. -/
  heap : Int
  environment : Environment
  resources : List Resource
  credentials : List UInt8
  heap_le_budget : heap ≤ budget
  deriving Repr, DecidableEq

namespace LaunchSpec

open Schema

/-- Memory and heap as messages state them. -/
def sizesText (budget heap : Int) : Except Text.NumeralError String := do
  return s!"memory={← Text.writeInteger budget}MB heap={← Text.writeInteger heap}MB"

/-- The parts by name. -/
def partFields (budget heap : Int) (environment : Environment) (resources : List Resource)
    (credentials : List UInt8) : List (String × Datum) :=
  [("memory_budget_mb", .int budget), ("heap_limit_mb", .int heap),
    ("environment", .record (environment.map fun p => (p.1, .string p.2))),
    ("resources", .list (resources.map toDatum)), ("credentials", .bytes credentials)]

/-- The specification of its parts, unless the heap exceeds the memory. -/
def ofParts (budget heap : Int) (environment : Environment) (resources : List Resource)
    (credentials : List UInt8) : Checked LaunchSpec :=
  if h : heap ≤ budget then pure ⟨budget, heap, environment, resources, credentials, h⟩
  else Checked.fault (.heapExceedsBudget heap budget)

/-- The sizes are compared once all parts are as they should be. -/
def check : Datum → Checked LaunchSpec := checkRecord fun entries =>
  let parts := ofParts <$> required entries "memory_budget_mb" checkInteger
    <*> required entries "heap_limit_mb" checkInteger
    <*> required entries "environment" (checkTable checkString checkString)
    <*> optional entries "resources" [] (checkList .notTuple Resource.check)
    <*> optional entries "credentials" [] checkBytes
  parts.andThen id

instance : Record LaunchSpec where
  name := "ContainerLaunchSpec"
  frozen := true
  check := check
  fields s := partFields s.budget s.heap s.environment s.resources s.credentials

end LaunchSpec
end ClusterAgent
