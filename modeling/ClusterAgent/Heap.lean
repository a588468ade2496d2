import ClusterAgent.Number

/-!
The heap of a virtual machine inside a container. A fixed share of the memory budget goes to the
heap, unless more than a cap would be left over: then exactly the cap is kept back.
-/
namespace ClusterAgent

/-- Why a budget has no heap limit. -/
inductive HeapError
  /-- The budget rounds to no finite binary64 number. -/
  | budgetTooLarge
  | product (e : Binary64.NotFinite)
  deriving Repr, DecidableEq

def HeapError.message : HeapError → String
  | budgetTooLarge => "int too large to convert to float"
  | product e => e.message

/-- The integer part of `budget * ratio`. With a binary64 ratio both the budget and the product are
rounded first. -/
def heapShare (budget : Int) : Number → Except HeapError Int
  | .whole n => .ok (budget * n)
  | .binary x =>
    match Binary64.ofInt budget with
    | .finite neg m e => (((Binary64.finite neg m e).mul x).truncate).mapError .product
    | _ => .error .budgetTooLarge

/-- The heap limit in megabytes for a container's memory budget. -/
def heapLimit (budget : Int) (ratio : Number) (cap : Int) : Except HeapError Int := do
  let share ← heapShare budget ratio
  return if cap < budget - share then budget - cap else share

/-- Four fifths. -/
def defaultHeapRatio : Binary64 := .ofDecimal false 8 (-1)

/-- Megabytes. -/
def defaultHeapCap : Int := 500

end ClusterAgent
