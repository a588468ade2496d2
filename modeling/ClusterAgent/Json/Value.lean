import ClusterAgent.Binary64.Basic
import ClusterAgent.Table
import ClusterAgent.Text.CodePoint

/-!
JSON values. Members keep their order and may repeat a name; `merged` keeps of each name the last
value at the first position.
-/
namespace ClusterAgent

inductive Json
  | null
  | bool (b : Bool)
  | int (i : Int)
  | float (x : Binary64)
  | str (t : WideText)
  | arr (items : List Json)
  | obj (members : List (WideText × Json))
  deriving Repr, BEq, Inhabited

namespace Json

/-- A text without surrogates. -/
def text (s : String) : Json := str (WideText.ofString s)

/-- An object with names in a fixed order. -/
def ofFields (fields : List (String × Json)) : Json :=
  obj (fields.map fun p => (WideText.ofString p.1, p.2))

mutual

/-- Repeated names are merged at every level. -/
def merged : Json → Json
  | arr items => arr (mergedItems items)
  | obj members => obj (Table.ofPairs (mergedMembers members))
  | v => v

def mergedItems : List Json → List Json
  | [] => []
  | v :: rest => merged v :: mergedItems rest

def mergedMembers : List (WideText × Json) → List (WideText × Json)
  | [] => []
  | (k, v) :: rest => (k, merged v) :: mergedMembers rest

end

mutual

/-- How many arrays and objects stand one inside the other. -/
def nesting : Json → Nat
  | arr items => itemsNesting items + 1
  | obj members => membersNesting members + 1
  | _ => 0

def itemsNesting : List Json → Nat
  | [] => 0
  | v :: rest => max (nesting v) (itemsNesting rest)

def membersNesting : List (WideText × Json) → Nat
  | [] => 0
  | (_, v) :: rest => max (nesting v) (membersNesting rest)

end

/-- The value of a member, the last of its name. -/
def member? (members : List (WideText × Json)) (name : String) : Option Json :=
  (members.reverse.find? fun p => p.1 == WideText.ofString name).map (·.2)

end Json
end ClusterAgent
