import ClusterAgent.Json.Value
import ClusterAgent.Text.Utf8

/-!
Data of unknown shape, as it comes from a message or a caller before a schema is checked.
-/
namespace ClusterAgent

inductive Datum
  | null
  | bool (b : Bool)
  | int (i : Int)
  | float (x : Binary64)
  | text (t : WideText)
  | bytes (bs : List UInt8)
  | list (items : List Datum)
  /-- Entries in their order; a message may repeat a name. -/
  | map (entries : List (WideText × Datum))
  /-- A value that no schema accepts. -/
  | other
  deriving Repr, Inhabited

namespace Datum

mutual

def ofJson : Json → Datum
  | .null => null
  | .bool b => bool b
  | .int i => int i
  | .float x => float x
  | .str t => text t
  | .arr items => list (ofItems items)
  | .obj members => map (ofMembers members)

def ofItems : List Json → List Datum
  | [] => []
  | v :: rest => ofJson v :: ofItems rest

def ofMembers : List (WideText × Json) → List (WideText × Datum)
  | [] => []
  | (k, v) :: rest => (k, ofJson v) :: ofMembers rest

end

mutual

/-- Bytes are written as the text that they encode. -/
def toJson : Datum → Json
  | null | other => .null
  | bool b => .bool b
  | int i => .int i
  | float x => .float x
  | text t => .str t
  | bytes bs => .str (WideText.ofChars (Utf8.decodeReplacing bs))
  | list items => .arr (toItems items)
  | map entries => .obj (toMembers entries)

def toItems : List Datum → List Json
  | [] => []
  | v :: rest => toJson v :: toItems rest

def toMembers : List (WideText × Datum) → List (WideText × Json)
  | [] => []
  | (k, v) :: rest => (k, toJson v) :: toMembers rest

end

def string (s : String) : Datum := text (WideText.ofString s)

def record (fields : List (String × Datum)) : Datum :=
  map (fields.map fun p => (WideText.ofString p.1, p.2))

/-- Nothing, false, zero, or empty. -/
def isBlank : Datum → Bool
  | null => true
  | bool b => !b
  | int i => i == 0
  | float x => x.isZero
  | text t => t.isEmpty
  | bytes bs => bs.isEmpty
  | list items => items.isEmpty
  | map entries => entries.isEmpty
  | other => false

/-- Whether a value equals the number zero. -/
def isZero : Datum → Bool
  | bool b => !b
  | int i => i == 0
  | float x => x.isZero
  | _ => false

/-- The value of an entry, the last of its name. -/
def entry? (entries : List (WideText × Datum)) (name : String) : Option Datum :=
  (entries.reverse.find? fun p => p.1 == WideText.ofString name).map (·.2)

end Datum
end ClusterAgent
