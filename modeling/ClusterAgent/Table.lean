/-!
Tables: values under keys, in order of first insertion. Inserting under a present key replaces the
value and keeps the place.
-/
namespace ClusterAgent

/-- Keys with their values, each key once. -/
abbrev Table (α β : Type) := List (α × β)

namespace Table

variable {α β : Type} [BEq α]

def get? (t : Table α β) (key : α) : Option β := (t.find? fun p => p.1 == key).map (·.2)

/-- The key that stands in the table stays when an equal one is inserted. -/
def insert (t : Table α β) (key : α) (value : β) : Table α β :=
  match t with
  | [] => [(key, value)]
  | (k, v) :: rest => if k == key then (k, value) :: rest else (k, v) :: insert rest key value

/-- The table of a list of pairs: the last value of a key counts, at the first position. -/
def ofPairs (pairs : List (α × β)) : Table α β := pairs.foldl (fun t p => t.insert p.1 p.2) []

def keys (t : Table α β) : List α := t.map (·.1)

def values (t : Table α β) : List β := t.map (·.2)

def contains (t : Table α β) (key : α) : Bool := (t.get? key).isSome

end Table
end ClusterAgent
