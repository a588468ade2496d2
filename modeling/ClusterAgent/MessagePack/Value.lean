import ClusterAgent.Binary64.Bits
import ClusterAgent.Table

/-!
Values of MessagePack documents. Two scalars name the same key when they are equal as values: truth
values and numbers are compared exactly across their kinds, and an undefined number equals none.
-/
namespace ClusterAgent.MessagePack

inductive Scalar
  | nil
  | bool (b : Bool)
  | int (i : Int)
  /-- A binary64 number by its bits. -/
  | float (bits : UInt64)
  | text (s : String)
  | bytes (bs : List UInt8)
  /-- Data of an application's own type. -/
  | ext (code : Fin 0x80) (data : List UInt8)
  | timestamp (seconds : Int) (nanoseconds : Fin 1000000000)
  deriving Repr, DecidableEq, Inhabited

/-- The keys that a map may have. -/
inductive Key
  | text (s : String)
  | bytes (bs : List UInt8)
  deriving Repr, DecidableEq

inductive Value
  | scalar (s : Scalar)
  | array (items : List Value)
  | map (entries : List (Key × Value))
  deriving Repr, Inhabited

namespace Scalar

/-- The number that a scalar is equal to. -/
inductive Number
  | finite (q : Rat)
  | infinity (negative : Bool)
  deriving DecidableEq

def number? : Scalar → Option Number
  | bool b => some (.finite b.toNat)
  | int i => some (.finite i)
  | float bits =>
    match Binary64.ofBits64 bits.toNat with
    | .nan => none
    | .infinity negative => some (.infinity negative)
    | x => x.toRat?.map .finite
  | _ => none

/-- Equality of values. -/
def equals (a b : Scalar) : Bool :=
  match a, b with
  | nil, nil => true
  | text s, text t => s == t
  | bytes bs, bytes cs => bs == cs
  | ext c d, ext c' d' => c == c' && d == d'
  | timestamp s n, timestamp s' n' => s == s' && n == n'
  | a, b =>
    match a.number?, b.number? with
    | some x, some y => x == y
    | _, _ => false

end Scalar

def Key.toScalar : Key → Scalar
  | text s => .text s
  | bytes bs => .bytes bs

namespace Value

def text (s : String) : Value := scalar (.text s)

/-- The value of a text key. -/
def entry? (entries : List (Key × Value)) (name : String) : Option Value :=
  Table.get? entries (.text name)

/-- The values that a value is made of: items, keys, characters, bytes as numbers, or the type and
data of an extension. -/
def elements? : Value → Option (List Value)
  | array items => some items
  | map entries => some (entries.map fun p => scalar p.1.toScalar)
  | scalar (.text s) => some (s.toList.map fun c => text (String.singleton c))
  | scalar (.bytes bs) => some (bs.map fun b => scalar (.int b.toNat))
  | scalar (.ext code data) => some [scalar (.int code.val), scalar (.bytes data)]
  | scalar _ => none

end Value
end ClusterAgent.MessagePack
