import ClusterAgent.Binary64.Decimal

/-!
Numbers as callers give them: whole, or rounded to a binary fraction. The two kinds are told apart
wherever a number is written.
-/
namespace ClusterAgent

inductive Number
  | whole (n : Int)
  | binary (x : Binary64)
  deriving Repr, DecidableEq

namespace Number

def text : Number → String
  | whole n => toString n
  | binary x => x.toText

def isPositive : Number → Bool
  | whole n => 0 < n
  | binary x => x.isPositive

/-- The integer part of a thousand times the number; a binary product is rounded first. -/
def thousandfold : Number → Except Binary64.NotFinite Int
  | whole n => .ok (n * 1000)
  | binary x => (x.mul (.ofInt 1000)).truncate

end Number
end ClusterAgent
