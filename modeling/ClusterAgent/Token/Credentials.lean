import ClusterAgent.MessagePack.Value
import ClusterAgent.Token.Basic

/-!
Credentials: tokens under aliases, in order of first insertion. Adding a token under a present alias
replaces the token and keeps the place.
-/
namespace ClusterAgent

/-- A name for a token. Aliases are told apart as values. -/
structure Alias where
  value : MessagePack.Scalar
  deriving Repr, DecidableEq

namespace Alias

instance (priority := high) equality : BEq Alias := ⟨fun a b => a.value.equals b.value⟩

def ofString (s : String) : Alias := ⟨.text s⟩

end Alias

abbrev Credentials := Table Alias Token

namespace Credentials

def empty : Credentials := []

def add (c : Credentials) (a : Alias) (t : Token) : Credentials := Table.insert c a t

def token? (c : Credentials) (a : Alias) : Option Token := Table.get? c a

def tokens (c : Credentials) : List Token := Table.values c

/-- Adds tokens under their identifiers, one after the other. -/
def addAll (c : Credentials) (ts : List Token) : Credentials :=
  ts.foldl (fun c t => c.add (.ofString t.identifier) t) c

end Credentials
end ClusterAgent
