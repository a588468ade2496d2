import ClusterAgent.Schema.Record

/-!
Security tokens: a secret with the kind of secret that it is and the service that takes it.
-/
namespace ClusterAgent

structure Token where
  identifier : String
  password : List UInt8
  kind : String
  service : String
  deriving Repr, DecidableEq

namespace Token

open Schema

def check : Datum → Checked Token := checkRecord fun entries =>
  Token.mk <$> required entries "identifier" checkString <*> required entries "password" checkBytes
    <*> required entries "kind" checkString <*> required entries "service" checkString

instance : Record Token where
  name := "Token"
  frozen := false
  check := check
  fields t := [("identifier", .string t.identifier), ("password", .bytes t.password),
    ("kind", .string t.kind), ("service", .string t.service)]

/-- What may be said of a token in public. -/
def describe (t : Token) : String := s!"Kind: {t.kind}, Service: {t.service}"

end Token
end ClusterAgent
