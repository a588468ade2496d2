/-!
The options that a client of a remote service is made with.
-/
namespace ClusterAgent

structure AccessKey where
  id : String
  secret : String
  deriving Repr, DecidableEq

structure ClientOptions where
  service : String
  region : String
  signatureVersion : Option String
  endpoint : Option String
  accessKey : Option AccessKey
  deriving Repr, DecidableEq

namespace ClientOptions

/-- A setting that is missing or empty is not passed on. -/
def nonEmpty (s : Option String) : Option String := s.filter (· != "")

/-- An access key needs both of its parts. -/
def accessKey? (id secret : Option String) : Option AccessKey :=
  match nonEmpty id, nonEmpty secret with
  | some i, some s => some ⟨i, s⟩
  | _, _ => none

def objectStore (region : String) (endpoint keyId keySecret : Option String) : ClientOptions where
  service := "s3"
  region := region
  signatureVersion := some "s3v4"
  endpoint := nonEmpty endpoint
  accessKey := accessKey? keyId keySecret

def tokenService (region : String) (endpoint : Option String) : ClientOptions where
  service := "sts"
  region := region
  signatureVersion := none
  endpoint := nonEmpty endpoint
  accessKey := none

/-- The options by name. -/
def fields (o : ClientOptions) : List (String × String) :=
  [("region_name", o.region), ("service_name", o.service)] ++
    (o.signatureVersion.map fun v => ("signature_version", v)).toList ++
    (o.endpoint.map fun v => ("endpoint_url", v)).toList ++
    (o.accessKey.elim [] fun k =>
      [("aws_access_key_id", k.id), ("aws_secret_access_key", k.secret)])

end ClientOptions
end ClusterAgent
