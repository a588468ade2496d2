import ClusterAgent.Schema.Datum

/-!
Temporary sessions: what a session service is asked for, and the keys that it answers with.
-/
namespace ClusterAgent

inductive SessionRequest
  /-- A session in a role, limited by a policy. Durations are in seconds. -/
  | assumeRole (role session policy : String) (duration : Int)
  /-- A session of the caller's own identity. -/
  | sessionToken (duration : Int)
  deriving Repr, DecidableEq

/-- What a request is called. -/
def SessionRequest.operation : SessionRequest → String
  | assumeRole .. => "assume_role"
  | sessionToken _ => "get_session_token"

/-- The parameters of a request by name. -/
def SessionRequest.fields : SessionRequest → List (String × Datum)
  | assumeRole role session policy duration =>
    [("RoleArn", .string role), ("RoleSessionName", .string session), ("Policy", .string policy),
      ("DurationSeconds", .int duration)]
  | sessionToken duration => [("DurationSeconds", .int duration)]

/-- The keys of a session as they were answered; a key that was left out is `none`. -/
structure SessionKeys where
  accessKeyId : Option Datum
  secretAccessKey : Option Datum
  sessionToken : Option Datum
  expiration : Option Datum
  deriving Repr

end ClusterAgent
