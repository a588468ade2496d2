import ClusterAgent.Json.Printer
import ClusterAgent.Schema.Literal
import ClusterAgent.Token.Error
import ClusterAgent.World

/-!
Services that issue tokens for the storage that paths lie in. The session service gives one token
per bucket: it reads all paths first, and then asks for one session after the other.
-/
namespace ClusterAgent

inductive TokenService
  /-- A session per bucket, in a role when one is named. -/
  | sessions (role : Option String) (duration : Int)
  /-- The same tokens for all paths. -/
  | fixed (tokens : List Token)
  /-- No tokens at all. -/
  | failing (fault : ServiceFault)
  deriving Repr

namespace TokenService

/-- Seconds. -/
def defaultDuration : Int := 3600

def tokenKind : String := "S3_DELEGATION_TOKEN"

/-- The policy document that allows everything on one bucket and nothing else. -/
def bucketPolicy (bucket : String) : String :=
  let name := "arn:aws:s3:::" ++ bucket
  Json.printAscii .ascii (.ofFields [
    ("Version", .text "2012-10-17"),
    ("Statement", .arr [.ofFields [
      ("Effect", .text "Allow"),
      ("Action", .text "s3:*"),
      ("Resource", .arr [.text name, .text (name ++ "/*")])]])])

/-- Session names have at most 64 characters. -/
def sessionName (bucket : String) : String := String.ofList (("floe-" ++ bucket).toList.take 64)

def sessionRequest (role : Option String) (duration : Int) (bucket : String) : SessionRequest :=
  match role.filter (· != "") with
  | some role => .assumeRole role (sessionName bucket) (bucketPolicy bucket) duration
  | none => .sessionToken duration

/-- The requests for sessions so far. -/
def requestsIn (journal : List Event) : List SessionRequest :=
  journal.filterMap fun
    | .sessionRequested r => some r
    | _ => none

def requestSession (request : SessionRequest) : Action CredentialError SessionKeys := do
  let w ← get
  Action.note (.sessionRequested request)
  match w.sessionAnswer (requestsIn w.journal).length with
  | .ok keys => return keys
  | .error fault => throw (.service fault)

def requiredKey (name : String) (key : Option Datum) : Except CredentialError Datum :=
  match key with
  | some v => .ok v
  | none => .error (.service (.missingField name))

/-- The secret of a session as a JSON document. -/
def sessionSecret (id secret token : Datum) (expiration : Option Datum) :
    Except CredentialError String :=
  if id.holdsBytes || secret.holdsBytes || token.holdsBytes then .error .notJson
  else .ok (Json.printAscii .ascii (.ofFields [
    ("aws_access_key_id", id.toJson),
    ("aws_secret_access_key", secret.toJson),
    ("aws_session_token", token.toJson),
    ("expiration", .str ((expiration.map Datum.phrase).getD []))]))

/-- The token that a session for a bucket amounts to. -/
def sessionToken (bucket : String) (keys : SessionKeys) : Except CredentialError Token := do
  let id ← requiredKey "AccessKeyId" keys.accessKeyId
  let secret ← requiredKey "SecretAccessKey" keys.secretAccessKey
  let token ← requiredKey "SessionToken" keys.sessionToken
  let password ← sessionSecret id secret token keys.expiration
  match WideText.toString? (WideText.ofString s!"s3:{bucket}:" ++ id.phrase) with
  | none => throw .notUnicode
  | some identifier =>
    return { identifier, password := Utf8.encode password, kind := tokenKind
             service := "s3://" ++ bucket }

/-- The buckets of the `s3` URIs among some paths, each once, after those already found. -/
def bucketsOf (found : List String) : List String → Action CredentialError (List String)
  | [] => pure found
  | path :: rest =>
    match Uri.parse path with
    | .error e => throw (.uri e)
    | .ok uri =>
      if uri.scheme != "s3" then do
        Action.logDebug s!"No delegation token needed for {path}"
        bucketsOf found rest
      else if found.contains uri.authority then bucketsOf found rest
      else bucketsOf (found ++ [uri.authority]) rest

def bucketToken (role : Option String) (duration : Int) (bucket : String) :
    Action CredentialError Token := do
  let keys ← requestSession (sessionRequest role duration bucket)
  let token ← liftM (sessionToken bucket keys)
  Action.logInfo s!"Got delegation token for s3://{bucket}"
  return token

/-- The tokens that let a container access some storage paths. -/
def obtain (service : TokenService) (paths : List String) :
    Action CredentialError (List Token) := do
  Action.note (.tokensRequested paths)
  match service with
  | sessions role duration => (← bucketsOf [] paths).mapM (bucketToken role duration)
  | fixed tokens => return tokens
  | failing fault => throw (.service fault)

end TokenService
end ClusterAgent
