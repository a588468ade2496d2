import ClusterAgent.Storage.Error
import ClusterAgent.Token.Storage

/-!
Why credentials are not obtained, read or bundled.
-/
namespace ClusterAgent

inductive CredentialError
  | uri (e : UriError)
  | service (f : ServiceFault)
  /-- A session key that has no JSON form. -/
  | notJson
  /-- An identifier that is no text in UTF-8. -/
  | notUnicode
  /-- A text, a password or the list of tokens is too long for the file format. -/
  | tooLarge
  | storage (e : StorageError)
  | missingFile (path : String)
  | document (e : TokenFile.Error)
  deriving Repr

def CredentialError.message : CredentialError → String
  | uri e => e.message
  | service f => f.message
  | notJson => "Object of type bytes is not JSON serializable"
  | notUnicode => ""
  | tooLarge => "credentials are too large"
  | storage e => e.message
  | missingFile path => s!"Token file {path} does not exist."
  | document e => e.message

end ClusterAgent
