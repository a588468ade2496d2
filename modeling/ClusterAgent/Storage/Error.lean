import ClusterAgent.Storage.FileTree
import ClusterAgent.Storage.ObjectStore
import ClusterAgent.Uri.Basic

/-!
Why storage refuses an operation.
-/
namespace ClusterAgent

def ServiceFault.message : ServiceFault → String
  | rejected code text operation =>
    s!"An error occurred ({code}) when calling the {operation} operation: {text}"
  | unreachable text | internal text | invalid text | io text => text
  | missingField name => Text.quoted name

inductive StorageError
  | os (e : OsError)
  /-- No path holds the null character. -/
  | nullByte
  | sameFile (source target : String)
  | notLocal (path : String)
  | notObject (uri : String)
  | uri (e : UriError)
  | service (f : ServiceFault)
  | noHome
  | unsupportedScheme (scheme uri : String)
  deriving Repr, DecidableEq

def StorageError.message : StorageError → String
  | os e => e.message
  | nullByte => "embedded null byte"
  | sameFile source target =>
    "PosixPath(" ++ Text.quoted source ++ ") and PosixPath(" ++ Text.quoted target ++
      ") are the same file"
  | notLocal path => "Not a local path: " ++ path
  | notObject text => "Not an S3 URI: " ++ text
  | uri e => e.message
  | service f => f.message
  | noHome => "Could not determine home directory."
  | unsupportedScheme scheme text => s!"Unsupported filesystem scheme '{scheme}' in {text}"

end ClusterAgent
