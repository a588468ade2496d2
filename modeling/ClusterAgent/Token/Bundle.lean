import ClusterAgent.Storage.Files
import ClusterAgent.Token.Service

/-!
Bundles of tokens: those that a service issues for storage paths, and over them those that the user
already holds.
-/
namespace ClusterAgent.Credentials

/-- The tokens of the user's token file. No file is no tokens; a file that is named has to be
there. -/
def held (file : Option String) : Action CredentialError (List Token) := do
  match file.filter (· != "") with
  | none => return []
  | some name =>
    let path := LocalPath.ofText name
    let present : Action StorageError Bool :=
      tryCatch (do let _ ← Files.stat path; return true) fun
        | .os ⟨.nameTooLong, p⟩ => throw (.os ⟨.nameTooLong, p⟩)
        | _ => return false
    if !(← present.mapFailure .storage) then throw (.missingFile name)
    match TokenFile.read (← (Files.read path).mapFailure .storage) with
    | .ok credentials => return credentials.tokens
    | .error e => throw (.document e)

/-- The bytes of the tokens for some paths. A token of the user replaces an issued one with its
identifier. -/
def bundle (service : TokenService) (paths : List String) (userTokens : List Token) :
    Action CredentialError (List UInt8) := do
  let issued ← service.obtain paths
  userTokens.forM fun t =>
    Action.logInfo s!"Adding user token {t.identifier} with {t.describe}"
  match TokenFile.write? ((empty.addAll issued).addAll userTokens) with
  | none => throw .tooLarge
  | some bytes =>
    Action.logDebug s!"Wrote tokens. Credentials buffer length: {bytes.length}"
    return bytes

end ClusterAgent.Credentials
