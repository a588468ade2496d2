import ClusterAgent.Container.Backend
import ClusterAgent.Failure.Basic
import ClusterAgent.Fetched
import ClusterAgent.Settings

/-!
What subcommands find on their host.
-/
namespace ClusterAgent

structure SubcommandHost where
  settings : AgentSettings := {}
  containers : ContainerHost
  /-- The document at a URL, or why it is not fetched. -/
  fetch : String → Except String FetchedDocument
  /-- The directory for temporary files. -/
  temporary : LocalPath
  /-- The body of a document as text, in the character set that the document names, or why it cannot
  be read so. -/
  text : FetchedDocument → Except Failure String := fun d => .ok d.text
  /-- The form in ASCII of a host name in lower case, if it has one. -/
  asciiName : String → Option String := fun _ => none
  /-- Values that nest at most so deep can always be printed. -/
  printDepth : Nat := Json.usualDepth
  /-- Why a value that nests deeper is not printed, if it is not. -/
  overflow? : Json → Option String := fun _ => none

/-- Why a value is not printed, if it is not. -/
def SubcommandHost.unprinted? (host : SubcommandHost) (v : Json) : Option String :=
  if v.nesting ≤ host.printDepth then none else host.overflow? v

end ClusterAgent
