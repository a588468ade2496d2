import ClusterAgent.Json.Encoding
import ClusterAgent.Storage.Files

/-!
The jobs that a coordinator reports: those of a file, in which the ids are optional, or else one
running example.
-/
namespace ClusterAgent

inductive JobsError
  | storage (e : StorageError)
  | notUtf8
  | document (e : JsonError)
  /-- A document without items, or with an item that is no object. -/
  | notJobs
  | invalid (faults : List Schema.Fault)
  /-- The clock shows no time. -/
  | noTime (e : Binary64.NotFinite)
  deriving Repr

namespace JobsError

/-- The message of an error that has one. -/
def message : JobsError → String
  | storage e => e.message
  | document (.tooManyDigits n) => (Text.NumeralError.tooManyDigits n).message
  | noTime e => e.message
  | _ => ""

end JobsError

/-- The next random number as an identifier of 32 hexadecimal digits. -/
def drawIdentifier {ε : Type} : Action ε String := do
  let w ← get
  set { w with drawn := w.drawn + 1 }
  return String.ofList (Text.hexDigits 32 (w.randomNumber w.drawn))

namespace Coordinator

/-- One job that has been running since now, and was created a second before. -/
def exampleJob : Action JobsError JobSnapshot := do
  match (← get).clock.thousandfold with
  | .error e => throw (.noTime e)
  | .ok now =>
    return {
      id := ← drawIdentifier
      name := some "WordCount Example"
      state := .running
      timestamps := [(.created, now - 1000), (.running, now)] }

/-- The items of a document: of an object its names, and of a text its characters. -/
def itemsOf? : Json → Option (List Json)
  | .arr items => some items
  | .obj members => some (members.map fun p => .str p.1)
  | .str t => some (t.map fun p => .str [p])
  | _ => none

/-- The job that an item describes. An identifier is drawn for every item, and gives way to the
item's own. -/
def jobOf (item : Json) : Action JobsError JobSnapshot := do
  let id ← drawIdentifier
  match item with
  | .obj members =>
    let members := Table.ofPairs ((("job_id" : WideText), Json.text id) :: members)
    match JobSnapshot.check (.ofJson (.obj members)) with
    | .ok job => return job
    | .error faults => throw (.invalid faults)
  | _ => throw .notJobs

/-- Reads the document in a file. A byte-order mark is no part of a document. -/
def readDocument (name : String) : Action JobsError Json := do
  let bytes ← (Files.read (.ofText name)).mapFailure fun
    | .os e => .storage (.os { e with path := some name })
    | e => .storage e
  match Utf8.decode? bytes with
  | none => throw .notUtf8
  | some text =>
    match Json.read (.lenient (← get).jsonDepth) text with
    | .ok document => return document.merged
    | .error e => throw (.document e)

def loadJobs (file : Option String) : Action JobsError (List JobSnapshot) := do
  match file.filter (· != "") with
  | none => return [← exampleJob]
  | some name =>
    match itemsOf? (← readDocument name) with
    | some items => items.mapM jobOf
    | none => throw .notJobs

end Coordinator
end ClusterAgent
