import ClusterAgent.Json.Printer
import ClusterAgent.Status.Outcome
import ClusterAgent.Text.Numeral

/-!
Status documents: the running jobs as a JSON array, or what went wrong as plain text.
-/
namespace ClusterAgent

namespace StatusDocument

/-- A code point between quotes. Line feeds become line breaks of a page; other control characters
without a short escape have no readable form and are left out. -/
def escapePoint : CodePoint → WideText
  | .char '\\' => "\\\\"
  | .char '"' => "\\\""
  | .char '/' => "\\/"
  | .char '\x08' => "\\b"
  | .char '\t' => "\\t"
  | .char '\n' => "<br>"
  | .char '\x0c' => "\\f"
  | .char '\r' => "\\r"
  | p => if p.toNat < 0x20 then [] else [p]

def escape (t : WideText) : WideText := t.flatMap escapePoint

/-- A member with a text. -/
def textMember (name : String) (value : WideText) : WideText :=
  WideText.ofString ("\"" ++ name ++ "\": \"") ++ escape value ++ [.char '"']

/-- The members of a job; a job without a name has no member for it. -/
def jobMembers (r : JobRecord) : List WideText :=
  [textMember "jobid" r.id] ++ (r.name.map (textMember "jobname")).toList ++
    [textMember "status" r.state.name, ("\"time\": " : WideText) ++ Json.printInt r.timestamp]

/-- Texts with a comma and a space between them. -/
def joinItems (items : List WideText) : WideText := List.intercalate ", " items

def renderJob (r : JobRecord) : WideText :=
  .char '\x7b' :: joinItems (jobMembers r) ++ [.char '\x7d']

def renderJobs (records : List JobRecord) : WideText :=
  .char '[' :: joinItems (records.map renderJob) ++ [.char ']']

def jobs (records : List JobRecord) : StatusDocument where
  statusCode := 200
  body := renderJobs records
  mediaType := "application/json"

def failure (message : WideText) : StatusDocument where
  statusCode := 400
  body := message
  mediaType := "text/plain"

end StatusDocument

namespace Outcome

/-- The document that an outcome is answered with. -/
def document : Outcome → StatusDocument
  | success records => .jobs records
  | timeout m | malformedResponse m | unreachable m => .failure m

/-- Whether the times of an outcome are short enough to be written. -/
def isWritable : Outcome → Bool
  | success records => records.all fun r => Text.isWritable r.timestamp
  | _ => true

/-- The document of an outcome, if it can be written. -/
def rendered (o : Outcome) : Except Text.NumeralError StatusDocument :=
  if o.isWritable then .ok o.document else .error .unwritable

end Outcome

end ClusterAgent
