import ClusterAgent.Status.Job

/-!
Outcomes of a status query, and the documents that they are answered with.
-/
namespace ClusterAgent

open Schema

/-- What came of a query for the running jobs. -/
inductive Outcome
  | success (records : List JobRecord)
  | timeout (message : WideText)
  | malformedResponse (message : WideText)
  | unreachable (message : WideText)
  deriving Repr, DecidableEq

namespace Outcome

/-- The tag that tells the outcomes apart. -/
def kind : Outcome → String
  | success _ => "success"
  | timeout _ => "timeout"
  | malformedResponse _ => "malformed_response"
  | unreachable _ => "unreachable"

def className : Outcome → String
  | success _ => "Success"
  | timeout _ => "Timeout"
  | malformedResponse _ => "MalformedResponse"
  | unreachable _ => "Unreachable"

/-- The outcomes that carry a message. -/
def withMessage : List (String × (WideText → Outcome)) :=
  [("timeout", timeout), ("malformed_response", malformedResponse), ("unreachable", unreachable)]

/-- Checks an outcome of a kind; faults are seen from the kind. -/
def checkKind (kind : String) (entries : List (WideText × Datum)) : Checked Outcome :=
  match withMessage.lookup kind with
  | some make => (make <$> required entries "message" checkText).within (.key kind)
  | none =>
    if kind = "success" then
      (success <$> optional entries "records" [] (checkList .notList JobRecord.check)).within
        (.key kind)
    else Checked.fault .unknownTag

/-- The kind selects the fields. -/
def check : Datum → Checked Outcome
  | .map entries =>
    match Datum.entry? entries "kind" with
    | none => Checked.fault .noTag
    | some (.text t) =>
      match WideText.toString? t with
      | some kind => checkKind kind entries
      | none => Checked.fault .unknownTag
    | some _ => Checked.fault .unknownTag
  | _ => Checked.fault .notVariant

def fields : Outcome → List (String × Datum)
  | success records => [("kind", .string "success"), ("records", .list (records.map toDatum))]
  | timeout m => [("kind", .string "timeout"), ("message", .text m)]
  | malformedResponse m => [("kind", .string "malformed_response"), ("message", .text m)]
  | unreachable m => [("kind", .string "unreachable"), ("message", .text m)]

end Outcome

/-- An answer over HTTP. -/
structure StatusDocument where
  statusCode : Int
  body : WideText
  mediaType : WideText
  deriving Repr, DecidableEq

namespace StatusDocument

def check : Datum → Checked StatusDocument := checkRecord fun entries =>
  StatusDocument.mk <$> required entries "status_code" checkInteger
    <*> required entries "body" checkText <*> required entries "media_type" checkText

instance : Record StatusDocument where
  name := "StatusDocument"
  frozen := false
  check := check
  fields d := [("status_code", .int d.statusCode), ("body", .text d.body),
    ("media_type", .text d.mediaType)]

end StatusDocument
end ClusterAgent
