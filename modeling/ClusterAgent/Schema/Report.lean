import ClusterAgent.Schema.Fault
import ClusterAgent.Schema.Literal

/-!
Reports of records that break a rule across their fields.
-/
namespace ClusterAgent.Schema

/-- A text of more than 50 characters loses its middle. -/
def shortened (s : String) : String :=
  let cs := s.toList
  if cs.length ≤ 50 then s
  else String.ofList (cs.take 25) ++ "..." ++ String.ofList (cs.drop (cs.length - 24))

/-- Where kinds of faults are explained. -/
def explanation (scheme kind : String) : String := s!"{scheme}://errors.pydantic.dev/2.14/v/{kind}"

def reportLine (value : Datum) (fault : Fault) : String :=
  let kind := "value_error"
  let what := fault.kind.explanation?.getD ""
  let more := explanation "https" kind
  s!"\n  {what} [type={kind}, input_value={shortened value.reported}, input_type={value.kind}]\n" ++
    s!"    For further information visit {more}"

/-- The report on a value that was to be a record. -/
def report (record : String) (value : Datum) (faults : List Fault) : String :=
  let count :=
    if faults.length = 1 then "1 validation error" else s!"{faults.length} validation errors"
  s!"{count} for {record}" ++ String.join (faults.map (reportLine value))

end ClusterAgent.Schema
