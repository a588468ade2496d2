import ClusterAgent.Schema.Record

/-!
Jobs of a cluster: what a coordinator reports of a job, and what a status query answers.
-/
namespace ClusterAgent

open Schema

inductive JobState
  | created
  | running
  | failing
  | failed
  | canceling
  | canceled
  | finished
  | restarting
  deriving Repr, DecidableEq

namespace JobState

def name : JobState → String
  | created => "CREATED"
  | running => "RUNNING"
  | failing => "FAILING"
  | failed => "FAILED"
  | canceling => "CANCELING"
  | canceled => "CANCELED"
  | finished => "FINISHED"
  | restarting => "RESTARTING"

def all : List JobState :=
  [created, running, failing, failed, canceling, canceled, finished, restarting]

def check : Datum → Checked JobState := checkNamed (all.map fun s => (s.name, s))

end JobState

/-- A job as the coordinator sees it, with the time at which it entered each state. -/
structure JobSnapshot where
  id : WideText
  name : Option WideText
  state : JobState
  /-- Milliseconds. -/
  timestamps : Table JobState Int
  deriving Repr, DecidableEq

namespace JobSnapshot

/-- When the job entered a state; zero when it is not known. -/
def timestamp (j : JobSnapshot) (state : JobState) : Int :=
  (Table.get? j.timestamps state).getD 0

def check : Datum → Checked JobSnapshot := checkRecord fun entries =>
  (fun id name state timestamps () => JobSnapshot.mk id name state timestamps)
    <$> required entries "job_id" checkText
    <*> optional entries "job_name" none (checkNullable checkText)
    <*> required entries "state" JobState.check
    <*> optional entries "state_timestamps" [] (checkTable JobState.check checkInteger)
    <*> noOtherFields entries ["job_id", "job_name", "state", "state_timestamps"]

instance : Record JobSnapshot where
  name := "JobSnapshot"
  frozen := false
  check := check
  fields j := [("job_id", .text j.id), ("job_name", (j.name.map .text).getD .null),
    ("state", .string j.state.name),
    ("state_timestamps", .record (j.timestamps.map fun p => (p.1.name, .int p.2)))]

end JobSnapshot

/-- A job with its present state and the time of it. -/
structure JobRecord where
  id : WideText
  name : Option WideText
  state : JobState
  /-- Milliseconds. -/
  timestamp : Int
  deriving Repr, DecidableEq

namespace JobRecord

def ofSnapshot (j : JobSnapshot) : JobRecord := ⟨j.id, j.name, j.state, j.timestamp j.state⟩

def check : Datum → Checked JobRecord := checkRecord fun entries =>
  JobRecord.mk <$> required entries "job_id" checkText
    <*> optional entries "job_name" none (checkNullable checkText)
    <*> required entries "state" JobState.check
    <*> required entries "state_timestamp_ms" checkInteger

instance : Record JobRecord where
  name := "JobStatusRecord"
  frozen := true
  check := check
  fields j := [("job_id", .text j.id), ("job_name", (j.name.map .text).getD .null),
    ("state", .string j.state.name), ("state_timestamp_ms", .int j.timestamp)]

end JobRecord
end ClusterAgent
