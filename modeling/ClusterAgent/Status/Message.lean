import ClusterAgent.Status.Job

/-!
The messages of the status protocol: a request without content, and the list of running jobs.
-/
namespace ClusterAgent

open Schema

/-- Asks for the running jobs. -/
structure JobsRequest where
  deriving Repr, DecidableEq

namespace JobsRequest

def typeName : String := "RequestRunningJobs"

def check : Datum → Checked JobsRequest := checkRecord fun entries =>
  (fun () () => JobsRequest.mk) <$> optional entries "type" () (checkLiteral typeName)
    <*> noOtherFields entries ["type"]

instance : Record JobsRequest where
  name := "RequestRunningJobs"
  frozen := false
  check := check
  fields _ := [("type", .string typeName)]

end JobsRequest

structure RunningJobs where
  jobs : List JobSnapshot
  deriving Repr, DecidableEq

namespace RunningJobs

def typeName : String := "RunningJobs"

def check : Datum → Checked RunningJobs := checkRecord fun entries =>
  (fun () jobs () => RunningJobs.mk jobs) <$> required entries "type" (checkLiteral typeName)
    <*> required entries "jobs" (checkList .notList JobSnapshot.check)
    <*> noOtherFields entries ["type", "jobs"]

instance : Record RunningJobs where
  name := "RunningJobs"
  frozen := false
  check := check
  fields r := [("type", .string typeName), ("jobs", .list (r.jobs.map toDatum))]

end RunningJobs
end ClusterAgent
