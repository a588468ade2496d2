import ClusterAgent.Proofs.Json.Encoding
import ClusterAgent.Proofs.Status.Job
import ClusterAgent.Proofs.World
import ClusterAgent.Status.Client

/-! A query for the running jobs. The client tells of each job what the coordinator holds of it. -/
namespace ClusterAgent

open Schema

/-! ### The message -/

namespace RunningJobs

theorem toJson_eq (r : RunningJobs) :
    Schema.toJson r = .ofFields [("type", .text typeName),
      ("jobs", .arr (r.jobs.map Schema.toJson))] := by
  have hjobs : Datum.toItems (r.jobs.map toDatum) = r.jobs.map Schema.toJson := by
    rw [Datum.toItems_eq_map, List.map_map]
    rfl
  rw [Schema.toJson, toDatum, Datum.toJson_record]
  simp only [Record.fields, List.map_cons, List.map_nil, Datum.toJson, hjobs]
  rfl

theorem ofJson_toJson (r : RunningJobs) : Datum.ofJson (Schema.toJson r) = toDatum r := by
  have hjobs : ∀ v ∈ r.jobs.map toDatum, Datum.ofJson v.toJson = v :=
    List.forall_mem_map.mpr fun j _ => j.ofJson_toJson
  refine Datum.ofJson_toJson_record ?_
  simp only [Record.fields, List.forall_mem_cons, List.not_mem_nil, false_imp_iff, implies_true,
    and_true]
  exact ⟨rfl, Datum.ofJson_toJson_list hjobs⟩

theorem check_toDatum {r : RunningJobs} (h : ∀ j ∈ r.jobs, Table.Distinct j.timestamps) :
    RunningJobs.check (toDatum r) = .ok r := by
  have hjobs : checkList .notList JobSnapshot.check (.list (r.jobs.map toDatum)) = .ok r.jobs := by
    rw [checkList_eq_ok]
    refine ⟨_, rfl, ?_⟩
    rw [List.forall₂_map_left_iff, List.forall₂_same]
    exact fun j hj => JobSnapshot.check_toDatum (h j hj)
  have hnames : ((Record.fields r).map (·.1)).Nodup := by
    change ["type", "jobs"].Nodup
    decide
  have hentry : ∀ name v, (name, v) ∈ Record.fields r →
      Datum.entry? ((Record.fields r).map fun p => (WideText.ofString p.1, p.2)) name = some v :=
    fun _ _ => Datum.entry?_of_mem hnames
  rw [toDatum, Datum.record]
  unfold RunningJobs.check checkRecord
  simp only [Checked.seq_eq_ok, Checked.map_eq_ok, required_eq_ok, noOtherFields_eq_ok,
    checkLiteral_eq_ok]
  refine ⟨_, (), ⟨_, _, ⟨(), ⟨_, hentry "type" _ (by simp [Record.fields]), rfl⟩, rfl⟩,
    ⟨_, hentry "jobs" _ (by simp [Record.fields]), hjobs⟩, rfl⟩, ?_, rfl⟩
  simp [Record.fields]

theorem readable_toJson {r : RunningJobs}
    (h : ∀ j ∈ r.jobs, j.id.Whole ∧ ∀ name ∈ j.name, WideText.Whole name) (depth : Nat) :
    (Schema.toJson r).Readable true (depth + 4) := by
  have hjobs : (Json.arr (r.jobs.map Schema.toJson)).Readable true (depth + 3) :=
    List.forall_mem_map.mpr fun j hj => j.readable_toJson (h j hj).1 (h j hj).2 depth
  rw [toJson_eq]
  refine Json.readable_ofFields ?_
  simp only [List.forall_mem_cons, List.not_mem_nil, false_imp_iff, implies_true, and_true]
  exact ⟨Json.readable_text _ _ _, hjobs⟩

theorem refused?_toJson_eq_none {d : Json.Dialect} {r : RunningJobs} :
    Json.refused? d (Schema.toJson r) = none ↔
      ∀ j ∈ r.jobs, ∀ p ∈ j.timestamps, d.admits p.2 := by
  rw [toJson_eq, Json.refused?_ofFields_eq_none]
  simp only [List.forall_mem_cons, List.not_mem_nil, false_imp_iff, implies_true, and_true]
  have htype : Json.refused? d (.text typeName) = none := by simp [Json.text, Json.refused?]
  rw [Json.refused?, Json.refusedItem?_eq_none, List.forall_mem_map]
  simp only [htype, true_and, JobSnapshot.refused?_toJson_eq_none]

/-- The message of jobs with texts that can be encoded. A reader takes it, unless it refuses the
length of a time. -/
theorem readStrict_encode {r : RunningJobs}
    (h : ∀ j ∈ r.jobs, j.id.Whole ∧ ∀ name ∈ j.name, WideText.Whole name) :
    ∃ message, Utf8.encodeWide? (Schema.encode r) = some message ∧ Json.readStrict message =
      Json.judged (Json.refused? .strict (Schema.toJson r)) (Schema.toJson r) :=
  Json.readStrict_print .compact (readable_toJson h 196)

end RunningJobs

/-! ### Records of jobs -/

/-- The record tells of a job what is known of it. Its time is the one of the present state, or zero
when there is none. -/
structure JobRecord.Describes (r : JobRecord) (j : JobSnapshot) : Prop where
  id_eq : r.id = j.id
  name_eq : r.name = j.name
  state_eq : r.state = j.state
  known : ∀ time, (j.state, time) ∈ j.timestamps → r.timestamp = time
  unknown : (∀ time, (j.state, time) ∉ j.timestamps) → r.timestamp = 0

theorem JobRecord.describes_ofSnapshot {j : JobSnapshot} (h : Table.Distinct j.timestamps) :
    (JobRecord.ofSnapshot j).Describes j := by
  refine ⟨rfl, rfl, rfl, ?_, ?_⟩
  · intro time htime
    change (Table.get? j.timestamps j.state).getD 0 = time
    rw [Table.get?_of_mem h htime, Option.getD_some]
  · intro hnone
    change (Table.get? j.timestamps j.state).getD 0 = 0
    rw [Table.get?_of_forall_not_mem hnone, Option.getD_none]

/-! ### Queries -/

theorem Outcome.ofReply_of_parse {reply : List UInt8} {r : RunningJobs}
    (h : Schema.parse (α := RunningJobs) reply = .ok r) (depth : Nat) :
    Outcome.ofReply depth reply = .ok (.success (r.jobs.map .ofSnapshot)) := by
  unfold Outcome.ofReply
  rw [h]
  rfl

theorem Outcome.ofReply_of_error {reply : List UInt8} {faults : List Fault}
    (h : Schema.parse (α := RunningJobs) reply = .error faults) (depth : Nat)
    (records : List JobRecord) : Outcome.ofReply depth reply ≠ .ok (.success records) := by
  unfold Outcome.ofReply
  rw [h]
  cases Reply.describe reply depth with
  | error e => exact nofun
  | ok type => exact nofun

namespace StatusClient

theorem call_of_answer (c : StatusClient) {w : World} {reply : List UInt8}
    (hchannel : w.channelFault = none) (hanswer : w.coordinator.answer = .ok reply) :
    c.call.run w = (.ok (.ok reply), { w with
      journal := w.journal ++ [.methodCalled runningJobsMethod request c.timeout]
      coordinator := w.coordinator.countRequest }) := by
  have hcounted : w.coordinator.countRequest.answer = .ok reply := hanswer
  unfold call
  rw [Action.run_bind_of_ok (Action.run_note _ _), Action.run_bind_of_ok (Action.run_get _)]
  dsimp only
  rw [hchannel]
  dsimp only
  rw [Action.run_bind_of_ok (Action.run_modify _ _), Action.run_bind_of_ok (Action.run_get _)]
  dsimp only
  rw [hcounted]
  rfl

theorem query_of_answer (c : StatusClient) {w : World} {reply : List UInt8}
    (hchannel : w.channelFault = none) (hanswer : w.coordinator.answer = .ok reply) :
    (c.query.run w).1 = (Outcome.ofReply w.jsonDepth reply).mapError .nesting := by
  unfold query
  rw [Action.run_bind_of_ok (call_of_answer c hchannel hanswer)]
  dsimp only
  rw [Action.run_bind_of_ok (Action.run_get _)]
  dsimp only
  cases Outcome.ofReply w.jsonDepth reply <;> rfl

/-- What a coordinator says of its jobs reaches the client: one record for each job, in the order of
the jobs. -/
theorem query_encode {jobs : List JobSnapshot} (h : ∀ j ∈ jobs, j.Sendable) :
    ∃ reply, Utf8.encodeWide? (Schema.encode (RunningJobs.mk jobs)) = some reply ∧
      ∀ (c : StatusClient) (w : World), w.channelFault = none →
        w.coordinator.answer = .ok reply → ∃ records,
          (c.query.run w).1 = .ok (.success records) ∧
            List.Forall₂ JobRecord.Describes records jobs := by
  have hwhole : ∀ j ∈ (RunningJobs.mk jobs).jobs,
      j.id.Whole ∧ ∀ name ∈ j.name, WideText.Whole name :=
    fun j hj => ⟨(h j hj).id_whole, (h j hj).name_whole⟩
  have hdistinct : ∀ j ∈ (RunningJobs.mk jobs).jobs, Table.Distinct j.timestamps :=
    fun j hj => (h j hj).distinct
  have hadmits : Json.refused? .strict (Schema.toJson (RunningJobs.mk jobs)) = none :=
    RunningJobs.refused?_toJson_eq_none.mpr fun j hj p hp =>
      (h j hj).short p hp
  obtain ⟨reply, hreply, hread⟩ := RunningJobs.readStrict_encode hwhole
  have hparse : Schema.parse (α := RunningJobs) reply = .ok (RunningJobs.mk jobs) := by
    unfold Schema.parse
    rw [hread, hadmits]
    dsimp only [Json.judged]
    rw [RunningJobs.ofJson_toJson]
    exact RunningJobs.check_toDatum hdistinct
  refine ⟨reply, hreply, ?_⟩
  intro c w hchannel hanswer
  refine ⟨jobs.map .ofSnapshot, ?_, ?_⟩
  · rw [query_of_answer c hchannel hanswer, Outcome.ofReply_of_parse hparse _]
    rfl
  · rw [List.forall₂_map_left_iff, List.forall₂_same]
    exact fun j hj => JobRecord.describes_ofSnapshot (hdistinct j hj)

/-- A world in which a coordinator has these jobs. -/
def coordinatorWorld (jobs : List JobSnapshot) : World where
  workingDirectory := ⟨.root, []⟩
  home := "/"
  user := "user"
  sessionAnswer _ := .error (.internal "")
  coordinator := { jobs }
  boundPort _ := CoordinatorAddress.defaultPort
  clock := .whole 0
  randomNumber n := n

def loopbackClient : StatusClient := ⟨⟨"127.0.0.1", CoordinatorAddress.defaultPort⟩, defaultTimeout⟩

/-- Jobs with a quote in the name, with an empty name, and without a time for the present state. -/
def exampleJobs : List JobSnapshot :=
  [⟨"1", some "\"\n", .running, [(.created, -100), (.running, 250)]⟩, ⟨"2", some "", .failed, []⟩,
    ⟨"2", none, .created, [(.finished, 7)]⟩]

theorem query_exampleJobs :
    (∀ j ∈ exampleJobs, j.Sendable) ∧ ∃ records,
      (loopbackClient.query.run (coordinatorWorld exampleJobs)).1 = .ok (.success records) ∧
        List.Forall₂ JobRecord.Describes records exampleJobs := by
  have hjobs : ∀ j ∈ exampleJobs, j.Sendable := by decide
  obtain ⟨reply, hreply, hquery⟩ := query_encode hjobs
  have hanswer : (coordinatorWorld exampleJobs).coordinator.answer = .ok reply := by
    unfold Coordinator.answer coordinatorWorld
    dsimp only
    rw [hreply]
  exact ⟨hjobs, hquery loopbackClient (coordinatorWorld exampleJobs) rfl hanswer⟩

end StatusClient
end ClusterAgent
