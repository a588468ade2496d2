import ClusterAgent.Proofs.Json.Document
import ClusterAgent.Proofs.Schema.Datum
import ClusterAgent.Proofs.Schema.Record
import ClusterAgent.Proofs.Table
import ClusterAgent.Status.Job

/-! Jobs as JSON: a job reads back from its document. -/
namespace ClusterAgent

open Schema

theorem JobState.check_name (s : JobState) : JobState.check (.string s.name) = .ok s := by
  have hlookup : (JobState.all.map fun s => (s.name, s)).lookup s.name = some s := by
    cases s <;> rfl
  exact checkNamed_string hlookup

namespace JobSnapshot

/-- The job can be sent: its texts can be encoded, no state has two times, and no time has more
digits than an integer may have. -/
structure Sendable (j : JobSnapshot) : Prop where
  id_whole : j.id.Whole
  name_whole : ∀ name ∈ j.name, WideText.Whole name
  distinct : Table.Distinct j.timestamps
  short : ∀ p ∈ j.timestamps, Text.isWritable p.2

instance (j : JobSnapshot) : Decidable j.Sendable :=
  decidable_of_iff (j.id.Whole ∧ (∀ name ∈ j.name, WideText.Whole name) ∧
      Table.Distinct j.timestamps ∧ ∀ p ∈ j.timestamps, Text.isWritable p.2)
    ⟨fun ⟨hid, hname, hdistinct, hshort⟩ => ⟨hid, hname, hdistinct, hshort⟩,
      fun h => ⟨h.id_whole, h.name_whole, h.distinct, h.short⟩⟩

theorem check_eq_ok {entries : List (WideText × Datum)} {j : JobSnapshot} :
    JobSnapshot.check (.map entries) = .ok j ↔
      (∃ v, Datum.entry? entries "job_id" = some v ∧ checkText v = .ok j.id) ∧
      (Datum.entry? entries "job_name" = none ∧ j.name = none ∨
        ∃ v, Datum.entry? entries "job_name" = some v ∧ checkNullable checkText v = .ok j.name) ∧
      (∃ v, Datum.entry? entries "state" = some v ∧ JobState.check v = .ok j.state) ∧
      (Datum.entry? entries "state_timestamps" = none ∧ j.timestamps = [] ∨
        ∃ v, Datum.entry? entries "state_timestamps" = some v ∧
          checkTable JobState.check checkInteger v = .ok j.timestamps) ∧
      ∀ p ∈ entries, ∃ name ∈ ["job_id", "job_name", "state", "state_timestamps"],
        p.1 = WideText.ofString name := by
  unfold JobSnapshot.check checkRecord
  simp only [Checked.seq_eq_ok, Checked.map_eq_ok, required_eq_ok, optional_eq_ok,
    noOtherFields_eq_ok]
  constructor
  · rintro ⟨_, _, ⟨_, timestamps, ⟨_, state, ⟨_, name, ⟨id, hid, rfl⟩, hname, rfl⟩, hstate, rfl⟩,
      htimestamps, rfl⟩, hother, rfl⟩
    refine ⟨hid, ?_, hstate, ?_, hother⟩
    · exact hname.imp_left (And.imp_right Eq.symm)
    · exact htimestamps.imp_left (And.imp_right Eq.symm)
  · rintro ⟨hid, hname, hstate, htimestamps, hother⟩
    have hname' := hname.imp_left (And.imp_right Eq.symm)
    have htimestamps' := htimestamps.imp_left (And.imp_right Eq.symm)
    exact ⟨_, (), ⟨_, _, ⟨_, _, ⟨_, _, ⟨_, hid, rfl⟩, hname', rfl⟩, hstate, rfl⟩,
      htimestamps', rfl⟩, hother, rfl⟩

theorem toJson_eq (j : JobSnapshot) :
    Schema.toJson j = .ofFields [("job_id", .str j.id),
      ("job_name", (j.name.map Json.str).getD .null), ("state", .text j.state.name),
      ("state_timestamps", .ofFields (j.timestamps.map fun p => (p.1.name, .int p.2)))] := by
  obtain ⟨id, name, state, timestamps⟩ := j
  cases name <;>
    simp [Schema.toJson, toDatum, Record.fields, Datum.toJson_record, Datum.toJson, Datum.string,
      Json.text, List.map_map, Function.comp_def]

theorem ofJson_toJson (j : JobSnapshot) : Datum.ofJson (Schema.toJson j) = toDatum j := by
  have hname : Datum.ofJson ((j.name.map Datum.text).getD .null).toJson =
      (j.name.map Datum.text).getD .null := by cases j.name <;> rfl
  have htimestamps : ∀ p ∈ j.timestamps.map fun p => (p.1.name, Datum.int p.2),
      Datum.ofJson p.2.toJson = p.2 := List.forall_mem_map.mpr fun _ _ => rfl
  refine Datum.ofJson_toJson_record ?_
  simp only [Record.fields, List.forall_mem_cons, List.not_mem_nil, false_imp_iff, implies_true,
    and_true]
  exact ⟨rfl, hname, rfl, Datum.ofJson_toJson_record htimestamps⟩

theorem check_toDatum {j : JobSnapshot} (h : Table.Distinct j.timestamps) :
    JobSnapshot.check (toDatum j) = .ok j := by
  have hname : checkNullable checkText ((j.name.map Datum.text).getD .null) = .ok j.name := by
    rw [checkNullable_eq_ok]
    cases j.name with
    | none => exact Or.inl ⟨rfl, rfl⟩
    | some name => exact Or.inr ⟨nofun, name, checkText_eq_ok.mpr (Or.inl rfl), rfl⟩
  have htimestamps : checkTable JobState.check checkInteger
      (.record (j.timestamps.map fun p => (p.1.name, .int p.2))) = .ok j.timestamps := by
    rw [checkTable_eq_ok]
    refine ⟨_, j.timestamps, rfl, ?_, Table.ofPairs_of_distinct h⟩
    rw [List.map_map, List.forall₂_map_left_iff, List.forall₂_same]
    exact fun p _ => ⟨JobState.check_name p.1, rfl⟩
  have hnames : ((Record.fields j).map (·.1)).Nodup := by
    change ["job_id", "job_name", "state", "state_timestamps"].Nodup
    decide
  have hentry : ∀ name v, (name, v) ∈ Record.fields j →
      Datum.entry? ((Record.fields j).map fun p => (WideText.ofString p.1, p.2)) name = some v :=
    fun _ _ => Datum.entry?_of_mem hnames
  rw [toDatum, Datum.record, check_eq_ok]
  refine ⟨⟨_, hentry "job_id" _ (by simp [Record.fields]), checkText_eq_ok.mpr (Or.inl rfl)⟩,
    Or.inr ⟨_, hentry "job_name" _ (by simp [Record.fields]), hname⟩,
    ⟨_, hentry "state" _ (by simp [Record.fields]), JobState.check_name j.state⟩,
    Or.inr ⟨_, hentry "state_timestamps" _ (by simp [Record.fields]), htimestamps⟩, ?_⟩
  simp [Record.fields]

theorem readable_toJson {j : JobSnapshot} (hid : j.id.Whole)
    (hname : ∀ name ∈ j.name, WideText.Whole name) (depth : Nat) :
    (Schema.toJson j).Readable true (depth + 2) := by
  have hname : ((j.name.map Json.str).getD .null).Readable true (depth + 1) := by
    cases hn : j.name with
    | none => trivial
    | some name => exact fun _ => hname name hn
  have htimestamps : (Json.ofFields (j.timestamps.map fun p => (p.1.name, .int p.2))).Readable true
      (depth + 1) := by
    exact Json.readable_ofFields (List.forall_mem_map.mpr fun p _ => Json.readable_int _ _ _)
  rw [toJson_eq]
  refine Json.readable_ofFields ?_
  simp only [List.forall_mem_cons, List.not_mem_nil, false_imp_iff, implies_true, and_true]
  exact ⟨fun _ => hid, hname, Json.readable_text _ _ _, htimestamps⟩

theorem refused?_toJson_eq_none {d : Json.Dialect} {j : JobSnapshot} :
    Json.refused? d (Schema.toJson j) = none ↔ ∀ p ∈ j.timestamps, d.admits p.2 := by
  have hname : Json.refused? d ((j.name.map Json.str).getD .null) = none := by
    cases j.name <;> simp [Json.refused?]
  rw [toJson_eq, Json.refused?_ofFields_eq_none]
  simp only [List.forall_mem_cons, List.not_mem_nil, false_imp_iff, implies_true, and_true, hname,
    Json.refused?_ofFields_eq_none, List.forall_mem_map, Json.refused?_int_eq_none, true_and]
  simp [Json.refused?, Json.text]

end JobSnapshot
end ClusterAgent
