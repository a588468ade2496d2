import ClusterAgent.Proofs.Json.Ascii
import ClusterAgent.Proofs.Schema.Datum
import ClusterAgent.Proofs.Schema.Record
import ClusterAgent.Storage.Record

/-! Resources as JSON: a resource reads back from its document. -/
namespace ClusterAgent

open Schema

theorem ResourceVisibility.check_name (v : ResourceVisibility) :
    checkNamed named (.string v.name) = .ok v := by
  have hlookup : named.lookup v.name = some v := by
    cases v
    rfl
  exact checkNamed_string hlookup

theorem ResourceType.check_name (t : ResourceType) :
    checkNamed named (.string t.name) = .ok t := by
  have hlookup : named.lookup t.name = some t := by
    cases t
    rfl
  exact checkNamed_string hlookup

namespace Resource

theorem check_toDatum (r : Resource) : Resource.check (toDatum r) = .ok r := by
  have hnames : ((Record.fields r).map (·.1)).Nodup := by
    change ["resource", "size", "timestamp", "visibility", "type"].Nodup
    decide
  have hentry : ∀ p ∈ Record.fields r,
      Datum.entry? ((Record.fields r).map fun p => (WideText.ofString p.1, p.2)) p.1 = some p.2 :=
    fun _ hp => Datum.entry?_of_mem hnames hp
  simp only [Record.fields, List.forall_mem_cons, List.not_mem_nil, false_imp_iff, implies_true,
    and_true] at hentry
  obtain ⟨huri, hsize, htimestamp, hvisibility, htype⟩ := hentry
  have hsize' : checkInteger (.int r.size) = .ok r.size := rfl
  have htimestamp' : checkInteger (.int r.timestamp) = .ok r.timestamp := rfl
  rw [toDatum, Datum.record]
  unfold Resource.check checkRecord
  simp only [Checked.seq_eq_ok, Checked.map_eq_ok, required_eq_ok, optional_eq_ok]
  exact ⟨_, r.type, ⟨_, r.visibility, ⟨_, r.timestamp, ⟨_, r.size,
    ⟨r.uri, ⟨_, huri, checkString_eq_ok.mpr (Or.inl rfl)⟩, rfl⟩, ⟨_, hsize, hsize'⟩, rfl⟩,
    ⟨_, htimestamp, htimestamp'⟩, rfl⟩, Or.inr ⟨_, hvisibility, r.visibility.check_name⟩, rfl⟩,
    Or.inr ⟨_, htype, r.type.check_name⟩, rfl⟩

theorem toJson_eq (r : Resource) : Schema.toJson r = .ofFields [("resource", .text r.uri),
    ("size", .int r.size), ("timestamp", .int r.timestamp),
    ("visibility", .text r.visibility.name), ("type", .text r.type.name)] := by
  rw [Schema.toJson, toDatum, Datum.toJson_record]
  rfl

theorem ofJson_toJson (r : Resource) : Datum.ofJson (Schema.toJson r) = toDatum r := by
  refine Datum.ofJson_toJson_record ?_
  simp only [Record.fields, List.forall_mem_cons, List.not_mem_nil, false_imp_iff, implies_true,
    and_true]
  exact ⟨rfl, rfl, rfl, rfl, rfl⟩

theorem readable_toJson (r : Resource) (depth : Nat) :
    (Schema.toJson r).Readable true (depth + 1) := by
  rw [toJson_eq]
  refine Json.readable_ofFields ?_
  simp only [List.forall_mem_cons, List.not_mem_nil, false_imp_iff, implies_true, and_true]
  exact ⟨Json.readable_text _ _ _, Json.readable_int _ _ _, Json.readable_int _ _ _,
    Json.readable_text _ _ _, Json.readable_text _ _ _⟩

theorem merged_toJson (r : Resource) : (Schema.toJson r).merged = Schema.toJson r := by
  have hnames : ["resource", "size", "timestamp", "visibility", "type"].Nodup := by decide
  rw [toJson_eq]
  refine Json.merged_ofFields hnames ?_
  simp only [List.forall_mem_cons, List.not_mem_nil, false_imp_iff, implies_true, and_true]
  exact ⟨rfl, rfl, rfl, rfl, rfl⟩

theorem refused?_toJson_eq_none {d : Json.Dialect} {r : Resource} :
    Json.refused? d (Schema.toJson r) = none ↔ d.admits r.size ∧ d.admits r.timestamp := by
  rw [toJson_eq, Json.refused?_ofFields_eq_none]
  simp only [List.forall_mem_cons, List.not_mem_nil, false_imp_iff, implies_true, and_true,
    Json.refused?_int_eq_none]
  simp [Json.refused?, Json.text]

end Resource
end ClusterAgent
