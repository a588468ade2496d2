import ClusterAgent.Proofs.Text.Utf8
import ClusterAgent.Schema.Datum

/-! Records as data and as JSON: a document and its data have the same parts. -/
namespace ClusterAgent.Datum

theorem ofItems_eq_map (items : List Json) : ofItems items = items.map ofJson := by
  induction items with
  | nil => rfl
  | cons v items ih => rw [ofItems, ih, List.map_cons]

theorem ofMembers_eq_map (members : List (WideText × Json)) :
    ofMembers members = members.map fun p => (p.1, ofJson p.2) := by
  induction members with
  | nil => rfl
  | cons p members ih => rw [ofMembers, ih, List.map_cons]

theorem toItems_eq_map (items : List Datum) : toItems items = items.map toJson := by
  induction items with
  | nil => rfl
  | cons v items ih => rw [toItems, ih, List.map_cons]

theorem toMembers_eq_map (entries : List (WideText × Datum)) :
    toMembers entries = entries.map fun p => (p.1, toJson p.2) := by
  induction entries with
  | nil => rfl
  | cons p entries ih => rw [toMembers, ih, List.map_cons]

theorem toJson_record (fields : List (String × Datum)) :
    (record fields).toJson = .ofFields (fields.map fun p => (p.1, p.2.toJson)) := by
  rw [record, toJson, toMembers_eq_map, Json.ofFields, List.map_map, List.map_map]
  rfl

theorem ofJson_ofFields (fields : List (String × Json)) :
    ofJson (.ofFields fields) = record (fields.map fun p => (p.1, ofJson p.2)) := by
  rw [Json.ofFields, ofJson, ofMembers_eq_map, record, List.map_map, List.map_map]
  rfl

/-- A record whose fields pass through JSON as they are does so too. -/
theorem ofJson_toJson_record {fields : List (String × Datum)}
    (h : ∀ p ∈ fields, ofJson p.2.toJson = p.2) :
    ofJson (record fields).toJson = record fields := by
  have hfields : fields.map (fun p => (p.1, ofJson p.2.toJson)) = fields.map id := by
    refine List.map_congr_left fun p hp => ?_
    rw [h p hp]
    rfl
  rw [List.map_id] at hfields
  rw [toJson_record, ofJson_ofFields, List.map_map]
  exact congrArg record hfields

theorem ofJson_toJson_list {items : List Datum} (h : ∀ v ∈ items, ofJson v.toJson = v) :
    ofJson (list items).toJson = list items := by
  have hitems : items.map (fun v => ofJson v.toJson) = items.map id := List.map_congr_left h
  rw [List.map_id] at hitems
  rw [toJson, ofJson, toItems_eq_map, ofItems_eq_map, List.map_map]
  exact congrArg list hitems

/-! ### Values of a document -/

theorem ofJson_eq_null {v : Json} : ofJson v = .null ↔ v = .null := by
  cases v <;> simp [ofJson]

theorem ofJson_eq_text {v : Json} {t : WideText} : ofJson v = .text t ↔ v = .str t := by
  cases v <;> simp [ofJson]

theorem ofJson_ne_bytes (v : Json) (bs : List UInt8) : ofJson v ≠ .bytes bs := by
  cases v <;> simp [ofJson]

theorem ofJson_eq_list {v : Json} {items : List Datum} :
    ofJson v = .list items ↔ ∃ vs, v = .arr vs ∧ vs.map ofJson = items := by
  cases v <;> simp [ofJson, ofItems_eq_map]

theorem ofJson_eq_map {v : Json} {entries : List (WideText × Datum)} :
    ofJson v = .map entries ↔ ∃ members, v = .obj members ∧ ofMembers members = entries := by
  cases v <;> simp [ofJson]

/-- The entries of an object are its members. -/
theorem entry?_ofMembers (members : List (WideText × Json)) (name : String) :
    entry? (ofMembers members) name = (Json.member? members name).map ofJson := by
  unfold entry? Json.member?
  rw [ofMembers_eq_map, ← List.map_reverse, List.find?_map, Option.map_map, Option.map_map]
  rfl

theorem exists_entry?_ofMembers {members : List (WideText × Json)} {name : String}
    {P : Datum → Prop} : (∃ w, entry? (ofMembers members) name = some w ∧ P w) ↔
      ∃ v, Json.member? members name = some v ∧ P (ofJson v) := by
  rw [entry?_ofMembers]
  constructor
  · rintro ⟨w, hw, hP⟩
    obtain ⟨v, hv, rfl⟩ := Option.map_eq_some_iff.mp hw
    exact ⟨v, hv, hP⟩
  · rintro ⟨v, hv, hP⟩
    exact ⟨ofJson v, Option.map_eq_some_iff.mpr ⟨v, hv, rfl⟩, hP⟩

theorem entry?_ofMembers_eq_none {members : List (WideText × Json)} {name : String} :
    entry? (ofMembers members) name = none ↔ Json.member? members name = none := by
  rw [entry?_ofMembers, Option.map_eq_none_iff]

/-! ### Entries -/

/-- A later entry of the same name comes first. -/
theorem entry?_cons (p : WideText × Datum) (entries : List (WideText × Datum)) (name : String) :
    entry? (p :: entries) name =
      ( entry? entries name).or (if p.1 == WideText.ofString name then some p.2 else none) := by
  unfold entry?
  rw [List.reverse_cons, List.find?_append, Option.map_or, List.find?_singleton]
  split <;> rfl

theorem entry?_eq_none {entries : List (WideText × Datum)} {name : String} :
    entry? entries name = none ↔ ∀ p ∈ entries, p.1 ≠ WideText.ofString name := by
  unfold entry?
  simp

/-- A field of a record, whose names are all different, is found under its name. -/
theorem entry?_of_mem {fields : List (String × Datum)} (hnames : (fields.map (·.1)).Nodup)
    {name : String} {v : Datum} (h : (name, v) ∈ fields) :
    entry? (fields.map fun p => (WideText.ofString p.1, p.2)) name = some v := by
  induction fields with
  | nil => cases h
  | cons p fields ih =>
    rw [List.map_cons, List.nodup_cons] at hnames
    rw [List.map_cons, entry?_cons]
    rcases List.mem_cons.mp h with rfl | h
    · have hnone : entry? (fields.map fun p => (WideText.ofString p.1, p.2)) name = none := by
        rw [entry?_eq_none, List.forall_mem_map]
        intro q hq hname
        apply hnames.1
        rw [← WideText.ofString_injective hname]
        exact List.mem_map.mpr ⟨q, hq, rfl⟩
      rw [hnone, Option.none_or, if_pos (beq_self_eq_true _)]
    · rw [ih hnames.2 h, Option.some_or]

end ClusterAgent.Datum
