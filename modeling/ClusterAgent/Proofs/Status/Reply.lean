import ClusterAgent.Proofs.Json.Reading
import ClusterAgent.Proofs.Schema.Integer
import ClusterAgent.Proofs.Status.Query

/-! What the client makes of a reply. It reports jobs exactly when the reply is a well-formed list
of them, of which no job may be in doubt; every other reply is one of the wrong type. -/
namespace ClusterAgent

open Schema

/-! ### Related lists -/

section

variable {α β γ : Type} {R : α → β → Prop}

theorem exists_forall₂ {as : List α} (h : ∀ a ∈ as, ∃ b, R a b) : ∃ bs, List.Forall₂ R as bs := by
  induction as with
  | nil => exact ⟨[], .nil⟩
  | cons a as ih =>
    obtain ⟨⟨b, hb⟩, has⟩ := List.forall_mem_cons.mp h
    obtain ⟨bs, hbs⟩ := ih has
    exact ⟨b :: bs, .cons hb hbs⟩

theorem exists_right_of_forall₂ {as : List α} {bs : List β} (h : List.Forall₂ R as bs) {a : α}
    (ha : a ∈ as) : ∃ b ∈ bs, R a b := by
  induction h with
  | nil => cases ha
  | cons hab _ ih =>
    rcases List.mem_cons.mp ha with rfl | ha
    · exact ⟨_, List.mem_cons_self, hab⟩
    · obtain ⟨b, hb, hR⟩ := ih ha
      exact ⟨b, List.mem_cons_of_mem _ hb, hR⟩

theorem exists_forall₂_map {f : β → γ} {as : List α} {cs : List γ} :
    (∃ bs, List.Forall₂ R as bs ∧ bs.map f = cs) ↔
      List.Forall₂ (fun a c => ∃ b, R a b ∧ f b = c) as cs := by
  constructor
  · rintro ⟨bs, hbs, rfl⟩
    rw [List.forall₂_map_right_iff]
    exact hbs.imp fun a b hab => ⟨b, hab, rfl⟩
  · intro h
    induction h with
    | nil => exact ⟨[], .nil, rfl⟩
    | cons hhead _ ih =>
      obtain ⟨b, hb, rfl⟩ := hhead
      obtain ⟨bs, hbs, rfl⟩ := ih
      exact ⟨b :: bs, .cons hb hbs, rfl⟩

/-- Searches for the same find related items, or nothing. -/
theorem rel_find? {f : α → Bool} {g : β → Bool} (hfg : ∀ a b, R a b → f a = g b) {as : List α}
    {bs : List β} (h : List.Forall₂ R as bs) : Option.Rel R (as.find? f) (bs.find? g) := by
  induction h with
  | nil => exact .none
  | @cons a b as bs hab _ ih =>
    rw [List.find?_cons, List.find?_cons, hfg a b hab]
    cases g b with
    | true => exact .some hab
    | false => exact ih

end

/-! ### Jobs in a document -/

theorem JobState.name_injective {s s' : JobState} (h : s.name = s'.name) : s = s' := by
  have hs := JobState.check_name s
  rw [h, JobState.check_name] at hs
  exact (Except.ok.inj hs).symm

theorem JobState.lookup_eq_some_iff {name : String} {s : JobState} :
    (JobState.all.map fun s => (s.name, s)).lookup name = some s ↔ name = s.name := by
  constructor
  · intro h
    obtain ⟨before, after, hall, -⟩ := List.lookup_eq_some_iff.mp h
    have hmem : (name, s) ∈ JobState.all.map fun s => (s.name, s) := by simp [hall]
    obtain ⟨s', -, hs'⟩ := List.mem_map.mp hmem
    obtain ⟨rfl, rfl⟩ := Prod.mk.inj hs'
    rfl
  · rintro rfl
    cases s <;> rfl

theorem JobState.check_text {t : WideText} {s : JobState} :
    JobState.check (.text t) = .ok s ↔ t = s.name := by
  constructor
  · intro h
    unfold JobState.check checkNamed at h
    dsimp only at h
    split at h
    · next s' hlookup =>
      obtain ⟨name, hname, hlookup⟩ := Option.bind_eq_some_iff.mp hlookup
      obtain rfl := Checked.pure_eq_ok.mp h
      rw [← JobState.lookup_eq_some_iff.mp hlookup]
      exact WideText.toString?_eq_some_iff.mp hname
    · exact absurd h Checked.fault_ne_ok
  · rintro rfl
    exact JobState.check_name s

/-- No other value of a document names a state. -/
theorem JobState.check_ofJson {v : Json} {s : JobState} :
    JobState.check (.ofJson v) = .ok s ↔ v = .text s.name := by
  cases v with
  | str t => rw [Datum.ofJson, JobState.check_text, Json.text, Json.str.injEq]
  | _ =>
    simp only [Json.text, reduceCtorEq, iff_false]
    exact Checked.fault_ne_ok

/-- What a document tells of the time at which a job came to a state: zero when it has no such time.
All times have to be integers, and all their names those of states. -/
structure TimesTell (times : List (WideText × Json)) (state : JobState) (time : Int) : Prop where
  integers : ∀ p ∈ times, ∃ (s : JobState) (i : Int), p.1 = WideText.ofString s.name ∧
    toInteger (.ofJson p.2) = .ok i
  known : ∀ v, Json.member? times state.name = some v → toInteger (.ofJson v) = .ok time
  unknown : Json.member? times state.name = none → time = 0

/-- The members of an object tell of a job. Of members with one name the last counts. -/
structure MembersTell (members : List (WideText × Json)) (r : JobRecord) : Prop where
  id : Json.member? members "job_id" = some (.str r.id)
  name : Json.member? members "job_name" = r.name.map .str ∨
    Json.member? members "job_name" = some .null ∧ r.name = none
  state : Json.member? members "state" = some (.text r.state.name)
  times : Json.member? members "state_timestamps" = none ∧ r.timestamp = 0 ∨
    ∃ times, Json.member? members "state_timestamps" = some (.obj times) ∧
      TimesTell times r.state r.timestamp
  noOther : ∀ p ∈ members, ∃ name ∈ ["job_id", "job_name", "state", "state_timestamps"],
    p.1 = WideText.ofString name

theorem checkText_ofJson {v : Json} {t : WideText} :
    checkText (.ofJson v) = .ok t ↔ v = .str t := by
  rw [checkText_eq_ok, Datum.ofJson_eq_text]
  constructor
  · rintro (h | ⟨s, -, h⟩)
    · exact h
    · exact absurd h (Datum.ofJson_ne_bytes v _)
  · exact Or.inl

theorem checkNullable_checkText_ofJson {v : Json} {name : Option WideText} :
    checkNullable checkText (.ofJson v) = .ok name ↔
      v = .null ∧ name = none ∨ ∃ t, v = .str t ∧ name = some t := by
  rw [checkNullable_eq_ok, Datum.ofJson_eq_null]
  simp only [ne_eq, Datum.ofJson_eq_null, checkText_ofJson]
  constructor
  · rintro (h | ⟨-, h⟩)
    · exact Or.inl h
    · exact Or.inr h
  · rintro (h | ⟨t, rfl, rfl⟩)
    · exact Or.inl h
    · exact Or.inr ⟨nofun, t, rfl, rfl⟩

theorem checkInteger_eq_ok {v : Datum} {i : Int} :
    checkInteger v = .ok i ↔ toInteger v = .ok i := by
  unfold checkInteger
  split
  · next h => simp [Checked.pure_eq_ok, h]
  · next h => simp [Checked.fault_ne_ok, h]

theorem TimesTell.unique {times : List (WideText × Json)} {state : JobState} {time time' : Int}
    (h : TimesTell times state time) (h' : TimesTell times state time') : time = time' := by
  cases hv : Json.member? times state.name with
  | none => rw [h.unknown hv, h'.unknown hv]
  | some v =>
    have hsame := (h.known v hv).symm.trans (h'.known v hv)
    exact Except.ok.inj hsame

/-- A name of a state with an integer. -/
def IsTime (p : WideText × Json) (q : JobState × Int) : Prop :=
  p.1 = WideText.ofString q.1.name ∧ toInteger (.ofJson p.2) = .ok q.2

/-- The table of times says of a state what the document says of it. -/
theorem timesTell_ofPairs {times : List (WideText × Json)} {pairs : List (JobState × Int)}
    (h : List.Forall₂ IsTime times pairs) (state : JobState) :
    TimesTell times state ((Table.get? (Table.ofPairs pairs) state).getD 0) := by
  have hkey : ∀ p q, IsTime p q → (p.1 == WideText.ofString state.name) = (q.1 == state) := by
    rintro p q ⟨hp, -⟩
    rw [hp, WideText.ofString_beq, Bool.eq_iff_iff, beq_iff_eq, beq_iff_eq]
    exact ⟨JobState.name_injective, congrArg JobState.name⟩
  have hfind := rel_find? hkey (List.forall₂_reverse_iff.mpr h)
  rw [Table.get?_ofPairs]
  refine ⟨fun p hp => ?_, fun v hv => ?_, fun hnone => ?_⟩
  · obtain ⟨q, -, hq⟩ := exists_right_of_forall₂ h hp
    exact ⟨q.1, q.2, hq⟩
  · obtain ⟨p, hp, rfl⟩ := Option.map_eq_some_iff.mp hv
    rw [hp] at hfind
    cases hq : pairs.reverse.find? fun q => q.1 == state with
    | none =>
      rw [hq] at hfind
      cases hfind
    | some q =>
      rw [hq] at hfind
      cases hfind with
      | some hpq => exact hpq.2
  · rw [Json.member?, Option.map_eq_none_iff] at hnone
    rw [hnone] at hfind
    cases hq : pairs.reverse.find? fun q => q.1 == state with
    | none => rfl
    | some q =>
      rw [hq] at hfind
      cases hfind

theorem checkTable_ofJson {v : Json} {state : JobState} {time : Int} :
    (∃ t, checkTable JobState.check checkInteger (.ofJson v) = .ok t ∧
        (Table.get? t state).getD 0 = time) ↔
      ∃ times, v = .obj times ∧ TimesTell times state time := by
  have hpairs : ∀ (times : List (WideText × Json)) (pairs : List (JobState × Int)),
      List.Forall₂ (fun p q => JobState.check (.text p.1) = .ok q.1 ∧ checkInteger p.2 = .ok q.2)
        (Datum.ofMembers times) pairs ↔ List.Forall₂ IsTime times pairs := by
    intro times pairs
    rw [Datum.ofMembers_eq_map, List.forall₂_map_left_iff]
    simp only [JobState.check_text, checkInteger_eq_ok]
    rfl
  constructor
  · rintro ⟨t, ht, rfl⟩
    obtain ⟨entries, pairs, hv, hchecked, rfl⟩ := checkTable_eq_ok.mp ht
    obtain ⟨times, rfl, rfl⟩ := Datum.ofJson_eq_map.mp hv
    exact ⟨times, rfl, timesTell_ofPairs ((hpairs times pairs).mp hchecked) state⟩
  · rintro ⟨times, rfl, htimes⟩
    have hexists : ∀ p ∈ times, ∃ q, IsTime p q := by
      intro p hp
      obtain ⟨s, i, hname, hvalue⟩ := htimes.integers p hp
      exact ⟨(s, i), hname, hvalue⟩
    obtain ⟨pairs, htells⟩ := exists_forall₂ hexists
    refine ⟨Table.ofPairs pairs, ?_, (timesTell_ofPairs htells state).unique htimes⟩
    exact checkTable_eq_ok.mpr ⟨_, pairs, rfl, (hpairs times pairs).mpr htells, rfl⟩

theorem checkRecord_ofJson {α : Type} {check : List (WideText × Datum) → Checked α} {v : Json}
    {a : α} : checkRecord check (.ofJson v) = .ok a ↔
      ∃ members, v = .obj members ∧ check (Datum.ofMembers members) = .ok a := by
  cases v with
  | obj members => simp [checkRecord, Datum.ofJson]
  | _ =>
    simp only [reduceCtorEq, false_and, exists_false, iff_false]
    exact Checked.fault_ne_ok

theorem noOther_ofMembers {members : List (WideText × Json)} {known : List String} :
    (∀ p ∈ Datum.ofMembers members, ∃ name ∈ known, p.1 = WideText.ofString name) ↔
      ∀ p ∈ members, ∃ name ∈ known, p.1 = WideText.ofString name := by
  rw [Datum.ofMembers_eq_map, List.forall_mem_map]

/-- A name may be left out, or be null. -/
theorem memberName_iff {members : List (WideText × Json)} {name : Option WideText} :
    (Json.member? members "job_name" = none ∧ name = none ∨
        ∃ v, Json.member? members "job_name" = some v ∧
          (v = .null ∧ name = none ∨ ∃ t, v = .str t ∧ name = some t)) ↔
      Json.member? members "job_name" = name.map .str ∨
        Json.member? members "job_name" = some .null ∧ name = none := by
  constructor
  · rintro (⟨hmember, rfl⟩ | ⟨v, hmember, ⟨rfl, rfl⟩ | ⟨t, rfl, rfl⟩⟩)
    · exact Or.inl hmember
    · exact Or.inr ⟨hmember, rfl⟩
    · exact Or.inl hmember
  · rintro (hmember | ⟨hmember, rfl⟩)
    · cases name with
      | none => exact Or.inl ⟨hmember, rfl⟩
      | some t => exact Or.inr ⟨.str t, hmember, Or.inr ⟨t, rfl, rfl⟩⟩
    · exact Or.inr ⟨.null, hmember, Or.inl ⟨rfl, rfl⟩⟩

/-- The times may be left out. -/
theorem memberTimes_iff {members : List (WideText × Json)} {state : JobState} {time : Int} :
    (∃ t, (Json.member? members "state_timestamps" = none ∧ t = [] ∨
          ∃ v, Json.member? members "state_timestamps" = some v ∧
            checkTable JobState.check checkInteger (.ofJson v) = .ok t) ∧
        (Table.get? t state).getD 0 = time) ↔
      Json.member? members "state_timestamps" = none ∧ time = 0 ∨
        ∃ times, Json.member? members "state_timestamps" = some (.obj times) ∧
          TimesTell times state time := by
  constructor
  · rintro ⟨t, ⟨hmember, rfl⟩ | ⟨v, hmember, ht⟩, htime⟩
    · exact Or.inl ⟨hmember, htime.symm⟩
    · obtain ⟨times, rfl, htell⟩ := checkTable_ofJson.mp ⟨t, ht, htime⟩
      exact Or.inr ⟨times, hmember, htell⟩
  · rintro (⟨hmember, rfl⟩ | ⟨times, hmember, htell⟩)
    · exact ⟨[], Or.inl ⟨hmember, rfl⟩, rfl⟩
    · obtain ⟨t, ht, htime⟩ := checkTable_ofJson.mpr ⟨times, rfl, htell⟩
      exact ⟨t, Or.inr ⟨.obj times, hmember, ht⟩, htime⟩

theorem JobSnapshot.check_ofMembers {members : List (WideText × Json)} {r : JobRecord} :
    (∃ j, JobSnapshot.check (.map (Datum.ofMembers members)) = .ok j ∧
        JobRecord.ofSnapshot j = r) ↔ MembersTell members r := by
  simp only [JobSnapshot.check_eq_ok, Datum.exists_entry?_ofMembers,
    Datum.entry?_ofMembers_eq_none, noOther_ofMembers, checkText_ofJson,
    checkNullable_checkText_ofJson, JobState.check_ofJson]
  constructor
  · rintro ⟨j, ⟨⟨v, hid, rfl⟩, hname, ⟨s, hstate, rfl⟩, htimes, hother⟩, rfl⟩
    exact ⟨hid, memberName_iff.mp hname, hstate, memberTimes_iff.mp ⟨j.timestamps, htimes, rfl⟩,
      hother⟩
  · rintro ⟨hid, hname, hstate, htimes, hother⟩
    obtain ⟨t, ht, htime⟩ := memberTimes_iff.mpr htimes
    refine ⟨⟨r.id, r.name, r.state, t⟩,
      ⟨⟨_, hid, rfl⟩, memberName_iff.mpr hname, ⟨_, hstate, rfl⟩, ht, hother⟩, ?_⟩
    change JobRecord.mk r.id r.name r.state ((Table.get? t r.state).getD 0) = r
    rw [htime]

/-- A value passes for a job exactly when it is an object whose members tell of one. -/
theorem JobSnapshot.check_ofJson {v : Json} {r : JobRecord} :
    (∃ j, JobSnapshot.check (.ofJson v) = .ok j ∧ JobRecord.ofSnapshot j = r) ↔
      ∃ members, v = .obj members ∧ MembersTell members r := by
  have hobject : ∀ j, JobSnapshot.check (.ofJson v) = .ok j ↔
      ∃ members, v = .obj members ∧ JobSnapshot.check (.map (Datum.ofMembers members)) = .ok j :=
    fun j => checkRecord_ofJson
  simp only [hobject]
  constructor
  · rintro ⟨j, ⟨members, hv, hj⟩, hr⟩
    exact ⟨members, hv, JobSnapshot.check_ofMembers.mp ⟨j, hj, hr⟩⟩
  · rintro ⟨members, hv, htell⟩
    obtain ⟨j, hj, hr⟩ := JobSnapshot.check_ofMembers.mpr htell
    exact ⟨j, ⟨members, hv, hj⟩, hr⟩

/-! ### Replies -/

/-- The reply is an object of the right type whose jobs are told of one by one, in the order of the
records. -/
def Reply.ListsJobs (reply : List UInt8) (records : List JobRecord) : Prop :=
  ∃ members items, Json.readStrict reply = .ok (.obj members) ∧
    (∀ p ∈ members, ∃ name ∈ ["type", "jobs"], p.1 = WideText.ofString name) ∧
    Json.member? members "type" = some (.text RunningJobs.typeName) ∧
    Json.member? members "jobs" = some (.arr items) ∧
    List.Forall₂ (fun v r => ∃ job, v = .obj job ∧ MembersTell job r) items records

theorem checkList_ofJson {v : Json} {records : List JobRecord} :
    (∃ jobs, checkList .notList JobSnapshot.check (.ofJson v) = .ok jobs ∧
        jobs.map JobRecord.ofSnapshot = records) ↔
      ∃ items, v = .arr items ∧
        List.Forall₂ (fun v r => ∃ job, v = .obj job ∧ MembersTell job r) items records := by
  simp only [← JobSnapshot.check_ofJson, ← exists_forall₂_map, checkList_eq_ok,
    Datum.ofJson_eq_list]
  constructor
  · rintro ⟨jobs, ⟨_, ⟨items, rfl, rfl⟩, hjobs⟩, hrecords⟩
    exact ⟨items, rfl, jobs, List.forall₂_map_left_iff.mp hjobs, hrecords⟩
  · rintro ⟨items, rfl, jobs, hjobs, hrecords⟩
    exact ⟨jobs, ⟨_, ⟨items, rfl, rfl⟩, List.forall₂_map_left_iff.mpr hjobs⟩, hrecords⟩

theorem RunningJobs.check_eq_ok {entries : List (WideText × Datum)} {r : RunningJobs} :
    RunningJobs.check (.map entries) = .ok r ↔
      Datum.entry? entries "type" = some (.string typeName) ∧
      (∃ v, Datum.entry? entries "jobs" = some v ∧
        checkList .notList JobSnapshot.check v = .ok r.jobs) ∧
      ∀ p ∈ entries, ∃ name ∈ ["type", "jobs"], p.1 = WideText.ofString name := by
  unfold RunningJobs.check checkRecord
  simp only [Checked.seq_eq_ok, Checked.map_eq_ok, required_eq_ok, checkLiteral_eq_ok,
    noOtherFields_eq_ok]
  constructor
  · rintro ⟨_, _, ⟨_, jobs, ⟨_, ⟨_, htype, rfl⟩, rfl⟩, hjobs, rfl⟩, hother, rfl⟩
    exact ⟨htype, hjobs, hother⟩
  · rintro ⟨htype, hjobs, hother⟩
    exact ⟨_, (), ⟨_, _, ⟨(), ⟨_, htype, rfl⟩, rfl⟩, hjobs, rfl⟩, hother, rfl⟩

theorem Reply.parse_eq_ok_iff {reply : List UInt8} {records : List JobRecord} :
    (∃ r, Schema.parse (α := RunningJobs) reply = .ok r ∧
        r.jobs.map JobRecord.ofSnapshot = records) ↔ Reply.ListsJobs reply records := by
  constructor
  · rintro ⟨r, hparse, rfl⟩
    unfold Schema.parse at hparse
    cases hread : Json.readStrict reply with
    | error e =>
      rw [hread] at hparse
      exact absurd hparse Checked.fault_ne_ok
    | ok v =>
      rw [hread] at hparse
      obtain ⟨members, rfl, hmembers⟩ := checkRecord_ofJson.mp hparse
      obtain ⟨htype, hjobs, hother⟩ := RunningJobs.check_eq_ok.mp hmembers
      rw [Datum.entry?_ofMembers, Option.map_eq_some_iff] at htype
      obtain ⟨t, ht, htype⟩ := htype
      obtain rfl := Datum.ofJson_eq_text.mp htype
      obtain ⟨u, hu, hlist⟩ := Datum.exists_entry?_ofMembers.mp hjobs
      obtain ⟨items, rfl, htell⟩ := checkList_ofJson.mp ⟨r.jobs, hlist, rfl⟩
      exact ⟨members, items, hread, noOther_ofMembers.mp hother, ht, hu, htell⟩
  · rintro ⟨members, items, hread, hother, htype, hjobs, htell⟩
    obtain ⟨jobs, hlist, hrecords⟩ := checkList_ofJson.mpr ⟨items, rfl, htell⟩
    have htype : Datum.entry? (Datum.ofMembers members) "type" =
        some (.string RunningJobs.typeName) := by
      rw [Datum.entry?_ofMembers, htype]
      rfl
    have hcheck : RunningJobs.check (.map (Datum.ofMembers members)) = .ok ⟨jobs⟩ :=
      RunningJobs.check_eq_ok.mpr ⟨htype, Datum.exists_entry?_ofMembers.mpr ⟨_, hjobs, hlist⟩,
        noOther_ofMembers.mpr hother⟩
    refine ⟨⟨jobs⟩, ?_, hrecords⟩
    unfold Schema.parse
    rw [hread]
    exact hcheck

section

variable {depth : Nat} {members : List (WideText × Json)}

theorem Json.Producible.of_member? (h : (Json.obj members).Producible depth) {name : String}
    {v : Json} (hv : Json.member? members name = some v) : ∃ depth', v.Producible depth' := by
  obtain ⟨p, hp, rfl⟩ := Option.map_eq_some_iff.mp hv
  cases depth with
  | zero => exact h.elim
  | succ depth => exact ⟨depth, h p (List.mem_reverse.mp (List.mem_of_find?_eq_some hp))⟩

theorem MembersTell.isWritable {r : JobRecord} (h : MembersTell members r)
    (hmembers : (Json.obj members).Producible depth) : Text.isWritable r.timestamp := by
  rcases h.times with ⟨-, hzero⟩ | ⟨times, htimes, htell⟩
  · rw [hzero]
    decide
  · obtain ⟨_, hobject⟩ := hmembers.of_member? htimes
    cases hv : Json.member? times r.state.name with
    | none =>
      rw [htell.unknown hv]
      decide
    | some v =>
      obtain ⟨_, hvalue⟩ := hobject.of_member? hv
      exact isWritable_of_toInteger hvalue (htell.known v hv)

end

/-- Every time that a reply tells of can be written. -/
theorem Reply.ListsJobs.isWritable {reply : List UInt8} {records : List JobRecord}
    (h : ListsJobs reply records) : ∀ r ∈ records, Text.isWritable r.timestamp := by
  obtain ⟨members, items, hread, -, -, hjobs, htell⟩ := h
  obtain ⟨depth, hitems⟩ := (Json.producible_of_readStrict hread).of_member? hjobs
  intro r hr
  obtain ⟨v, hv, job, rfl, hjob⟩ := exists_right_of_forall₂ htell.flip hr
  cases depth with
  | zero => exact hitems.elim
  | succ depth => exact hjob.isWritable (hitems _ hv)

theorem Outcome.ofReply_eq_success_iff {depth : Nat} {reply : List UInt8}
    {records : List JobRecord} :
    Outcome.ofReply depth reply = .ok (.success records) ↔ Reply.ListsJobs reply records := by
  rw [← Reply.parse_eq_ok_iff]
  constructor
  · intro h
    cases hparse : Schema.parse (α := RunningJobs) reply with
    | error faults => exact absurd h (Outcome.ofReply_of_error hparse depth records)
    | ok r =>
      rw [Outcome.ofReply_of_parse hparse depth] at h
      exact ⟨r, rfl, Outcome.success.inj (Except.ok.inj h)⟩
  · rintro ⟨r, hparse, rfl⟩
    exact Outcome.ofReply_of_parse hparse depth

/-- The world in which the coordinator answers with these bytes. -/
def World.replying (w : World) (reply : List UInt8) : World :=
  { w with channelFault := none, coordinator := { w.coordinator with reply := some reply } }

namespace StatusClient

theorem query_of_fault (c : StatusClient) {w : World} {fault : RpcFault}
    (h : w.channelFault = some fault) : (c.query.run w).1 = .ok (c.faultOutcome fault) := by
  have hcall : c.call.run w = (.ok (.error fault), { w with
      journal := w.journal ++ [.methodCalled runningJobsMethod request c.timeout] }) := by
    unfold call
    rw [Action.run_bind_of_ok (Action.run_note _ _), Action.run_bind_of_ok (Action.run_get _)]
    dsimp only
    rw [h]
    rfl
  unfold query
  rw [Action.run_bind_of_ok hcall]
  dsimp only
  unfold logFault
  split <;> rfl

theorem query_of_encodingError (c : StatusClient) {w : World} {e : EncodingError}
    (hchannel : w.channelFault = none) (hanswer : w.coordinator.answer = .error e) :
    (c.query.run w).1 = .error (.encoding e) := by
  have hcounted : w.coordinator.countRequest.answer = .error e := hanswer
  have hcall : c.call.run w = (.error (.encoding e), { w with
      journal := w.journal ++ [.methodCalled runningJobsMethod request c.timeout]
      coordinator := w.coordinator.countRequest }) := by
    unfold call
    rw [Action.run_bind_of_ok (Action.run_note _ _), Action.run_bind_of_ok (Action.run_get _)]
    dsimp only
    rw [hchannel]
    dsimp only
    rw [Action.run_bind_of_ok (Action.run_modify _ _), Action.run_bind_of_ok (Action.run_get _)]
    dsimp only
    rw [hcounted]
    rfl
  unfold query
  rw [Action.run_bind_of_error hcall]

/-- What the client makes of a reply depends only on how deep documents may nest. -/
theorem query_replying (c : StatusClient) (w : World) (reply : List UInt8) :
    (c.query.run (w.replying reply)).1 = (Outcome.ofReply w.jsonDepth reply).mapError .nesting :=
  query_of_answer c rfl rfl

theorem faultOutcome_ne_success (c : StatusClient) (fault : RpcFault) (records : List JobRecord) :
    c.faultOutcome fault ≠ .success records := by
  unfold faultOutcome
  split <;> exact nofun

/-- A fault of the channel, an answer that the coordinator cannot write, or a reply. -/
theorem query_cases (c : StatusClient) (w : World) :
    (∃ fault, w.channelFault = some fault ∧ (c.query.run w).1 = .ok (c.faultOutcome fault)) ∨
      w.channelFault = none ∧
        ((∃ e, w.coordinator.answer = .error e ∧ (c.query.run w).1 = .error (.encoding e)) ∨
          ∃ reply, w.coordinator.answer = .ok reply ∧
            (c.query.run w).1 = (Outcome.ofReply w.jsonDepth reply).mapError .nesting) := by
  cases hchannel : w.channelFault with
  | some fault => exact Or.inl ⟨fault, rfl, c.query_of_fault hchannel⟩
  | none =>
    right
    refine ⟨rfl, ?_⟩
    cases hanswer : w.coordinator.answer with
    | error e => exact Or.inl ⟨e, rfl, c.query_of_encodingError hchannel hanswer⟩
    | ok reply => exact Or.inr ⟨reply, rfl, c.query_of_answer hchannel hanswer⟩

theorem exists_reply_of_success (c : StatusClient) {w : World} {records : List JobRecord}
    (h : (c.query.run w).1 = .ok (.success records)) : w.channelFault = none ∧
      ∃ reply, w.coordinator.answer = .ok reply ∧ Reply.ListsJobs reply records := by
  obtain ⟨fault, -, hquery⟩ | ⟨hchannel, ⟨e, -, hquery⟩ | ⟨reply, hanswer, hquery⟩⟩ :=
    c.query_cases w
  · rw [hquery] at h
    exact absurd (Except.ok.inj h) (c.faultOutcome_ne_success fault records)
  · rw [hquery] at h
    cases h
  · rw [hquery] at h
    have hsuccess : Outcome.ofReply w.jsonDepth reply = .ok (.success records) := by
      cases hreply : Outcome.ofReply w.jsonDepth reply with
      | error e =>
        rw [hreply] at h
        cases h
      | ok outcome =>
        rw [hreply] at h
        obtain rfl := Except.ok.inj h
        rfl
    exact ⟨hchannel, reply, hanswer, Outcome.ofReply_eq_success_iff.mp hsuccess⟩

/-- A query is a success exactly when the call is answered with a well-formed list of jobs, and then
there is one record for every job, in the order of the jobs. -/
theorem query_eq_success_iff (c : StatusClient) (w : World) (records : List JobRecord) :
    (c.query.run w).1 = .ok (.success records) ↔ w.channelFault = none ∧
      ∃ reply, w.coordinator.answer = .ok reply ∧ Reply.ListsJobs reply records := by
  constructor
  · exact c.exists_reply_of_success
  · rintro ⟨hchannel, reply, hanswer, hjobs⟩
    rw [c.query_of_answer hchannel hanswer, Outcome.ofReply_eq_success_iff.mpr hjobs]
    rfl

end StatusClient

/-! ### Foreign replies -/

theorem Outcome.ofReply_of_foreign {reply : List UInt8}
    (h : ∀ records, ¬ Reply.ListsJobs reply records) (depth : Nat) :
    Outcome.ofReply depth reply = (Reply.describe reply depth).map ofForeign := by
  unfold Outcome.ofReply
  cases hparse : Schema.parse (α := RunningJobs) reply with
  | error faults => rfl
  | ok r => exact absurd (Reply.parse_eq_ok_iff.mp ⟨r, hparse, rfl⟩) (h _)

/-- The reply has a text, and a reader of documents that nest at most `depth` deep gives up on
it. -/
def Reply.TooDeep (depth : Nat) (reply : List UInt8) : Prop :=
  ∃ text inArray, Json.decode reply = .ok text ∧
    Json.read (.lenient depth) text = .error (.tooDeep inArray)

section

variable {depth : Nat}

/-- Only a document that opens many brackets nests too deeply. -/
theorem Reply.TooDeep.openings {reply : List UInt8} (h : TooDeep depth reply) :
    ∃ text, Json.decode reply = .ok text ∧ depth < Json.openings text := by
  obtain ⟨text, inArray, htext, hread⟩ := h
  exact ⟨text, htext, Json.maxDepth_lt_openings hread⟩

theorem Reply.exists_describe_eq_error_iff {reply : List UInt8} :
    (∃ e, Reply.describe reply depth = .error e) ↔ Reply.TooDeep depth reply := by
  have htooDeep : Reply.TooDeep depth reply ↔
      ∃ inArray, Json.readLenient depth reply = .error (.json (.tooDeep inArray)) := by
    simp only [Json.readLenient_eq_tooDeep]
    exact exists_comm
  rw [htooDeep]
  unfold Reply.describe
  constructor
  · rintro ⟨e, he⟩
    split at he
    · cases he
    · next inArray hread => exact ⟨inArray, hread⟩
    · cases he
  · rintro ⟨inArray, hread⟩
    rw [hread]
    exact ⟨_, rfl⟩

/-- Brackets one inside the other. -/
def Reply.nested (n : Nat) : List UInt8 :=
  Utf8.encodeChars (List.replicate n '[' ++ List.replicate n ']')

theorem Reply.decode_nested {n : Nat} (h : 2 ≤ n) :
    Json.decode (Reply.nested n) =
      .ok (List.replicate n (.char '[') ++ List.replicate n (.char ']')) := by
  obtain ⟨m, rfl⟩ := Nat.exists_eq_add_of_le' h
  have hbracket : 0 < '['.toNat ∧ '['.toNat < 0x80 := by decide
  have hdecode := Json.decode_encodeChars (.inl rfl) hbracket
    (List.replicate m '[' ++ List.replicate (m + 2) ']')
  have htext : '[' :: '[' :: (List.replicate m '[' ++ List.replicate (m + 2) ']') =
      List.replicate (m + 2) '[' ++ List.replicate (m + 2) ']' := rfl
  rw [htext, WideText.ofChars, List.map_append, List.map_replicate, List.map_replicate] at hdecode
  exact hdecode

theorem Reply.describe_nested {n : Nat} (hn : 2 ≤ n) (h : depth < n) :
    Reply.describe (Reply.nested n) depth = .error ⟨true⟩ := by
  have hread : Json.readLenient depth (Reply.nested n) = .error (.json (.tooDeep true)) := by
    unfold Json.readLenient
    rw [Reply.decode_nested hn]
    dsimp only [Except.mapError, bind, Except.bind]
    rw [Json.read_brackets (.lenient depth) h]
  unfold Reply.describe
  rw [hread]

end

/-- A message may have one level more than the reader nests, when nothing stands in it. -/
theorem Reply.not_listsJobs_nested {n : Nat} (h : Json.Dialect.strict.maxDepth + 1 < n)
    (records : List JobRecord) : ¬ Reply.ListsJobs (Reply.nested n) records := by
  have hread : Json.readStrict (Reply.nested n) = .error (.tooDeep true) := by
    unfold Json.readStrict Reply.nested
    rw [Utf8.decodeWide?_encodeChars, WideText.ofChars, List.map_append, List.map_replicate]
    exact Json.read_brackets .strict h _
  rintro ⟨members, items, hmembers, -⟩
  rw [hread] at hmembers
  cases hmembers

namespace StatusClient

/-- A query that is answered comes to the jobs of a well-formed list, or says that the reply is of
the wrong type. It has no outcome exactly when the reply, which then is no such list, nests too
deeply for the reader of documents, and so opens more brackets than that reader nests. -/
theorem query_outcome (c : StatusClient) (w : World) (reply : List UInt8) :
    (∃ records, Reply.ListsJobs reply records ∧
        (c.query.run (w.replying reply)).1 = .ok (.success records)) ∨
      (∀ records, ¬ Reply.ListsJobs reply records) ∧
        (¬ Reply.TooDeep w.jsonDepth reply ∧
            (∃ message, (c.query.run (w.replying reply)).1 = .ok (.malformedResponse message)) ∨
          Reply.TooDeep w.jsonDepth reply ∧
            (∃ e, (c.query.run (w.replying reply)).1 = .error (.nesting e)) ∧
            ∃ text, Json.decode reply = .ok text ∧ w.jsonDepth < Json.openings text) := by
  rw [query_replying]
  by_cases hjobs : ∃ records, Reply.ListsJobs reply records
  · obtain ⟨records, hrecords⟩ := hjobs
    left
    refine ⟨records, hrecords, ?_⟩
    rw [Outcome.ofReply_eq_success_iff.mpr hrecords]
    rfl
  · have hforeign : ∀ records, ¬ Reply.ListsJobs reply records := not_exists.mp hjobs
    right
    refine ⟨hforeign, ?_⟩
    rw [Outcome.ofReply_of_foreign hforeign, ← Reply.exists_describe_eq_error_iff]
    cases hdescribe : Reply.describe reply w.jsonDepth with
    | ok type => exact Or.inl ⟨nofun, _, rfl⟩
    | error e =>
      have hdeep := Reply.exists_describe_eq_error_iff.mp ⟨e, hdescribe⟩
      exact Or.inr ⟨⟨e, rfl⟩, ⟨e, rfl⟩, hdeep.openings⟩

/-- A reply that nests too deeply, for a message and for a document, leaves a query without an
outcome. -/
theorem query_nested {n : Nat} (hstrict : Json.Dialect.strict.maxDepth + 1 < n) (c : StatusClient)
    {w : World} (h : w.jsonDepth < n) :
    (c.query.run (w.replying (Reply.nested n))).1 = .error (.nesting ⟨true⟩) := by
  have hn : 2 ≤ n := Nat.le_of_lt (Nat.lt_of_le_of_lt (by decide) hstrict)
  rw [query_replying, Outcome.ofReply_of_foreign (Reply.not_listsJobs_nested hstrict),
    Reply.describe_nested hn h]
  rfl

theorem query_nestedReply :
    (∀ records, ¬ Reply.ListsJobs (Reply.nested 20000) records) ∧
      (loopbackClient.query.run ((coordinatorWorld []).replying (Reply.nested 20000))).1 =
        .error (.nesting ⟨true⟩) :=
  ⟨Reply.not_listsJobs_nested (by decide), query_nested (by decide) _ (by decide)⟩

end StatusClient
end ClusterAgent
