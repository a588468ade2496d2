import ClusterAgent.Proofs.Json.Spelling
import ClusterAgent.Status.Rendering
import Mathlib.Data.List.Forall2

/-! The document of the running jobs is JSON, and tells of every job what is known of it. -/
namespace ClusterAgent

/-- No text of the record has a surrogate. -/
structure JobRecord.Whole (r : JobRecord) : Prop where
  id : r.id.Whole
  name : ∀ name ∈ r.name, WideText.Whole name

namespace StatusDocument

/-! ### Texts of a page -/

/-- What a page shows of a code point. A line feed breaks the line; of the other control characters
only the backspace, the tab, the form feed and the carriage return are kept. -/
def shownPoint (p : CodePoint) : WideText :=
  if p = .char '\n' then "<br>"
  else if p.toNat < 0x20 ∧ p ∉ WideText.ofChars ['\x08', '\t', '\x0c', '\r'] then []
  else [p]

def shown (t : WideText) : WideText := t.flatMap shownPoint

theorem readString_escapePoint (lone : Bool) (p : CodePoint) (read rest : WideText) :
    Json.readString lone read (escapePoint p ++ rest) =
      Json.readString lone ((shownPoint p).reverse ++ read) rest := by
  have hshort : ∀ (e : CodePoint) (c : Char), Json.shortEscape? e = some c →
      shownPoint (.char c) = [.char c] →
      Json.readString lone read ([.char '\\', e] ++ rest) =
        Json.readString lone ((shownPoint (.char c)).reverse ++ read) rest := by
    intro e c he hc
    rw [hc]
    exact Json.readString_short he lone read rest
  unfold escapePoint
  split
  · exact hshort (.char '\\') '\\' rfl (by decide)
  · exact hshort (.char '"') '"' rfl (by decide)
  · exact hshort (.char '/') '/' rfl (by decide)
  · exact hshort (.char 'b') '\x08' rfl (by decide)
  · exact hshort (.char 't') '\t' rfl (by decide)
  · exact Json.readString_of_plain (t := "<br>") (by decide) lone read rest
  · exact hshort (.char 'f') '\x0c' rfl (by decide)
  · exact hshort (.char 'r') '\r' rfl (by decide)
  · next hbackslash hquote _ hbackspace htab hbreak hfeed hreturn =>
    have hkept : p ∉ WideText.ofChars ['\x08', '\t', '\x0c', '\r'] := by
      simp only [WideText.ofChars, List.map_cons, List.map_nil, List.mem_cons, List.not_mem_nil,
        or_false, not_or]
      exact ⟨hbackspace, htab, hfeed, hreturn⟩
    split
    · next hp =>
      have hshown : shownPoint p = [] := by
        unfold shownPoint
        rw [if_neg hbreak, if_pos ⟨hp, hkept⟩]
      rw [hshown]
      rfl
    · next hp =>
      have hshown : shownPoint p = [p] := by
        unfold shownPoint
        rw [if_neg hbreak, if_neg fun h => hp h.1]
      rw [hshown]
      exact Json.readString_plain hquote hbackslash (Nat.not_lt.mp hp) lone read rest

theorem quotes_escape (d : Json.Dialect) (t : WideText) : Json.Quotes d (escape t) (shown t) := by
  have hread : ∀ read rest, Json.readString d.loneSurrogates read (escape t ++ .char '"' :: rest) =
      .ok (read.reverse ++ shown t, rest) := by
    unfold escape shown
    induction t with
    | nil =>
      intro read rest
      rw [List.flatMap_nil, List.nil_append, Json.readString_quote, List.flatMap_nil,
        List.append_nil]
    | cons p t ih =>
      intro read rest
      rw [List.flatMap_cons, List.append_assoc, readString_escapePoint, ih, List.reverse_append,
        List.reverse_reverse, List.flatMap_cons, List.append_assoc]
  exact fun rest => hread [] rest

/-! ### Jobs -/

/-- What a page tells of a job. -/
def jobFields (r : JobRecord) : List (String × Json) :=
  [("jobid", .str (shown r.id))] ++
    (r.name.map fun name => ("jobname", .str (shown name))).toList ++
    [("status", .text r.state.name), ("time", .int r.timestamp)]

variable {d : Json.Dialect} {depth : Nat}

theorem spellsMember_textMember {name : String} (hname : Json.Plain name) (value : WideText) :
    Json.SpellsMember d depth (textMember name value)
      (WideText.ofString name, .str (shown value)) := by
  refine ⟨WideText.ofString name, .char '"' :: escape value ++ [.char '"'], ?_,
    hname.quotes, (quotes_escape d value).spells⟩
  simp [textMember, WideText.ofString, WideText.ofChars]

theorem shown_name (s : JobState) : shown s.name = s.name := by
  cases s <;> decide

theorem spells_renderJob {r : JobRecord} (h : d.admits r.timestamp) :
    Json.Spells d (depth + 1) (renderJob r) (.ofFields (jobFields r)) := by
  have hid : Json.SpellsMember d depth (textMember "jobid" r.id) ("jobid", .str (shown r.id)) :=
    spellsMember_textMember (by decide) r.id
  have hstate : Json.SpellsMember d depth (textMember "status" r.state.name)
      ("status", .text r.state.name) := by
    have hmember : Json.SpellsMember d depth (textMember "status" r.state.name)
        ("status", .str (shown r.state.name)) := spellsMember_textMember (by decide) r.state.name
    rwa [shown_name] at hmember
  have htime : Json.SpellsMember d depth (("\"time\": " : WideText) ++ Json.printInt r.timestamp)
      ("time", .int r.timestamp) :=
    ⟨"time", _, rfl, Json.Plain.quotes (by decide), Json.Spells.printInt h⟩
  unfold renderJob Json.ofFields
  apply Json.Spells.object
  unfold jobMembers jobFields
  cases r.name with
  | none => exact .cons hid (.cons hstate (.cons htime .nil))
  | some name =>
    have hname : Json.SpellsMember d depth (textMember "jobname" name)
        ("jobname", .str (shown name)) := spellsMember_textMember (by decide) name
    exact .cons hid (.cons hname (.cons hstate (.cons htime .nil)))

/-- Every reader that admits the times reads the document of the jobs. -/
theorem read_renderJobs_of_admits (hdepth : 2 ≤ d.maxDepth) {records : List JobRecord}
    (h : ∀ r ∈ records, d.admits r.timestamp) :
    Json.read d (renderJobs records) =
      .ok (.arr (records.map fun r => .ofFields (jobFields r))) := by
  obtain ⟨depth, hd⟩ := Nat.exists_eq_add_of_le' hdepth
  have hjobs : List.Forall₂ (Json.Spells d (depth + 1)) (records.map renderJob)
      (records.map fun r => .ofFields (jobFields r)) := by
    rw [List.forall₂_map_left_iff, List.forall₂_map_right_iff, List.forall₂_same]
    exact fun r hr => spells_renderJob (h r hr)
  apply Json.Spells.read
  rw [hd]
  exact Json.Spells.array hjobs

/-- The document of the jobs is JSON: one object for each job, in the order of the jobs. A reader
needs room for the array and one object in it. -/
theorem read_renderJobs (hdepth : 2 ≤ depth) {records : List JobRecord} (h : ∀ r ∈ records,
      (Nat.toDigits 10 r.timestamp.natAbs).length ≤ Text.maxIntegerDigits) :
    Json.read (.lenient depth) (renderJobs records) =
      .ok (.arr (records.map fun r => .ofFields (jobFields r))) :=
  read_renderJobs_of_admits hdepth fun r hr => decide_eq_true (h r hr)

/-- A name with all that is escaped, replaced or left out, and a job without a name. -/
def pageRecords : List JobRecord :=
  [⟨"1", some "a\"\\/\n\x01\tb", .running, -5⟩, ⟨"2", none, .failed, 0⟩]

theorem read_renderJobs_pageRecords : 2 ≤ Json.usualDepth ∧
    (∀ r ∈ pageRecords, (Nat.toDigits 10 r.timestamp.natAbs).length ≤ Text.maxIntegerDigits) ∧
      Json.read (.lenient Json.usualDepth) (renderJobs pageRecords) = .ok (.arr [
        .ofFields [("jobid", .text "1"), ("jobname", .text "a\"\\/<br>\tb"),
          ("status", .text "RUNNING"), ("time", .int (-5))],
        .ofFields [("jobid", .text "2"), ("status", .text "FAILED"), ("time", .int 0)]]) := by
  have htimes : ∀ r ∈ pageRecords,
      (Nat.toDigits 10 r.timestamp.natAbs).length ≤ Text.maxIntegerDigits := by decide
  exact ⟨by decide, htimes, read_renderJobs (by decide) htimes⟩

/-! ### Texts without surrogates -/

theorem whole_escapePoint {p : CodePoint} (h : p.toChar?.isSome) : (escapePoint p).Whole := by
  unfold escapePoint
  split
  iterate 8 exact WideText.whole_ofChars _
  split
  · exact WideText.whole_ofChars []
  · exact WideText.whole_cons h (WideText.whole_ofChars [])

theorem whole_textMember {name : String} {value : WideText} (h : value.Whole) :
    (textMember name value).Whole := by
  have hescape : (escape value).Whole := by
    intro p hp
    obtain ⟨q, hq, hp⟩ := List.mem_flatMap.mp hp
    exact whole_escapePoint (h q hq) p hp
  unfold textMember
  exact ((WideText.whole_ofChars _).append hescape).append (WideText.whole_ofChars ['"'])

theorem whole_joinItems {items : List WideText} (h : ∀ t ∈ items, t.Whole) :
    (joinItems items).Whole := by
  cases items with
  | nil => exact WideText.whole_ofChars []
  | cons t items =>
    obtain ⟨ht, hitems⟩ := List.forall_mem_cons.mp h
    have hbehind : WideText.Whole (items.map (Json.comma ++ ·)).flatten := by
      intro p hp
      obtain ⟨u, hu, hp⟩ := List.mem_flatten.mp hp
      obtain ⟨v, hv, rfl⟩ := List.mem_map.mp hu
      exact (WideText.whole_ofChars _).append (hitems v hv) p hp
    change WideText.Whole (List.intercalate Json.comma (t :: items))
    rw [Json.intercalate_comma]
    exact ht.append hbehind

theorem whole_between (first last : Char) {t : WideText} (h : t.Whole) :
    WideText.Whole (.char first :: t ++ [.char last]) :=
  WideText.Whole.append (WideText.whole_cons rfl h) (WideText.whole_ofChars [last])

theorem whole_renderJob {r : JobRecord} (h : r.Whole) : (renderJob r).Whole := by
  refine whole_between _ _ (whole_joinItems fun t ht => ?_)
  unfold jobMembers at ht
  simp only [List.mem_append, List.mem_cons, List.not_mem_nil, or_false, Option.mem_toList,
    Option.map_eq_some_iff] at ht
  obtain (rfl | ⟨name, hr, rfl⟩) | rfl | rfl := ht
  · exact whole_textMember h.id
  · exact whole_textMember (h.name name hr)
  · exact whole_textMember (WideText.whole_ofChars _)
  · exact (WideText.whole_ofChars _).append (WideText.whole_ofChars _)

/-- Jobs without surrogates make a document that has an encoding. -/
theorem whole_renderJobs {records : List JobRecord} (h : ∀ r ∈ records, r.Whole) :
    (renderJobs records).Whole :=
  whole_between _ _ (whole_joinItems (List.forall_mem_map.mpr fun r hr => whole_renderJob (h r hr)))

end StatusDocument
end ClusterAgent
