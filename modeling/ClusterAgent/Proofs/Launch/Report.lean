import ClusterAgent.Launch.Assembly
import ClusterAgent.Proofs.Token.Secrecy

/-! Reports on parts that make no specification: of the credentials they show the end, and the mark
that they are quoted with. -/
namespace ClusterAgent

/-- A shortened text tells its start and its end. -/
theorem Schema.shortened_congr {front tail : List Char} (hfront : 25 ≤ front.length)
    (htail : 24 ≤ tail.length) (hlong : 50 < front.length + tail.length) (mid mid' : List Char) :
    shortened (String.ofList (front ++ (mid ++ tail))) =
      shortened (String.ofList (front ++ (mid' ++ tail))) := by
  have hshort (mid : List Char) : shortened (String.ofList (front ++ (mid ++ tail))) =
      String.ofList (front.take 25) ++ "..." ++ String.ofList (tail.drop (tail.length - 24)) := by
    have hlength : (front ++ (mid ++ tail)).length = (front ++ mid).length + tail.length := by
      rw [← List.append_assoc, List.length_append]
    have hdrop : (front ++ (mid ++ tail)).drop ((front ++ (mid ++ tail)).length - 24) =
        tail.drop (tail.length - 24) := by
      rw [hlength, Nat.add_sub_assoc htail, ← List.append_assoc, List.drop_append,
        List.drop_eq_nil_of_le (Nat.le_add_right _ _), List.nil_append, Nat.add_sub_cancel_left]
    unfold shortened
    rw [String.toList_ofList, if_neg (by rw [hlength, List.length_append]; omega), hdrop,
      List.take_append_of_le_length hfront]
  rw [hshort, hshort]

/-- A shortened text keeps its last characters. -/
theorem Schema.exists_shortened {front last : List Char} (hfront : 50 < front.length)
    (hlast : last.length ≤ 24) :
    ∃ shown, (shortened (String.ofList (front ++ last))).toList = shown ++ last := by
  have hlong : ¬ (front ++ last).length ≤ 50 := by
    rw [List.length_append]
    omega
  have hdrop : (front ++ last).length - 24 ≤ front.length := by
    rw [List.length_append]
    omega
  refine ⟨(front ++ last).take 25 ++ "...".toList ++
    front.drop ((front ++ last).length - 24), ?_⟩
  unfold shortened
  rw [String.toList_ofList, if_neg hlong]
  simp only [String.toList_append, String.toList_ofList]
  rw [List.drop_append_of_le_length hdrop, ← List.append_assoc]

/-- A report of one fault has the value at one place. -/
theorem Schema.exists_report (record kind : String) (fault : Fault) :
    ∃ before after, ∀ v : Datum, v.kind = kind →
      report record v [fault] = before ++ shortened v.reported ++ after := by
  refine ⟨"1 validation error" ++ " for " ++ record ++ "\n  " ++
    fault.kind.explanation?.getD "" ++ " [type=" ++ "value_error" ++ ", input_value=",
    ", input_type=" ++ kind ++ "]\n" ++ "    For further information visit " ++
      explanation "https" "value_error", ?_⟩
  rintro v rfl
  apply String.toList_inj.mp
  simp [report, reportLine, toString]

/-- The mark that bytes are quoted with. -/
def Text.quotationMark (bs : List UInt8) : Char :=
  if bs.contains 0x27 && !bs.contains 0x22 then '"' else '\''

theorem Text.toList_quotedBytes (bs : List UInt8) : (quotedBytes bs).toList =
    'b' :: quotationMark bs :: bs.flatMap (quoteByte (quotationMark bs)) ++ [quotationMark bs] :=
  String.toList_ofList

theorem Text.quotationMark_mem (bs : List UInt8) : quotationMark bs ∈ TokenFile.quotationMarks := by
  unfold quotationMark
  split <;> decide

namespace LaunchSpec

variable (budget heap : Int) (environment : Environment) (resources : List Resource)

/-- The parts as a message shows them: the credentials come last. -/
theorem exists_literal_parts : ∃ front : List Char, 50 ≤ front.length ∧ ∀ credentials,
    (Datum.record (partFields budget heap environment resources credentials)).literal =
      String.ofList (front ++ ((Text.quotedBytes credentials).toList ++ ['\x7d'])) := by
  let entry (name : WideText) (v : Datum) : String := Text.quotedWide name ++ ": " ++ v.literal
  refine ⟨("\x7b" ++ entry "memory_budget_mb" (.int budget) ++ ", " ++
    entry "heap_limit_mb" (.int heap) ++ ", " ++
    entry "environment" (.record (environment.map fun p => (p.1, .string p.2))) ++ ", " ++
    entry "resources" (.list (resources.map Schema.toDatum)) ++ ", " ++
    (Text.quotedWide "credentials" ++ ": ")).toList, ?_, ?_⟩
  · have hbudget : (Text.quotedWide "memory_budget_mb").toList.length = 18 := by decide +kernel
    have hheap : (Text.quotedWide "heap_limit_mb").toList.length = 15 := by decide +kernel
    have henvironment : (Text.quotedWide "environment").toList.length = 13 := by decide +kernel
    have hresources : (Text.quotedWide "resources").toList.length = 11 := by decide +kernel
    simp only [entry, String.toList_append, List.length_append, hbudget, hheap, henvironment,
      hresources]
    omega
  · intro credentials
    have hliteral : (Datum.record
        (partFields budget heap environment resources credentials)).literal =
          "\x7b" ++ ", ".intercalate [entry "memory_budget_mb" (.int budget),
            entry "heap_limit_mb" (.int heap),
            entry "environment" (.record (environment.map fun p => (p.1, .string p.2))),
            entry "resources" (.list (resources.map Schema.toDatum)),
            Text.quotedWide "credentials" ++ ": " ++ Text.quotedBytes credentials] ++ "\x7d" := by
      simp only [partFields, Datum.record, List.map_cons, List.map_nil, Datum.literal,
        Datum.entryLiterals, entry]
    rw [hliteral]
    apply String.toList_inj.mp
    iterate 4 rw [String.intercalate_cons_of_ne_nil (List.cons_ne_nil _ _)]
    rw [String.intercalate_singleton, String.toList_ofList]
    simp only [String.toList_append, List.append_assoc]
    rfl

theorem exists_shortened_literal (bytes : List UInt8) : ∃ shown,
    (Schema.shortened (Datum.record
      (partFields budget heap environment resources bytes)).literal).toList =
        shown ++ [Text.quotationMark bytes, '\x7d'] := by
  obtain ⟨front, hfront, hliteral⟩ := exists_literal_parts budget heap environment resources
  have hlast : front ++ ((Text.quotedBytes bytes).toList ++ ['\x7d']) =
      (front ++ 'b' :: Text.quotationMark bytes ::
        bytes.flatMap (Text.quoteByte (Text.quotationMark bytes))) ++
          [Text.quotationMark bytes, '\x7d'] := by
    rw [Text.toList_quotedBytes]
    simp
  rw [hliteral, hlast]
  refine Schema.exists_shortened ?_ (by decide : 2 ≤ 24)
  rw [List.length_append, List.length_cons]
  omega

variable {budget heap environment resources} {bytes bytes' : List UInt8}

theorem isWritable_environment (environment : Environment) :
    (Datum.record (environment.map fun p => (p.1, .string p.2))).isWritable := by
  rw [Datum.record, Datum.isWritable]
  induction environment with
  | nil => rfl
  | cons p rest ih => exact ih

theorem areWritable_resources (resources : List Resource) :
    Datum.areWritable (resources.map Schema.toDatum) = resources.all Resource.isWritable := by
  induction resources with
  | nil => rfl
  | cons r rest ih =>
    rw [List.map_cons, Datum.areWritable, ih, List.all_cons]
    simp [Schema.toDatum, Schema.Record.fields, Datum.record, Datum.isWritable,
      Datum.areEntriesWritable, Datum.string, Resource.isWritable]

/-- The parts can be written when their numbers can. -/
theorem isWritable_parts : (Datum.record
      (partFields budget heap environment resources bytes)).isWritable ↔
    Text.isWritable budget ∧ Text.isWritable heap ∧ ∀ r ∈ resources, r.isWritable := by
  have henvironment := isWritable_environment environment
  have hresources := areWritable_resources resources
  simp only [partFields, Datum.record, List.map_cons, List.map_nil, Datum.isWritable,
    Datum.areEntriesWritable] at henvironment ⊢
  rw [henvironment, hresources]
  simp

/-- What a report shows of the parts tells two files of credentials apart, of one length and with
one end, just if they are quoted with different marks. -/
theorem shortened_literal_eq_iff (h : TokenFile.Alike bytes bytes') :
    Schema.shortened (Datum.record
        (partFields budget heap environment resources bytes')).literal =
      Schema.shortened (Datum.record
        (partFields budget heap environment resources bytes)).literal ↔
    Text.quotationMark bytes' = Text.quotationMark bytes := by
  constructor
  · intro heq
    obtain ⟨shown, hshown⟩ := exists_shortened_literal budget heap environment resources bytes
    obtain ⟨shown', hshown'⟩ := exists_shortened_literal budget heap environment resources bytes'
    rw [heq, hshown] at hshown'
    exact (List.cons.inj (List.append_inj_right' hshown' rfl)).1.symm
  · intro hmark
    obtain ⟨front, hfront, hliteral⟩ := exists_literal_parts budget heap environment resources
    obtain ⟨tail, ⟨before, rfl⟩, ⟨before', rfl⟩, hlong⟩ := h.ending
    have htail := hlong _ (Text.quotationMark_mem (before ++ tail))
    generalize hquote : Text.quotationMark (before ++ tail) = quote at hmark htail
    have hquoted (bs : List UInt8) (hbs : Text.quotationMark (bs ++ tail) = quote) :
        (Text.quotedBytes (bs ++ tail)).toList ++ ['\x7d'] = ('b' :: quote ::
          bs.flatMap (Text.quoteByte quote)) ++ (tail.flatMap (Text.quoteByte quote) ++
            [quote, '\x7d']) := by
      rw [Text.toList_quotedBytes, hbs, List.flatMap_append]
      simp
    rw [hliteral, hliteral, hquoted _ hquote, hquoted _ hmark]
    refine Schema.shortened_congr (by omega) ?_ ?_ _ _ <;>
    · rw [List.length_append, List.length_cons, List.length_singleton]
      omega

end LaunchSpec

/-- A report tells one file of credentials from another that is as long and ends alike just if they
are quoted with different marks, and if the parts can be written at all. -/
theorem AssemblyError.message_eq_iff {budget heap : Int} {environment : Environment}
    {resources : List Resource} {bytes bytes' : List UInt8} (h : TokenFile.Alike bytes bytes')
    (fault : Schema.Fault) :
    (AssemblyError.invalid [fault] (.record
      (LaunchSpec.partFields budget heap environment resources bytes'))).message =
    (AssemblyError.invalid [fault] (.record
      (LaunchSpec.partFields budget heap environment resources bytes))).message ↔
    (Text.isWritable budget ∧ Text.isWritable heap ∧ (∀ r ∈ resources, r.isWritable) →
      Text.quotationMark bytes' = Text.quotationMark bytes) := by
  obtain ⟨before, after, hreport⟩ := Schema.exists_report (Schema.Record.name LaunchSpec)
    (Datum.record (LaunchSpec.partFields budget heap environment resources bytes)).kind fault
  have hbytes' := hreport
    (.record (LaunchSpec.partFields budget heap environment resources bytes')) rfl
  unfold AssemblyError.message
  dsimp only
  rw [hbytes', hreport _ rfl, String.append_left_inj, String.append_right_inj]
  unfold Datum.reported
  by_cases hcan : Text.isWritable budget ∧ Text.isWritable heap ∧ ∀ r ∈ resources, r.isWritable
  · rw [if_pos (LaunchSpec.isWritable_parts.mpr hcan),
      if_pos (LaunchSpec.isWritable_parts.mpr hcan),
      LaunchSpec.shortened_literal_eq_iff h]
    exact ⟨fun hmark _ => hmark, fun hmark => hmark hcan⟩
  · rw [if_neg (mt LaunchSpec.isWritable_parts.mp hcan),
      if_neg (mt LaunchSpec.isWritable_parts.mp hcan)]
    exact iff_of_true rfl fun h => absurd h hcan

end ClusterAgent
