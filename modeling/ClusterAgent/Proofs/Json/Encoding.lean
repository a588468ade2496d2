import ClusterAgent.Json.Encoding
import ClusterAgent.Proofs.Json.Document
import ClusterAgent.Proofs.Table

/-! A message without surrogates has an encoding in UTF-8, and is read as what was printed. -/
namespace ClusterAgent.Json

theorem Readable.of_true {depth : Nat} {v : Json} (h : v.Readable true depth) (asciiOnly : Bool) :
    v.Readable asciiOnly depth := by
  induction depth generalizing v with
  | zero =>
    cases v with
    | str t => exact fun _ => h rfl
    | _ => exact h
  | succ depth ih =>
    cases v with
    | str t => exact fun _ => h rfl
    | arr items => exact fun w hw => ih (h w hw)
    | obj members => exact fun p hp => ⟨fun _ => (h p hp).1 rfl, ih (h p hp).2⟩
    | _ => exact h

theorem whole_newLine (style : Style) (level : Nat) : (newLine style level).Whole := by
  unfold newLine
  split
  · intro p hp
    rcases List.mem_cons.mp hp with rfl | hp
    · rfl
    · rw [List.eq_of_mem_replicate hp]
      rfl
  · exact WideText.whole_ofChars []

theorem whole_separator (style : Style) (level : Nat) : (separator style level).Whole := by
  have hcomma : WideText.Whole [.char ','] := WideText.whole_ofChars [',']
  unfold separator
  split
  · exact hcomma.append (whole_newLine style level)
  · split <;> exact WideText.whole_ofChars _

theorem whole_printItems {style : Style} {level : Nat} {items : List Json}
    (h : ∀ v ∈ items, (printAt style level v).Whole) : (printItems style level items).Whole := by
  induction items with
  | nil =>
    rw [printItems]
    exact WideText.whole_ofChars []
  | cons v items ih =>
    rw [List.forall_mem_cons] at h
    rw [printItems]
    exact ((whole_separator style level).append h.1).append (ih h.2)

theorem whole_printMember {style : Style} {level : Nat} {k : WideText} {v : Json} (hk : k.Whole)
    (hv : (printAt style level v).Whole) : (printMember style level k v).Whole := by
  have hcolon : (WideText.ofString (if style.spaced then ": " else ":")).Whole :=
    WideText.whole_ofChars _
  rw [printMember]
  exact ((whole_printString style hk).append hcolon).append hv

theorem whole_printMembers {style : Style} {level : Nat} {members : List (WideText × Json)}
    (h : ∀ p ∈ members, p.1.Whole ∧ (printAt style level p.2).Whole) :
    (printMembers style level members).Whole := by
  induction members with
  | nil =>
    rw [printMembers]
    exact WideText.whole_ofChars []
  | cons p members ih =>
    rw [List.forall_mem_cons] at h
    rw [printMembers]
    exact ((whole_separator style level).append (whole_printMember h.1.1 h.1.2)).append (ih h.2)

theorem whole_container (style : Style) (level : Nat) (first last : Char) {content : WideText}
    (h : content.Whole) :
    WideText.Whole (.char first :: newLine style (level + 1) ++ content ++ newLine style level ++
      [.char last]) := by
  have hfirst : WideText.Whole [.char first] := WideText.whole_ofChars [first]
  have hopen := hfirst.append (whole_newLine style (level + 1))
  have hclose := (whole_newLine style level).append (WideText.whole_ofChars [last])
  rw [List.append_assoc]
  exact (hopen.append h).append hclose

theorem whole_printAt_scalar (style : Style) {depth : Nat} {v : Json} (hv : v.Readable true depth)
    (harray : ∀ items, v ≠ arr items) (hobject : ∀ members, v ≠ obj members) (level : Nat) :
    (printAt style level v).Whole := by
  cases v with
  | null =>
    rw [printAt]
    exact WideText.whole_ofChars _
  | bool b =>
    rw [printAt]
    split <;> exact WideText.whole_ofChars _
  | int i =>
    rw [printAt]
    exact WideText.whole_ofChars _
  | float x => cases depth <;> cases hv
  | str t =>
    have ht : t.Whole := by
      cases depth <;> exact hv rfl
    rw [printAt]
    exact whole_printString style ht
  | arr items => exact absurd rfl (harray items)
  | obj members => exact absurd rfl (hobject members)

/-- A value without surrogates is printed without surrogates. -/
theorem whole_printAt (style : Style) {depth : Nat} {v : Json} (hv : v.Readable true depth)
    (level : Nat) : (printAt style level v).Whole := by
  induction depth generalizing v level with
  | zero =>
    refine whole_printAt_scalar style hv ?_ ?_ level
    · rintro items rfl
      exact hv
    · rintro members rfl
      exact hv
  | succ depth ih =>
    cases v with
    | arr items =>
      cases items with
      | nil =>
        rw [printAt]
        exact WideText.whole_ofChars _
      | cons v items =>
        have hitems : ∀ w ∈ v :: items, (printAt style (level + 1) w).Whole :=
          fun w hw => ih (hv w hw) (level + 1)
        rw [List.forall_mem_cons] at hitems
        have hwhole := whole_container style level '[' ']'
          (hitems.1.append (whole_printItems hitems.2))
        rw [printAt]
        rwa [← List.append_assoc] at hwhole
    | obj members =>
      cases members with
      | nil =>
        rw [printAt]
        exact WideText.whole_ofChars _
      | cons p members =>
        have hmembers : ∀ q ∈ p :: members, q.1.Whole ∧ (printAt style (level + 1) q.2).Whole :=
          fun q hq => ⟨(hv q hq).1 rfl, ih (hv q hq).2 (level + 1)⟩
        rw [List.forall_mem_cons] at hmembers
        have hmember := whole_printMember hmembers.1.1 hmembers.1.2
        have hwhole := whole_container style level '\x7b' '\x7d'
          (hmember.append (whole_printMembers hmembers.2))
        rw [printAt]
        rwa [← List.append_assoc] at hwhole
    | _ => exact whole_printAt_scalar style hv (by simp) (by simp) level

/-- A message without surrogates has an encoding, which is read as the message. -/
theorem readStrict_print (style : Style) {v : Json}
    (hv : v.Readable true Dialect.strict.maxDepth) :
    ∃ message, Utf8.encodeWide? (print style v) = some message ∧
      readStrict message = judged (refused? .strict v) v := by
  obtain ⟨message, hmessage⟩ := Utf8.exists_encodeWide? (whole_printAt style hv 0)
  refine ⟨message, hmessage, ?_⟩
  unfold readStrict
  rw [Utf8.decodeWide?_of_encodeWide? hmessage]
  exact read_print style .strict (hv.of_true style.asciiOnly)

/-! ### Documents of unknown encoding -/

/-- A bracket or a brace, and another byte of ASCII behind it, are neither a mark of an encoding nor
part of wider units. -/
theorem decode_of_open {a b : UInt8} (ha : a = 0x5B ∨ a = 0x7B) (hb : b ≠ 0) (rest : List UInt8) :
    decode (a :: b :: rest) = Utf8.decodeWide true (a :: b :: rest) := by
  -- `a` has to be a number for the patterns to be decided
  match rest with
  | [] =>
    rcases ha with rfl | rfl
    · exact if_neg hb
    · exact if_neg hb
  | [c] =>
    rcases ha with rfl | rfl
    · rfl
    · rfl
  | c :: d :: tail =>
    rcases ha with rfl | rfl
    · exact if_neg hb
    · exact if_neg hb

theorem decode_encodeChars {c e : Char} (hc : c = '[' ∨ c = '\x7b')
    (he : 0 < e.toNat ∧ e.toNat < 0x80) (cs : List Char) :
    decode (Utf8.encodeChars (c :: e :: cs)) = .ok (WideText.ofChars (c :: e :: cs)) := by
  have hfirst : ∃ a : UInt8, Utf8.encodeChar c = [a] ∧ (a = 0x5B ∨ a = 0x7B) := by
    rcases hc with rfl | rfl
    · exact ⟨0x5B, rfl, Or.inl rfl⟩
    · exact ⟨0x7B, rfl, Or.inr rfl⟩
  obtain ⟨a, hbyte, ha⟩ := hfirst
  have hascii : Utf8.encodeChar e = [e.toNat.toUInt8] := if_pos he.2
  have hnonzero : e.toNat.toUInt8 ≠ 0 := by
    intro hzero
    have hnumber := congrArg UInt8.toNat hzero
    rw [Utf8.toNat_byte (by omega)] at hnumber
    exact absurd hnumber (Nat.ne_of_gt he.1)
  have hbytes : Utf8.encodeChars (c :: e :: cs) = a :: e.toNat.toUInt8 :: Utf8.encodeChars cs := by
    simp [Utf8.encodeChars, hbyte, hascii]
  have hdecode : decode (Utf8.encodeChars (c :: e :: cs)) =
      Utf8.decodeWide true (Utf8.encodeChars (c :: e :: cs)) := by
    rw [hbytes]
    exact decode_of_open ha hnonzero _
  rw [hdecode, Utf8.decodeWide, Utf8.decodeWide?_encodeChars]

theorem printAscii_eq {style : Style} {v : Json} {cs : List Char}
    (h : print { style with asciiOnly := true } v = WideText.ofChars cs) :
    printAscii style v = String.ofList cs := by
  unfold printAscii WideText.ofChars at *
  rw [h, List.filterMap_map]
  exact congrArg String.ofList List.filterMap_some

/-! ### Merging -/

theorem mergedItems_eq_map (items : List Json) : mergedItems items = items.map merged := by
  induction items with
  | nil => rfl
  | cons v items ih => rw [mergedItems, ih, List.map_cons]

theorem mergedMembers_eq_map (members : List (WideText × Json)) :
    mergedMembers members = members.map fun p => (p.1, p.2.merged) := by
  induction members with
  | nil => rfl
  | cons p members ih => rw [mergedMembers, ih, List.map_cons]

/-- Members with names of their own stay when they are merged. -/
theorem merged_ofFields {fields : List (String × Json)} (hnames : (fields.map (·.1)).Nodup)
    (hmerged : ∀ p ∈ fields, p.2.merged = p.2) : (ofFields fields).merged = ofFields fields := by
  have hmembers : mergedMembers (fields.map fun p => (WideText.ofString p.1, p.2)) =
      fields.map fun p => (WideText.ofString p.1, p.2) := by
    rw [mergedMembers_eq_map, List.map_map]
    refine List.map_congr_left fun p hp => ?_
    rw [Function.comp_apply, hmerged p hp]
  have hdistinct : Table.Distinct (fields.map fun p => (WideText.ofString p.1, p.2)) := by
    rw [Table.Distinct, List.pairwise_map]
    refine (List.pairwise_map.mp hnames).imp fun {p q} hne => ?_
    rw [WideText.ofString_beq]
    exact beq_eq_false_iff_ne.mpr hne
  unfold ofFields
  rw [merged, hmembers, Table.ofPairs_of_distinct hdistinct]

end ClusterAgent.Json
