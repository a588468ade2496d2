import ClusterAgent.Proofs.MessagePack.Scalar
import ClusterAgent.Proofs.Table

/-! Arrays and maps of MessagePack, for any reader of their items. -/
namespace ClusterAgent.MessagePack

open Reader

variable {item : Reader Value} {arrays maps : Nat → Reader Value}

/-! ### Headers -/

theorem readWith_takes_tagged {tag : UInt8} {width n : Nat} {read : Nat → Reader Value}
    {content : List UInt8} {v : Value}
    (htag : ∀ rest, readWith arrays maps (tag :: rest) = readSized width read rest)
    (hn : n < 0x100 ^ width) (h : (read n).Takes content v) :
    (readWith arrays maps).Takes (tagged tag width n ++ content) v := by
  intro rest
  have hcons : tagged tag width n ++ content ++ rest =
      tag :: (wordBytes width n ++ content ++ rest) := by simp [tagged]
  rw [hcons, htag]
  exact (readWord_takes hn).bind h rest

theorem arrayHeader?_takes {n : Nat} {header content : List UInt8} {v : Value}
    (hheader : arrayHeader? n = some header) (h : (arrays n).Takes content v) :
    (readWith arrays maps).Takes (header ++ content) v := by
  unfold arrayHeader? at hheader
  split_ifs at hheader with h1 h2 h3 <;> obtain rfl := Option.some.inj hheader
  · have hb : (0x90 + n).toUInt8.toNat = 0x90 + n := Utf8.toNat_byte (by omega)
    refine (nextByte_takes _).bind ?_
    rw [hb]
    have hmap : ¬ (decide (0x80 ≤ 0x90 + n) && decide (0x90 + n < 0x90)) = true := by simp
    have harray : (decide (0x90 ≤ 0x90 + n) && decide (0x90 + n < 0xA0)) = true := by
      simp only [Bool.and_eq_true, decide_eq_true_eq]
      omega
    dsimp only
    rwa [if_neg hmap, if_pos harray, Nat.add_sub_cancel_left]
  · exact readWith_takes_tagged (fun _ => rfl) h2 h
  · exact readWith_takes_tagged (fun _ => rfl) h3 h

theorem mapHeader?_takes {n : Nat} {header content : List UInt8} {v : Value}
    (hheader : mapHeader? n = some header) (h : (maps n).Takes content v) :
    (readWith arrays maps).Takes (header ++ content) v := by
  unfold mapHeader? at hheader
  split_ifs at hheader with h1 h2 h3 <;> obtain rfl := Option.some.inj hheader
  · have hb : (0x80 + n).toUInt8.toNat = 0x80 + n := Utf8.toNat_byte (by omega)
    refine (nextByte_takes _).bind ?_
    rw [hb]
    have hmap : (decide (0x80 ≤ 0x80 + n) && decide (0x80 + n < 0x90)) = true := by
      simp only [Bool.and_eq_true, decide_eq_true_eq]
      omega
    dsimp only
    rwa [if_pos hmap, Nat.add_sub_cancel_left]
  · exact readWith_takes_tagged (fun _ => rfl) h2 h
  · exact readWith_takes_tagged (fun _ => rfl) h3 h

theorem isSome_arrayHeader?_iff (n : Nat) : (arrayHeader? n).isSome ↔ n < 0x100000000 := by
  unfold arrayHeader?
  simp only [isSome_choice_iff, Option.isSome_none, Bool.false_eq_true, or_false]
  omega

theorem isSome_mapHeader?_iff (n : Nat) : (mapHeader? n).isSome ↔ n < 0x100000000 := by
  unfold mapHeader?
  simp only [isSome_choice_iff, Option.isSome_none, Bool.false_eq_true, or_false]
  omega

theorem arrayHeader?_ne_nil {n : Nat} : arrayHeader? n ≠ some [] := by
  unfold arrayHeader? tagged
  split_ifs <;> simp

theorem mapHeader?_ne_nil {n : Nat} : mapHeader? n ≠ some [] := by
  unfold mapHeader? tagged
  split_ifs <;> simp

/-! ### Encodings of containers -/

namespace Value

theorem encode?_array_eq_some {items : List Value} {bytes : List UInt8} :
    (array items).encode? = some bytes ↔ ∃ header content, arrayHeader? items.length = some header ∧
      encodeItems? items = some content ∧ bytes = header ++ content := by
  rw [encode?]
  cases arrayHeader? items.length <;> cases encodeItems? items <;> simp [eq_comm]

theorem encode?_map_eq_some {entries : List (Key × Value)} {bytes : List UInt8} :
    (map entries).encode? = some bytes ↔
      ∃ header content, mapHeader? entries.length = some header ∧
        encodeEntries? entries = some content ∧ bytes = header ++ content := by
  rw [encode?]
  cases mapHeader? entries.length <;> cases encodeEntries? entries <;> simp [eq_comm]

theorem encodeItems?_cons_eq_some {v : Value} {items : List Value} {bytes : List UInt8} :
    encodeItems? (v :: items) = some bytes ↔ ∃ first rest, v.encode? = some first ∧
      encodeItems? items = some rest ∧ bytes = first ++ rest := by
  rw [encodeItems?]
  cases v.encode? <;> cases encodeItems? items <;> simp [eq_comm]

theorem encodeEntries?_cons_eq_some {k : Key} {v : Value} {entries : List (Key × Value)}
    {bytes : List UInt8} :
    encodeEntries? ((k, v) :: entries) = some bytes ↔
      ∃ name value rest, k.toScalar.encode? = some name ∧ v.encode? = some value ∧
        encodeEntries? entries = some rest ∧ bytes = name ++ value ++ rest := by
  rw [encodeEntries?]
  cases k.toScalar.encode? <;> cases v.encode? <;> cases encodeEntries? entries <;> simp [eq_comm]

theorem isSome_encodeItems?_iff (items : List Value) :
    (encodeItems? items).isSome ↔ ∀ v ∈ items, v.encode?.isSome := by
  induction items with
  | nil => simp [encodeItems?]
  | cons v items ih =>
    rw [encodeItems?, List.forall_mem_cons, ← ih]
    cases v.encode? <;> cases encodeItems? items <;> simp

theorem isSome_encodeEntries?_iff (entries : List (Key × Value)) :
    (encodeEntries? entries).isSome ↔
      ∀ p ∈ entries, p.1.toScalar.Storable ∧ p.2.encode?.isSome := by
  induction entries with
  | nil => simp [encodeEntries?]
  | cons p entries ih =>
    rw [encodeEntries?, List.forall_mem_cons, ← ih, ← Scalar.isSome_encode?_iff]
    cases p.1.toScalar.encode? <;> cases p.2.encode? <;> cases encodeEntries? entries <;> simp

theorem isSome_encode?_array_iff (items : List Value) :
    (array items).encode?.isSome ↔
      items.length < 0x100000000 ∧ ∀ v ∈ items, v.encode?.isSome := by
  rw [encode?, ← isSome_arrayHeader?_iff, ← isSome_encodeItems?_iff]
  cases arrayHeader? items.length <;> cases encodeItems? items <;> simp

theorem isSome_encode?_map_iff (entries : List (Key × Value)) :
    (map entries).encode?.isSome ↔ entries.length < 0x100000000 ∧
      ∀ p ∈ entries, p.1.toScalar.Storable ∧ p.2.encode?.isSome := by
  rw [encode?, ← isSome_mapHeader?_iff, ← isSome_encodeEntries?_iff]
  cases mapHeader? entries.length <;> cases encodeEntries? entries <;> simp

end Value

/-! ### Sizes -/

theorem IsForm.length_pos {bytes : List UInt8} {s : Scalar} (h : IsForm bytes s) :
    0 < bytes.length := by
  obtain ⟨tag, tail, rfl, -, -⟩ := h
  simp

theorem Value.encode?_length_pos {v : Value} {bytes : List UInt8} (h : v.encode? = some bytes) :
    0 < bytes.length := by
  cases v with
  | scalar s =>
    rw [Value.encode?] at h
    exact (Scalar.encode?_isForm h).length_pos
  | array items =>
    obtain ⟨header, content, hheader, -, rfl⟩ := encode?_array_eq_some.mp h
    cases header with
    | nil => exact absurd hheader arrayHeader?_ne_nil
    | cons tag header => simp
  | map entries =>
    obtain ⟨header, content, hheader, -, rfl⟩ := encode?_map_eq_some.mp h
    cases header with
    | nil => exact absurd hheader mapHeader?_ne_nil
    | cons tag header => simp

/-- An item takes at least one byte. -/
theorem Value.length_le_of_encodeItems? {items : List Value} {bytes : List UInt8}
    (h : encodeItems? items = some bytes) : items.length ≤ bytes.length := by
  induction items generalizing bytes with
  | nil => simp
  | cons v items ih =>
    obtain ⟨first, rest, hfirst, hrest, rfl⟩ := encodeItems?_cons_eq_some.mp h
    have := encode?_length_pos hfirst
    have := ih hrest
    rw [List.length_cons, List.length_append]
    omega

/-- An entry takes at least two bytes. -/
theorem Value.length_le_of_encodeEntries? {entries : List (Key × Value)} {bytes : List UInt8}
    (h : encodeEntries? entries = some bytes) : 2 * entries.length ≤ bytes.length := by
  induction entries generalizing bytes with
  | nil => simp
  | cons p entries ih =>
    obtain ⟨name, value, rest, hname, hvalue, hrest, rfl⟩ := encodeEntries?_cons_eq_some.mp h
    have := (Scalar.encode?_isForm hname).length_pos
    have := encode?_length_pos hvalue
    have := ih hrest
    rw [List.length_cons, List.length_append, List.length_append]
    omega

/-! ### Reading what was written -/

theorem readItems_takes {items : List Value} {bytes : List UInt8}
    (h : Value.encodeItems? items = some bytes)
    (hitem : ∀ v ∈ items, ∀ first, v.encode? = some first → first.length ≤ bytes.length →
      item.Takes first v) :
    (readItems item items.length).Takes bytes items := by
  induction items generalizing bytes with
  | nil =>
    obtain rfl := Option.some.inj h
    exact .pure []
  | cons v items ih =>
    obtain ⟨first, rest, hfirst, hrest, rfl⟩ := Value.encodeItems?_cons_eq_some.mp h
    have hv : item.Takes first v := hitem v (by simp) first hfirst (by simp)
    have hitems : (readItems item items.length).Takes rest items := by
      refine ih hrest fun w hw cs hcs hlen => hitem w (by simp [hw]) cs hcs ?_
      rw [List.length_append]
      omega
    exact hv.bind (hitems.bind_pure _)

theorem key_takes (k : Key) : (key (.scalar k.toScalar)).Takes [] k := by
  cases k <;> exact .pure _

theorem readEntries_takes {entries : List (Key × Value)} {read : Table Key Value}
    {bytes : List UInt8} (h : Value.encodeEntries? entries = some bytes)
    (hkeys : Table.Distinct (read ++ entries))
    (hscalar : ∀ s cs, IsForm cs s → item.Takes cs (.scalar s))
    (hitem : ∀ p ∈ entries, ∀ first, p.2.encode? = some first → first.length ≤ bytes.length →
      item.Takes first p.2) :
    (readEntries item entries.length read).Takes bytes (read ++ entries) := by
  induction entries generalizing bytes read with
  | nil =>
    obtain rfl := Option.some.inj h
    rw [List.append_nil]
    exact .pure read
  | cons p entries ih =>
    obtain ⟨k, v⟩ := p
    obtain ⟨name, value, rest, hname, hvalue, hrest, rfl⟩ :=
      Value.encodeEntries?_cons_eq_some.mp h
    have hk : item.Takes name (.scalar k.toScalar) := hscalar _ _ (Scalar.encode?_isForm hname)
    have hv : item.Takes value v := by
      refine hitem (k, v) (by simp) value hvalue ?_
      rw [List.length_append, List.length_append]
      omega
    have hinsert : read.insert k v = read ++ [(k, v)] := Table.insert_of_lacks hkeys.lacks v
    have happend : read ++ (k, v) :: entries = read.insert k v ++ entries := by simp [hinsert]
    rw [happend] at hkeys ⊢
    have hentries : (readEntries item entries.length (read.insert k v)).Takes rest
        (read.insert k v ++ entries) := by
      refine ih hrest hkeys fun p hp cs hcs hlen => hitem p (by simp [hp]) cs hcs ?_
      rw [List.length_append]
      omega
    rw [List.append_assoc]
    exact hk.bind (hv.bind ((key_takes k).bind hentries))

/-! ### What is read -/

theorem readItems_yields {P : Value → Prop} (h : item.Yields P) (n : Nat) :
    (readItems item n).Yields fun items => items.length = n ∧ ∀ v ∈ items, P v := by
  induction n with
  | zero => exact .pure ⟨rfl, by simp⟩
  | succ n ih =>
    refine h.bind fun v hv => ih.bind fun items hitems => .pure ?_
    exact ⟨by rw [List.length_cons, hitems.1], List.forall_mem_cons.mpr ⟨hv, hitems.2⟩⟩

theorem key_yields {v : Value} (h : v.encode?.isSome) :
    (key v).Yields fun k => k.toScalar.Storable := by
  unfold key
  split
  · exact .pure ((Scalar.isSome_encode?_iff _).mp (by rwa [Value.encode?] at h))
  · exact .pure ((Scalar.isSome_encode?_iff _).mp (by rwa [Value.encode?] at h))
  · exact .throw _

theorem readEntries_yields {P : Value → Prop} (h : item.Yields P)
    (hP : ∀ v, P v → v.encode?.isSome) (n : Nat) {read : Table Key Value} (hkeys : read.Distinct)
    (hread : ∀ p ∈ read, p.1.toScalar.Storable ∧ P p.2) :
    (readEntries item n read).Yields fun entries => entries.length ≤ read.length + n ∧
      entries.Distinct ∧ ∀ p ∈ entries, p.1.toScalar.Storable ∧ P p.2 := by
  induction n generalizing read with
  | zero => exact .pure ⟨le_rfl, hkeys, hread⟩
  | succ n ih =>
    refine h.bind fun k hk => h.bind fun v hv => (key_yields (hP k hk)).bind fun name hname => ?_
    have hlen := Table.length_insert_le read name v
    refine (ih (hkeys.insert name v) ?_).mono fun entries hentries =>
      ⟨hentries.1.trans (by omega), hentries.2⟩
    intro p hp
    rcases Table.mem_insert hp with hp | rfl | ⟨⟨w, hw⟩, hvalue⟩
    · exact hread p hp
    · exact ⟨hname, hv⟩
    · exact ⟨(hread _ hw).1, hvalue ▸ hv⟩

/-- A container has fewer than `2 ^ 32` entries. -/
theorem readWith_yields {P : Value → Prop} (hscalar : ∀ s, s.Storable → P (.scalar s))
    (harray : ∀ n, n < 0x100000000 → (arrays n).Yields P)
    (hmap : ∀ n, n < 0x100000000 → (maps n).Yields P) : (readWith arrays maps).Yields P := by
  have hsized : ∀ (width : Nat) (read : Nat → Reader Value), width ≤ 4 →
      (∀ n, n < 0x100000000 → (read n).Yields P) → (readSized width read).Yields P := by
    intro width read hwidth hread
    refine (readWord_yields width).bind fun n hn => hread n ?_
    have := pow_le_of_width hwidth
    omega
  refine (Yields.trivial nextByte).bind fun b _ => ?_
  have hb : b.toNat < 0x100 := b.toNat_lt
  dsimp only
  split_ifs
  · exact hmap _ (by omega)
  · exact harray _ (by omega)
  · exact hsized 2 arrays (by decide) harray
  · exact hsized 4 arrays (by decide) harray
  · exact hsized 2 maps (by decide) hmap
  · exact hsized 4 maps (by decide) hmap
  · exact (isScalarReader_readScalar hb).yields.bind fun s hs => .pure (hscalar s hs)

/-! ### Longer input -/

theorem readItems_extends {wide : Reader Value} (h : item.Extends wide) (n : Nat) :
    (readItems item n).Extends (readItems wide n) := by
  induction n with
  | zero => exact .pure []
  | succ n ih => exact h.bind fun v => ih.bind fun items => .pure (v :: items)

theorem key_extends (v : Value) : (key v).Extends (key v) := by
  unfold key
  split
  · exact .pure _
  · exact .pure _
  · exact .throw _

theorem readEntries_extends {wide : Reader Value} (h : item.Extends wide) (n : Nat)
    (read : Table Key Value) : (readEntries item n read).Extends (readEntries wide n read) := by
  induction n generalizing read with
  | zero => exact .pure read
  | succ n ih =>
    exact h.bind fun k => h.bind fun v => (key_extends k).bind fun name => ih _

theorem readWith_extends {wideArray wideMap : Nat → Reader Value}
    (harray : ∀ n, (arrays n).Extends (wideArray n)) (hmap : ∀ n, (maps n).Extends (wideMap n)) :
    (readWith arrays maps).Extends (readWith wideArray wideMap) := by
  refine nextByte_extends.bind fun b => ?_
  have hb : b.toNat < 0x100 := b.toNat_lt
  dsimp only
  split_ifs
  · exact hmap _
  · exact harray _
  · exact (readWord_extends 2).bind harray
  · exact (readWord_extends 4).bind harray
  · exact (readWord_extends 2).bind hmap
  · exact (readWord_extends 4).bind hmap
  · exact (isScalarReader_readScalar hb).extends.bind fun s => .pure _

end ClusterAgent.MessagePack
