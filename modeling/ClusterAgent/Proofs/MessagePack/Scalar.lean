import ClusterAgent.Proofs.MessagePack.Word
import Mathlib.Tactic.SplitIfs

/-! Scalars of MessagePack: each form that the writer chooses reads back as the scalar, and every
scalar that is read has such a form. -/
namespace ClusterAgent.MessagePack

open Reader

/-- A first byte that starts no container. -/
def IsScalarTag (first : Nat) : Prop :=
  (first < 0x80 ∨ 0xA0 ≤ first) ∧ (first < 0xDC ∨ 0xE0 ≤ first)

instance (first : Nat) : Decidable (IsScalarTag first) := inferInstanceAs (Decidable (_ ∧ _))

/-- Bytes that are read as a scalar. -/
def IsForm (bytes : List UInt8) (s : Scalar) : Prop :=
  ∃ tag tail, bytes = tag :: tail ∧ IsScalarTag tag.toNat ∧ (readScalar tag.toNat).Takes tail s

theorem readWith_takes_scalar {bytes : List UInt8} {s : Scalar} (h : IsForm bytes s)
    (array map : Nat → Reader Value) : (readWith array map).Takes bytes (.scalar s) := by
  obtain ⟨tag, tail, rfl, htag, hread⟩ := h
  unfold IsScalarTag at htag
  change (readWith array map).Takes ([tag] ++ tail) (.scalar s)
  refine (nextByte_takes tag).bind ?_
  dsimp only
  have hmap : ¬ (decide (0x80 ≤ tag.toNat) && decide (tag.toNat < 0x90)) = true := by
    simp only [Bool.and_eq_true, decide_eq_true_eq]
    omega
  have harray : ¬ (decide (0x90 ≤ tag.toNat) && decide (tag.toNat < 0xA0)) = true := by
    simp only [Bool.and_eq_true, decide_eq_true_eq]
    omega
  rw [if_neg hmap, if_neg harray, if_neg (by omega), if_neg (by omega), if_neg (by omega),
    if_neg (by omega)]
  exact hread.bind_pure Value.scalar

/-! ### Integers -/

theorem lastWord_of_nonneg {i : Int} (h : 0 ≤ i) (hi : i < 0x10000000000000000) :
    (lastWord i : Int) = i := by
  unfold lastWord
  omega

theorem lastWord_of_neg {i : Int} (h : i < 0) (hi : -0x8000000000000000 ≤ i) :
    (lastWord i : Int) = 0x10000000000000000 + i := by
  unfold lastWord
  omega

theorem isForm_unsigned {tag : UInt8} {width n : Nat} (htag : IsScalarTag tag.toNat)
    (hread : readScalar tag.toNat = readUnsigned width) (h : n < 0x100 ^ width) :
    IsForm (tagged tag width n) (.int n) := by
  refine ⟨tag, _, rfl, htag, ?_⟩
  rw [hread]
  exact (readWord_takes h).bind_pure fun n => Scalar.int n

theorem isForm_signed {tag : UInt8} {width n : Nat} {i : Int} (htag : IsScalarTag tag.toNat)
    (hread : readScalar tag.toNat = readSigned width) (h : signed width (n % 0x100 ^ width) = i) :
    IsForm (tagged tag width n) (.int i) := by
  refine ⟨tag, _, rfl, htag, ?_⟩
  rw [hread, ← h]
  exact (readWord_takes_mod width n).bind_pure fun n => Scalar.int (signed width n)

theorem integerBytes?_form {i : Int} {bytes : List UInt8} (h : integerBytes? i = some bytes) :
    IsForm bytes (.int i) := by
  unfold integerBytes? at h
  dsimp only at h
  by_cases hi : 0 ≤ i
  · rw [if_pos hi] at h
    by_cases hmax : i < 0x10000000000000000
    · have hn := lastWord_of_nonneg hi hmax
      generalize lastWord i = n at h hn
      subst hn
      split_ifs at h with h1 h2 h3 h4 <;> obtain rfl := Option.some.inj h
      · have hb : n.toUInt8.toNat = n := Utf8.toNat_byte (by omega)
        refine ⟨_, [], rfl, ?_, ?_⟩ <;> rw [hb]
        · unfold IsScalarTag
          omega
        · unfold readScalar
          rw [if_pos (by omega)]
          exact .pure _
      · exact isForm_unsigned (by decide) rfl (by omega)
      · exact isForm_unsigned (by decide) rfl (by omega)
      · exact isForm_unsigned (by decide) rfl (by omega)
      · exact isForm_unsigned (by decide) rfl (by omega)
    · rw [if_neg (by omega), if_neg (by omega), if_neg (by omega), if_neg (by omega),
        if_neg hmax] at h
      cases h
  · rw [if_neg hi] at h
    by_cases hmin : -0x8000000000000000 ≤ i
    · have hn := lastWord_of_neg (by omega) hmin
      generalize lastWord i = n at h hn
      split_ifs at h with h1 h2 h3 h4 <;> obtain rfl := Option.some.inj h
      · have hb : n.toUInt8.toNat = n % 0x100 := UInt8.toNat_ofNat'
        refine ⟨_, [], rfl, ?_, ?_⟩ <;> rw [hb]
        · unfold IsScalarTag
          omega
        · unfold readScalar
          rw [if_neg (by omega), if_pos (by omega)]
          have hvalue : ((n % 0x100 : Nat) : Int) - 0x100 = i := by omega
          rw [hvalue]
          exact .pure _
      · exact isForm_signed (by decide) rfl (by unfold signed; simp; omega)
      · exact isForm_signed (by decide) rfl (by unfold signed; simp; omega)
      · exact isForm_signed (by decide) rfl (by unfold signed; simp; omega)
      · exact isForm_signed (by decide) rfl (by unfold signed; simp; omega)
    · rw [if_neg (by omega), if_neg (by omega), if_neg (by omega), if_neg (by omega),
        if_neg hmin] at h
      cases h

theorem isSome_integerBytes?_iff (i : Int) :
    (integerBytes? i).isSome ↔ -0x8000000000000000 ≤ i ∧ i < 0x10000000000000000 := by
  unfold integerBytes?
  dsimp only
  split_ifs <;> simp only [Option.isSome_some, Option.isSome_none, true_iff, Bool.false_eq_true,
    false_iff] <;> omega

/-! ### Headers -/

/-- After the header the scalar reader goes on with the given one. -/
def Heads (header : List UInt8) (r : Reader Scalar) : Prop :=
  ∃ tag tail, header = tag :: tail ∧ IsScalarTag tag.toNat ∧
    ∀ content s, r.Takes content s → (readScalar tag.toNat).Takes (tail ++ content) s

theorem Heads.isForm {header content : List UInt8} {r : Reader Scalar} {s : Scalar}
    (h : Heads header r) (hr : r.Takes content s) : IsForm (header ++ content) s := by
  obtain ⟨tag, tail, rfl, htag, hread⟩ := h
  exact ⟨tag, tail ++ content, rfl, htag, hread content s hr⟩

theorem heads_tag {tag : UInt8} {r : Reader Scalar} (htag : IsScalarTag tag.toNat)
    (hread : readScalar tag.toNat = r) : Heads [tag] r := by
  refine ⟨tag, [], rfl, htag, ?_⟩
  intro content s hr
  rwa [hread]

theorem heads_tagged {tag : UInt8} {width n : Nat} {read : Nat → Reader Scalar}
    (htag : IsScalarTag tag.toNat) (hread : readScalar tag.toNat = readSized width read)
    (h : n < 0x100 ^ width) : Heads (tagged tag width n) (read n) := by
  refine ⟨tag, _, rfl, htag, ?_⟩
  intro content s hr
  rw [hread]
  exact (readWord_takes h).bind hr

theorem textHeader?_heads {n : Nat} {header : List UInt8} (h : textHeader? n = some header) :
    Heads header (readText n) := by
  unfold textHeader? at h
  split_ifs at h with h1 h2 h3 h4 <;> obtain rfl := Option.some.inj h
  · have hb : (0xA0 + n).toUInt8.toNat = 0xA0 + n := Utf8.toNat_byte (by omega)
    refine heads_tag ?_ ?_ <;> rw [hb]
    · unfold IsScalarTag
      omega
    · unfold readScalar
      have hfix : (decide (0xA0 ≤ 0xA0 + n) && decide (0xA0 + n < 0xC0)) = true := by
        simp only [Bool.and_eq_true, decide_eq_true_eq]
        omega
      rw [if_neg (by omega), if_neg (by omega), if_pos hfix, Nat.add_sub_cancel_left]
  · exact heads_tagged (by decide) rfl h2
  · exact heads_tagged (by decide) rfl h3
  · exact heads_tagged (by decide) rfl h4

theorem bytesHeader?_heads {n : Nat} {header : List UInt8} (h : bytesHeader? n = some header) :
    Heads header (readBytes n) := by
  unfold bytesHeader? at h
  split_ifs at h with h1 h2 h3 <;> obtain rfl := Option.some.inj h
  · exact heads_tagged (by decide) rfl h1
  · exact heads_tagged (by decide) rfl h2
  · exact heads_tagged (by decide) rfl h3

/-- The type of an extension stands between its length and its data. -/
theorem extensionHeader?_heads {type n : Nat} {header : List UInt8}
    (h : extensionHeader? type n = some header) :
    ∃ lead, header = lead ++ wordBytes 1 type ∧ Heads lead (readExtension n) := by
  unfold extensionHeader? at h
  split_ifs at h with h1 h2 h3 h4 h5 h6 h7 h8 <;> obtain rfl := Option.some.inj h
  · subst h1
    exact ⟨[0xD4], rfl, heads_tag (by decide) rfl⟩
  · subst h2
    exact ⟨[0xD5], rfl, heads_tag (by decide) rfl⟩
  · subst h3
    exact ⟨[0xD6], rfl, heads_tag (by decide) rfl⟩
  · subst h4
    exact ⟨[0xD7], rfl, heads_tag (by decide) rfl⟩
  · subst h5
    exact ⟨[0xD8], rfl, heads_tag (by decide) rfl⟩
  · exact ⟨_, rfl, heads_tagged (by decide) rfl h6⟩
  · exact ⟨_, rfl, heads_tagged (by decide) rfl h7⟩
  · exact ⟨_, rfl, heads_tagged (by decide) rfl h8⟩

theorem isSome_choice_iff {p : Prop} [Decidable p] (header : List UInt8)
    (other : Option (List UInt8)) :
    (if p then some header else other).isSome ↔ p ∨ other.isSome := by
  by_cases hp : p
  · rw [if_pos hp, Option.isSome_some]
    exact iff_of_true rfl (Or.inl hp)
  · rw [if_neg hp, or_iff_right hp]

theorem isSome_textHeader?_iff (n : Nat) : (textHeader? n).isSome ↔ n < 0x100000000 := by
  unfold textHeader?
  simp only [isSome_choice_iff, Option.isSome_none, Bool.false_eq_true, or_false]
  omega

theorem isSome_bytesHeader?_iff (n : Nat) : (bytesHeader? n).isSome ↔ n < 0x100000000 := by
  unfold bytesHeader?
  simp only [isSome_choice_iff, Option.isSome_none, Bool.false_eq_true, or_false]
  omega

theorem isSome_extensionHeader?_iff (type n : Nat) :
    (extensionHeader? type n).isSome ↔ n < 0x100000000 := by
  unfold extensionHeader?
  simp only [isSome_choice_iff, Option.isSome_none, Bool.false_eq_true, or_false]
  omega

/-! ### Contents -/

theorem readText_takes (s : String) :
    (readText (Utf8.encode s).length).Takes (Utf8.encode s) (.text s) := by
  refine (takeBytes_takes (Utf8.encode s)).bind_nil ?_
  rw [Utf8.decode?_encode]
  exact .pure _

theorem readBytes_takes (bs : List UInt8) : (readBytes bs.length).Takes bs (.bytes bs) :=
  (takeBytes_takes bs).bind_pure Scalar.bytes

theorem bigEndian_append (bs cs : List UInt8) :
    bigEndian (bs ++ cs) = bigEndian bs * 0x100 ^ cs.length + bigEndian cs := by
  induction cs using List.reverseRecOn with
  | nil => simp [bigEndian]
  | append_singleton cs b ih =>
    rw [← List.append_assoc, bigEndian_concat, ih, bigEndian_concat, List.length_append,
      List.length_singleton, Nat.pow_succ, Nat.add_mul, Nat.mul_assoc, Nat.add_assoc]

theorem time_eq (seconds : Int) (n : Fin 1000000000) :
    time seconds n.val = return .timestamp seconds n := by
  unfold time
  rw [dif_pos n.isLt]

theorem timestamp_four {seconds : Nat} (h : seconds < 0x100000000) :
    timestamp (wordBytes 4 seconds) = time seconds 0 := by
  have hmod : seconds % 0x100 ^ 4 = seconds := Nat.mod_eq_of_lt h
  unfold timestamp
  dsimp only
  rw [if_pos (wordBytes_length 4 seconds), bigEndian_wordBytes, hmod]

theorem timestamp_eight {seconds n : Nat} (h : seconds < 0x400000000) (hn : n < 1000000000) :
    timestamp (wordBytes 8 (n * 0x400000000 + seconds)) = time seconds n := by
  have hword : (n * 0x400000000 + seconds) % 0x100 ^ 8 = n * 0x400000000 + seconds :=
    Nat.mod_eq_of_lt (by omega)
  have hmod : (n * 0x400000000 + seconds) % 0x400000000 = seconds := by omega
  have hdiv : (n * 0x400000000 + seconds) / 0x400000000 = n := by omega
  unfold timestamp
  dsimp only
  rw [wordBytes_length, if_neg (by decide), if_pos rfl, bigEndian_wordBytes, hword, hmod, hdiv]

theorem timestamp_twelve {seconds : Int} {n : Nat} (hmin : -0x8000000000000000 ≤ seconds)
    (hmax : seconds < 0x8000000000000000) (hn : n < 1000000000) :
    timestamp (wordBytes 4 n ++ wordBytes 8 (lastWord seconds)) = time seconds n := by
  have hword : (lastWord seconds : Int) = seconds % 0x10000000000000000 := by
    unfold lastWord
    omega
  have hbytes : bigEndian (wordBytes 4 n ++ wordBytes 8 (lastWord seconds)) =
      n * 0x10000000000000000 + lastWord seconds := by
    rw [bigEndian_append, wordBytes_length, bigEndian_wordBytes, bigEndian_wordBytes]
    omega
  have hsigned : signed 8 (lastWord seconds) = seconds := by
    unfold signed
    simp
    omega
  have hmod : (n * 0x10000000000000000 + lastWord seconds) % 0x10000000000000000 =
      lastWord seconds := by omega
  have hdiv : (n * 0x10000000000000000 + lastWord seconds) / 0x10000000000000000 = n := by omega
  unfold timestamp
  dsimp only
  rw [List.length_append, wordBytes_length, wordBytes_length, if_neg (by decide),
    if_neg (by decide), if_pos rfl, hbytes, hmod, hdiv, hsigned]

/-- All three forms of a time hold its seconds and nanoseconds. -/
theorem timestamp_timestampData {seconds : Int} (n : Fin 1000000000)
    (hmin : -0x8000000000000000 ≤ seconds) (hmax : seconds < 0x8000000000000000) :
    timestamp (timestampData seconds n.val) = return .timestamp seconds n := by
  have hn : n.val < 1000000000 := n.isLt
  rw [← time_eq seconds n]
  generalize n.val = m at hn ⊢
  unfold timestampData
  by_cases hshort : 0 ≤ seconds ∧ seconds < 0x400000000
  · obtain ⟨k, rfl⟩ := Int.eq_ofNat_of_zero_le hshort.1
    rw [if_pos (by simpa using hshort)]
    by_cases hwhole : m = 0 ∧ (k : Int) < 0x100000000
    · rw [if_pos (by simpa using hwhole), Int.toNat_natCast, hwhole.1]
      exact timestamp_four (by omega)
    · rw [if_neg (by simpa using hwhole), Int.toNat_natCast]
      exact timestamp_eight (by omega) hn
  · rw [if_neg (by simpa using hshort)]
    exact timestamp_twelve hmin hmax hn

theorem readExtension_takes {type : Nat} {data : List UInt8} {s : Scalar} (ht : type < 0x100)
    (h : (if type = 0xFF then timestamp data
      else if h : type < 0x80 then return .ext ⟨type, h⟩ data
      else throw .reservedExtension : Reader Scalar) = return s) :
    (readExtension data.length).Takes (wordBytes 1 type ++ data) s := by
  refine (readWord_takes ht).bind ((takeBytes_takes data).bind_nil ?_)
  rw [h]
  exact .pure s

theorem isForm_extension {type : Nat} {data bytes : List UInt8} {s : Scalar} (ht : type < 0x100)
    (hs : (if type = 0xFF then timestamp data
      else if h : type < 0x80 then return .ext ⟨type, h⟩ data
      else throw .reservedExtension : Reader Scalar) = return s)
    (h : withHeader (extensionHeader? type) data = some bytes) : IsForm bytes s := by
  obtain ⟨header, hheader, rfl⟩ := Option.map_eq_some_iff.mp h
  obtain ⟨lead, rfl, hlead⟩ := extensionHeader?_heads hheader
  rw [List.append_assoc]
  exact hlead.isForm (readExtension_takes ht hs)

/-- What the writer makes of a scalar is read as that scalar. -/
theorem Scalar.encode?_isForm {s : Scalar} {bytes : List UInt8} (h : s.encode? = some bytes) :
    IsForm bytes s := by
  cases s with
  | nil =>
    obtain rfl := Option.some.inj h
    exact ⟨0xC0, [], rfl, by decide, .pure _⟩
  | bool b =>
    obtain rfl := Option.some.inj h
    cases b
    · exact ⟨0xC2, [], rfl, by decide, .pure _⟩
    · exact ⟨0xC3, [], rfl, by decide, .pure _⟩
  | int i => exact integerBytes?_form h
  | float bits =>
    obtain rfl := Option.some.inj h
    refine ⟨0xCB, _, rfl, by decide, ?_⟩
    have hbits : bits.toNat < 0x100 ^ 8 := bits.toNat_lt
    have hread := (readWord_takes hbits).bind_pure fun n => Scalar.float (UInt64.ofNat (id n))
    rwa [id, UInt64.ofNat_toNat] at hread
  | text s =>
    obtain ⟨header, hheader, rfl⟩ := Option.map_eq_some_iff.mp h
    exact (textHeader?_heads hheader).isForm (readText_takes s)
  | bytes bs =>
    obtain ⟨header, hheader, rfl⟩ := Option.map_eq_some_iff.mp h
    exact (bytesHeader?_heads hheader).isForm (readBytes_takes bs)
  | ext code data =>
    have hcode : code.val < 0x80 := code.isLt
    refine isForm_extension (by omega) ?_ h
    rw [if_neg (by omega), dif_pos hcode]
  | timestamp seconds n =>
    rw [Scalar.encode?] at h
    split_ifs at h with hrange
    simp only [Bool.and_eq_true, decide_eq_true_eq] at hrange
    refine isForm_extension (by decide) ?_ h
    rw [if_pos rfl]
    exact timestamp_timestampData n hrange.1 hrange.2

/-! ### What is read -/

/-- The scalars that have a form: numbers of 64 bits, and contents whose length has 32 bits. -/
def Scalar.Storable : Scalar → Prop
  | int i => -0x8000000000000000 ≤ i ∧ i < 0x10000000000000000
  | text s => (Utf8.encode s).length < 0x100000000
  | bytes bs => bs.length < 0x100000000
  | ext _ data => data.length < 0x100000000
  | timestamp seconds _ => -0x8000000000000000 ≤ seconds ∧ seconds < 0x8000000000000000
  | nil | bool _ | float _ => True

instance : (s : Scalar) → Decidable s.Storable
  | .int _ => inferInstanceAs (Decidable (_ ∧ _))
  | .text _ => inferInstanceAs (Decidable (_ < _))
  | .bytes _ => inferInstanceAs (Decidable (_ < _))
  | .ext _ _ => inferInstanceAs (Decidable (_ < _))
  | .timestamp _ _ => inferInstanceAs (Decidable (_ ∧ _))
  | .nil | .bool _ | .float _ => inferInstanceAs (Decidable True)

theorem isSome_withHeader (header : Nat → Option (List UInt8)) (content : List UInt8) :
    (withHeader header content).isSome = (header content.length).isSome := Option.isSome_map

theorem timestampData_length_le (seconds : Int) (n : Nat) :
    (timestampData seconds n).length ≤ 12 := by
  unfold timestampData
  split_ifs <;> simp

theorem Scalar.isSome_encode?_iff (s : Scalar) : s.encode?.isSome ↔ s.Storable := by
  cases s with
  | nil => exact iff_of_true rfl trivial
  | bool b => exact iff_of_true rfl trivial
  | float bits => exact iff_of_true rfl trivial
  | int i => exact isSome_integerBytes?_iff i
  | text s =>
    rw [Scalar.encode?, isSome_withHeader]
    exact isSome_textHeader?_iff _
  | bytes bs =>
    rw [Scalar.encode?, isSome_withHeader]
    exact isSome_bytesHeader?_iff _
  | ext code data =>
    rw [Scalar.encode?, isSome_withHeader]
    exact isSome_extensionHeader?_iff _ _
  | timestamp seconds n =>
    have hlength := timestampData_length_le seconds n.val
    rw [Scalar.encode?]
    unfold Storable
    split_ifs with hrange
    · simp only [Bool.and_eq_true, decide_eq_true_eq] at hrange
      rw [isSome_withHeader, isSome_extensionHeader?_iff]
      exact iff_of_true (by omega) hrange
    · simp only [Bool.and_eq_true, decide_eq_true_eq] at hrange
      exact iff_of_false (by simp) hrange

/-- The readers that a first byte leads to. -/
inductive IsScalarReader : Reader Scalar → Prop
  | value (s : Scalar) (h : s.Storable) : IsScalarReader (return s)
  | malformed : IsScalarReader (throw .malformed)
  | text (n : Nat) (h : n < 0x100000000) : IsScalarReader (readText n)
  | bytes (n : Nat) (h : n < 0x100000000) : IsScalarReader (readBytes n)
  | extension (n : Nat) (h : n < 0x100000000) : IsScalarReader (readExtension n)
  | sized (width : Nat) (h : width ≤ 4) (read : Nat → Reader Scalar)
      (hread : ∀ n, n < 0x100000000 → IsScalarReader (read n)) :
      IsScalarReader (readSized width read)
  | unsigned (width : Nat) (h : width ≤ 8) : IsScalarReader (readUnsigned width)
  | signed (width : Nat) (h : width ≤ 8) : IsScalarReader (readSigned width)
  | float (width : Nat) (widen : Nat → Nat) : IsScalarReader (readFloat width widen)

theorem isScalarReader_readScalar {first : Nat} (h : first < 0x100) :
    IsScalarReader (readScalar first) := by
  unfold readScalar
  split_ifs with h1 h2 h3
  · exact .value _ (by unfold Scalar.Storable; omega)
  · exact .value _ (by unfold Scalar.Storable; omega)
  · exact .text _ (by omega)
  · split
    · exact .value .nil trivial
    · exact .value (.bool false) trivial
    · exact .value (.bool true) trivial
    · exact .sized 1 (by decide) _ .bytes
    · exact .sized 2 (by decide) _ .bytes
    · exact .sized 4 (by decide) _ .bytes
    · exact .sized 1 (by decide) _ .extension
    · exact .sized 2 (by decide) _ .extension
    · exact .sized 4 (by decide) _ .extension
    · exact .float 4 widenBits
    · exact .float 8 id
    · exact .unsigned 1 (by decide)
    · exact .unsigned 2 (by decide)
    · exact .unsigned 4 (by decide)
    · exact .unsigned 8 (by decide)
    · exact .signed 1 (by decide)
    · exact .signed 2 (by decide)
    · exact .signed 4 (by decide)
    · exact .signed 8 (by decide)
    · exact .extension 1 (by decide)
    · exact .extension 2 (by decide)
    · exact .extension 4 (by decide)
    · exact .extension 8 (by decide)
    · exact .extension 16 (by decide)
    · exact .sized 1 (by decide) _ .text
    · exact .sized 2 (by decide) _ .text
    · exact .sized 4 (by decide) _ .text
    · exact .malformed

theorem pow_le_of_width {width k : Nat} (h : width ≤ k) : 0x100 ^ width ≤ 0x100 ^ k :=
  Nat.pow_le_pow_right (by decide) h

theorem time_yields {seconds : Int} (n : Nat) (hmin : -0x8000000000000000 ≤ seconds)
    (hmax : seconds < 0x8000000000000000) : (time seconds n).Yields Scalar.Storable := by
  unfold time
  split
  · exact .pure ⟨hmin, hmax⟩
  · exact .throw _

theorem signed_bounds {width n : Nat} (hw : width ≤ 8) (h : n < 0x100 ^ width) :
    -0x8000000000000000 ≤ signed width n ∧ signed width n < 0x8000000000000000 := by
  have hsize := pow_le_of_width hw
  unfold signed
  dsimp only
  change -0x8000000000000000 ≤ (if 2 * n < 0x100 ^ width then (n : Int)
      else (n : Int) - (0x100 ^ width : Nat)) ∧
    (if 2 * n < 0x100 ^ width then (n : Int) else (n : Int) - (0x100 ^ width : Nat)) <
      0x8000000000000000
  generalize 0x100 ^ width = size at h hsize ⊢
  split <;> omega

theorem timestamp_yields (data : List UInt8) : (timestamp data).Yields Scalar.Storable := by
  have hbytes := bigEndian_lt data
  unfold timestamp
  dsimp only
  split_ifs with h4 h8 h12
  · rw [h4] at hbytes
    exact time_yields 0 (by omega) (by omega)
  · exact time_yields _ (by omega) (by omega)
  · have hword : bigEndian data % 0x10000000000000000 < 0x100 ^ 8 := Nat.mod_lt _ (by decide)
    have hsigned := signed_bounds le_rfl hword
    exact time_yields _ hsigned.1 hsigned.2
  · exact .throw _

theorem readExtension_yields {n : Nat} (h : n < 0x100000000) :
    (readExtension n).Yields Scalar.Storable := by
  refine (Yields.trivial (readWord 1)).bind fun type _ => ?_
  refine (takeBytes_yields n).bind fun data hdata => ?_
  split_ifs with ht hcode
  · exact timestamp_yields data
  · exact .pure (by unfold Scalar.Storable; omega)
  · exact .throw _

theorem readText_yields {n : Nat} (h : n < 0x100000000) :
    (readText n).Yields Scalar.Storable := by
  refine (takeBytes_yields n).bind fun bs hbs => ?_
  split
  · next s hs =>
    rw [Utf8.decode?_eq_some_iff] at hs
    subst hs
    exact .pure (by unfold Scalar.Storable; omega)
  · exact .throw _

/-- Every scalar that is read can be written. -/
theorem IsScalarReader.yields {r : Reader Scalar} (h : IsScalarReader r) :
    r.Yields Scalar.Storable := by
  induction h with
  | value s h => exact .pure h
  | malformed => exact .throw _
  | text n h => exact readText_yields h
  | bytes n h =>
    refine (takeBytes_yields n).bind fun bs hbs => .pure ?_
    unfold Scalar.Storable
    omega
  | extension n h => exact readExtension_yields h
  | sized width h read hread ih =>
    refine (readWord_yields width).bind fun n hn => ih n ?_
    have := pow_le_of_width h
    omega
  | unsigned width h =>
    refine (readWord_yields width).bind fun n hn => .pure ?_
    have := pow_le_of_width h
    unfold Scalar.Storable
    omega
  | signed width h =>
    refine (readWord_yields width).bind fun n hn => .pure ?_
    have := signed_bounds h hn
    unfold Scalar.Storable
    omega
  | float width widen => exact (Yields.trivial (readWord width)).bind fun n _ => .pure trivial

theorem timestamp_extends (data : List UInt8) : (timestamp data).Extends (timestamp data) := by
  have htime : ∀ seconds n, (time seconds n).Extends (time seconds n) := by
    intro seconds n
    unfold time
    split
    · exact .pure _
    · exact .throw _
  unfold timestamp
  dsimp only
  split_ifs
  · exact htime _ _
  · exact htime _ _
  · exact htime _ _
  · exact .throw _

theorem IsScalarReader.extends {r : Reader Scalar} (h : IsScalarReader r) : r.Extends r := by
  induction h with
  | value s h => exact .pure s
  | malformed => exact .throw _
  | text n h =>
    refine (takeBytes_extends n).bind fun bs => ?_
    split
    · exact .pure _
    · exact .throw _
  | bytes n h => exact (takeBytes_extends n).bind fun bs => .pure _
  | extension n h =>
    refine (readWord_extends 1).bind fun type => (takeBytes_extends n).bind fun data => ?_
    split_ifs
    · exact timestamp_extends data
    · exact .pure _
    · exact .throw _
  | sized width h read hread ih =>
    -- a length out of bounds never comes of a word of this width, so its reader needs no case
    refine (readWord_extends width).bind_of_yields (readWord_yields width) fun n hn => ih n ?_
    have := pow_le_of_width h
    omega
  | unsigned width h => exact (readWord_extends width).bind fun n => .pure _
  | signed width h => exact (readWord_extends width).bind fun n => .pure _
  | float width widen => exact (readWord_extends width).bind fun n => .pure _

end ClusterAgent.MessagePack
