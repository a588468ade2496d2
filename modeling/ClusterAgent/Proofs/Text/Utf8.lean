import ClusterAgent.Text.Utf8
import Mathlib.Data.List.Basic
import Mathlib.Data.List.TakeWhile
import Mathlib.Tactic.SplitIfs

/-! UTF-8 in both directions: the strict reader takes exactly what the writer produces. -/
namespace ClusterAgent

namespace WideText

@[simp] theorem toChars?_ofChars (cs : List Char) : toChars? (ofChars cs) = some cs := by
  unfold toChars? ofChars
  induction cs with
  | nil => rfl
  | cons c cs ih => simp [CodePoint.toChar?, ih]

theorem eq_ofChars_of_toChars? {t : WideText} {cs : List Char} (h : toChars? t = some cs) :
    t = ofChars cs := by
  unfold toChars? at h
  unfold ofChars
  induction t generalizing cs with
  | nil =>
    obtain rfl : [] = cs := by simpa using h
    rfl
  | cons p t ih =>
    cases p with
    | surrogate i => simp [CodePoint.toChar?] at h
    | char c =>
      obtain ⟨ds, hds, rfl⟩ : ∃ ds, t.mapM CodePoint.toChar? = some ds ∧ c :: ds = cs := by
        simpa [CodePoint.toChar?, Option.bind_eq_some_iff] using h
      rw [List.map_cons, ih hds]

/-- No surrogate occurs. -/
def Whole (t : WideText) : Prop := ∀ p ∈ t, p.toChar?.isSome

instance (t : WideText) : Decidable t.Whole := inferInstanceAs (Decidable (∀ p ∈ t, _))

theorem whole_ofChars (cs : List Char) : (ofChars cs).Whole := by
  intro p hp
  obtain ⟨c, -, rfl⟩ := List.mem_map.mp hp
  rfl

theorem Whole.append {t u : WideText} (ht : t.Whole) (hu : u.Whole) : Whole (t ++ u) := by
  intro p hp
  rcases List.mem_append.mp hp with hp | hp
  · exact ht p hp
  · exact hu p hp

theorem Whole.of_suffix {t u : WideText} (hu : u.Whole) (h : t <:+ u) : t.Whole :=
  fun p hp => hu p (h.subset hp)

theorem whole_cons {p : CodePoint} {t : WideText} (hp : p.toChar?.isSome) (ht : t.Whole) :
    WideText.Whole (p :: t) := List.forall_mem_cons.mpr ⟨hp, ht⟩

theorem exists_ofChars_of_whole {t : WideText} (h : t.Whole) : ∃ cs, t = ofChars cs := by
  induction t with
  | nil => exact ⟨[], rfl⟩
  | cons p t ih =>
    obtain ⟨cs, rfl⟩ := ih fun q hq => h q (by simp [hq])
    cases p with
    | char c => exact ⟨c :: cs, rfl⟩
    | surrogate i => exact absurd (h (.surrogate i) (by simp)) (by simp [CodePoint.toChar?])

@[simp] theorem toString?_ofString (s : String) : toString? (ofString s) = some s := by
  simp [toString?, ofString]

theorem toString?_ofChars (cs : List Char) : toString? (ofChars cs) = some (String.ofList cs) := by
  simp [toString?]

theorem toString?_eq_some_iff {t : WideText} {s : String} :
    toString? t = some s ↔ t = ofString s := by
  constructor
  · intro h
    obtain ⟨cs, hcs, rfl⟩ := Option.map_eq_some_iff.mp h
    rw [eq_ofChars_of_toChars? hcs, ofString, String.toList_ofList]
  · rintro rfl
    exact toString?_ofString s

theorem ofString_injective {s u : String} (h : ofString s = ofString u) : s = u := by
  have := congrArg toString? h
  simpa using this

theorem ofString_beq (s u : String) : (ofString s == ofString u) = (s == u) := by
  by_cases h : s = u
  · rw [h, beq_self_eq_true, beq_self_eq_true]
  · rw [beq_eq_false_iff_ne.mpr h, beq_eq_false_iff_ne]
    exact fun hs => h (ofString_injective hs)

end WideText

namespace Utf8

theorem tailLength_eq (lead : UInt8) :
    tailLength lead = if 0xC2 ≤ lead.toNat ∧ lead.toNat ≤ 0xDF then 1
      else if 0xE0 ≤ lead.toNat ∧ lead.toNat ≤ 0xEF then 2
      else if 0xF0 ≤ lead.toNat ∧ lead.toNat ≤ 0xF4 then 3 else 0 := by
  simp [tailLength, UInt8.le_iff_toNat_le]

theorem isTail_iff (b : UInt8) : isTail b = true ↔ 0x80 ≤ b.toNat ∧ b.toNat ≤ 0xBF := by
  simp [isTail, UInt8.le_iff_toNat_le]

/-- The least and the greatest byte after a lead byte. -/
theorem isSecond_iff (surrogates : Bool) (lead second : UInt8) :
    isSecond surrogates lead second = true ↔
      (if lead.toNat = 0xE0 then 0xA0 else if lead.toNat = 0xF0 then 0x90 else 0x80) ≤
        second.toNat ∧
      second.toNat ≤
        (if lead.toNat = 0xED ∧ surrogates = false then 0x9F
          else if lead.toNat = 0xF4 then 0x8F else 0xBF) := by
  have hE0 : lead = 0xE0 ↔ lead.toNat = 0xE0 := UInt8.toNat_inj.symm
  have hED : lead = 0xED ↔ lead.toNat = 0xED := UInt8.toNat_inj.symm
  have hF0 : lead = 0xF0 ↔ lead.toNat = 0xF0 := UInt8.toNat_inj.symm
  have hF4 : lead = 0xF4 ↔ lead.toNat = 0xF4 := UInt8.toNat_inj.symm
  unfold isSecond isTail
  simp only [UInt8.le_iff_toNat_le, UInt8.reduceToNat, hE0, hED, hF0, hF4]
  cases surrogates <;> grind

theorem tail_append {surrogates : Bool} {lead second : UInt8} {more : List UInt8}
    (hl : tailLength lead = more.length + 1) (hs : isSecond surrogates lead second = true)
    (hm : ∀ b ∈ more, isTail b = true) (rest : List UInt8) :
    tail surrogates lead (second :: (more ++ rest)) = second :: more := by
  unfold tail
  rw [hl, List.take_succ_cons, List.take_left' rfl]
  simp only [hs, if_true]
  rw [List.takeWhile_eq_self_iff.mpr hm]

/-- A tail of full length stands at the head of the bytes, and is well-formed. -/
theorem eq_append_of_tail {surrogates : Bool} {lead second : UInt8} {r more : List UInt8}
    (ht : tail surrogates lead r = second :: more) (hl : tailLength lead = more.length + 1) :
    r = second :: (more ++ r.drop (more.length + 1)) ∧
      isSecond surrogates lead second = true ∧ ∀ b ∈ more, isTail b = true := by
  have hcut := List.take_append_drop (tailLength lead) r
  have hsize := List.length_take_le (tailLength lead) r
  unfold tail at ht
  cases htake : r.take (tailLength lead) with
  | nil => simp [htake] at ht
  | cons s m =>
    rw [htake] at ht hcut hsize
    dsimp only at ht
    split at ht
    · next hs =>
      obtain ⟨rfl, hmore⟩ : s = second ∧ m.takeWhile isTail = more := by simpa using ht
      have hprefix : m.takeWhile isTail <+: m := List.takeWhile_prefix isTail
      have hwhole : m.takeWhile isTail = m := by
        apply hprefix.eq_of_length
        have := hprefix.length_le
        rw [hmore] at this ⊢
        simp only [List.length_cons] at hsize
        omega
      obtain rfl : m = more := hwhole.symm.trans hmore
      refine ⟨?_, hs, ?_⟩
      · rw [← hl]
        exact hcut.symm
      · exact List.takeWhile_eq_self_iff.mp hwhole
    · simp at ht

/-- What the reader takes for a code point: a byte of ASCII, or a lead byte with all of its tail. -/
theorem head_eq_point_iff (surrogates : Bool) (lead : UInt8) (r rest : List UInt8)
    (p : CodePoint) :
    head surrogates (lead :: r) = .point p rest ↔
      (lead.toNat < 0x80 ∧ CodePoint.ofNat? lead.toNat = some p ∧ r = rest) ∨
      (0x80 ≤ lead.toNat ∧ ∃ second more, r = second :: (more ++ rest) ∧
        tailLength lead = more.length + 1 ∧ isSecond surrogates lead second = true ∧
        (∀ b ∈ more, isTail b = true) ∧
        CodePoint.ofNat? (number lead (second :: more)) = some p) := by
  have hof : ∀ n r, Head.ofNat n r = .point p rest ↔ CodePoint.ofNat? n = some p ∧ r = rest := by
    intro n r
    unfold Head.ofNat
    cases CodePoint.ofNat? n <;> simp
  have hlt : lead < 0x80 ↔ lead.toNat < 0x80 := UInt8.lt_iff_toNat_lt
  unfold head
  simp only [hlt]
  by_cases hascii : lead.toNat < 0x80
  · have hge : ¬ 0x80 ≤ lead.toNat := by omega
    simp [hascii, hof, hge]
  · have hge : 0x80 ≤ lead.toNat := by omega
    simp only [hascii, if_false, false_and, false_or, hge, true_and]
    constructor
    · intro h
      cases ht : tail surrogates lead r with
      | nil => simp [ht] at h
      | cons second more =>
        simp only [ht, List.isEmpty_cons, Bool.not_false, Bool.and_true,
          List.length_cons] at h
        split at h
        · next hl =>
          have hl : tailLength lead = more.length + 1 := (of_decide_eq_true hl).symm
          obtain ⟨hp, hrest⟩ := (hof _ _).mp h
          obtain ⟨hr, hs, hm⟩ := eq_append_of_tail ht hl
          exact ⟨second, more, by rw [← hrest]; exact hr, hl, hs, hm, hp⟩
        · simp at h
    · rintro ⟨second, more, rfl, hl, hs, hm, hp⟩
      rw [tail_append hl hs hm rest]
      simp [hl, hof, hp]

theorem ofNat?_eq_char {n : Nat} (h : n < 0xD800 ∨ 0xDFFF < n ∧ n < 0x110000) :
    CodePoint.ofNat? n = some (.char (Char.ofNat n)) := by
  unfold CodePoint.ofNat?
  rw [if_neg (by omega), if_pos (by omega)]

theorem char_valid (c : Char) : c.toNat < 0xD800 ∨ 0xDFFF < c.toNat ∧ c.toNat < 0x110000 := c.valid

theorem toNat_byte {n : Nat} (h : n < 0x100) : n.toUInt8.toNat = n := UInt8.toNat_ofNat_of_lt' h

theorem number_two (a b : UInt8) : number a [b] = a.toNat % 0x20 * 0x40 + b.toNat % 0x40 := rfl

theorem number_three (a b c : UInt8) :
    number a [b, c] = (a.toNat % 0x10 * 0x40 + b.toNat % 0x40) * 0x40 + c.toNat % 0x40 := by
  simp [number, payload]

theorem number_four (a b c d : UInt8) :
    number a [b, c, d] =
      ((a.toNat % 0x08 * 0x40 + b.toNat % 0x40) * 0x40 + c.toNat % 0x40) * 0x40 +
        d.toNat % 0x40 := by
  simp [number, payload]

/-- The writer's bytes of a character read back as that character, whatever follows them. -/
theorem head_encodeChar (surrogates : Bool) (c : Char) (rest : List UInt8) :
    head surrogates (encodeChar c ++ rest) = .point (.char c) rest := by
  have hv := char_valid c
  have hp : CodePoint.ofNat? c.toNat = some (.char c) := by
    rw [ofNat?_eq_char hv, Char.ofNat_toNat]
  unfold encodeChar encodeNat
  generalize c.toNat = n at hv hp ⊢
  split_ifs with h1 h2 h3
  · rw [List.singleton_append, head_eq_point_iff, toNat_byte (by omega)]
    exact Or.inl ⟨h1, hp, rfl⟩
  · rw [List.cons_append, head_eq_point_iff, toNat_byte (by omega)]
    refine Or.inr ⟨by omega, _, [], rfl, ?_, ?_, by simp, ?_⟩
    · rw [tailLength_eq, toNat_byte (by omega), if_pos (by omega)]
      rfl
    · rw [isSecond_iff, toNat_byte (by omega), toNat_byte (by omega)]
      split_ifs <;> omega
    · rw [← hp]
      congr 1
      rw [number_two, toNat_byte (by omega), toNat_byte (by omega)]
      omega
  · rw [List.cons_append, List.cons_append, head_eq_point_iff, toNat_byte (by omega)]
    refine Or.inr ⟨by omega, _, [_], rfl, ?_, ?_, ?_, ?_⟩
    · rw [tailLength_eq, toNat_byte (by omega), if_neg (by omega), if_pos (by omega)]
      rfl
    · rw [isSecond_iff, toNat_byte (by omega), toNat_byte (by omega)]
      split_ifs <;> omega
    · simp only [List.mem_singleton, forall_eq]
      rw [isTail_iff, toNat_byte (by omega)]
      omega
    · rw [← hp]
      congr 1
      rw [number_three, toNat_byte (by omega), toNat_byte (by omega), toNat_byte (by omega)]
      omega
  · rw [List.cons_append, List.cons_append, head_eq_point_iff, toNat_byte (by omega)]
    refine Or.inr ⟨by omega, _, [_, _], rfl, ?_, ?_, ?_, ?_⟩
    · rw [tailLength_eq, toNat_byte (by omega), if_neg (by omega), if_neg (by omega),
        if_pos (by omega)]
      rfl
    · rw [isSecond_iff, toNat_byte (by omega), toNat_byte (by omega)]
      split_ifs <;> omega
    · simp only [List.mem_cons, List.not_mem_nil, or_false, forall_eq_or_imp, forall_eq]
      rw [isTail_iff, isTail_iff, toNat_byte (by omega), toNat_byte (by omega)]
      omega
    · rw [← hp]
      congr 1
      rw [number_four, toNat_byte (by omega), toNat_byte (by omega), toNat_byte (by omega),
        toNat_byte (by omega)]
      omega

theorem encodeNat_one {a : UInt8} (ha : a.toNat < 0x80) : encodeNat a.toNat = [a] := by
  unfold encodeNat
  rw [if_pos ha]
  simp

theorem encodeNat_two {a b : UInt8} (ha : 0xC2 ≤ a.toNat ∧ a.toNat ≤ 0xDF)
    (hb : 0x80 ≤ b.toNat ∧ b.toNat ≤ 0xBF) : encodeNat (number a [b]) = [a, b] := by
  rw [number_two]
  unfold encodeNat
  rw [if_neg (by omega), if_pos (by omega)]
  simp only [List.cons.injEq, ← UInt8.toNat_inj, and_true]
  rw [toNat_byte (by omega), toNat_byte (by omega)]
  omega

theorem encodeNat_three {a b c : UInt8} (ha : 0xE0 ≤ a.toNat ∧ a.toNat ≤ 0xEF)
    (hb : 0x80 ≤ b.toNat ∧ b.toNat ≤ 0xBF) (hc : 0x80 ≤ c.toNat ∧ c.toNat ≤ 0xBF)
    (hs : a.toNat = 0xE0 → 0xA0 ≤ b.toNat) : encodeNat (number a [b, c]) = [a, b, c] := by
  rw [number_three]
  unfold encodeNat
  rw [if_neg (by omega), if_neg (by omega), if_pos (by omega)]
  simp only [List.cons.injEq, ← UInt8.toNat_inj, and_true]
  rw [toNat_byte (by omega), toNat_byte (by omega), toNat_byte (by omega)]
  omega

theorem encodeNat_four {a b c d : UInt8} (ha : 0xF0 ≤ a.toNat ∧ a.toNat ≤ 0xF4)
    (hb : 0x80 ≤ b.toNat ∧ b.toNat ≤ 0xBF) (hc : 0x80 ≤ c.toNat ∧ c.toNat ≤ 0xBF)
    (hd : 0x80 ≤ d.toNat ∧ d.toNat ≤ 0xBF) (hs : a.toNat = 0xF0 → 0x90 ≤ b.toNat) :
    encodeNat (number a [b, c, d]) = [a, b, c, d] := by
  rw [number_four]
  unfold encodeNat
  rw [if_neg (by omega), if_neg (by omega), if_neg (by omega)]
  simp only [List.cons.injEq, ← UInt8.toNat_inj, and_true]
  rw [toNat_byte (by omega), toNat_byte (by omega), toNat_byte (by omega), toNat_byte (by omega)]
  omega

/-- What follows a lead byte never has a shorter form. -/
theorem encodeNat_number {surrogates : Bool} {lead second : UInt8} {more : List UInt8}
    (hl : tailLength lead = more.length + 1) (hs : isSecond surrogates lead second = true)
    (hm : ∀ b ∈ more, isTail b = true) :
    encodeNat (number lead (second :: more)) = lead :: second :: more := by
  rw [tailLength_eq] at hl
  rw [isSecond_iff] at hs
  have hsecond : 0x80 ≤ second.toNat ∧ second.toNat ≤ 0xBF := by split_ifs at hs <;> omega
  split_ifs at hl with h1 h2 h3
  · obtain rfl : more = [] := List.length_eq_zero_iff.mp (by omega)
    exact encodeNat_two h1 hsecond
  · obtain ⟨c, rfl⟩ : ∃ c, more = [c] := List.length_eq_one_iff.mp (by omega)
    have hc := (isTail_iff c).mp (hm c (by simp))
    exact encodeNat_three h2 hsecond hc (by intro he; rw [if_pos he] at hs; exact hs.1)
  · obtain ⟨c, d, rfl⟩ : ∃ c d, more = [c, d] := List.length_eq_two.mp (by omega)
    have hc := (isTail_iff c).mp (hm c (by simp))
    have hd := (isTail_iff d).mp (hm d (by simp))
    refine encodeNat_four h3 hsecond hc hd ?_
    intro he
    rw [if_neg (by omega), if_pos he] at hs
    exact hs.1

/-- The number of a strict reading is no surrogate. -/
theorem number_not_surrogate {lead second : UInt8} {more : List UInt8}
    (hl : tailLength lead = more.length + 1) (hs : isSecond false lead second = true)
    (hm : ∀ b ∈ more, isTail b = true) :
    ¬ (0xD800 ≤ number lead (second :: more) ∧ number lead (second :: more) < 0xE000) := by
  rw [tailLength_eq] at hl
  rw [isSecond_iff] at hs
  split_ifs at hl with h1 h2 h3
  · obtain rfl : more = [] := List.length_eq_zero_iff.mp (by omega)
    rw [number_two]
    omega
  · obtain ⟨c, rfl⟩ : ∃ c, more = [c] := List.length_eq_one_iff.mp (by omega)
    rw [number_three]
    simp only [and_true] at hs
    split_ifs at hs <;> omega
  · obtain ⟨c, d, rfl⟩ : ∃ c d, more = [c, d] := List.length_eq_two.mp (by omega)
    rw [number_four]
    split_ifs at hs <;> omega

theorem eq_char_of_ofNat? {n : Nat} {p : CodePoint} (h : CodePoint.ofNat? n = some p)
    (hn : ¬ (0xD800 ≤ n ∧ n < 0xE000)) : ∃ c : Char, p = .char c ∧ c.toNat = n := by
  unfold CodePoint.ofNat? at h
  rw [if_neg hn] at h
  split_ifs at h with hlt
  refine ⟨Char.ofNat n, by simpa using h.symm, ?_⟩
  have hv : n.isValidChar := by
    unfold Nat.isValidChar
    omega
  have hchar : Char.ofNat n = Char.ofNatAux n hv := dif_pos hv
  rw [hchar]
  rfl

/-- What the strict reader takes for a character is the writer's form of that character. -/
theorem encodeChar_of_head {lead : UInt8} {r rest : List UInt8} {p : CodePoint}
    (h : head false (lead :: r) = .point p rest) :
    ∃ c, p = .char c ∧ encodeChar c ++ rest = lead :: r := by
  rcases (head_eq_point_iff false lead r rest p).mp h with
    ⟨hascii, hp, rfl⟩ | ⟨-, second, more, rfl, hl, hs, hm, hp⟩
  · obtain ⟨c, hc, hn⟩ := eq_char_of_ofNat? hp (by omega)
    refine ⟨c, hc, ?_⟩
    rw [encodeChar, hn, encodeNat_one hascii]
    rfl
  · obtain ⟨c, hc, hn⟩ := eq_char_of_ofNat? hp (number_not_surrogate hl hs hm)
    refine ⟨c, hc, ?_⟩
    rw [encodeChar, hn, encodeNat_number hl hs hm]
    rfl

theorem encodeChar_ne_nil (c : Char) : encodeChar c ≠ [] := by
  unfold encodeChar encodeNat
  split_ifs <;> simp

theorem length_encodeChar_le (c : Char) : (encodeChar c).length ≤ 4 := by
  unfold encodeChar encodeNat
  split_ifs <;> simp

theorem length_encode_le (s : String) : (encode s).length ≤ 4 * s.length := by
  rw [encode, ← String.length_toList]
  induction s.toList with
  | nil => simp [encodeChars]
  | cons c cs ih =>
    have hc := length_encodeChar_le c
    have hcons : encodeChars (c :: cs) = encodeChar c ++ encodeChars cs := by simp [encodeChars]
    rw [hcons, List.length_append, List.length_cons]
    omega

/-- A character takes at least one byte. -/
theorem length_le_encodeChars (cs : List Char) : cs.length ≤ (encodeChars cs).length := by
  induction cs with
  | nil => simp
  | cons c cs ih =>
    have hc := List.length_pos_iff.mpr (encodeChar_ne_nil c)
    have hcons : encodeChars (c :: cs) = encodeChar c ++ encodeChars cs := by simp [encodeChars]
    rw [hcons, List.length_cons, List.length_append]
    omega

theorem decodeWide?_encodeChars (surrogates : Bool) (cs : List Char) :
    decodeWide? surrogates (encodeChars cs) = some (WideText.ofChars cs) := by
  induction cs with
  | nil => rw [encodeChars, List.flatMap_nil, decodeWide?]; rfl
  | cons c cs ih =>
    have hcons : encodeChars (c :: cs) = encodeChar c ++ encodeChars cs := by simp [encodeChars]
    have hhead := head_encodeChar surrogates c (encodeChars cs)
    rw [hcons]
    cases hb : encodeChar c ++ encodeChars cs with
    | nil => exact absurd (List.append_eq_nil_iff.mp hb).1 (encodeChar_ne_nil c)
    | cons a r =>
      rw [hb] at hhead
      rw [decodeWide?]
      split
      · next p rest heq =>
        rw [hhead] at heq
        cases heq
        rw [ih]
        rfl
      · next h => exact absurd hhead (h _ _)

theorem eq_encodeChars_of_decodeWide? {bs : List UInt8} {t : WideText}
    (h : decodeWide? false bs = some t) : ∃ cs, t = WideText.ofChars cs ∧ bs = encodeChars cs := by
  fun_induction decodeWide? false bs generalizing t with
  | case1 => exact ⟨[], (Option.some.inj h).symm, rfl⟩
  | case2 a r p rest hhead ih =>
    obtain ⟨u, hu, rfl⟩ := Option.map_eq_some_iff.mp h
    obtain ⟨cs, rfl, rfl⟩ := ih hu
    obtain ⟨c, rfl, hbytes⟩ := encodeChar_of_head hhead
    exact ⟨c :: cs, rfl, by rw [← hbytes]; simp [encodeChars]⟩
  | case3 => simp at h

/-- The strict reader takes each text in one form only, the writer's. -/
theorem decode?_eq_some_iff (bs : List UInt8) (s : String) :
    decode? bs = some s ↔ bs = encode s := by
  unfold decode? encode
  constructor
  · intro h
    obtain ⟨t, ht, hs⟩ := Option.bind_eq_some_iff.mp h
    obtain ⟨cs, rfl, rfl⟩ := eq_encodeChars_of_decodeWide? ht
    rw [WideText.toString?_ofChars] at hs
    obtain rfl := Option.some.inj hs
    simp
  · rintro rfl
    rw [decodeWide?_encodeChars, Option.bind_some]
    exact WideText.toString?_ofString s

@[simp] theorem decode?_encode (s : String) : decode? (encode s) = some s :=
  (decode?_eq_some_iff _ s).mpr rfl

@[simp] theorem encodeWide?_ofString (s : String) :
    encodeWide? (WideText.ofString s) = some (encode s) := by
  simp [encodeWide?, WideText.ofString, encode]

theorem exists_encodeWide? {t : WideText} (h : t.Whole) : ∃ bs, encodeWide? t = some bs := by
  obtain ⟨cs, rfl⟩ := WideText.exists_ofChars_of_whole h
  exact ⟨encodeChars cs, by rw [encodeWide?, WideText.toChars?_ofChars, Option.map_some]⟩

theorem decodeWide?_of_encodeWide? {t : WideText} {bs : List UInt8} (h : encodeWide? t = some bs) :
    decodeWide? false bs = some t := by
  obtain ⟨cs, hcs, rfl⟩ := Option.map_eq_some_iff.mp h
  rw [decodeWide?_encodeChars, WideText.eq_ofChars_of_toChars? hcs]

theorem whole_of_encodeWide? {t : WideText} {bs : List UInt8} (h : encodeWide? t = some bs) :
    t.Whole := by
  obtain ⟨cs, hcs, rfl⟩ := Option.map_eq_some_iff.mp h
  rw [WideText.eq_ofChars_of_toChars? hcs]
  exact WideText.whole_ofChars cs

end Utf8
end ClusterAgent
