import ClusterAgent.Proofs.Json.Text
import Mathlib.Data.List.Chain

/-! Texts with halves of surrogate pairs, escaped by their numbers: they read back unless two halves
that make a pair stand side by side, which are read as one character. -/
namespace ClusterAgent

/-- No half of a pair stands in front of its other half. -/
def WideText.Unpaired (t : WideText) : Prop :=
  t.IsChain fun p q => ¬ (Json.isHigh p.toNat ∧ Json.isLow q.toNat)

instance (t : WideText) : Decidable t.Unpaired := inferInstanceAs (Decidable (t.IsChain _))

namespace Json

variable {p : CodePoint} {rest : Input}

theorem isHigh_iff (n : Nat) : isHigh n ↔ 0xD800 ≤ n ∧ n < 0xDC00 := by
  simp [isHigh]

theorem isLow_iff (n : Nat) : isLow n ↔ 0xDC00 ≤ n ∧ n < 0xE000 := by
  simp [isLow]

theorem ofNat?_surrogate (i : Fin 0x800) :
    CodePoint.ofNat? (0xD800 + i.val) = some (.surrogate i) := by
  have hrange : 0xD800 ≤ 0xD800 + i.val ∧ 0xD800 + i.val < 0xE000 := by omega
  have hindex : Fin.ofNat 0x800 (0xD800 + i.val - 0xD800) = i := by
    rw [Nat.add_sub_cancel_left]
    exact Fin.ofNat_val_eq_self i
  unfold CodePoint.ofNat?
  rw [if_pos hrange, hindex]

/-- No escape of a second half stands first. -/
def FollowsHigh (s : Input) : Prop :=
  ∀ a b c d tail, s = .char '\\' :: .char 'u' :: a :: b :: c :: d :: tail →
    ∃ v, hex4? a b c d = some v ∧ isLow v = false

theorem followsHigh_of_ne {s : Input} (h : ∀ q ∈ s.head?, q ≠ .char '\\') : FollowsHigh s := by
  rintro a b c d tail rfl
  exact absurd rfl (h _ rfl)

theorem followsHigh_short {q : CodePoint} (h : q ≠ .char 'u') (rest : Input) :
    FollowsHigh (.char '\\' :: q :: rest) := by
  intro a b c d tail heq
  exact absurd (List.cons.inj (List.cons.inj heq).2).1 h

theorem followsHigh_escapeHex {n : Nat} (hn : n < 0x10000) (hlow : isLow n = false) (rest : Input) :
    FollowsHigh (WideText.ofChars (escapeHex n) ++ rest) := by
  intro a b c d tail heq
  rw [ofChars_escapeHex_append] at heq
  simp only [List.cons.injEq, true_and] at heq
  obtain ⟨rfl, rfl, rfl, rfl, -⟩ := heq
  exact ⟨n, hex4?_hexDigit hn, hlow⟩

/-- An escaped code point that is no second half is not taken for one. -/
theorem followsHigh_escapePoint (hp : isLow p.toNat = false) (rest : Input) :
    FollowsHigh (escapePoint true p ++ rest) := by
  have hlow := mt (isLow_iff p.toNat).mpr (Bool.eq_false_iff.mp hp)
  have hbound : p.toNat < 0x110000 := by
    cases p with
    | char c =>
      have hvalid := Utf8.char_valid c
      simp only [CodePoint.toNat]
      omega
    | surrogate i => simp only [CodePoint.toNat]; omega
  unfold escapePoint
  split
  iterate 7 exact followsHigh_short (by decide) rest
  next hescape _ _ _ _ _ =>
    dsimp only
    split_ifs with hhex hpair
    · simp only [Bool.true_and, Bool.or_eq_true, Bool.and_eq_true, decide_eq_true_eq] at hhex
      exact followsHigh_escapeHex (by omega) hp rest
    · simp only [Bool.true_and, decide_eq_true_eq] at hpair
      have hhigh : isLow (0xD800 + (p.toNat - 0x10000) / 0x400) = false :=
        Bool.eq_false_iff.mpr (mt (isLow_iff _).mp (by omega))
      rw [WideText.ofChars, List.map_append, List.append_assoc]
      exact followsHigh_escapeHex (by omega) hhigh _
    · refine followsHigh_of_ne ?_
      rintro q ⟨⟩
      exact hescape

/-- An escaped half is read as it is, unless the other half follows the first one. -/
theorem readString_surrogate (i : Fin 0x800) (read : WideText)
    (hrest : isHigh (0xD800 + i.val) → FollowsHigh rest) :
    readString true read (WideText.ofChars (escapeHex (0xD800 + i.val)) ++ rest) =
      readString true (.surrogate i :: read) rest := by
  have hpoint : (CodePoint.ofNat? (0xD800 + i.val)).toList ++ read = .surrogate i :: read := by
    rw [ofNat?_surrogate]
    rfl
  rw [ofChars_escapeHex_append, readString, hex4?_hexDigit (by omega)]
  dsimp only
  rw [hpoint]
  by_cases hhigh : isHigh (0xD800 + i.val) = true
  · rw [if_pos hhigh]
    split
    · next a b c d tail =>
      obtain ⟨v, hv, hlow⟩ := hrest hhigh a b c d tail rfl
      rw [hv]
      dsimp only
      rw [hlow, if_neg Bool.false_ne_true, if_pos rfl]
    · rfl
  · rw [if_neg hhigh, Bool.not_true, Bool.and_false, if_neg Bool.false_ne_true]

theorem escapePoint_surrogate (i : Fin 0x800) :
    escapePoint true (.surrogate i) = WideText.ofChars (escapeHex (0xD800 + i.val)) := by
  have hsize : (0x7F ≤ 0xD800 + i.val ∧ 0xD800 + i.val < 0x10000) := by omega
  simp [escapePoint, CodePoint.toNat, hsize]

theorem readString_unpaired {t : WideText} (ht : t.Unpaired) (read rest : WideText) :
    readString true read (t.flatMap (escapePoint true) ++ .char '"' :: rest) =
      .ok (read.reverse ++ t, rest) := by
  induction t generalizing read with
  | nil => rw [List.flatMap_nil, List.nil_append, readString_quote, List.append_nil]
  | cons p t ih =>
    have htail : WideText.Unpaired t := List.IsChain.tail ht
    rw [List.flatMap_cons, List.append_assoc]
    cases p with
    | char c =>
      rw [readString_escapePoint_char, ih htail, List.reverse_cons, List.append_assoc,
        List.singleton_append]
    | surrogate i =>
      have hrest : isHigh (0xD800 + i.val) →
          FollowsHigh (t.flatMap (escapePoint true) ++ .char '"' :: rest) := by
        intro hhigh
        cases t with
        | nil => exact followsHigh_of_ne (by rintro q ⟨⟩; decide)
        | cons q t =>
          have hnext :
              ¬ (isHigh (0xD800 + i.val) ∧ isLow q.toNat) := (List.isChain_cons_cons.mp ht).1
          have hlow : isLow q.toNat = false := Bool.eq_false_iff.mpr fun hlow => hnext ⟨hhigh, hlow⟩
          rw [List.flatMap_cons, List.append_assoc]
          exact followsHigh_escapePoint hlow _
      rw [escapePoint_surrogate, readString_surrogate i read hrest, ih htail, List.reverse_cons,
        List.append_assoc, List.singleton_append]

/-! ### Pairs -/

theorem escapePoint_of_wide {c : Char} (h : 0x10000 ≤ c.toNat) :
    escapePoint true (.char c) =
      WideText.ofChars (escapeHex (0xD800 + (c.toNat - 0x10000) / 0x400) ++
      escapeHex (0xDC00 + (c.toNat - 0x10000) % 0x400)) := by
  have hnarrow : ∀ e : Char, e.toNat < 0x10000 → CodePoint.char c ≠ .char e := by
    rintro e he ⟨⟩
    omega
  have hhex : ¬ (c.toNat < 0x20 || (true && 0x7F ≤ c.toNat && c.toNat < 0x10000)) := by
    simp only [Bool.true_and, Bool.or_eq_true, Bool.and_eq_true, decide_eq_true_eq]
    omega
  have hpair : (true && 0x10000 ≤ c.toNat) := by simpa using h
  unfold escapePoint
  split
  iterate 7
    next heq => exact absurd heq (hnarrow _ (by decide))
  exact (if_neg hhex).trans (if_pos hpair)

/-- Escaped side by side, the halves of a pair are written as the character is that they stand
for. -/
theorem escapePoint_joinPair {i j : Fin 0x800} (hi : i.val < 0x400) (hj : 0x400 ≤ j.val) :
    escapePoint true (joinPair (0xD800 + i.val) (0xD800 + j.val)) =
      escapePoint true (.surrogate i) ++ escapePoint true (.surrogate j) := by
  obtain ⟨n, hn⟩ : ∃ n,
      n = 0x10000 + (0xD800 + i.val - 0xD800) * 0x400 + (0xD800 + j.val - 0xDC00) :=
    ⟨_, rfl⟩
  have hvalid : n.isValidChar := by
    unfold Nat.isValidChar
    omega
  have hnumber : (Char.ofNat n).toNat = n := by
    unfold Char.ofNat
    rw [dif_pos hvalid]
    rfl
  have hhigh : 0xD800 + i.val = 0xD800 + (n - 0x10000) / 0x400 := by omega
  have hlow : 0xD800 + j.val = 0xDC00 + (n - 0x10000) % 0x400 := by omega
  rw [joinPair, ← hn, escapePoint_surrogate, escapePoint_surrogate, hhigh, hlow,
    escapePoint_of_wide (by omega), hnumber]
  exact List.map_append

theorem exists_surrogate {p : CodePoint} (h : 0xD800 ≤ p.toNat ∧ p.toNat < 0xE000) :
    ∃ i, p = .surrogate i := by
  cases p with
  | char c =>
    have hvalid : c.toNat < 0xD800 ∨ 0xDFFF < c.toNat ∧ c.toNat < 0x110000 := c.valid
    have hnumber : 0xD800 ≤ c.toNat ∧ c.toNat < 0xE000 := h
    omega
  | surrogate i => exact ⟨i, rfl⟩

/-- Halves of a pair that stand side by side in a text are printed as the one character, so what is
printed cannot be read as the text. -/
theorem printString_joinPair {style : Style} (hstyle : style.asciiOnly = true) {p q : CodePoint}
    (hp : isHigh p.toNat) (hq : isLow q.toNat) (t u : WideText) :
    printString style (t ++ joinPair p.toNat q.toNat :: u) =
      printString style (t ++ p :: q :: u) := by
  rw [isHigh_iff] at hp
  rw [isLow_iff] at hq
  obtain ⟨i, rfl⟩ := exists_surrogate ⟨hp.1, by omega⟩
  obtain ⟨j, rfl⟩ := exists_surrogate ⟨by omega, hq.2⟩
  have hi : i.val < 0x400 := by
    have hnumber : 0xD800 + i.val < 0xDC00 := hp.2
    omega
  have hj : 0x400 ≤ j.val := by
    have hnumber : 0xDC00 ≤ 0xD800 + j.val := hq.1
    omega
  have hpair := escapePoint_joinPair hi hj
  unfold printString
  simp only [List.flatMap_append, List.flatMap_cons, hstyle, CodePoint.toNat, hpair,
    List.append_assoc]

end Json
end ClusterAgent
