import ClusterAgent.Json.Printer
import ClusterAgent.Json.Reader
import ClusterAgent.Proofs.Text.Utf8

/-! Texts inside quotes read back as they were, whichever characters are escaped. -/
namespace ClusterAgent.Json

/-! ### Escapes -/

theorem hexDigit?_hexDigit : ∀ n < 16, hexDigit? (.char (Text.hexDigit n)) = some n := by decide

theorem hex4?_hexDigit {n : Nat} (h : n < 0x10000) :
    hex4? (.char (Text.hexDigit (n / 16 / 16 / 16 % 16))) (.char (Text.hexDigit (n / 16 / 16 % 16)))
      (.char (Text.hexDigit (n / 16 % 16))) (.char (Text.hexDigit (n % 16))) = some n := by
  have hdigit : ∀ m, hexDigit? (.char (Text.hexDigit (m % 16))) = some (m % 16) := fun m =>
    hexDigit?_hexDigit _ (Nat.mod_lt _ (by decide))
  have hsum :
      ((n / 16 / 16 / 16 % 16 * 16 + n / 16 / 16 % 16) * 16 + n / 16 % 16) * 16 + n % 16 = n := by
    omega
  simp only [hex4?, hdigit, Option.bind_eq_bind, Option.bind_some, Option.pure_def, hsum]

theorem ofChars_escapeHex_append (n : Nat) (rest : WideText) :
    WideText.ofChars (escapeHex n) ++ rest = .char '\\' :: .char 'u' ::
      .char (Text.hexDigit (n / 16 / 16 / 16 % 16)) :: .char (Text.hexDigit (n / 16 / 16 % 16)) ::
      .char (Text.hexDigit (n / 16 % 16)) :: .char (Text.hexDigit (n % 16)) :: rest := rfl

theorem readString_quote (lone : Bool) (read rest : WideText) :
    readString lone read (.char '"' :: rest) = .ok (read.reverse, rest) := by
  rw [readString]

theorem readString_short {e : CodePoint} {c : Char} (h : shortEscape? e = some c) (lone : Bool)
    (read rest : WideText) :
    readString lone read (.char '\\' :: e :: rest) = readString lone (.char c :: read) rest := by
  have hu : e ≠ .char 'u' := by
    rintro rfl
    cases h
  rw [readString]
  · rw [h]
  · exact fun _ _ _ _ _ he _ => hu he

theorem readString_plain {p : CodePoint} (hquote : p ≠ .char '"') (hescape : p ≠ .char '\\')
    (hp : 0x20 ≤ p.toNat) (lone : Bool) (read rest : WideText) :
    readString lone read (p :: rest) = readString lone (p :: read) rest := by
  rw [readString]
  · rw [if_neg (by omega)]
  · exact hquote
  · exact fun _ _ _ _ _ he _ => hescape he
  · exact fun _ _ he _ => hescape he

theorem readString_hex {n : Nat} (h : n < 0xD800 ∨ 0xDFFF < n ∧ n < 0x10000) (lone : Bool)
    (read rest : WideText) :
    readString lone read (WideText.ofChars (escapeHex n) ++ rest) =
      readString lone (.char (Char.ofNat n) :: read) rest := by
  have hhigh : isHigh n = false := by
    unfold isHigh
    simp only [Bool.and_eq_false_iff, decide_eq_false_iff_not]
    omega
  have hlow : isLow n = false := by
    unfold isLow
    simp only [Bool.and_eq_false_iff, decide_eq_false_iff_not]
    omega
  have hpoint : CodePoint.ofNat? n = some (.char (Char.ofNat n)) := by
    unfold CodePoint.ofNat?
    rw [if_neg (by omega), if_pos (by omega)]
  rw [ofChars_escapeHex_append, readString, hex4?_hexDigit (by omega)]
  simp only [hhigh, hlow, hpoint, Bool.false_eq_true, if_false, Bool.false_and, Option.toList_some,
    List.singleton_append]

theorem readString_pair {n : Nat} (h : 0x10000 ≤ n) (hn : n < 0x110000) (lone : Bool)
    (read rest : WideText) :
    readString lone read (WideText.ofChars (escapeHex (0xD800 + (n - 0x10000) / 0x400) ++
        escapeHex (0xDC00 + (n - 0x10000) % 0x400)) ++ rest) =
      readString lone (.char (Char.ofNat n) :: read) rest := by
  have hhigh : isHigh (0xD800 + (n - 0x10000) / 0x400) = true := by
    unfold isHigh
    simp only [Bool.and_eq_true, decide_eq_true_eq]
    omega
  have hlow : isLow (0xDC00 + (n - 0x10000) % 0x400) = true := by
    unfold isLow
    simp only [Bool.and_eq_true, decide_eq_true_eq]
    omega
  have hjoin : joinPair (0xD800 + (n - 0x10000) / 0x400) (0xDC00 + (n - 0x10000) % 0x400) =
      .char (Char.ofNat n) := by
    have hsum : 0x10000 + (0xD800 + (n - 0x10000) / 0x400 - 0xD800) * 0x400 +
        (0xDC00 + (n - 0x10000) % 0x400 - 0xDC00) = n := by omega
    rw [joinPair, hsum]
  have hsplit : ∀ cs ds : List Char, WideText.ofChars (cs ++ ds) ++ rest =
      WideText.ofChars cs ++ (WideText.ofChars ds ++ rest) := by
    intro cs ds
    simp [WideText.ofChars]
  rw [hsplit, ofChars_escapeHex_append, readString, hex4?_hexDigit (by omega)]
  simp only [hhigh, if_true, ofChars_escapeHex_append]
  rw [hex4?_hexDigit (by omega)]
  simp only [hlow, if_true, hjoin]

/-- A surrogate alone between quotes is read only by a reader that lets it pass. -/
theorem readString_lone {n : Nat} (h : 0xD800 ≤ n ∧ n < 0xE000) (lone : Bool) (rest : WideText) :
    readString lone [] (WideText.ofChars (escapeHex n) ++ .char '"' :: rest) =
      if lone then .ok ((CodePoint.ofNat? n).toList, rest) else .error .malformed := by
  have hreverse : ((CodePoint.ofNat? n).toList ++ []).reverse = (CodePoint.ofNat? n).toList := by
    cases CodePoint.ofNat? n <;> rfl
  rw [ofChars_escapeHex_append, readString, hex4?_hexDigit (by omega)]
  dsimp only
  by_cases hhigh : isHigh n = true
  · rw [if_pos hhigh]
    change (if lone then readString lone _ (.char '"' :: rest) else .error .malformed) = _
    rw [readString_quote, hreverse]
  · have hlow : isLow n = true := by
      unfold isHigh isLow at *
      simp only [Bool.and_eq_true, decide_eq_true_eq] at *
      omega
    rw [if_neg hhigh, hlow, readString_quote, hreverse]
    cases lone <;> rfl

/-! ### Texts -/

theorem readString_escapePoint_char (asciiOnly lone : Bool) (c : Char) (read rest : WideText) :
    readString lone read (escapePoint asciiOnly (.char c) ++ rest) =
      readString lone (.char c :: read) rest := by
  have hvalid : c.toNat < 0xD800 ∨ 0xDFFF < c.toNat ∧ c.toNat < 0x110000 := c.valid
  have hnumber : Char.ofNat (CodePoint.char c).toNat = c := Char.ofNat_toNat c
  have htoNat : (CodePoint.char c).toNat = c.toNat := rfl
  have hshort : ∀ e {d : Char}, shortEscape? e = some d → CodePoint.char c = .char d →
      readString lone read (.char '\\' :: e :: rest) = readString lone (.char c :: read) rest := by
    intro e d he hd
    rw [hd]
    exact readString_short he lone read rest
  unfold escapePoint
  split
  · next h => exact hshort (.char '"') rfl h
  · next h => exact hshort (.char '\\') rfl h
  · next h => exact hshort (.char 'n') rfl h
  · next h => exact hshort (.char 'r') rfl h
  · next h => exact hshort (.char 't') rfl h
  · next h => exact hshort (.char 'f') rfl h
  · next h => exact hshort (.char 'b') rfl h
  · next hquote hescape _ _ _ _ _ =>
    dsimp only
    split_ifs with hhex hpair
    · simp only [Bool.or_eq_true, Bool.and_eq_true, decide_eq_true_eq] at hhex
      rw [readString_hex (by omega), hnumber]
    · simp only [Bool.and_eq_true, decide_eq_true_eq] at hpair
      rw [readString_pair hpair.2 (by omega), hnumber]
    · simp only [Bool.or_eq_true, Bool.and_eq_true, decide_eq_true_eq, not_or] at hhex
      exact readString_plain hquote hescape (by omega) lone read rest

/-- Every code point is read as itself. When all but ASCII is escaped, it has to be a character. -/
theorem readString_escapePoint {asciiOnly : Bool} {p : CodePoint}
    (hp : asciiOnly = true → p.toChar?.isSome) (lone : Bool) (read rest : WideText) :
    readString lone read (escapePoint asciiOnly p ++ rest) = readString lone (p :: read) rest := by
  cases p with
  | char c => exact readString_escapePoint_char asciiOnly lone c read rest
  | surrogate i =>
    cases asciiOnly with
    | true => cases hp rfl
    | false =>
      have hsize : 0x20 ≤ (CodePoint.surrogate i).toNat := by
        simp only [CodePoint.toNat]
        omega
      have hescape : escapePoint false (.surrogate i) = [.surrogate i] := by
        simp [escapePoint, Nat.not_lt.mpr hsize]
      rw [hescape]
      exact readString_plain (by simp) (by simp) hsize lone read rest

theorem readString_flatMap {asciiOnly : Bool} {t : WideText} (ht : asciiOnly = true → t.Whole)
    (lone : Bool) (read rest : WideText) :
    readString lone read (t.flatMap (escapePoint asciiOnly) ++ .char '"' :: rest) =
      .ok (read.reverse ++ t, rest) := by
  induction t generalizing read with
  | nil => rw [List.flatMap_nil, List.nil_append, readString_quote, List.append_nil]
  | cons p t ih =>
    have hp : asciiOnly = true → p.toChar?.isSome := fun h => ht h p (by simp)
    have hrest : asciiOnly = true → WideText.Whole t := fun h q hq => ht h q (by simp [hq])
    rw [List.flatMap_cons, List.append_assoc, readString_escapePoint hp, ih hrest,
      List.reverse_cons, List.append_assoc, List.singleton_append]

/-! ### Characters only -/

theorem whole_escapePoint (asciiOnly : Bool) (c : Char) :
    (escapePoint asciiOnly (.char c)).Whole := by
  unfold escapePoint
  split
  iterate 7 exact WideText.whole_ofChars _
  dsimp only
  split_ifs
  · exact WideText.whole_ofChars _
  · exact WideText.whole_ofChars _
  · exact WideText.whole_ofChars [c]

theorem whole_printString (style : Style) {t : WideText} (ht : t.Whole) :
    (printString style t).Whole := by
  obtain ⟨cs, rfl⟩ := WideText.exists_ofChars_of_whole ht
  have hquote : WideText.Whole [.char '"'] := WideText.whole_ofChars ['"']
  have hbody : WideText.Whole ((WideText.ofChars cs).flatMap (escapePoint style.asciiOnly)) := by
    intro p hp
    obtain ⟨q, hq, hp⟩ := List.mem_flatMap.mp hp
    obtain ⟨c, -, rfl⟩ := List.mem_map.mp hq
    exact whole_escapePoint style.asciiOnly c p hp
  exact (hquote.append hbody).append hquote

end ClusterAgent.Json
