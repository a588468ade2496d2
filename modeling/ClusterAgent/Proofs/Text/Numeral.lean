import ClusterAgent.Proofs.Text.Blank
import ClusterAgent.Text.Numeral

/-! Digits and blanks of all scripts, and numbers that are digits with or without a point. -/
namespace ClusterAgent.Text

variable {c : Char} {cs ds es : List Char}

/-! ### Digits and blanks -/

def blankCodes : List Nat := [
  0x9, 0xA, 0xB, 0xC, 0xD, 0x1C, 0x1D, 0x1E, 0x1F, 0x20, 0x85, 0xA0, 0x1680, 0x2000, 0x2001, 0x2002,
  0x2003, 0x2004, 0x2005, 0x2006, 0x2007, 0x2008, 0x2009, 0x200A, 0x2028, 0x2029, 0x202F, 0x205F,
  0x3000]

theorem toNat_mem_blankCodes (h : isBlank c) : c.toNat ∈ blankCodes := by
  simp only [isBlank, Bool.or_eq_true, Bool.and_eq_true, decide_eq_true_eq, beq_iff_eq] at h
  simp only [blankCodes, List.mem_cons, List.not_mem_nil, or_false]
  omega

theorem digitValue?_eq_some {v : Nat} (h : digitValue? c = some v) :
    ∃ z ∈ digitZeros, c.toNat = z + v ∧ v < 10 := by
  obtain ⟨z, hfind, rfl⟩ := Option.map_eq_some_iff.mp h
  have hz := List.find?_some hfind
  simp only [Bool.and_eq_true, decide_eq_true_eq] at hz
  exact ⟨z, List.mem_of_find?_eq_some hfind, by omega, by omega⟩

theorem exists_zero_of_isDigit (h : isDigit c) :
    ∃ z ∈ digitZeros, z ≤ c.toNat ∧ c.toNat < z + 10 := by
  obtain ⟨v, hv⟩ := Option.isSome_iff_exists.mp h
  obtain ⟨z, hz, hc, hlt⟩ := digitValue?_eq_some hv
  exact ⟨z, hz, by omega, by omega⟩

theorem not_isBlank_of_isDigit (h : isDigit c) : isBlank c = false := by
  have happart : ∀ n ∈ blankCodes, ∀ z ∈ digitZeros, ¬ (z ≤ n ∧ n < z + 10) := by decide +kernel
  obtain ⟨z, hz, hc⟩ := exists_zero_of_isDigit h
  exact Bool.eq_false_iff.mpr fun hblank => happart _ (toNat_mem_blankCodes hblank) z hz hc

theorem isBlank_of_isNumeralBlank (h : isNumeralBlank c) : isBlank c := by
  unfold isNumeralBlank at h
  split at h
  · rw [Bool.or_eq_true] at h
    obtain h | h := h
    · simp [isBlank, Bool.and_eq_true_iff.mp h]
    · rw [beq_iff_eq.mp h]
      decide
  · exact h

theorem not_isNumeralBlank_of_isDigit (h : isDigit c) : isNumeralBlank c = false :=
  Bool.eq_false_iff.mpr fun hblank =>
    Bool.eq_false_iff.mp (not_isBlank_of_isDigit h) (isBlank_of_isNumeralBlank hblank)

/-- The digits of ASCII are the usual ones. -/
theorem isAsciiDigit_iff_toNat : isAsciiDigit c ↔ 0x30 ≤ c.toNat ∧ c.toNat ≤ 0x39 := by
  simp only [isAsciiDigit, Bool.and_eq_true, decide_eq_true_eq, Char.le_def,
    UInt32.le_iff_toNat_le]
  rfl

theorem isAsciiDigit_asciiDigit (h : isDigit c) : isAsciiDigit (asciiDigit c) := by
  unfold asciiDigit
  split
  · next hascii =>
    have hzero : ∀ z ∈ digitZeros, z < 0x80 → z = 0x30 := by decide
    obtain ⟨z, hz, hle, hlt⟩ := exists_zero_of_isDigit h
    obtain rfl := hzero z hz (by omega)
    exact isAsciiDigit_iff_toNat.mpr (by omega)
  · obtain ⟨v, hv⟩ := Option.isSome_iff_exists.mp h
    have hdigit : ∀ v < 10, isAsciiDigit (hexDigit v) = true := by decide
    obtain ⟨-, -, -, hlt⟩ := digitValue?_eq_some hv
    rw [hv]
    exact hdigit v hlt

/-! ### Numbers -/

/-- Digits, and more digits behind a point if there are any. -/
def pointed (whole fraction : List Char) : List Char :=
  whole ++ if fraction = [] then [] else '.' :: fraction

theorem trimList_of_forall_not {p : Char → Bool} (h : ∀ c ∈ cs, p c = false) :
    trimList p cs = cs := by
  have hnot : ∀ c ∈ cs, ¬ p c = true := fun c hc => Bool.eq_false_iff.mp (h c hc)
  have hstart : cs.dropWhile p = cs :=
    List.dropWhile_eq_self_iff.mpr fun hne => hnot _ (List.getElem_mem hne)
  unfold trimList
  rw [hstart]
  exact rdropWhile_of_forall_not hnot

/-- Without underscores nothing is removed. -/
theorem joinDigits?_of_forall_ne (h : ∀ c ∈ cs, c ≠ '_')
    {previous : Char} (hprevious : previous ≠ '_') :
    joinDigits? previous cs = some cs := by
  induction cs generalizing previous with
  | nil => rw [joinDigits?, if_neg hprevious]
  | cons c cs ih =>
    rw [List.forall_mem_cons] at h
    rw [joinDigits?, if_neg h.1, decide_eq_false hprevious, Bool.false_and,
      if_neg Bool.false_ne_true, ih h.2 h.1, Option.map_some]

section
variable {p : Char → Bool} {body rest : List Char}

/-- What is taken ends where the first other character stands. -/
theorem takeWhile_exact (hbody : ∀ c ∈ body, p c) (hrest : ∀ c ∈ rest.head?, p c = false) :
    (body ++ rest).takeWhile p = body := by
  rw [List.takeWhile_append_of_pos hbody]
  cases rest with
  | nil => rw [List.takeWhile_nil, List.append_nil]
  | cons c rest =>
    rw [List.takeWhile_cons_of_neg (Bool.eq_false_iff.mp (hrest c rfl)), List.append_nil]

theorem dropWhile_exact (hbody : ∀ c ∈ body, p c) (hrest : ∀ c ∈ rest.head?, p c = false) :
    (body ++ rest).dropWhile p = rest := by
  rw [List.dropWhile_append_of_pos hbody]
  cases rest with
  | nil => rw [List.dropWhile_nil]
  | cons c rest => rw [List.dropWhile_cons_of_neg (Bool.eq_false_iff.mp (hrest c rfl))]

end

theorem readUnsigned?_pointed (hne : ds ≠ []) (hds : ∀ c ∈ ds, isAsciiDigit c)
    (hes : ∀ c ∈ es, isAsciiDigit c) (negative : Bool) :
    readUnsigned? negative (pointed ds es) =
      some (.ofDecimal negative (digitsValue (ds ++ es)) (-(es.length : Int))) := by
  have hdot : ∀ c ∈ ('.' :: es).head?, isAsciiDigit c = false := by
    rintro c ⟨⟩
    decide
  have htake : es.takeWhile isAsciiDigit = es := List.takeWhile_eq_self_iff.mpr hes
  have hdrop : es.dropWhile isAsciiDigit = [] := List.dropWhile_eq_nil_iff.mpr hes
  unfold readUnsigned? pointed
  by_cases hnil : es = []
  · rw [if_pos hnil, takeWhile_exact hds (by simp), dropWhile_exact hds (by simp)]
    simp [hne, hnil]
  · rw [if_neg hnil, takeWhile_exact hds hdot, dropWhile_exact hds hdot]
    simp [hne, htake, hdrop]

theorem map_asciiDigit_pointed (ds es : List Char) :
    (pointed ds es).map asciiDigit = pointed (ds.map asciiDigit) (es.map asciiDigit) := by
  have hdot : asciiDigit '.' = '.' := rfl
  unfold pointed
  by_cases hes : es = []
  · simp [hes]
  · simp [hes, hdot]

theorem mem_pointed (h : c ∈ pointed ds es) : c ∈ ds ∨ c = '.' ∨ c ∈ es := by
  unfold pointed at h
  split at h
  · exact Or.inl (by simpa using h)
  · simpa using h

/-- A number of digits in any scripts is the decimal that they write. -/
theorem readNumber_pointed (hne : ds ≠ []) (hds : ∀ c ∈ ds, isDigit c) (hes : ∀ c ∈ es, isDigit c) :
    readNumber (String.ofList (pointed ds es)) =
      .ok (.ofDecimal false (digitsValue ((ds ++ es).map asciiDigit)) (-(es.length : Int))) := by
  have hblank : ∀ c ∈ pointed ds es, isNumeralBlank c = false := by
    intro c hc
    rcases mem_pointed hc with hc | rfl | hc
    · exact not_isNumeralBlank_of_isDigit (hds c hc)
    · decide
    · exact not_isNumeralBlank_of_isDigit (hes c hc)
  have hbody : numeralBody (String.ofList (pointed ds es)) =
      pointed (ds.map asciiDigit) (es.map asciiDigit) := by
    unfold numeralBody
    rw [String.toList_ofList, trimList_of_forall_not hblank, map_asciiDigit_pointed]
  have hds' : ∀ c ∈ ds.map asciiDigit, isAsciiDigit c :=
    List.forall_mem_map.mpr fun c hc => isAsciiDigit_asciiDigit (hds c hc)
  have hes' : ∀ c ∈ es.map asciiDigit, isAsciiDigit c :=
    List.forall_mem_map.mpr fun c hc => isAsciiDigit_asciiDigit (hes c hc)
  have hplain : ∀ c ∈ pointed (ds.map asciiDigit) (es.map asciiDigit), c ≠ '_' := by
    rintro c hc rfl
    rcases mem_pointed hc with hc | hc | hc
    · exact absurd (hds' _ hc) (by decide)
    · cases hc
    · exact absurd (hes' _ hc) (by decide)
  have hne' : ds.map asciiDigit ≠ [] := by simpa using hne
  obtain ⟨d, rest, hcons⟩ := List.exists_cons_of_ne_nil hne'
  have hd : isAsciiDigit d := hds' d (hcons ▸ List.mem_cons_self)
  have hsign : splitSign (pointed (ds.map asciiDigit) (es.map asciiDigit)) =
      (false, pointed (ds.map asciiDigit) (es.map asciiDigit)) := by
    unfold pointed
    rw [hcons, List.cons_append]
    unfold splitSign
    split
    · next heq =>
      cases heq
      cases hd
    · next heq =>
      cases heq
      cases hd
    · rfl
  -- A name starts with no digit.
  have hname (name : String) (hfirst : name.toList.head?.all fun c => !isAsciiDigit c) :
      String.ofList ((pointed (ds.map asciiDigit) (es.map asciiDigit)).map Char.toLower) ≠
        name := by
    rintro rfl
    have hlower : d.toLower = d := by
      have hdigit : ∀ n < 0x3A, 0x30 ≤ n → (Char.ofNat n).toLower = Char.ofNat n := by decide
      have hbounds := isAsciiDigit_iff_toNat.mp hd
      simpa using hdigit d.toNat (by omega) hbounds.1
    simp [pointed, hcons, hlower, hd] at hfirst
  unfold readNumber
  rw [hbody, joinDigits?_of_forall_ne hplain (by decide)]
  dsimp only
  rw [hsign]
  dsimp only
  rw [decide_eq_false (hname "inf" (by decide)), decide_eq_false (hname "infinity" (by decide)),
    Bool.or_self, if_neg Bool.false_ne_true, if_neg (hname "nan" (by decide)),
    readUnsigned?_pointed hne' hds' hes', List.map_append, List.length_map]

/-! ### Written integers -/

theorem writeInteger_eq_ok {i : Int} {text : String} :
    writeInteger i = .ok text ↔ isWritable i ∧ text = s!"{i}" := by
  unfold writeInteger
  split
  next h =>
    rw [Except.ok.injEq, eq_comm]
    exact (and_iff_right h).symm
  next h => exact iff_of_false nofun fun hwritten => h hwritten.1

theorem writeInteger_eq_error {i : Int} (h : isWritable i = false) :
    writeInteger i = .error .unwritable :=
  if_neg (Bool.eq_false_iff.mp h)

end ClusterAgent.Text
