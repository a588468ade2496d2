import ClusterAgent.Proofs.Text.Numeral
import ClusterAgent.Text.Case

/-! Lower case of texts whose letters are those of ASCII. Digits and blanks of all scripts stay. -/
namespace ClusterAgent.Text

variable {c : Char} {cs : List Char}

/-- Outside the runs nothing is moved. -/
theorem shiftBy_of_apart {runs : List (Nat × Nat × Nat × Int)} {n : Nat}
    (h : ∀ r ∈ runs, n < r.1 ∨ r.2.1 < n) : shiftBy runs n = n := by
  unfold shiftBy
  split
  · next a b step d hfind =>
    have hapart := h _ (List.mem_of_find?_eq_some hfind)
    have hwithin := List.find?_some hfind
    simp only [Bool.and_eq_true, decide_eq_true_eq] at hapart hwithin
    omega
  · rfl

theorem toLower_eq_self (h : c.toNat < 0x41 ∨ 0x5A < c.toNat) : c.toLower = c := by
  unfold Char.toLower
  refine dif_neg fun hupper => ?_
  obtain ⟨hle, hge⟩ := hupper
  rw [ge_iff_le, UInt32.le_iff_toNat_le] at hle
  rw [UInt32.le_iff_toNat_le] at hge
  have hlow : 0x41 ≤ c.toNat := hle
  have hhigh : c.toNat ≤ 0x5A := hge
  omega

/-- The letter keeps to itself in lower case, but for its own form. -/
def LowersAlone (c : Char) : Prop := c ≠ 'Σ' ∧ lowerChar c = [c.toLower]

theorem lowersAlone_of_ascii (h : c.toNat < 0x80) : LowersAlone c := by
  refine ⟨?_, if_pos h⟩
  rintro rfl
  exact absurd h (by decide)

/-- What no run holds stays as it is. -/
theorem lowersAlone_of_apart (hascii : 0x80 ≤ c.toNat) (hdotted : c.toNat ≠ 0x130)
    (h : ∀ r ∈ lowerRuns, c.toNat < r.1 ∨ r.2.1 < c.toNat) : LowersAlone c := by
  have hsigma : c ≠ 'Σ' := by
    rintro rfl
    exact absurd h (by decide +kernel)
  refine ⟨hsigma, ?_⟩
  unfold lowerChar
  rw [if_neg (by omega), if_neg hdotted, shiftBy_of_apart h, Char.ofNat_toNat,
    toLower_eq_self (by omega)]

theorem lowersAlone_of_isBlank (h : isBlank c) : LowersAlone c := by
  by_cases hascii : c.toNat < 0x80
  · exact lowersAlone_of_ascii hascii
  · have happart : ∀ n ∈ blankCodes, 0x80 ≤ n →
        n ≠ 0x130 ∧ ∀ r ∈ lowerRuns, n < r.1 ∨ r.2.1 < n := by decide +kernel
    obtain ⟨hdotted, hruns⟩ := happart _ (toNat_mem_blankCodes h) (by omega)
    exact lowersAlone_of_apart (by omega) hdotted hruns

theorem lowersAlone_of_isDigit (h : isDigit c) : LowersAlone c := by
  by_cases hascii : c.toNat < 0x80
  · exact lowersAlone_of_ascii hascii
  · have happart : ∀ z ∈ digitZeros, (0x130 < z ∨ z + 9 < 0x130) ∧
        ∀ r ∈ lowerRuns, z + 9 < r.1 ∨ r.2.1 < z := by decide +kernel
    obtain ⟨z, hz, hle, hlt⟩ := exists_zero_of_isDigit h
    obtain ⟨hdotted, hruns⟩ := happart z hz
    refine lowersAlone_of_apart (by omega) (by omega) fun r hr => ?_
    have hrun := hruns r hr
    omega

theorem toLower_of_isBlank (h : isBlank c) : c.toLower = c := by
  have hcase : ∀ n ∈ blankCodes, n < 0x41 ∨ 0x5A < n := by decide
  exact toLower_eq_self (hcase _ (toNat_mem_blankCodes h))

theorem toLower_of_isDigit (h : isDigit c) : c.toLower = c := by
  have hcase : ∀ z ∈ digitZeros, z + 9 < 0x41 ∨ 0x5A < z := by decide
  obtain ⟨z, hz, hle, hlt⟩ := exists_zero_of_isDigit h
  have hzero := hcase z hz
  exact toLower_eq_self (by omega)

theorem lowerFrom_eq_map (h : ∀ c ∈ cs, LowersAlone c) (before : List Char) :
    lowerFrom before cs = cs.map Char.toLower := by
  induction cs generalizing before with
  | nil => rfl
  | cons c cs ih =>
    rw [List.forall_mem_cons] at h
    rw [lowerFrom, if_neg h.1.1, h.1.2, ih h.2]
    rfl

theorem toList_lower (h : ∀ c ∈ cs, LowersAlone c) :
    (lower (String.ofList cs)).toList = cs.map Char.toLower := by
  unfold lower
  rw [String.toList_ofList, String.toList_ofList, lowerFrom_eq_map h]

end ClusterAgent.Text
