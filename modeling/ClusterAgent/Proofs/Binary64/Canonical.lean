import ClusterAgent.Proofs.Binary64.Arithmetic

/-! The one way in which rounding writes each number, and what decides it: the rounded value and the
mark of the sign. -/
namespace ClusterAgent.Binary64

/-- A positive number of the format with all 53 bits, or with fewer at the least exponent. -/
structure Normalized (m : ℕ) (e : ℤ) : Prop where
  pos : 0 < m
  lt_bits : m < 2 ^ 53
  least_le : -1074 ≤ e
  le_greatest : e ≤ 971
  full : 2 ^ 52 ≤ m ∨ e = -1074

/-- Zero has no exponent, and other finite numbers are normalized. -/
def Canonical : Binary64 → Prop
  | finite _ m e => m = 0 ∧ e = 0 ∨ Normalized m e
  | _ => True

namespace Normalized

variable {m m' : ℕ} {e e' : ℤ}

theorem representable (h : Normalized m e) : Representable (m * 2 ^ e) := by
  have hbits : |(m : ℤ)| < 2 ^ 53 := by
    rw [abs_of_nonneg (by omega)]
    exact_mod_cast h.lt_bits
  exact ⟨m, e, hbits, h.least_le, by simp⟩

theorem value_pos (h : Normalized m e) : (0 : ℚ) < m * 2 ^ e := by
  have hpos : (0 : ℚ) < m := by exact_mod_cast h.pos
  positivity

theorem least_le_value (h : Normalized m e) : (2 : ℚ) ^ (-1074 : ℤ) ≤ m * 2 ^ e := by
  have hone : (1 : ℚ) ≤ m := by exact_mod_cast h.pos
  have hpower : (2 : ℚ) ^ (-1074 : ℤ) ≤ 2 ^ e := zpow_le_zpow_right₀ (by norm_num) h.least_le
  calc
    (2 : ℚ) ^ (-1074 : ℤ) ≤ 2 ^ e := hpower
    _ = 1 * 2 ^ e := by ring
    _ ≤ m * 2 ^ e := by gcongr

theorem value_lt (h : Normalized m e) : (m : ℚ) * 2 ^ e < 2 ^ (1024 : ℤ) := by
  have hbits : (m : ℚ) < 2 ^ (53 : ℤ) := by exact_mod_cast h.lt_bits
  calc
    (m : ℚ) * 2 ^ e < 2 ^ (53 : ℤ) * 2 ^ e := by gcongr
    _ = 2 ^ (53 + e) := by rw [zpow_add₀ (by norm_num)]
    _ ≤ 2 ^ (1024 : ℤ) := zpow_le_zpow_right₀ (by norm_num) (by linarith [h.le_greatest])

theorem exponent_le (h : Normalized m e) (h' : Normalized m' e')
    (heq : (m : ℚ) * 2 ^ e = m' * 2 ^ e') : e' ≤ e := by
  by_contra hlt
  have hfull : 2 ^ 52 ≤ m' := h'.full.resolve_right (by linarith [h.least_le])
  have hfull' : (2 : ℚ) ^ 52 ≤ m' := by exact_mod_cast hfull
  have hbits : |(m : ℤ)| < 2 ^ 53 := by
    rw [abs_of_nonneg (by omega)]
    exact_mod_cast h.lt_bits
  have hsmall := abs_mul_zpow_lt hbits (not_le.mp hlt)
  rw [Int.cast_natCast, abs_of_pos h.value_pos, heq] at hsmall
  have hlarge : (2 : ℚ) ^ 52 * 2 ^ e' ≤ m' * 2 ^ e' := by gcongr
  linarith

/-- A value is written in one way. -/
theorem eq_of_value (h : Normalized m e) (h' : Normalized m' e')
    (heq : (m : ℚ) * 2 ^ e = m' * 2 ^ e') : m = m' ∧ e = e' := by
  have hexponent : e = e' := le_antisymm (h'.exponent_le h heq.symm) (h.exponent_le h' heq)
  rw [hexponent] at heq
  have hsignificand : (m : ℚ) = m' := mul_right_cancel₀ (by positivity) heq
  exact ⟨by exact_mod_cast hsignificand, hexponent⟩

end Normalized

/-! ### Rounded quotients -/

variable {n d : ℕ} {m : ℕ} {e : ℤ}

/-- In units of the last bit a quotient has 53 bits, or fewer at the least exponent. -/
theorem roundHalfEven_quantum_bounds (hn : 0 < n) (hd : 0 < d) :
    roundHalfEven (n * power 2 (-quantum n d)) (d * power 2 (quantum n d)) ≤ 2 ^ 53 ∧
      (2 ^ 52 ≤ roundHalfEven (n * power 2 (-quantum n d)) (d * power 2 (quantum n d)) ∨
        quantum n d = -1074) ∧ -1074 ≤ quantum n d := by
  have hvalue := roundHalfEven_quantum hn hd
  generalize roundHalfEven (n * power 2 (-quantum n d)) (d * power 2 (quantum n d)) = r at hvalue ⊢
  have hquantum := quantum_eq hn hd
  have hleast : -1074 ≤ quantum n d := le_max_right _ _
  have hquotient : (0 : ℚ) < n / d := by positivity
  have hunit : (0 : ℚ) < 2 ^ quantum n d := by positivity
  refine ⟨?_, ?_, hleast⟩
  · have hbound := abs_lt_zpow (n / d)
    rw [abs_of_pos hquotient, ← hquantum, zpow_add₀ (by norm_num), mul_comm] at hbound
    norm_cast at hbound
    have hend : Representable (((2 ^ 53 : ℤ) : ℚ) * 2 ^ quantum n d) :=
      representable_of_le (by norm_num) hleast
    push_cast at hend
    have hle := rounded_le hend hbound.le
    rw [← hvalue] at hle
    have hle' : (r : ℚ) ≤ 2 ^ 53 := le_of_mul_le_mul_right hle hunit
    exact_mod_cast hle'
  · rcases hleast.lt_or_eq with hlt | heq
    · left
      have hbound := zpow_le_abs hquotient.ne' (by rwa [← hquantum])
      rw [abs_of_pos hquotient, ← hquantum] at hbound
      have hend : Representable (((2 ^ 52 : ℤ) : ℚ) * 2 ^ quantum n d) :=
        representable_of_le (by norm_num) hleast
      push_cast at hend
      have hle := le_rounded hend hbound
      rw [← hvalue] at hle
      have hle' : (2 : ℚ) ^ 52 ≤ r := le_of_mul_le_mul_right hle hunit
      exact_mod_cast hle'
    · exact Or.inr heq.symm

theorem canonical_ofRatio (negative : Bool) (n : ℕ) (hd : 0 < d) :
    (ofRatio negative n d).Canonical := by
  unfold ofRatio
  dsimp only
  split_ifs with hzero hlarge hcarry hnone
  · exact Or.inl ⟨rfl, rfl⟩
  · trivial
  · obtain ⟨-, -, hleast⟩ := roundHalfEven_quantum_bounds (Nat.pos_of_ne_zero hzero) hd
    simp only [Bool.or_eq_true, Bool.and_eq_true, decide_eq_true_eq, hcarry, and_true] at hlarge
    exact Or.inr ⟨by decide, by decide, by omega, by omega, Or.inl (by decide)⟩
  · exact Or.inl ⟨rfl, rfl⟩
  · obtain ⟨hbits, hfull, hleast⟩ := roundHalfEven_quantum_bounds (Nat.pos_of_ne_zero hzero) hd
    have hcarry' :
        roundHalfEven (n * power 2 (-quantum n d)) (d * power 2 (quantum n d)) ≠ 2 ^ 53 :=
      hcarry
    simp only [Bool.or_eq_true, Bool.and_eq_true, decide_eq_true_eq] at hlarge
    exact Or.inr ⟨by omega, by omega, hleast, by omega, hfull⟩

theorem isNegative_ofRatio (negative : Bool) (n d : ℕ) :
    (ofRatio negative n d).isNegative = negative := by
  unfold ofRatio
  dsimp only
  split_ifs <;> rfl

theorem le_rounded_of_infinity {negative : Bool} (hd : 0 < d)
    (h : ofRatio negative n d = infinity negative) : (2 : ℚ) ^ (1024 : ℤ) ≤ rounded (n / d) := by
  unfold ofRatio at h
  dsimp only at h
  split_ifs at h with hzero hlarge hcarry hnone
  have hn := Nat.pos_of_ne_zero hzero
  obtain ⟨-, hfull, -⟩ := roundHalfEven_quantum_bounds hn hd
  have hvalue := roundHalfEven_quantum hn hd
  simp only [Bool.or_eq_true, Bool.and_eq_true, decide_eq_true_eq] at hlarge
  rw [← hvalue]
  generalize roundHalfEven (n * power 2 (-quantum n d)) (d * power 2 (quantum n d)) = r at *
  rcases hlarge with hlarge | ⟨hexponent, hcarry⟩
  · have hbits : 2 ^ 52 ≤ r := hfull.resolve_right (by omega)
    have hbits' : (2 : ℚ) ^ (52 : ℤ) ≤ r := by exact_mod_cast hbits
    calc
      (2 : ℚ) ^ (1024 : ℤ) = 2 ^ (52 : ℤ) * 2 ^ (972 : ℤ) := (zpow_add₀ (by norm_num) 52 972)
      _ ≤ r * 2 ^ quantum n d := by
        gcongr
        · norm_num
        · omega
  · have hbits : (r : ℚ) = 2 ^ (53 : ℤ) := by
      rw [hcarry]
      norm_num [normal]
    rw [hbits, hexponent]
    exact (zpow_add₀ (by norm_num) 53 971).le

/-- A quotient that is rounded to a number of the format is that number. -/
theorem ofRatio_of_rounded {negative : Bool} (hd : 0 < d) (h : Normalized m e)
    (hrounded : rounded (n / d) = m * 2 ^ e) : ofRatio negative n d = finite negative m e := by
  have hcanonical := canonical_ofRatio negative n hd
  have hsign := isNegative_ofRatio negative n d
  rcases ofRatio_cases negative hd with hvalue | ⟨-, hinfinity⟩
  · obtain ⟨negative', m', e', hfinite, hsigned⟩ := exists_of_toRat? hvalue
    rw [hfinite] at hcanonical hsign ⊢
    have hsame : negative' = negative := hsign
    rw [hsame, rounded_signed, hrounded] at hsigned
    have heq : (m : ℚ) * 2 ^ e = m' * 2 ^ e' := by
      cases negative with
      | false => exact hsigned
      | true => exact neg_inj.mp hsigned
    rcases hcanonical with ⟨hm', -⟩ | hnormalized
    · have hpos := h.value_pos
      rw [heq, hm', Nat.cast_zero, zero_mul] at hpos
      exact absurd hpos (lt_irrefl 0)
    · obtain ⟨hm, he⟩ := h.eq_of_value hnormalized heq
      rw [hsame, hm, he]
  · have hlarge := le_rounded_of_infinity hd hinfinity
    rw [hrounded] at hlarge
    exact absurd h.value_lt (not_lt.mpr hlarge)

/-- Equal quotients are rounded alike. -/
theorem ofRatio_congr {n' d' : ℕ} (negative : Bool) (hd : 0 < d) (hd' : 0 < d')
    (h : (n / d : ℚ) = n' / d') : ofRatio negative n d = ofRatio negative n' d' := by
  rcases Nat.eq_zero_or_pos n with rfl | hn
  · have hzero : n' = 0 := by
      rw [Nat.cast_zero, zero_div, eq_comm, div_eq_zero_iff] at h
      have hd'' : (d' : ℚ) ≠ 0 := by exact_mod_cast hd'.ne'
      exact_mod_cast h.resolve_right hd''
    rw [hzero]
    rfl
  · have hn' : 0 < n' := by
      have hpos : (0 : ℚ) < n' / d' := by
        rw [← h]
        positivity
      have hd'' : (0 : ℚ) < d' := by exact_mod_cast hd'
      exact_mod_cast (div_pos_iff_of_pos_right hd'').mp hpos
    have hquantum : quantum n d = quantum n' d' := by
      rw [quantum_eq hn hd, quantum_eq hn' hd', h]
    have hvalue := roundHalfEven_quantum hn hd
    have hvalue' := roundHalfEven_quantum hn' hd'
    rw [← hquantum] at hvalue'
    have hunit : (2 : ℚ) ^ quantum n d ≠ 0 := by positivity
    have hround := mul_right_cancel₀ hunit (hvalue.trans ((congrArg rounded h).trans hvalue'.symm))
    unfold ofRatio
    dsimp only
    rw [if_neg hn.ne', if_neg hn'.ne', ← hquantum, Nat.cast_inj.mp hround]

end ClusterAgent.Binary64
