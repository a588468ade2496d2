import ClusterAgent.Proofs.Binary64.Decimal

/-! The shortest decimal of a number is read as that number. Decimals between the middles to the two
next numbers are rounded to it, and of the decimals with seventeen digits one lies there. -/
namespace ClusterAgent.Binary64

variable {m : ℕ} {e : ℤ} {q u : ℚ}

/-! ### Gaps between numbers -/

theorem Representable.add_one_le (hu : Representable u) {k : ℤ} (hk : 2 ^ 52 ≤ k ∨ e = -1074)
    (hlt : k * 2 ^ e < u) : (k + 1) * 2 ^ e ≤ u := by
  obtain ⟨j, f, hj, hf, rfl⟩ := hu
  have hunit : (0 : ℚ) < 2 ^ e := by positivity
  rcases le_or_gt e f with hle | hgt
  · rw [zpow_split hle, ← mul_assoc] at hlt ⊢
    have hlt' : (k : ℚ) < j * 2 ^ (f - e).toNat := lt_of_mul_lt_mul_right hlt hunit.le
    have hstep : k + 1 ≤ j * 2 ^ (f - e).toNat := by exact_mod_cast hlt'
    have hstep' : (k : ℚ) + 1 ≤ j * 2 ^ (f - e).toNat := by exact_mod_cast hstep
    exact mul_le_mul_of_nonneg_right hstep' hunit.le
  · -- finer numbers end below `2 ^ 52 * 2 ^ e`
    have hfull : (2 : ℚ) ^ 52 ≤ k := by exact_mod_cast hk.resolve_right (by omega)
    have hsmall := (abs_lt.mp (abs_mul_zpow_lt hj hgt)).2
    have hlarge : (2 : ℚ) ^ 52 * 2 ^ e ≤ k * 2 ^ e := by gcongr
    linarith

/-- How far the next number below is: at a power of two the numbers below are twice as dense. -/
def spacingBelow (m : ℕ) (e : ℤ) : ℚ := if m = normal ∧ -1074 < e then 2 ^ (e - 1) else 2 ^ e

theorem spacingBelow_pos (m : ℕ) (e : ℤ) : 0 < spacingBelow m e := by
  unfold spacingBelow
  split_ifs <;> positivity

namespace Normalized

theorem add_le (h : Normalized m e) (hu : Representable u) (hlt : m * 2 ^ e < u) :
    m * 2 ^ e + 2 ^ e ≤ u := by
  have hfull : 2 ^ 52 ≤ (m : ℤ) ∨ e = -1074 := h.full.imp (fun h => by exact_mod_cast h) id
  have hstep := hu.add_one_le hfull (by exact_mod_cast hlt)
  rw [Int.cast_natCast, add_mul, one_mul] at hstep
  exact hstep

theorem add_spacingBelow_le (h : Normalized m e) (hu : Representable u) (hlt : u < m * 2 ^ e) :
    u + spacingBelow m e ≤ m * 2 ^ e := by
  by_contra hnear
  unfold spacingBelow at hnear
  split_ifs at hnear with hbinade
  · -- the number is twice as many units of the finer grid
    have hhalf : (m : ℚ) * 2 ^ e = 2 * m * 2 ^ (e - 1) := by
      rw [zpow_sub_one₀ (by norm_num)]
      ring
    have hfull : 2 ^ 52 ≤ 2 * (m : ℤ) - 1 := by
      rw [hbinade.1]
      decide
    have hstep := hu.add_one_le (k := 2 * (m : ℤ) - 1) (Or.inl hfull) (by
      push_cast
      linarith)
    push_cast at hstep
    linarith
  · have hfull : 2 ^ 52 ≤ (m : ℤ) - 1 ∨ e = -1074 := by
      have hleast := h.least_le
      have hnormal : normal = 2 ^ 52 := by decide
      rcases h.full with hm | he
      · by_cases hedge : m = normal
        · exact Or.inr (by omega)
        · exact Or.inl (by omega)
      · exact Or.inr he
    have hstep := hu.add_one_le hfull (by
      push_cast
      linarith)
    push_cast at hstep
    linarith

end Normalized

/-! ### Numbers that are rounded alike -/

def lowerEnd (m : ℕ) (e : ℤ) : ℚ := m * 2 ^ e - spacingBelow m e / 2

def upperEnd (m : ℕ) (e : ℤ) : ℚ := m * 2 ^ e + 2 ^ e / 2

/-- From the middle to the number below up to the middle to the number above. The middles themselves
are rounded to the number when its significand is even. -/
def Between (m : ℕ) (e : ℤ) (q : ℚ) : Prop :=
  lowerEnd m e ≤ q ∧ q ≤ upperEnd m e ∧ (m % 2 = 1 → lowerEnd m e < q ∧ q < upperEnd m e)

theorem lowerEnd_lt (m : ℕ) (e : ℤ) : lowerEnd m e < m * 2 ^ e := by
  unfold lowerEnd
  linarith [spacingBelow_pos m e]

theorem lt_upperEnd (m : ℕ) (e : ℤ) : m * 2 ^ e < upperEnd m e := by
  have hunit : (0 : ℚ) < 2 ^ e := by positivity
  unfold upperEnd
  linarith

/-- Of two numbers the one on the same side of the middle is as near or nearer. -/
theorem abs_sub_le_of_middle {v : ℚ} (h : u < v ∧ u + v ≤ 2 * q ∨ v < u ∧ 2 * q ≤ v + u) :
    |q - v| ≤ |q - u| := by
  rcases abs_cases (q - v) with ⟨hv, _⟩ | ⟨hv, _⟩ <;>
    rcases abs_cases (q - u) with ⟨hu, _⟩ | ⟨hu, _⟩ <;>
    rcases h with h | h <;> linarith

theorem middle_of_tie {v : ℚ} (htie : |q - u| = |q - v|) (hne : u ≠ v) : 2 * q = u + v := by
  rcases abs_eq_abs.mp htie with h | h
  · exact absurd (by linarith) hne
  · linarith

/-- Below an even significand stands an odd one, on the finer grid if there is one. -/
theorem odd_below (heven : m % 2 = 0) :
    ∃ f k j : ℤ, (m : ℚ) * 2 ^ e = 2 * k * 2 ^ f ∧
      (m : ℚ) * 2 ^ e - spacingBelow m e = (2 * j + 1) * 2 ^ f := by
  unfold spacingBelow
  split_ifs with hbinade
  · have hhalf : (2 : ℚ) ^ e = 2 * 2 ^ (e - 1) := by
      rw [zpow_sub_one₀ (by norm_num)]
      ring
    refine ⟨e - 1, m, m - 1, ?_, ?_⟩
    · rw [hhalf]
      push_cast
      ring
    · rw [hhalf]
      push_cast
      ring
  · obtain ⟨i, hi⟩ := Nat.dvd_of_mod_eq_zero heven
    refine ⟨e, i, i - 1, ?_, ?_⟩
    · rw [hi]
      push_cast
      ring
    · rw [hi]
      push_cast
      ring

theorem Normalized.nearest (h : Normalized m e) (hq : Between m e q) : Nearest q (m * 2 ^ e) := by
  obtain ⟨hlow, hhigh, hopen⟩ := hq
  unfold lowerEnd at hlow hopen
  unfold upperEnd at hhigh hopen
  refine ⟨h.representable, fun u hu => ?_, fun u hu htie hne => ?_⟩
  · rcases lt_trichotomy u (m * 2 ^ e) with hlt | rfl | hgt
    · have hgap := h.add_spacingBelow_le hu hlt
      exact abs_sub_le_of_middle (Or.inl ⟨hlt, by linarith⟩)
    · exact le_rfl
    · have hgap := h.add_le hu hgt
      exact abs_sub_le_of_middle (Or.inr ⟨hgt, by linarith⟩)
  · -- a tie is at one of the two ends, which belong to even significands
    have hmiddle := middle_of_tie htie hne
    have heven : m % 2 = 0 := by
      by_contra hodd
      obtain ⟨hlow', hhigh'⟩ := hopen (by omega)
      rcases hne.lt_or_gt with hlt | hgt
      · linarith [h.add_spacingBelow_le hu hlt]
      · linarith [h.add_le hu hgt]
    rcases hne.lt_or_gt with hlt | hgt
    · have hgap := h.add_spacingBelow_le hu hlt
      have heq : u = m * 2 ^ e - spacingBelow m e := by linarith
      obtain ⟨f, k, j, hv, hbelow⟩ := odd_below (e := e) heven
      exact ⟨f, k, j, hv, heq.trans hbelow⟩
    · have hgap := h.add_le hu hgt
      have heq : u = m * 2 ^ e + 2 ^ e := by linarith
      obtain ⟨i, hi⟩ := Nat.dvd_of_mod_eq_zero heven
      refine ⟨e, i, i, ?_, ?_⟩
      · rw [hi]
        push_cast
        ring
      · rw [heq, hi]
        push_cast
        ring

theorem Normalized.rounded_eq (h : Normalized m e) (hq : Between m e q) : rounded q = m * 2 ^ e :=
  (nearest_rounded q).unique (h.nearest hq)

/-! ### Neighbourhoods -/

theorem neighbourhood_low (hm : 0 < m) (e : ℤ) :
    ((neighbourhood m e).low / (neighbourhood m e).den : ℚ) = lowerEnd m e := by
  have hquarter : (2 : ℚ) ^ e = 4 * 2 ^ (e - 2) := by
    rw [zpow_sub₀ (by norm_num)]
    ring
  have hhalf : (2 : ℚ) ^ (e - 1) = 2 * 2 ^ (e - 2) := by
    rw [zpow_sub₀ (by norm_num), zpow_sub₀ (by norm_num)]
    ring
  have hpower := power_div_power (e - 2)
  rw [neg_sub] at hpower
  unfold neighbourhood lowerEnd spacingBelow
  dsimp only
  rw [Nat.cast_mul, mul_div_assoc, hpower]
  split_ifs with h h'
  · rw [hhalf, hquarter, Nat.cast_sub (by omega)]
    push_cast
    ring
  · simp_all
  · simp_all
  · rw [hquarter, Nat.cast_sub (by omega)]
    push_cast
    ring

theorem neighbourhood_value (m : ℕ) (e : ℤ) :
    ((neighbourhood m e).value / (neighbourhood m e).den : ℚ) = m * 2 ^ e := by
  have hpower := power_div_power (e - 2)
  rw [neg_sub] at hpower
  unfold neighbourhood
  dsimp only
  rw [Nat.cast_mul, mul_div_assoc, hpower, zpow_sub₀ (by norm_num)]
  push_cast
  ring

theorem neighbourhood_high (m : ℕ) (e : ℤ) :
    ((neighbourhood m e).high / (neighbourhood m e).den : ℚ) = upperEnd m e := by
  have hpower := power_div_power (e - 2)
  rw [neg_sub] at hpower
  unfold neighbourhood upperEnd
  dsimp only
  rw [Nat.cast_mul, mul_div_assoc, hpower, zpow_sub₀ (by norm_num)]
  push_cast
  ring

theorem neighbourhood_den_pos (m : ℕ) (e : ℤ) : 0 < (neighbourhood m e).den := power_pos _

/-- A quotient is compared with a decimal in whole numbers. -/
theorem mul_power_le_mul_iff (d : Decimal) (a : ℕ) {den : ℕ} (hden : 0 < den) :
    (a * power 10 (-d.exponent) ≤ d.digits * power 10 d.exponent * den ↔ (a / den : ℚ) ≤ d.value) ∧
      (d.digits * power 10 d.exponent * den ≤ a * power 10 (-d.exponent) ↔
        d.value ≤ (a / den : ℚ)) := by
  have hden' : (0 : ℚ) < den := by exact_mod_cast hden
  have hscale : (0 : ℚ) < power 10 (-d.exponent) := by exact_mod_cast power_ten_pos _
  have hvalue : d.value = (d.digits * power 10 d.exponent : ℕ) / (power 10 (-d.exponent) : ℕ) :=
    (decimal_quotient d.digits d.exponent).symm
  rw [hvalue, div_le_div_iff₀ hden' hscale, div_le_div_iff₀ hscale hden']
  constructor <;> norm_cast

theorem holds_iff (hm : 0 < m) (d : Decimal) :
    (neighbourhood m e).holds d ↔ Between m e d.value := by
  have hlow := mul_power_le_mul_iff d (neighbourhood m e).low (neighbourhood_den_pos m e)
  have hhigh := mul_power_le_mul_iff d (neighbourhood m e).high (neighbourhood_den_pos m e)
  rw [neighbourhood_low hm] at hlow
  rw [neighbourhood_high] at hhigh
  have hclosed : (neighbourhood m e).closed = (m % 2 == 0) := rfl
  unfold Neighbourhood.holds Between
  dsimp only
  split_ifs with heven
  · rw [hclosed, beq_iff_eq] at heven
    simp [hlow.1, hhigh.2, heven]
  · have hodd : m % 2 = 1 := by
      rw [hclosed, beq_iff_eq] at heven
      omega
    simp only [Bool.and_eq_true, decide_eq_true_eq, ← not_le, hlow.2, hhigh.1, hodd, true_implies]
    constructor
    · rintro ⟨hlt, hgt⟩
      exact ⟨(not_le.mp hlt).le, (not_le.mp hgt).le, hlt, hgt⟩
    · rintro ⟨-, -, hlt, hgt⟩
      exact ⟨hlt, hgt⟩

/-! ### Seventeen digits -/

theorem holds_of_withDigits? {r : Neighbourhood} {k : ℕ} {d : Decimal}
    (h : r.withDigits? k = some d) : r.holds d := by
  unfold Neighbourhood.withDigits? at h
  dsimp only at h
  split at h
  · next hbelow habove =>
    split at h
    · exact Option.some.inj h ▸ hbelow
    · exact Option.some.inj h ▸ habove
  · next hbelow _ => exact Option.some.inj h ▸ hbelow
  · next _ habove => exact Option.some.inj h ▸ habove
  · cases h

/-- Seventeen digits of the number are finer than what is rounded to it. -/
theorem Normalized.div_lt_width (h : Normalized m e) :
    (m : ℚ) * 2 ^ e / 10 ^ 16 < upperEnd m e - lowerEnd m e := by
  have hunit : (0 : ℚ) < 2 ^ e := by positivity
  have hbits : (m : ℚ) < 2 ^ 53 := by exact_mod_cast h.lt_bits
  unfold upperEnd lowerEnd spacingBelow
  split_ifs with hbinade
  · have hm : (m : ℚ) = 2 ^ 52 := by
      rw [hbinade.1]
      norm_num [normal]
    rw [hm, zpow_sub_one₀ (by norm_num), div_lt_iff₀ (by norm_num)]
    linarith
  · have hvalue : (m : ℚ) * 2 ^ e < 2 ^ 53 * 2 ^ e := by gcongr
    rw [div_lt_iff₀ (by norm_num)]
    linarith

/-- The last of seventeen digits counts for less than the width of what is rounded to the number. -/
theorem Normalized.last_digit_lt_width (h : Normalized m e) :
    (10 : ℚ) ^ (ratioLog10 (neighbourhood m e).value (neighbourhood m e).den - 16) <
      upperEnd m e - lowerEnd m e := by
  have hden := neighbourhood_den_pos m e
  have hvalue := neighbourhood_value m e
  have hpositive := h.value_pos
  have hnum : 0 < (neighbourhood m e).value := by
    rw [← hvalue] at hpositive
    exact_mod_cast (div_pos_iff_of_pos_right (by exact_mod_cast hden)).mp hpositive
  have hlog := pow_ratioLog10_le hnum hden
  rw [hvalue] at hlog
  calc
    (10 : ℚ) ^ (ratioLog10 (neighbourhood m e).value (neighbourhood m e).den - 16) =
        10 ^ ratioLog10 (neighbourhood m e).value (neighbourhood m e).den / 10 ^ 16 := by
      rw [zpow_sub₀ (by norm_num)]
      norm_num
    _ ≤ m * 2 ^ e / 10 ^ 16 := by gcongr
    _ < upperEnd m e - lowerEnd m e := h.div_lt_width

/-- The two decimals with a given last place that enclose a quotient. -/
theorem enclosing_decimals (a : ℕ) {den : ℕ} (hden : 0 < den) (p : ℤ) :
    (⟨a * power 10 (-p) / (den * power 10 p), p⟩ : Decimal).value ≤ (a / den : ℚ) ∧
      (a / den : ℚ) < (⟨a * power 10 (-p) / (den * power 10 p) + 1, p⟩ : Decimal).value := by
  have hunit : (0 : ℚ) < 10 ^ p := by positivity
  have hscaled : (a * power 10 (-p) : ℕ) / (den * power 10 p : ℕ) = (a / den / 10 ^ p : ℚ) := by
    have hpos : (0 : ℚ) < power 10 p := by exact_mod_cast power_ten_pos p
    have hneg : (0 : ℚ) < power 10 (-p) := by exact_mod_cast power_ten_pos (-p)
    rw [← power_ten_div]
    push_cast
    field_simp
  have hposition : 0 < den * power 10 p := Nat.mul_pos hden (power_ten_pos p)
  constructor
  · refine (le_div_iff₀ hunit).mp ?_
    rw [← hscaled]
    exact Nat.cast_div_le
  · refine (div_lt_iff₀ hunit).mp ?_
    rw [← hscaled, div_lt_iff₀' (by exact_mod_cast hposition)]
    exact_mod_cast Nat.lt_mul_div_succ _ hposition

/-- Of two decimals that enclose the number less than this width apart, one is rounded to it. -/
theorem Normalized.holds_or_holds (h : Normalized m e) {below above : Decimal}
    (hbelow : below.value ≤ m * 2 ^ e) (habove : m * 2 ^ e < above.value)
    (hclose : above.value - below.value < upperEnd m e - lowerEnd m e) :
    (neighbourhood m e).holds below ∨ (neighbourhood m e).holds above := by
  have hlower := lowerEnd_lt m e
  have hupper := lt_upperEnd m e
  rw [holds_iff h.pos, holds_iff h.pos]
  by_cases hlow : lowerEnd m e < below.value
  · left
    exact ⟨by linarith, by linarith, fun _ => ⟨by linarith, by linarith⟩⟩
  · right
    exact ⟨by linarith, by linarith, fun _ => ⟨by linarith, by linarith⟩⟩

theorem Normalized.exists_withDigits? (h : Normalized m e) :
    ∃ d, (neighbourhood m e).withDigits? 17 = some d := by
  have hlast := h.last_digit_lt_width
  unfold Neighbourhood.withDigits?
  dsimp only
  generalize hp : ratioLog10 (neighbourhood m e).value (neighbourhood m e).den -
    (((17 : ℕ) : ℤ) - 1) = p
  have hplace : ratioLog10 (neighbourhood m e).value (neighbourhood m e).den - 16 = p := by omega
  have hbounds := enclosing_decimals (neighbourhood m e).value (neighbourhood_den_pos m e) p
  rw [hplace] at hlast
  rw [neighbourhood_value] at hbounds
  generalize (neighbourhood m e).value * power 10 (-p) /
    ((neighbourhood m e).den * power 10 p) = k at hbounds
  have hstep : (⟨k + 1, p⟩ : Decimal).value - (⟨k, p⟩ : Decimal).value = 10 ^ p := by
    unfold Decimal.value
    push_cast
    ring
  have hone := h.holds_or_holds hbounds.1 hbounds.2 (hstep.trans_lt hlast)
  split
  · exact ⟨_, rfl⟩
  · exact ⟨_, rfl⟩
  · exact ⟨_, rfl⟩
  · next hnotBelow hnotAbove =>
    rw [hnotBelow, hnotAbove] at hone
    simp at hone

theorem Normalized.holds_shortestDecimal (h : Normalized m e) :
    (neighbourhood m e).holds (shortestDecimal m e) := by
  unfold shortestDecimal
  dsimp only
  cases hfound : (List.range 17).findSome? fun k => (neighbourhood m e).withDigits? (k + 1) with
  | none =>
    have hnone := List.findSome?_eq_none_iff.mp hfound 16 (by decide)
    obtain ⟨d, hd⟩ := h.exists_withDigits?
    rw [hd] at hnone
    cases hnone
  | some d =>
    obtain ⟨k, -, hk⟩ := List.exists_of_findSome?_eq_some hfound
    exact holds_of_withDigits? hk

/-- The shortest decimal is read as the number. -/
theorem Normalized.ofDecimal_shortestDecimal (h : Normalized m e) (negative : Bool) :
    ofDecimal negative (shortestDecimal m e).digits (shortestDecimal m e).exponent =
      finite negative m e :=
  ofDecimal_of_rounded h (h.rounded_eq ((holds_iff h.pos _).mp h.holds_shortestDecimal))

end ClusterAgent.Binary64
