import ClusterAgent.Proofs.Binary64.Canonical
import ClusterAgent.Proofs.Json.Integer
import Mathlib.Data.Nat.Cast.Order.Field

/-! Decimals as rational numbers: what reading one gives depends on its value only. -/
namespace ClusterAgent

/-! ### Digits -/

namespace Text

theorem toDigits_mul_ten {n : ℕ} (h : n ≠ 0) :
    Nat.toDigits 10 (n * 10) = Nat.toDigits 10 n ++ ['0'] := by
  rw [Nat.toDigits_of_base_le (by decide) (by omega), Nat.mul_div_cancel n (by decide),
    Nat.mul_mod_left]
  rfl

theorem toDigits_mul_pow {n : ℕ} (h : n ≠ 0) (k : ℕ) :
    Nat.toDigits 10 (n * 10 ^ k) = Nat.toDigits 10 n ++ List.replicate k '0' := by
  induction k with
  | zero => simp
  | succ k ih =>
    have hpos : n * 10 ^ k ≠ 0 := Nat.mul_ne_zero h (by positivity)
    rw [pow_succ, ← mul_assoc, toDigits_mul_ten hpos, ih, List.append_assoc, ← List.replicate_succ']

theorem lt_pow_length_toDigits (n : ℕ) : n < 10 ^ (Nat.toDigits 10 n).length :=
  (Nat.length_toDigits_le_iff (by decide) Nat.length_toDigits_pos).mp le_rfl

theorem pow_length_toDigits_le {n : ℕ} (h : n ≠ 0) : 10 ^ ((Nat.toDigits 10 n).length - 1) ≤ n := by
  by_contra hlt
  rcases Nat.eq_zero_or_pos ((Nat.toDigits 10 n).length - 1) with hzero | hpos
  · rw [hzero, pow_zero] at hlt
    omega
  · have hshort := (Nat.length_toDigits_le_iff (by decide) hpos).mpr (not_le.mp hlt)
    omega

end Text

namespace Binary64

/-- The number that a decimal stands for. -/
def Decimal.value (d : Decimal) : ℚ := d.digits * 10 ^ d.exponent

variable {n : ℕ} {p : ℤ}

/-- The digits and the exponent tell between which powers of ten a decimal lies. -/
theorem decimal_bounds (hn : n ≠ 0) (p : ℤ) :
    (10 : ℚ) ^ ((Nat.toDigits 10 n).length + p - 1) ≤ n * 10 ^ p ∧
      (n : ℚ) * 10 ^ p < 10 ^ ((Nat.toDigits 10 n).length + p) := by
  have hlength : 0 < (Nat.toDigits 10 n).length := Nat.length_toDigits_pos
  have hlow : (10 : ℚ) ^ ((Nat.toDigits 10 n).length - 1) ≤ n := by
    exact_mod_cast Text.pow_length_toDigits_le hn
  have hhigh : (n : ℚ) < 10 ^ (Nat.toDigits 10 n).length := by
    exact_mod_cast Text.lt_pow_length_toDigits n
  have hpower : (0 : ℚ) < 10 ^ p := by positivity
  constructor
  · calc
      (10 : ℚ) ^ ((Nat.toDigits 10 n).length + p - 1) =
          10 ^ ((Nat.toDigits 10 n).length - 1) * 10 ^ p := by
        rw [← zpow_natCast, ← zpow_add₀ (by norm_num)]
        congr 1
        omega
      _ ≤ n * 10 ^ p := by gcongr
  · calc
      (n : ℚ) * 10 ^ p < 10 ^ (Nat.toDigits 10 n).length * 10 ^ p := by gcongr
      _ = 10 ^ ((Nat.toDigits 10 n).length + p) := by
        rw [← zpow_natCast, ← zpow_add₀ (by norm_num)]

/-! ### Quotients in tens -/

theorem pow_ratioLog10_le {d : ℕ} (hn : 0 < n) (hd : 0 < d) :
    (10 : ℚ) ^ ratioLog10 n d ≤ n / d := by
  have hd' : (0 : ℚ) < d := by exact_mod_cast hd
  have hn' : (0 : ℚ) < n := by exact_mod_cast hn
  unfold ratioLog10
  split_ifs with hle
  · have hquotient : n / d ≠ 0 := (Nat.div_pos hle hd).ne'
    have hlength : 0 < (Nat.toDigits 10 (n / d)).length := Nat.length_toDigits_pos
    have hlow : (10 : ℚ) ^ ((Nat.toDigits 10 (n / d)).length - 1) ≤ (n / d : ℕ) := by
      exact_mod_cast Text.pow_length_toDigits_le hquotient
    calc
      (10 : ℚ) ^ (((Nat.toDigits 10 (n / d)).length : ℤ) - 1) =
          10 ^ ((Nat.toDigits 10 (n / d)).length - 1) := by
        rw [← zpow_natCast]
        congr 1
        omega
      _ ≤ (n / d : ℕ) := hlow
      _ ≤ n / d := Nat.cast_div_le
  · have hbound := Text.lt_pow_length_toDigits ((d - 1) / n)
    rw [Nat.div_lt_iff_lt_mul hn] at hbound
    have hbound' : (d : ℚ) ≤ 10 ^ (Nat.toDigits 10 ((d - 1) / n)).length * n := by
      exact_mod_cast (by omega : d ≤ 10 ^ (Nat.toDigits 10 ((d - 1) / n)).length * n)
    rw [zpow_neg, zpow_natCast, inv_le_comm₀ (by positivity) (by positivity), inv_div,
      div_le_iff₀ hn']
    exact hbound'

/-! ### Reading decimals -/

theorem power_ten_pos (e : ℤ) : 0 < power 10 e := Nat.pow_pos (by norm_num)

theorem power_ten_div (p : ℤ) : (power 10 p : ℚ) / power 10 (-p) = 10 ^ p :=
  mod_cast power_div_power_neg (by decide : 10 ≠ 0) p

theorem decimal_quotient (n : ℕ) (p : ℤ) :
    ((n * power 10 p : ℕ) / (power 10 (-p) : ℕ) : ℚ) = n * 10 ^ p := by
  rw [← power_ten_div]
  push_cast
  ring

theorem ofDecimal_mul_pow (negative : Bool) (n k : ℕ) (p : ℤ) :
    ofDecimal negative (n * 10 ^ k) (p - k) = ofDecimal negative n p := by
  rcases eq_or_ne n 0 with rfl | hn
  · simp [ofDecimal]
  have hpos : n * 10 ^ k ≠ 0 := Nat.mul_ne_zero hn (by positivity)
  have htop : ((Nat.toDigits 10 (n * 10 ^ k)).length : ℤ) + (p - k) =
      (Nat.toDigits 10 n).length + p := by
    rw [Text.toDigits_mul_pow hn, List.length_append, List.length_replicate]
    push_cast
    ring
  have hvalue : ((n * 10 ^ k : ℕ) : ℚ) * 10 ^ (p - k) = n * 10 ^ p := by
    rw [zpow_sub₀ (by norm_num), zpow_natCast]
    push_cast
    field_simp
  have hratio : ofRatio negative (n * 10 ^ k * power 10 (p - k)) (power 10 (-(p - k))) =
      ofRatio negative (n * power 10 p) (power 10 (-p)) := by
    apply ofRatio_congr negative (power_ten_pos _) (power_ten_pos _)
    rw [decimal_quotient, decimal_quotient, hvalue]
  unfold ofDecimal
  dsimp only
  rw [htop, hratio, decide_eq_false hpos, decide_eq_false hn]

theorem two_zpow_le_ten_zpow : (2 : ℚ) ^ (1200 : ℤ) ≤ 10 ^ (400 : ℤ) := by
  calc
    (2 : ℚ) ^ (1200 : ℤ) = (2 ^ (3 : ℤ)) ^ (400 : ℤ) := by
      rw [← zpow_mul]
      norm_num
    _ ≤ 10 ^ (400 : ℤ) := zpow_le_zpow_left₀ (by norm_num) (by norm_num) (by norm_num)

/-- What is below `10 ^ -400` is far below the least positive number of the format. -/
theorem two_mul_ten_zpow_lt : 2 * (10 : ℚ) ^ (-400 : ℤ) < 2 ^ (-1074 : ℤ) := by
  have hinverse : ((10 : ℚ) ^ (400 : ℤ))⁻¹ ≤ (2 ^ (1200 : ℤ))⁻¹ :=
    inv_anti₀ (by positivity) two_zpow_le_ten_zpow
  rw [← zpow_neg, ← zpow_neg] at hinverse
  calc
    2 * (10 : ℚ) ^ (-400 : ℤ) ≤ 2 * 2 ^ (-1200 : ℤ) := by gcongr
    _ = 2 ^ (-1199 : ℤ) := (zpow_one_add₀ (by norm_num) (-1200)).symm
    _ < 2 ^ (-1074 : ℤ) := zpow_lt_zpow_right₀ (by norm_num) (by norm_num)

variable {m : ℕ} {e : ℤ}

/-- A decimal that is rounded to a number of the format is read as that number: it is neither so
small nor so large that its exponent decides. -/
theorem ofDecimal_of_rounded {negative : Bool} (h : Normalized m e)
    (hrounded : rounded (n * 10 ^ p) = m * 2 ^ e) :
    ofDecimal negative n p = finite negative m e := by
  have hn : n ≠ 0 := by
    rintro rfl
    rw [Nat.cast_zero, zero_mul, rounded_zero] at hrounded
    exact absurd h.value_pos (by rw [← hrounded]; exact lt_irrefl 0)
  obtain ⟨hlow, hhigh⟩ := decimal_bounds hn p
  have hpositive : (0 : ℚ) ≤ n * 10 ^ p := by positivity
  have hsmall : ¬ (Nat.toDigits 10 n).length + p < -400 := by
    intro htop
    have hnear :=
      (nearest_rounded (n * 10 ^ p)).abs_sub_le 0 ⟨0, 0, by norm_num, by norm_num, by simp⟩
    rw [hrounded, sub_zero, abs_of_nonneg hpositive] at hnear
    have hvalue : (m : ℚ) * 2 ^ e ≤ 2 * (n * 10 ^ p) := by linarith [(abs_le.mp hnear).1]
    have htiny : (10 : ℚ) ^ ((Nat.toDigits 10 n).length + p) ≤ 10 ^ (-400 : ℤ) :=
      zpow_le_zpow_right₀ (by norm_num) htop.le
    have hleast := h.least_le_value
    have hgap := two_mul_ten_zpow_lt
    linarith
  have hlarge : ¬ 400 < (Nat.toDigits 10 n).length + p := by
    intro htop
    have hhuge : (10 : ℚ) ^ (400 : ℤ) ≤ 10 ^ ((Nat.toDigits 10 n).length + p - 1) :=
      zpow_le_zpow_right₀ (by norm_num) (by omega)
    have hgap : (2 : ℚ) ^ (1024 : ℤ) ≤ 10 ^ (400 : ℤ) :=
      (zpow_le_zpow_right₀ (by norm_num) (by norm_num)).trans two_zpow_le_ten_zpow
    have hend : Representable (2 ^ (1024 : ℤ)) := ⟨1, 1024, by norm_num, by norm_num, by simp⟩
    have hle := le_rounded hend ((hgap.trans hhuge).trans hlow)
    rw [hrounded] at hle
    have hlt := h.value_lt
    linarith
  unfold ofDecimal
  dsimp only
  rw [decide_eq_false hn, decide_eq_false hsmall, Bool.or_false, if_neg Bool.false_ne_true,
    if_neg hlarge]
  apply ofRatio_of_rounded (power_ten_pos _) h
  rw [decimal_quotient, hrounded]

theorem canonical_ofDecimal (negative : Bool) (n : ℕ) (p : ℤ) :
    (ofDecimal negative n p).Canonical := by
  unfold ofDecimal
  dsimp only
  split_ifs
  · exact Or.inl ⟨rfl, rfl⟩
  · trivial
  · exact canonical_ofRatio negative _ (power_ten_pos _)

end Binary64
end ClusterAgent
