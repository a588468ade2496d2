import ClusterAgent.Binary64.Basic
import Mathlib.Algebra.Order.Field.Power
import Mathlib.Data.Int.Log
import Mathlib.Data.Rat.Floor
import Mathlib.Tactic.FieldSimp
import Mathlib.Tactic.Linarith
import Mathlib.Tactic.Positivity
import Mathlib.Tactic.Ring

/-! Rounding of rational numbers to binary64 numbers, ties to even: what the nearest number is, that
there is one, and that rounding keeps the order. -/
namespace ClusterAgent

/-! ### Integers -/

variable {q v : ℚ} {k : ℤ}

/-- The integer nearest to a rational number; a half goes to the even neighbour. -/
def nearestInt (q : ℚ) : ℤ :=
  if q - ⌊q⌋ < 1 / 2 then ⌊q⌋ else if 1 / 2 < q - ⌊q⌋ then ⌊q⌋ + 1 else ⌊q⌋ + ⌊q⌋ % 2

theorem abs_sub_nearestInt_le_half (q : ℚ) : |q - nearestInt q| ≤ 1 / 2 := by
  have hlow := Int.floor_le q
  have hhigh := Int.lt_floor_add_one q
  have hparity : (⌊q⌋ % 2 : ℤ) = 0 ∨ (⌊q⌋ % 2 : ℤ) = 1 := Int.emod_two_eq_zero_or_one _
  unfold nearestInt
  split_ifs with hbelow habove
  · rw [abs_le]
    constructor <;> linarith
  · push_cast
    rw [abs_le]
    constructor <;> linarith
  · rcases hparity with h | h <;> rw [h, abs_le] <;> push_cast <;> constructor <;> linarith

theorem even_nearestInt_of_half (h : |q - nearestInt q| = 1 / 2) : nearestInt q % 2 = 0 := by
  have hlow := Int.floor_le q
  have hhigh := Int.lt_floor_add_one q
  unfold nearestInt at h ⊢
  split_ifs at h ⊢ with hbelow habove
  · rw [abs_of_nonneg (by linarith)] at h
    linarith
  · push_cast at h
    rw [abs_of_neg (by linarith)] at h
    linarith
  · omega

theorem one_le_abs_sub {j k : ℤ} (h : j ≠ k) : (1 : ℚ) ≤ |(j : ℚ) - k| := by
  have habs : 1 ≤ |j - k| := Int.one_le_abs (sub_ne_zero.mpr h)
  exact_mod_cast habs

theorem abs_sub_nearestInt_le (q : ℚ) (k : ℤ) : |q - nearestInt q| ≤ |q - k| := by
  by_cases hk : nearestInt q = k
  · rw [hk]
  have hapart := one_le_abs_sub hk
  have htriangle := abs_sub_le (nearestInt q : ℚ) q k
  have hhalf := abs_sub_nearestInt_le_half q
  rw [abs_sub_comm (nearestInt q : ℚ) q] at htriangle
  linarith

/-- Of two integers as near, the one that is not chosen is odd. -/
theorem parity_of_tie (htie : |q - k| = |q - nearestInt q|) (hk : k ≠ nearestInt q) :
    nearestInt q % 2 = 0 ∧ k % 2 = 1 := by
  have hapart := one_le_abs_sub hk
  have htriangle := abs_sub_le (k : ℚ) q (nearestInt q)
  have hhalf := abs_sub_nearestInt_le_half q
  rw [abs_sub_comm (k : ℚ) q, htie] at htriangle
  have heven := even_nearestInt_of_half (le_antisymm hhalf (by linarith))
  have hnext : |k - nearestInt q| = 1 := by
    have hone : |(k : ℚ) - nearestInt q| = 1 := le_antisymm (by linarith) hapart
    exact_mod_cast hone
  refine ⟨heven, ?_⟩
  rcases abs_eq (by norm_num) |>.mp hnext with h | h <;> omega

namespace Binary64

/-! ### The grid of binary64 numbers -/

/-- A whole number of less than 53 bits times a power of two. No bound is set above. -/
def Representable (v : ℚ) : Prop := ∃ m e : ℤ, |m| < 2 ^ 53 ∧ -1074 ≤ e ∧ v = m * 2 ^ e

/-- `v` is the representable number nearest to `q`. Another one that is as near is an odd multiple
of a power of two of which `v` is an even one. -/
structure Nearest (q v : ℚ) : Prop where
  representable : Representable v
  abs_sub_le : ∀ u, Representable u → |q - v| ≤ |q - u|
  even : ∀ u, Representable u → |q - u| = |q - v| → u ≠ v →
    ∃ e k j : ℤ, v = 2 * k * 2 ^ e ∧ u = (2 * j + 1) * 2 ^ e

theorem Representable.neg {v : ℚ} (h : Representable v) : Representable (-v) := by
  obtain ⟨m, e, hm, he, rfl⟩ := h
  exact ⟨-m, e, by rwa [abs_neg], he, by push_cast; ring⟩

/-- A significand may also be the power of two that has one bit more. -/
theorem representable_of_le {m e : ℤ} (hm : |m| ≤ 2 ^ 53) (he : -1074 ≤ e) :
    Representable (m * 2 ^ e) := by
  rcases hm.lt_or_eq with hlt | heq
  · exact ⟨m, e, hlt, he, rfl⟩
  · have hcarry : Representable (2 ^ 53 * 2 ^ e) := by
      refine ⟨2 ^ 52, e + 1, by norm_num, by omega, ?_⟩
      rw [zpow_add_one₀ (by norm_num)]
      push_cast
      ring
    rcases (abs_eq (by norm_num)).mp heq with rfl | rfl
    · exact_mod_cast hcarry
    · have hnegative := hcarry.neg
      rw [← neg_mul] at hnegative
      exact_mod_cast hnegative

theorem representable_intCast {k : ℤ} (h : |k| ≤ 2 ^ 53) : Representable k := by
  simpa using representable_of_le h (e := 0) (by norm_num)

theorem representable_two_pow (k : ℕ) : Representable (2 ^ k) :=
  ⟨1, k, by norm_num, by omega, by simp⟩

/-- The exponent of the last bit of the numbers around `q`. -/
def lastExponent (q : ℚ) : ℤ := max (Int.log 2 |q| - 52) (-1074)

/-- `q` in whole units of the last bit. -/
def rounded (q : ℚ) : ℚ := nearestInt (q / 2 ^ lastExponent q) * 2 ^ lastExponent q

@[simp] theorem rounded_zero : rounded 0 = 0 := by
  simp [rounded, nearestInt]

/-- A power of two in units of a smaller one. -/
theorem zpow_split {e f : ℤ} (h : e ≤ f) : (2 : ℚ) ^ f = 2 ^ (f - e).toNat * 2 ^ e := by
  rw [← zpow_natCast, ← zpow_add₀ (by norm_num)]
  congr 1
  omega

theorem abs_sub_mul_zpow (q : ℚ) (k e : ℤ) : |q - k * 2 ^ e| = |q / 2 ^ e - k| * 2 ^ e := by
  have he : (0 : ℚ) < 2 ^ e := by positivity
  rw [← abs_of_pos he, ← abs_mul, abs_of_pos he]
  congr 1
  field_simp

theorem abs_lt_zpow (q : ℚ) : |q| < 2 ^ (lastExponent q + 53) := by
  calc
    |q| < 2 ^ (Int.log 2 |q| + 1) := Int.lt_zpow_succ_log_self (by norm_num) _
    _ ≤ 2 ^ (lastExponent q + 53) := by
      refine zpow_le_zpow_right₀ (by norm_num) ?_
      unfold lastExponent
      omega

/-- Above the least exponent the numbers around `q` have all 53 bits. -/
theorem zpow_le_abs (hq : q ≠ 0) (h : -1074 < lastExponent q) :
    2 ^ 52 * 2 ^ lastExponent q ≤ |q| := by
  have hlog : Int.log 2 |q| = 52 + lastExponent q := by
    unfold lastExponent at h ⊢
    omega
  have hlow : (2 : ℚ) ^ Int.log 2 |q| ≤ |q| := by
    exact_mod_cast Int.zpow_log_le_self (b := 2) (by norm_num) (abs_pos.mpr hq)
  rw [hlog, zpow_add₀ (by norm_num)] at hlow
  exact_mod_cast hlow

theorem representable_rounded (q : ℚ) : Representable (rounded q) := by
  have he : (0 : ℚ) < 2 ^ lastExponent q := by positivity
  have hscaled : |q / 2 ^ lastExponent q| < 2 ^ 53 := by
    rw [abs_div, abs_of_pos he, div_lt_iff₀ he, ← zpow_natCast, ← zpow_add₀ (by norm_num)]
    simpa [add_comm] using abs_lt_zpow q
  have hsize : |nearestInt (q / 2 ^ lastExponent q)| ≤ 2 ^ 53 := by
    have hhalf := abs_sub_nearestInt_le_half (q / 2 ^ lastExponent q)
    have htriangle := abs_sub_abs_le_abs_sub (nearestInt (q / 2 ^ lastExponent q) : ℚ)
      (q / 2 ^ lastExponent q)
    rw [abs_sub_comm] at htriangle
    have hlt : |(nearestInt (q / 2 ^ lastExponent q) : ℚ)| < 2 ^ 53 + 1 := by linarith
    have hlt' : |nearestInt (q / 2 ^ lastExponent q)| < 2 ^ 53 + 1 := by exact_mod_cast hlt
    omega
  exact representable_of_le hsize (le_max_right _ _)

theorem abs_mul_zpow_lt {m e f : ℤ} (hm : |m| < 2 ^ 53) (h : e < f) :
    |(m : ℚ) * 2 ^ e| < 2 ^ 52 * 2 ^ f := by
  have hbits : |(m : ℚ)| < 2 ^ 53 := by exact_mod_cast hm
  calc
    |(m : ℚ) * 2 ^ e| = |(m : ℚ)| * 2 ^ e := by
      rw [abs_mul, abs_of_pos (by positivity : (0 : ℚ) < 2 ^ e)]
    _ < 2 ^ 53 * 2 ^ e := mul_lt_mul_of_pos_right hbits (by positivity)
    _ = 2 ^ 52 * 2 ^ (e + 1) := by
      rw [zpow_add_one₀ (by norm_num)]
      ring
    _ ≤ 2 ^ 52 * 2 ^ f := by
      gcongr
      · norm_num
      · omega

/-- An end of the grid is nearer to what lies beyond it than what lies within. -/
theorem exists_nearer {f : ℤ} (hbeyond : 2 ^ 52 * 2 ^ f ≤ |q|) (hwithin : |v| < 2 ^ 52 * 2 ^ f) :
    ∃ k : ℤ, |q - k * 2 ^ f| < |q - v| := by
  obtain ⟨hlow, hhigh⟩ := abs_lt.mp hwithin
  rcases le_abs.mp hbeyond with h | h
  · refine ⟨2 ^ 52, ?_⟩
    push_cast
    rw [abs_of_nonneg (by linarith), abs_of_pos (by linarith)]
    linarith
  · refine ⟨-2 ^ 52, ?_⟩
    push_cast
    rw [abs_of_nonpos (by linarith), abs_of_neg (by linarith)]
    linarith

/-- A representable number lies on the grid around `q`, or the end of that grid is nearer. -/
theorem Representable.onGrid_or (hv : Representable v) (q : ℚ) :
    (∃ k : ℤ, v = k * 2 ^ lastExponent q) ∨
      ∃ k : ℤ, |q - k * 2 ^ lastExponent q| < |q - v| := by
  obtain ⟨m, e, hm, he, rfl⟩ := hv
  rcases le_or_gt (lastExponent q) e with hle | hlt
  · refine Or.inl ⟨m * 2 ^ (e - lastExponent q).toNat, ?_⟩
    rw [zpow_split hle]
    push_cast
    ring
  · rcases eq_or_ne q 0 with rfl | hq
    · rcases eq_or_ne (m : ℚ) 0 with hzero | hzero
      · exact Or.inl ⟨0, by simp [hzero]⟩
      · refine Or.inr ⟨0, ?_⟩
        have hapart : (m : ℚ) * 2 ^ e ≠ 0 := mul_ne_zero hzero (by positivity)
        rw [Int.cast_zero, zero_mul, sub_self, abs_zero, zero_sub, abs_neg]
        exact abs_pos.mpr hapart
    · exact Or.inr (exists_nearer (zpow_le_abs hq (lt_of_le_of_lt he hlt)) (abs_mul_zpow_lt hm hlt))

theorem abs_sub_rounded_le (q : ℚ) (k : ℤ) :
    |q - rounded q| ≤ |q - k * 2 ^ lastExponent q| := by
  unfold rounded
  rw [abs_sub_mul_zpow, abs_sub_mul_zpow]
  exact mul_le_mul_of_nonneg_right (abs_sub_nearestInt_le _ k) (by positivity)

theorem nearest_rounded (q : ℚ) : Nearest q (rounded q) where
  representable := representable_rounded q
  abs_sub_le u hu := by
    rcases hu.onGrid_or q with ⟨k, rfl⟩ | ⟨k, hk⟩
    · exact abs_sub_rounded_le q k
    · exact (abs_sub_rounded_le q k).trans hk.le
  even u hu htie hne := by
    rcases hu.onGrid_or q with ⟨k, rfl⟩ | ⟨k, hk⟩
    · have hscale : (0 : ℚ) < 2 ^ lastExponent q := by positivity
      unfold rounded at htie hne ⊢
      rw [abs_sub_mul_zpow, abs_sub_mul_zpow] at htie
      have htie' := mul_right_cancel₀ hscale.ne' htie
      have hk : k ≠ nearestInt (q / 2 ^ lastExponent q) := by
        rintro rfl
        exact hne rfl
      obtain ⟨heven, hodd⟩ := parity_of_tie htie' hk
      refine ⟨lastExponent q, nearestInt (q / 2 ^ lastExponent q) / 2, k / 2, ?_, ?_⟩
      · have hhalves : nearestInt (q / 2 ^ lastExponent q) =
            2 * (nearestInt (q / 2 ^ lastExponent q) / 2) := by omega
        exact congrArg (· * (2 : ℚ) ^ lastExponent q) (by exact_mod_cast hhalves)
      · have hhalves : k = 2 * (k / 2) + 1 := by omega
        exact congrArg (· * (2 : ℚ) ^ lastExponent q) (by exact_mod_cast hhalves)
    · have hle := abs_sub_rounded_le q k
      linarith

theorem two_mul_zpow_ne {a b e f : ℤ} (h : e ≤ f) : (2 * a + 1 : ℚ) * 2 ^ e ≠ 2 * b * 2 ^ f := by
  intro heq
  rw [zpow_split h, ← mul_assoc] at heq
  have hcancel := mul_right_cancel₀ (by positivity : (2 : ℚ) ^ e ≠ 0) heq
  have hint : 2 * a + 1 = 2 * (b * 2 ^ (f - e).toNat) := by
    have hcast : (2 * a + 1 : ℚ) = 2 * (b * 2 ^ (f - e).toNat) := by linarith
    exact_mod_cast hcast
  omega

/-- There is one nearest number. -/
theorem Nearest.unique {v' : ℚ} (h : Nearest q v) (h' : Nearest q v') : v = v' := by
  by_contra hne
  have htie : |q - v| = |q - v'| :=
    le_antisymm (h.abs_sub_le v' h'.representable) (h'.abs_sub_le v h.representable)
  obtain ⟨e, k, j, hv, hv'⟩ := h.even v' h'.representable htie.symm (Ne.symm hne)
  obtain ⟨f, k', j', hf', hf⟩ := h'.even v h.representable htie hne
  rcases le_total e f with hle | hle
  · exact two_mul_zpow_ne hle (hv'.symm.trans hf')
  · exact two_mul_zpow_ne hle (hf.symm.trans hv)

theorem rounded_of_representable (h : Representable q) : rounded q = q := by
  have hnone := (nearest_rounded q).abs_sub_le q h
  rw [sub_self, abs_zero, abs_nonpos_iff, sub_eq_zero] at hnone
  exact hnone.symm

theorem Nearest.neg (h : Nearest q v) : Nearest (-q) (-v) where
  representable := h.representable.neg
  abs_sub_le u hu := by
    have hle := h.abs_sub_le (-u) hu.neg
    rw [← abs_neg (q - v), ← abs_neg (q - -u)] at hle
    convert hle using 2 <;> ring
  even u hu htie hne := by
    have htie' : |q - -u| = |q - v| := by
      rw [← abs_neg (q - v), ← abs_neg (q - -u)]
      convert htie using 2 <;> ring
    obtain ⟨e, k, j, rfl, hu'⟩ := h.even (-u) hu.neg htie' fun heq => hne (by rw [← heq, neg_neg])
    refine ⟨e, -k, -j - 1, by push_cast; ring, ?_⟩
    push_cast
    linarith

theorem rounded_neg (q : ℚ) : rounded (-q) = -rounded q :=
  (nearest_rounded (-q)).unique (nearest_rounded q).neg

/-- What is nearest to the greater number cannot be below what is nearest to the lesser one. -/
theorem rounded_mono {q q' : ℚ} (hle : q ≤ q') : rounded q ≤ rounded q' := by
  by_contra hnot
  have hlt : rounded q' < rounded q := lt_of_not_ge hnot
  have hnear := (nearest_rounded q).abs_sub_le _ (representable_rounded q')
  have hnear' := (nearest_rounded q').abs_sub_le _ (representable_rounded q)
  have hmiddle : rounded q' + rounded q ≤ 2 * q := by
    rcases abs_cases (q - rounded q) with ⟨h, hs⟩ | ⟨h, hs⟩ <;>
      rcases abs_cases (q - rounded q') with ⟨h', hs'⟩ | ⟨h', hs'⟩ <;> linarith
  have hmiddle' : 2 * q' ≤ rounded q' + rounded q := by
    rcases abs_cases (q' - rounded q) with ⟨h, hs⟩ | ⟨h, hs⟩ <;>
      rcases abs_cases (q' - rounded q') with ⟨h', hs'⟩ | ⟨h', hs'⟩ <;> linarith
  obtain rfl : q = q' := by linarith
  exact hnot le_rfl

theorem rounded_le (hv : Representable v) (h : q ≤ v) : rounded q ≤ v := by
  rw [← rounded_of_representable hv]
  exact rounded_mono h

theorem le_rounded (hv : Representable v) (h : v ≤ q) : v ≤ rounded q := by
  rw [← rounded_of_representable hv]
  exact rounded_mono h

theorem rounded_nonneg (h : 0 ≤ q) : 0 ≤ rounded q := by
  rw [← rounded_zero]
  exact rounded_mono h

/-- From `2 ^ 53` on there are no odd numbers. -/
theorem Representable.exists_even (hv : Representable v) (hlarge : 2 ^ 53 ≤ v) :
    ∃ k : ℤ, v = 2 * k := by
  obtain ⟨m, e, hm, -, rfl⟩ := hv
  have hbits : (m : ℚ) < 2 ^ 53 := by exact_mod_cast (abs_lt.mp hm).2
  have he : 1 ≤ e := by
    by_contra hsmall
    have hone : (2 : ℚ) ^ e ≤ 1 := zpow_le_one_of_nonpos₀ (by norm_num) (by omega)
    have hzero : (0 : ℚ) < 2 ^ e := by positivity
    nlinarith
  refine ⟨m * 2 ^ (e - 1).toNat, ?_⟩
  rw [zpow_split he]
  push_cast
  ring

/-- What is less than one is lost in a sum with a number of `2 ^ 53` or more. -/
theorem rounded_add_le (hv : Representable v) (hlarge : 2 ^ 53 ≤ v) (hpos : 0 ≤ q) (hlt : q < 1) :
    rounded (v + q) ≤ v := by
  have hlow : v ≤ rounded (v + q) := le_rounded hv (le_add_of_nonneg_right hpos)
  have hnear := (nearest_rounded (v + q)).abs_sub_le v hv
  rw [add_sub_cancel_left, abs_of_nonneg hpos] at hnear
  have hhigh : rounded (v + q) < v + 2 := by
    have := (abs_le.mp hnear).1
    linarith
  -- two even numbers that are less than two apart
  obtain ⟨j, hj⟩ := hv.exists_even hlarge
  obtain ⟨k, hk⟩ := (representable_rounded (v + q)).exists_even (hlarge.trans hlow)
  rw [hk, hj] at hhigh ⊢
  have hlast : k < j + 1 := by
    have hcast : (k : ℚ) < j + 1 := by linarith
    exact_mod_cast hcast
  have hle : (k : ℚ) ≤ j := by exact_mod_cast Int.lt_add_one_iff.mp hlast
  linarith

end Binary64
end ClusterAgent
