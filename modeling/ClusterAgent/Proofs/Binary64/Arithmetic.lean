import ClusterAgent.Proofs.Binary64.Rounding

/-! The arithmetic of binary64 numbers is exact arithmetic that is rounded once. -/
namespace ClusterAgent.Binary64

/-! ### Integer parts -/

/-- The integer part: what stands after the point is dropped on both sides of zero. -/
def truncated (v : ℚ) : ℤ := if v < 0 then ⌈v⌉ else ⌊v⌋

theorem truncated_neg (v : ℚ) : truncated (-v) = -truncated v := by
  unfold truncated
  rcases lt_trichotomy v 0 with h | rfl | h
  · rw [if_neg (by linarith), if_pos h, Int.floor_neg]
  · simp
  · rw [if_pos (by linarith), if_neg (by linarith), Int.ceil_neg]

theorem truncated_mono {v v' : ℚ} (hle : v ≤ v') : truncated v ≤ truncated v' := by
  unfold truncated
  split_ifs with h h' h'
  · exact Int.ceil_mono hle
  · -- On different sides of zero, zero is between the two.
    have hbelow : ⌈v⌉ ≤ 0 := by
      rw [Int.ceil_le, Int.cast_zero]
      exact h.le
    have habove : 0 ≤ ⌊v'⌋ := Int.floor_nonneg.mpr (not_lt.mp h')
    exact hbelow.trans habove
  · exact absurd (hle.trans_lt h') h
  · exact Int.floor_mono hle

@[simp] theorem truncated_intCast (k : ℤ) : truncated k = k := by
  unfold truncated
  split_ifs <;> simp

@[simp] theorem truncated_zero : truncated 0 = 0 :=
  truncated_intCast 0

/-! ### Quotients -/

theorem roundHalfEven_eq {n d : ℕ} (hd : 0 < d) : (roundHalfEven n d : ℤ) = nearestInt (n / d) := by
  have hd' : (0 : ℚ) < d := by exact_mod_cast hd
  have hfloor : ⌊(n / d : ℚ)⌋ = (n / d : ℕ) := Rat.floor_natCast_div_natCast n d
  have hrest : (n / d : ℚ) - (n / d : ℕ) = (n % d : ℕ) / d := by
    have hsplit : (n : ℚ) = d * (n / d : ℕ) + (n % d : ℕ) := by
      exact_mod_cast (Nat.div_add_mod n d).symm
    rw [eq_div_iff hd'.ne', sub_mul, div_mul_cancel₀ _ hd'.ne']
    linarith
  have hdouble : (2 * (n % d) : ℕ) = 2 * ((n % d : ℕ) : ℚ) := by push_cast; rfl
  have hbelow : ((n % d : ℕ) / d : ℚ) < 1 / 2 ↔ 2 * (n % d) < d := by
    rw [← Nat.cast_lt (α := ℚ), hdouble, div_lt_iff₀ hd']
    constructor <;> intro h <;> linarith
  have habove : (1 / 2 : ℚ) < (n % d : ℕ) / d ↔ d < 2 * (n % d) := by
    rw [← Nat.cast_lt (α := ℚ), hdouble, lt_div_iff₀ hd']
    constructor <;> intro h <;> linarith
  unfold nearestInt roundHalfEven
  simp only [hfloor, Int.cast_natCast, hrest, hbelow, habove]
  split_ifs <;> push_cast <;> rfl

theorem power_div_power_neg {base : ℕ} (hbase : base ≠ 0) (e : ℤ) :
    (power base e : ℚ) / power base (-e) = base ^ e := by
  have hbase' : (base : ℚ) ≠ 0 := by exact_mod_cast hbase
  have hnat (k : ℤ) : (power base k : ℚ) = base ^ (k.toNat : ℤ) := by
    rw [zpow_natCast]
    exact Nat.cast_pow base k.toNat
  rw [hnat, hnat, ← zpow_sub₀ hbase']
  congr 1
  omega

theorem power_div_power (e : ℤ) : (power 2 e : ℚ) / power 2 (-e) = 2 ^ e :=
  mod_cast power_div_power_neg two_ne_zero e

theorem power_pos (e : ℤ) : 0 < power 2 e := Nat.pow_pos (by norm_num)

/-- The powers of two on both sides of a comparison are one power of two. -/
theorem mul_power_le_iff {n d : ℕ} (hd : 0 < d) (k : ℤ) :
    d * power 2 k ≤ n * power 2 (-k) ↔ (2 : ℚ) ^ k ≤ n / d := by
  have hd' : (0 : ℚ) < d := by exact_mod_cast hd
  have hpower : (0 : ℚ) < power 2 (-k) := by exact_mod_cast power_pos (-k)
  rw [← power_div_power, div_le_div_iff₀ hpower hd', ← Nat.cast_le (α := ℚ)]
  push_cast
  rw [mul_comm (d : ℚ)]

theorem log2_bounds {n : ℕ} (hn : 0 < n) :
    (2 : ℚ) ^ (n.log2 : ℤ) ≤ n ∧ n < (2 : ℚ) ^ (n.log2 + 1 : ℤ) := by
  constructor
  · exact_mod_cast Nat.log2_self_le hn.ne'
  · exact_mod_cast Nat.lt_log2_self (n := n)

theorem le_log_iff {q : ℚ} (hq : 0 < q) {k : ℤ} : k ≤ Int.log 2 q ↔ 2 ^ k ≤ q := by
  rw [← Int.zpow_le_iff_le_log (by norm_num) hq, Nat.cast_ofNat]

theorem ratioLog2_eq {n d : ℕ} (hn : 0 < n) (hd : 0 < d) :
    ratioLog2 n d = Int.log 2 (n / d : ℚ) := by
  have hd' : (0 : ℚ) < d := by exact_mod_cast hd
  have hq : (0 : ℚ) < n / d := by positivity
  obtain ⟨hnlow, hnhigh⟩ := log2_bounds hn
  obtain ⟨hdlow, hdhigh⟩ := log2_bounds hd
  have hlow : (2 : ℚ) ^ ((n.log2 : ℤ) - d.log2 - 1) ≤ n / d := by
    rw [le_div_iff₀ hd']
    calc
      (2 : ℚ) ^ ((n.log2 : ℤ) - d.log2 - 1) * d ≤
          2 ^ ((n.log2 : ℤ) - d.log2 - 1) * 2 ^ (d.log2 + 1 : ℤ) := by gcongr
      _ = 2 ^ (n.log2 : ℤ) := by
        rw [← zpow_add₀ (by norm_num)]
        congr 1
        ring
      _ ≤ n := hnlow
  have hhigh : (n / d : ℚ) < 2 ^ ((n.log2 : ℤ) - d.log2 + 1) := by
    rw [div_lt_iff₀ hd']
    calc
      (n : ℚ) < 2 ^ (n.log2 + 1 : ℤ) := hnhigh
      _ = 2 ^ ((n.log2 : ℤ) - d.log2 + 1) * 2 ^ (d.log2 : ℤ) := by
        rw [← zpow_add₀ (by norm_num)]
        congr 1
        ring
      _ ≤ 2 ^ ((n.log2 : ℤ) - d.log2 + 1) * d := by gcongr
  rw [← not_le, ← le_log_iff hq, not_le] at hhigh
  rw [← le_log_iff hq] at hlow
  unfold ratioLog2
  simp only [mul_power_le_iff hd, ← le_log_iff hq]
  split_ifs with h <;> omega

/-! ### Values -/

/-- A rational number, or its negative. -/
def signed (negative : Bool) (q : ℚ) : ℚ := if negative then -q else q

variable {x y : Binary64}

theorem rounded_signed (negative : Bool) (q : ℚ) :
    rounded (signed negative q) = signed negative (rounded q) := by
  cases negative with
  | false => rfl
  | true => exact rounded_neg q

theorem signed_mul (a b : Bool) (q r : ℚ) : signed (a != b) (q * r) = signed a q * signed b r := by
  cases a <;> cases b <;> simp [signed]

theorem abs_signed (negative : Bool) (q : ℚ) : |signed negative q| = |q| := by
  cases negative with
  | false => rfl
  | true => exact abs_neg q

theorem truncated_signed (negative : Bool) {q : ℚ} (hq : 0 ≤ q) :
    truncated (signed negative q) = if negative then -⌊q⌋ else ⌊q⌋ := by
  have hfloor : truncated q = ⌊q⌋ := if_neg (not_lt.mpr hq)
  cases negative with
  | false => exact hfloor
  | true => exact (truncated_neg q).trans (congrArg Neg.neg hfloor)

theorem toRat?_finite (negative : Bool) (m : ℕ) (e : ℤ) :
    (finite negative m e).toRat? = some (signed negative (m * 2 ^ e)) := by
  have hvalue : mkRat (m * power 2 e : ℕ) (power 2 (-e)) = m * 2 ^ e := by
    rw [Rat.mkRat_eq_div, ← power_div_power]
    push_cast
    ring
  rw [← hvalue]
  rfl

theorem quantum_eq {n d : ℕ} (hn : 0 < n) (hd : 0 < d) : quantum n d = lastExponent (n / d) := by
  have hq : (0 : ℚ) ≤ n / d := by positivity
  unfold quantum lastExponent
  rw [ratioLog2_eq hn hd, abs_of_nonneg hq]

theorem roundHalfEven_quantum {n d : ℕ} (hn : 0 < n) (hd : 0 < d) :
    (roundHalfEven (n * power 2 (-quantum n d)) (d * power 2 (quantum n d)) : ℚ) *
      2 ^ quantum n d = rounded (n / d) := by
  have hscaled : ((n * power 2 (-quantum n d) : ℕ) / (d * power 2 (quantum n d) : ℕ) : ℚ) =
      n / d / 2 ^ quantum n d := by
    rw [← power_div_power]
    have := power_pos (quantum n d)
    have := power_pos (-quantum n d)
    push_cast
    field_simp
  have hinteger := roundHalfEven_eq (n := n * power 2 (-quantum n d))
    (Nat.mul_pos hd (power_pos (quantum n d)))
  rw [hscaled] at hinteger
  unfold rounded
  rw [← quantum_eq hn hd, ← hinteger, Int.cast_natCast]

/-- A quotient is rounded once, or it is too large for the format. -/
theorem ofRatio_cases (negative : Bool) {n d : ℕ} (hd : 0 < d) :
    (ofRatio negative n d).toRat? = some (rounded (signed negative (n / d))) ∨
      971 ≤ lastExponent (n / d) ∧ ofRatio negative n d = infinity negative := by
  unfold ofRatio
  rcases Nat.eq_zero_or_pos n with rfl | hn
  · left
    rw [if_pos rfl, toRat?_finite]
    simp [signed]
  have hvalue := roundHalfEven_quantum hn hd
  rw [if_neg hn.ne', rounded_signed, ← quantum_eq hn hd, ← hvalue]
  dsimp only
  split_ifs with hlarge hcarry hnone
  · right
    simp only [Bool.or_eq_true, Bool.and_eq_true, decide_eq_true_eq] at hlarge
    exact ⟨by omega, rfl⟩
  · left
    rw [toRat?_finite, hcarry, zpow_add_one₀ (by norm_num)]
    push_cast
    congr 2
    ring
  · left
    rw [toRat?_finite, hnone]
    simp
  · exact Or.inl (toRat?_finite _ _ _)

theorem toRat?_ofRatio {negative : Bool} {n d : ℕ} (hd : 0 < d) {v : ℚ}
    (h : (ofRatio negative n d).toRat? = some v) : v = rounded (signed negative (n / d)) := by
  rcases ofRatio_cases negative hd with hvalue | ⟨-, hinfinite⟩
  · exact Option.some.inj (h.symm.trans hvalue)
  · rw [hinfinite] at h
    cases h

/-- Quotients of moderate size are not too large. -/
theorem toRat?_ofRatio_of_lt {negative : Bool} {n d : ℕ} (hd : 0 < d) (h : (n / d : ℚ) < 2 ^ 100) :
    (ofRatio negative n d).toRat? = some (rounded (signed negative (n / d))) := by
  rcases ofRatio_cases negative hd with hvalue | ⟨hlarge, -⟩
  · exact hvalue
  · have hq : (n / d : ℚ) ≠ 0 := by
      intro hzero
      rw [hzero, lastExponent, abs_zero, Int.log_zero_right] at hlarge
      omega
    have hlow := zpow_le_abs hq (by omega)
    rw [abs_of_nonneg (by positivity)] at hlow
    have hpower : (2 : ℚ) ^ (48 : ℤ) ≤ 2 ^ lastExponent (n / d) :=
      zpow_le_zpow_right₀ (by norm_num) (by omega)
    norm_num at hpower hlow h
    linarith

theorem signed_abs (q : ℚ) : signed (decide (q < 0)) |q| = q := by
  unfold signed
  by_cases h : q < 0
  · rw [decide_eq_true h, if_pos rfl, abs_of_neg h, neg_neg]
  · rw [decide_eq_false h, if_neg (by simp), abs_of_nonneg (not_lt.mp h)]

theorem natAbs_div_one (i : ℤ) : signed (decide (i < 0)) (i.natAbs / (1 : ℕ)) = i := by
  have hsign : decide (i < 0) = decide ((i : ℚ) < 0) := by simp
  rw [Nat.cast_one, div_one, Nat.cast_natAbs, Int.cast_abs, hsign, signed_abs]

theorem toRat?_ofInt {i : ℤ} {v : ℚ} (h : (ofInt i).toRat? = some v) : v = rounded i := by
  rw [toRat?_ofRatio Nat.one_pos h, natAbs_div_one]

theorem toRat?_ofInt_of_lt {i : ℤ} (h : |i| < 2 ^ 100) : (ofInt i).toRat? = some (rounded i) := by
  have hsize : ((i.natAbs : ℕ) / (1 : ℕ) : ℚ) < 2 ^ 100 := by
    rw [Nat.cast_one, div_one, Nat.cast_natAbs]
    exact_mod_cast h
  have hvalue : (ofInt i).toRat? = some (rounded (signed (decide (i < 0)) (i.natAbs / (1 : ℕ)))) :=
    toRat?_ofRatio_of_lt Nat.one_pos hsize
  rwa [natAbs_div_one] at hvalue

theorem toRat?_ofInt_of_le {i : ℤ} (h : |i| ≤ 2 ^ 53) : (ofInt i).toRat? = some (i : ℚ) := by
  rw [toRat?_ofInt_of_lt (h.trans_lt (by norm_num)),
    rounded_of_representable (representable_intCast h)]

theorem exists_of_toRat? {v : ℚ} (h : x.toRat? = some v) :
    ∃ negative m e, x = finite negative m e ∧ v = signed negative (m * 2 ^ e) := by
  cases x with
  | finite negative m e =>
    rw [toRat?_finite] at h
    exact ⟨negative, m, e, rfl, (Option.some.inj h).symm⟩
  | infinity negative => cases h
  | nan => cases h

/-- A product is that of a quotient. -/
theorem mul_finite (a b : Bool) (m m' : ℕ) (e e' : ℤ) :
    ∃ n d : ℕ, 0 < d ∧ (finite a m e).mul (finite b m' e') = ofRatio (a != b) n d ∧
      (n / d : ℚ) = m * 2 ^ e * (m' * 2 ^ e') := by
  refine ⟨_, _, power_pos (-(e + e')), rfl, ?_⟩
  rw [Nat.cast_mul, mul_div_assoc, power_div_power, zpow_add₀ (by norm_num)]
  push_cast
  ring

/-- A finite product has finite factors. -/
theorem exists_right_of_mul {v : ℚ} (h : (x.mul y).toRat? = some v) :
    ∃ q, y.toRat? = some q := by
  cases y with
  | finite negative m e => exact ⟨_, toRat?_finite negative m e⟩
  | infinity negative =>
    cases x with
    | finite a m e =>
      simp only [mul] at h
      split at h <;> cases h
    | infinity a => cases h
    | nan => cases h
  | nan => cases x <;> cases h

theorem toRat?_mul {q r v : ℚ} (hx : x.toRat? = some q) (hy : y.toRat? = some r)
    (h : (x.mul y).toRat? = some v) : v = rounded (q * r) := by
  obtain ⟨a, m, e, rfl, rfl⟩ := exists_of_toRat? hx
  obtain ⟨b, m', e', rfl, rfl⟩ := exists_of_toRat? hy
  obtain ⟨n, d, hd, hmul, hquotient⟩ := mul_finite a b m m' e e'
  rw [hmul] at h
  rw [toRat?_ofRatio hd h, hquotient, signed_mul]

theorem toRat?_mul_of_lt {q r : ℚ} (hx : x.toRat? = some q) (hy : y.toRat? = some r)
    (h : |q * r| < 2 ^ 100) : (x.mul y).toRat? = some (rounded (q * r)) := by
  obtain ⟨a, m, e, rfl, rfl⟩ := exists_of_toRat? hx
  obtain ⟨b, m', e', rfl, rfl⟩ := exists_of_toRat? hy
  obtain ⟨n, d, hd, hmul, hquotient⟩ := mul_finite a b m m' e e'
  rw [← signed_mul, ← hquotient] at h ⊢
  rw [hmul]
  have hquotient' : (0 : ℚ) ≤ n / d := by positivity
  rw [abs_signed, abs_of_nonneg hquotient'] at h
  exact toRat?_ofRatio_of_lt hd h

theorem toRat?_mul_of_le {q r : ℚ} (hx : x.toRat? = some q) (hy : y.toRat? = some r)
    (h : |q * r| ≤ 2 ^ 53) : (x.mul y).toRat? = some (rounded (q * r)) :=
  toRat?_mul_of_lt hx hy (h.trans_lt (by norm_num))

theorem toRat?_ofRat_of_lt {q : ℚ} (h : |q| < 2 ^ 100) : (ofRat q).toRat? = some (rounded q) := by
  have hparts : (q.num.natAbs / q.den : ℚ) = |q| := by
    rw [Nat.cast_natAbs, Int.cast_abs, ← Nat.abs_cast q.den, ← abs_div, Rat.num_div_den]
  have hvalue : (ofRat q).toRat? =
      some (rounded (signed (decide (q < 0)) (q.num.natAbs / q.den))) :=
    toRat?_ofRatio_of_lt q.den_pos (by rwa [hparts])
  rwa [hparts, signed_abs] at hvalue

theorem toRat?_add_of_lt {q r : ℚ} (hx : x.toRat? = some q) (hy : y.toRat? = some r)
    (h : |q + r| < 2 ^ 100) : (x.add y).toRat? = some (rounded (q + r)) := by
  unfold add
  rw [hx, hy]
  dsimp only
  split_ifs with hzero
  · rw [toRat?_finite, hzero, rounded_zero]
    simp [signed]
  · exact toRat?_ofRat_of_lt h

theorem truncate_eq_ok {t : ℤ} :
    x.truncate = .ok t ↔ ∃ v, x.toRat? = some v ∧ truncated v = t := by
  cases x with
  | finite negative m e =>
    have hfloor : ((m * power 2 e / power 2 (-e) : ℕ) : ℤ) = ⌊(m * 2 ^ e : ℚ)⌋ := by
      rw [← power_div_power, ← mul_div_assoc, ← Nat.cast_mul, Rat.floor_natCast_div_natCast]
      rfl
    have hparts : (finite negative m e).truncate =
        .ok (truncated (signed negative (m * 2 ^ e))) := by
      rw [truncated_signed _ (by positivity), ← hfloor]
      rfl
    rw [hparts, toRat?_finite]
    simp
  | infinity negative => simp [truncate, toRat?]
  | nan => simp [truncate, toRat?]

end ClusterAgent.Binary64
