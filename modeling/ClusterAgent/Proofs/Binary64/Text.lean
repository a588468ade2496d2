import ClusterAgent.Binary64.Places
import ClusterAgent.Proofs.Binary64.Shortest
import ClusterAgent.Proofs.Text.Numeral
import Mathlib.Data.Nat.Factorization.Basic

/-! The text of a number: digits with a point, an exponent, or both, which stand for a decimal that
is read as the number. -/
namespace ClusterAgent

/-! ### Digits -/

namespace Text

theorem digitsValue_append (ds es : List Char) :
    digitsValue (ds ++ es) = digitsValue ds * 10 ^ es.length + digitsValue es := by
  induction es using List.reverseRecOn with
  | nil => simp [digitsValue]
  | append_singleton es c ih =>
    have hlast (cs : List Char) :
        digitsValue (cs ++ [c]) = digitsValue cs * 10 + (c.toNat - 0x30) := by
      simp [digitsValue]
    rw [← List.append_assoc, hlast, hlast, ih, List.length_append, List.length_singleton, pow_succ]
    ring

theorem digitsValue_zeros (k : ℕ) : digitsValue (List.replicate k '0') = 0 := by
  induction k with
  | zero => rfl
  | succ k ih =>
    have hzero : digitsValue ['0'] = 0 := rfl
    rw [List.replicate_succ', digitsValue_append, ih, hzero]
    simp

/-- The digits of a number that does not end with zero do not, either. -/
theorem getLast?_toDigits {n : ℕ} (h : ¬ 10 ∣ n) :
    ∃ cs c, Nat.toDigits 10 n = cs ++ [c] ∧ c ≠ '0' := by
  have hdigit : ∀ k < 10, k ≠ 0 → k.digitChar ≠ '0' := by decide
  by_cases hsmall : n < 10
  · have hn : n ≠ 0 := by omega
    exact ⟨[], n.digitChar, Nat.toDigits_of_lt_base hsmall, hdigit n hsmall hn⟩
  · refine ⟨Nat.toDigits 10 (n / 10), (n % 10).digitChar, ?_, ?_⟩
    · exact Nat.toDigits_of_base_le (by decide) (by omega)
    · exact hdigit (n % 10) (by omega) (by omega)

/-- Zeros at the end are taken off. -/
theorem reverse_dropWhile_zeros {n : ℕ} (h : ¬ 10 ∣ n) (k : ℕ) :
    ((Nat.toDigits 10 (n * 10 ^ k)).reverse.dropWhile (· == '0')).reverse = Nat.toDigits 10 n := by
  obtain ⟨cs, c, hcs, hc⟩ := getLast?_toDigits h
  have hn : n ≠ 0 := by
    rintro rfl
    exact h (dvd_zero 10)
  have hzeros : ∀ x ∈ List.replicate k '0', (x == '0') = true := fun x hx => by
    rw [List.eq_of_mem_replicate hx]
    rfl
  have hstop : ¬ (c == '0') = true := by simpa using hc
  rw [toDigits_mul_pow hn, List.reverse_append, List.reverse_replicate,
    List.dropWhile_append_of_pos hzeros, hcs, List.reverse_append, List.reverse_singleton,
    List.singleton_append, List.dropWhile_cons, if_neg hstop]
  simp

end Text

namespace Binary64

/-! ### Layouts -/

/-- A number in digits: those before the point, those behind it, and an exponent. -/
structure Layout where
  whole : List Char
  places : List Char
  exponent : Option ℤ

namespace Layout

def chars (t : Layout) : List Char :=
  Text.pointed t.whole t.places ++ t.exponent.elim [] Decimals.exponentText

/-- The number that is read. -/
def read (negative : Bool) (t : Layout) : Binary64 :=
  ofDecimal negative (Text.digitsValue (t.whole ++ t.places)) (t.exponent.getD 0 - t.places.length)

/-- A zero stands in front only when it stands alone, and what is written is no integer. -/
structure Proper (t : Layout) : Prop where
  whole_ne_nil : t.whole ≠ []
  whole : ∀ c ∈ t.whole, c.isDigit
  head : t.whole = ['0'] ∨ t.whole.head? ≠ some '0'
  places : ∀ c ∈ t.places, c.isDigit
  fractional : t.places ≠ [] ∨ t.exponent.isSome

/-- How the digits of a number are written whose first one stands `point` places before the
point. -/
def ofDigits (digits : List Char) (point : ℤ) : Layout :=
  if point < -3 || point > 16 then
    { whole := digits.take 1, places := digits.drop 1, exponent := some (point - 1) }
  else if point ≤ 0 then
    { whole := ['0'], places := List.replicate (-point).toNat '0' ++ digits, exponent := none }
  else
    { whole := digits.take point.toNat ++ List.replicate (point - digits.length).toNat '0'
      places := if (digits.drop point.toNat).isEmpty then ['0'] else digits.drop point.toNat
      exponent := none }

variable {n : ℕ} {point : ℤ}

theorem proper_ofDigits (hn : n ≠ 0) (point : ℤ) : (ofDigits (Nat.toDigits 10 n) point).Proper := by
  have hdigits : ∀ c ∈ Nat.toDigits 10 n, c.isDigit := fun c hc =>
    Nat.isDigit_of_mem_toDigits (by decide) (by decide) hc
  have hzeros (k : ℕ) : ∀ c ∈ List.replicate k '0', c.isDigit := fun c hc => by
    rw [List.eq_of_mem_replicate hc]
    rfl
  have hhead := Text.head?_toDigits hn
  obtain ⟨c, cs, hcs, -⟩ := Text.exists_cons_toDigits n
  rw [hcs] at hdigits hhead ⊢
  unfold ofDigits
  split_ifs with hexponent hsmall hround
  · exact ⟨by simp, fun c hc => hdigits c (List.mem_of_mem_take hc), Or.inr (by simpa using hhead),
      fun c hc => hdigits c (List.mem_of_mem_drop hc), Or.inr rfl⟩
  · refine ⟨by simp, hzeros 1, Or.inl rfl, fun d hd => ?_, Or.inl (by simp)⟩
    rcases List.mem_append.mp hd with hd | hd
    · exact hzeros _ d hd
    · exact hdigits d hd
  all_goals
    obtain ⟨k, hk⟩ : ∃ k, point.toNat = k + 1 := ⟨point.toNat - 1, by omega⟩
    have hwhole : ∀ d ∈ (c :: cs).take point.toNat ++
        List.replicate (point - (c :: cs).length).toNat '0', d.isDigit := fun d hd => by
      rcases List.mem_append.mp hd with hd | hd
      · exact hdigits d (List.mem_of_mem_take hd)
      · exact hzeros _ d hd
  · exact ⟨by simp [hk], hwhole, Or.inr (by simpa [hk] using hhead), hzeros 1,
      Or.inl (by simp)⟩
  · exact ⟨by simp [hk], hwhole, Or.inr (by simpa [hk] using hhead),
      fun d hd => hdigits d (List.mem_of_mem_drop hd), Or.inl (by simpa using hround)⟩

/-- Wherever the point is written, the digits are read with it where it belongs. -/
theorem read_ofDigits (negative : Bool) (n : ℕ) (point : ℤ) :
    (ofDigits (Nat.toDigits 10 n) point).read negative =
      ofDecimal negative n (point - (Nat.toDigits 10 n).length) := by
  have hvalue := Text.digitsValue_toDigits n
  have hlength : 0 < (Nat.toDigits 10 n).length := Nat.length_toDigits_pos
  generalize Nat.toDigits 10 n = digits at *
  unfold read ofDigits
  split_ifs with hexponent hsmall hround
  · have hplaces :
        (some (point - 1)).getD 0 - ((digits.drop 1).length : ℤ) = point - digits.length := by
      rw [List.length_drop, Option.getD_some]
      omega
    dsimp only
    rw [List.take_append_drop, hvalue, hplaces]
  · have hplaces : (none : Option ℤ).getD 0 -
        ((List.replicate (-point).toNat '0' ++ digits).length : ℤ) = point - digits.length := by
      rw [List.length_append, List.length_replicate, Option.getD_none]
      omega
    have hzeros :
        Text.digitsValue (['0'] ++ (List.replicate (-point).toNat '0' ++ digits)) = n := by
      rw [← List.append_assoc, ← List.replicate_one, List.replicate_append_replicate,
        Text.digitsValue_append, Text.digitsValue_zeros, hvalue]
      simp
    dsimp only
    rw [hzeros, hplaces]
  · -- the point stands behind all digits, and zeros fill the gap
    rw [List.isEmpty_iff, List.drop_eq_nil_iff] at hround
    have hdigits : Text.digitsValue (digits.take point.toNat ++
        List.replicate (point - digits.length).toNat '0' ++ ['0']) =
          n * 10 ^ ((point - digits.length).toNat + 1) := by
      rw [List.take_of_length_le hround, List.append_assoc, ← List.replicate_succ',
        Text.digitsValue_append, Text.digitsValue_zeros, hvalue, List.length_replicate, add_zero]
    have hplaces : (none : Option ℤ).getD 0 - (['0'].length : ℤ) =
        point - digits.length - ((point - digits.length).toNat + 1 : ℕ) := by
      simp only [Option.getD_none, List.length_singleton]
      omega
    dsimp only
    rw [hdigits, hplaces, ofDecimal_mul_pow]
  · rw [List.isEmpty_iff, List.drop_eq_nil_iff, not_le] at hround
    have hzeros : (point - digits.length).toNat = 0 := by omega
    have hplaces : (none : Option ℤ).getD 0 - ((digits.drop point.toNat).length : ℤ) =
        point - digits.length := by
      rw [List.length_drop, Option.getD_none]
      omega
    dsimp only
    rw [hzeros, List.replicate_zero, List.append_nil, List.take_append_drop, hvalue, hplaces]

end Layout

/-! ### Texts -/

theorem exponentText_eq (x : ℤ) :
    Decimals.exponentText x = ['e', if x < 0 then '-' else '+'] ++
      List.replicate (2 - ((Nat.toDigits 10 x.natAbs).length : ℤ)).toNat '0' ++
        Nat.toDigits 10 x.natAbs := by
  have hcount : (2 - ((Nat.toDigits 10 x.natAbs).length : ℤ)).toNat =
      2 - (Nat.toDigits 10 x.natAbs).length := by omega
  rw [hcount]
  rfl

theorem Layout.chars_ofDigits {digits : List Char} (hdigits : digits ≠ []) (point : ℤ) :
    (ofDigits digits point).chars =
      if point < -3 || point > 16 then
        digits.take 1 ++ (if digits.length > 1 then '.' :: digits.drop 1 else []) ++
          ['e', if point - 1 < 0 then '-' else '+'] ++
            List.replicate (2 - ((Nat.toDigits 10 (point - 1).natAbs).length : ℤ)).toNat '0' ++
              Nat.toDigits 10 (point - 1).natAbs
      else if point ≤ 0 then ['0', '.'] ++ List.replicate (-point).toNat '0' ++ digits
      else digits.take point.toNat ++ List.replicate (point - digits.length).toNat '0' ++
        '.' :: (if (digits.drop point.toNat).isEmpty then ['0'] else digits.drop point.toNat) := by
  unfold chars ofDigits Text.pointed
  by_cases hexponent : (point < -3 || point > 16) = true
  · have htail : (if digits.drop 1 = [] then [] else '.' :: digits.drop 1) =
        if digits.length > 1 then '.' :: digits.drop 1 else [] := by
      by_cases hmany : digits.length > 1
      · have hrest : digits.drop 1 ≠ [] := mt List.drop_eq_nil_iff.mp (not_le.mpr hmany)
        rw [if_neg hrest, if_pos hmany]
      · have hnone : digits.drop 1 = [] := List.drop_eq_nil_iff.mpr (not_lt.mp hmany)
        rw [if_pos hnone, if_neg hmany]
    rw [if_pos hexponent, if_pos hexponent, ← htail, Option.elim_some, exponentText_eq]
    simp only [List.append_assoc]
  rw [if_neg hexponent, if_neg hexponent]
  by_cases hsmall : point ≤ 0
  · rw [if_pos hsmall, if_pos hsmall]
    simp [hdigits]
  rw [if_neg hsmall, if_neg hsmall]
  by_cases hround : (digits.drop point.toNat).isEmpty = true
  · simp [hround]
  · have hplaces : digits.drop point.toNat ≠ [] := by simpa using hround
    simp only [if_neg hround, if_neg hplaces, Option.elim_none, List.append_nil]

variable {m : ℕ} {e : ℤ}

/-- A finite number other than zero is written in digits that are read as the number. -/
theorem Normalized.exists_layout (h : Normalized m e) :
    ∃ t : Layout, t.Proper ∧ (∀ negative, t.read negative = finite negative m e) ∧
      ∀ negative, (finite negative m e).toText =
        (if negative then "-" else "") ++ String.ofList t.chars := by
  have hread := h.ofDecimal_shortestDecimal
  have hdigits : (shortestDecimal m e).digits ≠ 0 := by
    intro hzero
    have hvalue := hread false
    rw [hzero] at hvalue
    have hm : 0 = m := (finite.inj hvalue).2.1
    exact h.pos.ne hm
  obtain ⟨k, n, hn, hsplit⟩ := Nat.exists_eq_pow_mul_and_not_dvd hdigits 10 (by decide)
  rw [mul_comm] at hsplit
  have hn' : n ≠ 0 := by
    rintro rfl
    exact hn (dvd_zero 10)
  have hlength : (Nat.toDigits 10 (shortestDecimal m e).digits).length =
      (Nat.toDigits 10 n).length + k := by
    rw [hsplit, Text.toDigits_mul_pow hn', List.length_append, List.length_replicate]
  refine ⟨.ofDigits (Nat.toDigits 10 n)
    ((Nat.toDigits 10 (shortestDecimal m e).digits).length + (shortestDecimal m e).exponent),
    Layout.proper_ofDigits hn' _, fun negative => ?_, fun negative => ?_⟩
  · have hexponent : ((Nat.toDigits 10 (shortestDecimal m e).digits).length : ℤ) +
        (shortestDecimal m e).exponent - (Nat.toDigits 10 n).length =
          (shortestDecimal m e).exponent + k := by
      rw [hlength]
      push_cast
      ring
    rw [Layout.read_ofDigits, hexponent, ← ofDecimal_mul_pow negative n k, ← hsplit,
      add_sub_cancel_right, hread]
  · have hstrip : ((Nat.toDigits 10 (shortestDecimal m e).digits).reverse.dropWhile
        (· == '0')).reverse = Nat.toDigits 10 n := by
      rw [hsplit]
      exact Text.reverse_dropWhile_zeros hn k
    unfold toText
    dsimp only
    rw [if_neg h.pos.ne', hstrip]
    rw [Layout.chars_ofDigits (Nat.toDigits_ne_nil)]

end Binary64
end ClusterAgent
