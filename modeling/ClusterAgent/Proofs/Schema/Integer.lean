import ClusterAgent.Proofs.Json.Produced
import ClusterAgent.Schema.Integer

/-! Integers in data that has been read have no more digits than an integer may have, however they
are given. -/
namespace ClusterAgent

theorem Text.isWritable_of_natAbs_lt {i : Int} (h : i.natAbs < 10 ^ maxIntegerDigits) :
    isWritable i :=
  decide_eq_true ((Nat.length_toDigits_le_iff (by decide) (by decide)).mpr h)

namespace Schema

theorem isWritable_of_plainInteger {cs : List Char} {i : Int} (h : plainInteger cs = .ok i) :
    Text.isWritable i := by
  unfold plainInteger at h
  split at h
  next negative body _ =>
  dsimp only at h
  split at h
  · cases h
  split at h
  · cases h
  next hshort =>
  split at h
  · cases h
  next hall =>
  obtain rfl := Except.ok.inj h
  have hne : body.takeWhile Text.isAsciiDigit ≠ [] := by
    intro hempty
    simp [hempty] at hall
  have hdigits : ∀ c ∈ body.takeWhile Text.isAsciiDigit, c.isDigit :=
    fun c hc => List.mem_takeWhile_imp hc
  exact Json.isWritable_digitsValue hne hdigits (Nat.le_of_not_lt hshort) negative

theorem isWritable_of_readInteger {cs : List Char} {i : Int} (h : readInteger cs = .ok i) :
    Text.isWritable i := by
  unfold readInteger at h
  split at h
  · split at h
    · exact isWritable_of_plainInteger h
    · cases h
  · exact isWritable_of_plainInteger h

/-- An integer that equals a number has at most 64 bits. -/
theorem isWritable_of_integerOfFloat {x : Binary64} {i : Int} (h : integerOfFloat x = .ok i) :
    Text.isWritable i := by
  unfold integerOfFloat at h
  split at h
  · cases h
  · split at h
    · cases h
    · split at h
      · next hrange =>
        cases h
        rw [Bool.and_eq_true, decide_eq_true_eq, decide_eq_true_eq] at hrange
        have hbits : i.natAbs < 10 ^ 20 := by omega
        have hpow : 10 ^ 20 ≤ 10 ^ Text.maxIntegerDigits :=
          Nat.pow_le_pow_right (by decide) (by decide)
        exact Text.isWritable_of_natAbs_lt (hbits.trans_le hpow)
      · cases h

/-- Every integer that a value of a document stands for can be written. -/
theorem isWritable_of_toInteger {depth : Nat} {v : Json} (hv : v.Producible depth) {i : Int}
    (h : toInteger (.ofJson v) = .ok i) : Text.isWritable i := by
  cases v with
  | null => cases h
  | bool b =>
    obtain rfl := Except.ok.inj h
    cases b <;> decide
  | int j =>
    obtain rfl := Except.ok.inj h
    cases depth <;> exact hv
  | float x => exact isWritable_of_integerOfFloat h
  | str t =>
    rw [Datum.ofJson, toInteger] at h
    cases ht : WideText.toChars? t with
    | none =>
      rw [ht] at h
      cases h
    | some cs =>
      rw [ht] at h
      exact isWritable_of_readInteger h
  | arr items => cases h
  | obj members => cases h

end Schema
end ClusterAgent
