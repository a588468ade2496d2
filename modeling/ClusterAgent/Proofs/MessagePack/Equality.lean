import ClusterAgent.MessagePack.Value
import Mathlib.Data.Rat.Defs

/-! When two scalars are equal as values. Numbers are compared exactly, whatever kinds they are of,
and an undefined number equals nothing, not even itself. -/
namespace ClusterAgent.MessagePack.Scalar

variable {a b c : Scalar} {q r : ℚ}

/-- The rational number that a scalar stands for. A truth value counts as one or zero, and a number
in binary stands for exactly what its bits say. -/
inductive Denotes : Scalar → ℚ → Prop
  | yes : Denotes (.bool true) 1
  | no : Denotes (.bool false) 0
  | int (i : Int) : Denotes (.int i) i
  | float {bits : UInt64} {q : ℚ} (h : (Binary64.ofBits64 bits.toNat).toRat? = some q) :
    Denotes (.float bits) q

/-- The scalars are the same value: the same thing of one kind that is not in binary, the same
rational number in any kinds, or the same infinity. -/
inductive Same : Scalar → Scalar → Prop
  | refl {s : Scalar} (h : ∀ bits, s ≠ .float bits) : Same s s
  | number {a b : Scalar} {q : ℚ} (ha : Denotes a q) (hb : Denotes b q) : Same a b
  | infinity {x y : UInt64} {negative : Bool}
    (hx : Binary64.ofBits64 x.toNat = .infinity negative)
    (hy : Binary64.ofBits64 y.toNat = .infinity negative) : Same (.float x) (.float y)

theorem Denotes.unique (hq : a.Denotes q) (hr : a.Denotes r) : q = r := by
  cases hq with
  | yes => cases hr; rfl
  | no => cases hr; rfl
  | int i => cases hr; rfl
  | float hq =>
    cases hr with
    | float hr => exact Option.some.inj (hq.symm.trans hr)

/-- An infinity stands for no rational number. -/
theorem Denotes.not_infinity {bits : UInt64} {negative : Bool} (h : Denotes (.float bits) q) :
    Binary64.ofBits64 bits.toNat ≠ .infinity negative := by
  intro hinfinity
  cases h with
  | float h =>
    rw [hinfinity] at h
    cases h

theorem Same.symm (h : a.Same b) : b.Same a := by
  cases h with
  | refl h => exact .refl h
  | number ha hb => exact .number hb ha
  | infinity hx hy => exact .infinity hy hx

theorem Same.trans (hab : a.Same b) (hbc : b.Same c) : a.Same c := by
  cases hab with
  | refl => exact hbc
  | number ha hb =>
    cases hbc with
    | refl => exact .number ha hb
    | number hb' hc => exact .number ha (hb.unique hb' ▸ hc)
    | infinity hx => exact absurd hx hb.not_infinity
  | infinity hx hy =>
    cases hbc with
    | refl => exact .infinity hx hy
    | number hb => exact absurd hy hb.not_infinity
    | infinity hy' hz =>
      rw [hy] at hy'
      cases hy'
      exact .infinity hx hz

/-! ### Deciding equality -/

theorem number?_eq_finite : a.number? = some (.finite q) ↔ a.Denotes q := by
  constructor
  · intro h
    cases a with
    | bool b =>
      cases b <;> cases h
      · exact .no
      · exact .yes
    | int i =>
      cases h
      exact .int i
    | float bits =>
      simp only [number?] at h
      split at h
      · cases h
      · cases h
      · obtain ⟨v, hv, heq⟩ := Option.map_eq_some_iff.mp h
        cases heq
        exact .float hv
    | _ => cases h
  · intro h
    cases h with
    | yes => rfl
    | no => rfl
    | int i => rfl
    | float h =>
      simp only [number?]
      split
      · next hnan =>
        rw [hnan] at h
        cases h
      · next hinfinity =>
        rw [hinfinity] at h
        cases h
      · rw [h]
        rfl

theorem number?_eq_infinity {negative : Bool} : a.number? = some (.infinity negative) ↔
    ∃ bits, a = .float bits ∧ Binary64.ofBits64 bits.toNat = .infinity negative := by
  constructor
  · intro h
    cases a with
    | float bits =>
      refine ⟨bits, rfl, ?_⟩
      simp only [number?] at h
      split at h
      · cases h
      · next hinfinity =>
        cases h
        exact hinfinity
      · obtain ⟨v, -, heq⟩ := Option.map_eq_some_iff.mp h
        cases heq
    | _ => cases h
  · rintro ⟨bits, rfl, h⟩
    simp only [number?]
    rw [h]

/-- Two numbers are compared by what they stand for. -/
theorem same_of_number? {n : Number} (ha : a.number? = some n) (hb : b.number? = some n) :
    a.Same b := by
  cases n with
  | finite q => exact .number (number?_eq_finite.mp ha) (number?_eq_finite.mp hb)
  | infinity negative =>
    obtain ⟨x, rfl, hx⟩ := number?_eq_infinity.mp ha
    obtain ⟨y, rfl, hy⟩ := number?_eq_infinity.mp hb
    exact .infinity hx hy

theorem equals_of_number? {n : Number} (ha : a.number? = some n) (hb : b.number? = some n) :
    a.equals b = true := by
  cases a with
  | bool b => simp [equals, ha, hb]
  | int i => simp [equals, ha, hb]
  | float bits => simp [equals, ha, hb]
  | _ => cases ha

theorem equals_iff_same (a b : Scalar) : a.equals b = true ↔ a.Same b := by
  constructor
  · intro h
    unfold equals at h
    split at h
    · exact .refl nofun
    · cases beq_iff_eq.mp h
      exact .refl nofun
    · cases beq_iff_eq.mp h
      exact .refl nofun
    · obtain ⟨hcode, hdata⟩ := Bool.and_eq_true_iff.mp h
      cases beq_iff_eq.mp hcode
      cases beq_iff_eq.mp hdata
      exact .refl nofun
    · obtain ⟨hseconds, hnanoseconds⟩ := Bool.and_eq_true_iff.mp h
      cases beq_iff_eq.mp hseconds
      cases beq_iff_eq.mp hnanoseconds
      exact .refl nofun
    · split at h
      · next x y hx hy =>
        cases beq_iff_eq.mp h
        exact same_of_number? hx hy
      · cases h
  · intro h
    cases h with
    | refl h =>
      cases a with
      | bool b => exact equals_of_number? rfl rfl
      | int i => exact equals_of_number? rfl rfl
      | float bits => exact absurd rfl (h bits)
      | _ => simp [equals]
    | number ha hb =>
      exact equals_of_number? (number?_eq_finite.mpr ha) (number?_eq_finite.mpr hb)
    | infinity hx hy =>
      exact equals_of_number? (number?_eq_infinity.mpr ⟨_, rfl, hx⟩)
        (number?_eq_infinity.mpr ⟨_, rfl, hy⟩)

end ClusterAgent.MessagePack.Scalar
