import ClusterAgent.Json.Printer
import ClusterAgent.Json.Reader
import Mathlib.Algebra.Group.Nat.Defs
import Mathlib.Tactic.ByContra

/-! Printed integers read back, unless a dialect refuses their length. -/
namespace ClusterAgent

/-! ### Decimal digits -/

namespace Text

theorem isAsciiDigit_eq_isDigit (c : Char) : isAsciiDigit c = c.isDigit := rfl

theorem exists_cons_toDigits (n : Nat) : ∃ c cs, Nat.toDigits 10 n = c :: cs ∧ c.isDigit := by
  obtain ⟨c, cs, hcs⟩ := List.exists_cons_of_ne_nil (Nat.toDigits_ne_nil (n := n) (b := 10))
  have hmem : c ∈ Nat.toDigits 10 n := by simp [hcs]
  exact ⟨c, cs, hcs, Nat.isDigit_of_mem_toDigits (by decide) (by decide) hmem⟩

theorem digitsValue_toDigits (n : Nat) : digitsValue (Nat.toDigits 10 n) = n := by
  have hvalue : Nat.ofDigitChars 10 (Nat.toDigits 10 n) 0 = n := Nat.ofDigitChars_ten_toDigits
  rw [Nat.ofDigitChars_eq_foldl] at hvalue
  unfold digitsValue
  simp only [Nat.mul_comm _ 10]
  exact hvalue

/-- Only zero is written with a zero in front. -/
theorem head?_toDigits {n : Nat} (h : n ≠ 0) : (Nat.toDigits 10 n).head? ≠ some '0' := by
  induction n using Nat.strongRecOn with
  | ind n ih =>
    by_cases hn : n < 10
    · have hdigit : ∀ m < 10, m ≠ 0 → m.digitChar ≠ '0' := by decide
      rw [Nat.toDigits_of_lt_base hn, List.head?_cons]
      exact fun hzero => hdigit n hn h (Option.some.inj hzero)
    · have hquotient := ih (n / 10) (by omega) (by omega)
      obtain ⟨c, cs, hcs, -⟩ := exists_cons_toDigits (n / 10)
      rw [Nat.toDigits_of_base_le (by decide) (by omega)]
      rw [hcs] at hquotient ⊢
      exact hquotient

end Text

namespace Json

/-! ### Numbers -/

/-- What stands first does not go on with a number. -/
def EndsNumber (s : Input) : Prop :=
  ∀ p ∈ s.head?, digit? p = none ∧ p ≠ .char '.' ∧ p ≠ .char 'e' ∧ p ≠ .char 'E'

theorem endsNumber_nil : EndsNumber [] := by
  intro p hp
  cases hp

theorem endsNumber_cons {p : CodePoint}
    (h : digit? p = none ∧ p ≠ .char '.' ∧ p ≠ .char 'e' ∧ p ≠ .char 'E') (rest : Input) :
    EndsNumber (p :: rest) := by
  intro q hq
  obtain rfl : p = q := Option.some.inj hq
  exact h

theorem digit?_of_isDigit {c : Char} (h : c.isDigit) : digit? (.char c) = some c := by
  rw [digit?, Text.isAsciiDigit_eq_isDigit, if_pos h]

theorem filterMap_digit? {ds : List Char} (h : ∀ c ∈ ds, c.isDigit) :
    (WideText.ofChars ds).filterMap digit? = ds := by
  induction ds with
  | nil => rfl
  | cons c ds ih =>
    have hc := digit?_of_isDigit (h c (by simp))
    have hrest := ih fun d hd => h d (by simp [hd])
    rw [WideText.ofChars, List.map_cons, List.filterMap_cons_some hc]
    exact congrArg (c :: ·) hrest

theorem digits_append {ds : List Char} (hds : ∀ c ∈ ds, c.isDigit) {rest : Input}
    (hrest : ∀ p ∈ rest.head?, digit? p = none) :
    digits (WideText.ofChars ds ++ rest) = (ds, rest) := by
  have hall : ∀ p ∈ WideText.ofChars ds, (digit? p).isSome := by
    intro p hp
    obtain ⟨c, hc, rfl⟩ := List.mem_map.mp hp
    rw [digit?_of_isDigit (hds c hc), Option.isSome_some]
  have hstop : rest.takeWhile (fun p => (digit? p).isSome) = [] ∧
      rest.dropWhile (fun p => (digit? p).isSome) = rest := by
    cases rest with
    | nil => exact ⟨rfl, rfl⟩
    | cons p rest =>
      have hp := hrest p rfl
      simp [hp]
  unfold digits
  rw [List.takeWhile_append_of_pos hall, List.dropWhile_append_of_pos hall, hstop.1, hstop.2,
    List.append_nil, filterMap_digit? hds]

theorem readFraction_of_endsNumber {s : Input} (h : EndsNumber s) : readFraction s = (none, s) := by
  unfold readFraction
  split
  · exact absurd rfl (h _ rfl).2.1
  · rfl

theorem readExponent_of_endsNumber {s : Input} (h : EndsNumber s) : readExponent s = (none, s) := by
  unfold readExponent
  split
  · next e rest =>
    obtain ⟨-, -, hlower, hupper⟩ := h _ rfl
    have he : ¬ (decide (e = 'e') || decide (e = 'E')) = true := by
      simp only [Bool.or_eq_true, decide_eq_true_eq]
      rintro (rfl | rfl)
      · exact hlower rfl
      · exact hupper rfl
    rw [if_neg he]
  · rfl

/-- Whether a dialect reads an integer, which is a matter of its sign and length. -/
def Dialect.admits (d : Dialect) (i : Int) : Bool :=
  d.sizeFits (i < 0) true (Nat.toDigits 10 i.natAbs).length

/-- The integers that are read are those that can be written. -/
theorem lenient_admits (limit : Nat) (i : Int) :
    (Dialect.lenient limit).admits i = Text.isWritable i := rfl

theorem readNumber_toDigits (d : Dialect) (negative : Bool) (n : Nat) {rest : Input}
    (h : EndsNumber rest) :
    readNumber d negative (WideText.ofChars (Nat.toDigits 10 n) ++ rest) =
      if d.sizeFits negative true (Nat.toDigits 10 n).length then
        .ok (int (if negative then -n else n), rest)
      else .error (.tooManyDigits (Nat.toDigits 10 n).length) := by
  have hdigits :
      digits (WideText.ofChars (Nat.toDigits 10 n) ++ rest) = (Nat.toDigits 10 n, rest) :=
    digits_append (fun c hc => Nat.isDigit_of_mem_toDigits (by decide) (by decide) hc)
      fun p hp => (h p hp).1
  have hwhole : ∀ tail, WideText.ofChars (Nat.toDigits 10 n) ++ rest = .char '0' :: tail →
      Nat.toDigits 10 n = ['0'] ∧ tail = rest := by
    intro tail htail
    have hzero : n = 0 := by
      by_contra hn
      obtain ⟨c, cs, hcs, -⟩ := Text.exists_cons_toDigits n
      have hhead := Text.head?_toDigits hn
      rw [hcs] at htail hhead
      exact hhead (congrArg some (CodePoint.char.inj (List.cons.inj htail).1))
    rw [hzero, Nat.toDigits_zero] at htail ⊢
    exact ⟨rfl, (List.cons.inj htail).2.symm⟩
  have hne : (Nat.toDigits 10 n).isEmpty = false := by simp
  unfold readNumber
  split
  next whole afterWhole hs =>
    have hpair : (whole, afterWhole) = (Nat.toDigits 10 n, rest) := by
      rw [← hs]
      split
      · next tail htail =>
        obtain ⟨hword, rfl⟩ := hwhole tail htail
        rw [hword]
      · exact hdigits
    obtain ⟨rfl, rfl⟩ := Prod.mk.inj hpair
    simp only [hne, readFraction_of_endsNumber h, readExponent_of_endsNumber h,
      Bool.false_eq_true, if_false, Option.isNone_none, Bool.and_self, if_true,
      Text.digitsValue_toDigits]
    cases d.sizeFits negative true (Nat.toDigits 10 n).length <;> rfl

/-! ### Values -/

theorem head?_printInt (i : Int) :
    (printInt i).head?.map (fun p => isSpace p || p == .char ']') = some false := by
  unfold printInt
  split
  · rfl
  · obtain ⟨c, cs, hcs, hdigit⟩ := Text.exists_cons_toDigits i.natAbs
    have hne : ∀ e : Char, e.isDigit = false → c ≠ e := by
      rintro e he rfl
      rw [he] at hdigit
      cases hdigit
    simp [hcs, WideText.ofChars, isSpace, hne ' ' rfl, hne '\t' rfl, hne '\n' rfl, hne '\r' rfl,
      hne ']' rfl]

theorem readWith_digit {p : CodePoint} (hp : (digit? p).isSome) (d : Dialect)
    (array object : Input → Except JsonError (Json × Input)) (rest : Input) :
    readWith d array object (p :: rest) = readNumber d false (p :: rest) := by
  have hne : ∀ c, digit? (.char c) = none → p ≠ .char c := by
    rintro c hc rfl
    rw [hc] at hp
    cases hp
  rw [readWith, if_pos hp]
  · exact hne '[' rfl
  · exact hne '\x7b' rfl
  · exact hne '"' rfl
  · exact fun _ h => absurd h (hne '-' rfl)
  · exact hne '-' rfl

theorem readWith_minus {p : CodePoint} (hp : (digit? p).isSome) (d : Dialect)
    (array object : Input → Except JsonError (Json × Input)) (rest : Input) :
    readWith d array object (.char '-' :: p :: rest) = readNumber d true (p :: rest) := by
  rw [readWith]
  intro tail h
  rw [(List.cons.inj h).1] at hp
  cases hp

theorem readWith_printInt (d : Dialect) (array object : Input → Except JsonError (Json × Input))
    (i : Int) {rest : Input} (h : EndsNumber rest) :
    readWith d array object (printInt i ++ rest) =
      if d.admits i then .ok (int i, rest)
      else .error (.tooManyDigits (Nat.toDigits 10 i.natAbs).length) := by
  obtain ⟨c, cs, hcs, hdigit⟩ := Text.exists_cons_toDigits i.natAbs
  have hc : (digit? (.char c)).isSome := by
    rw [digit?_of_isDigit hdigit]
    rfl
  have hdigits : WideText.ofChars (Nat.toDigits 10 i.natAbs) ++ rest =
      .char c :: (WideText.ofChars cs ++ rest) := by rw [hcs]; rfl
  unfold Dialect.admits
  by_cases hi : i < 0
  · have hprint : printInt i ++ rest =
        .char '-' :: (WideText.ofChars (Nat.toDigits 10 i.natAbs) ++ rest) := by
      simp [printInt, hi, WideText.ofChars]
    have hvalue : -(i.natAbs : Int) = i := by omega
    rw [hprint, hdigits, readWith_minus hc, ← hdigits, readNumber_toDigits d true i.natAbs h,
      decide_eq_true hi, if_pos rfl, hvalue]
  · have hprint : printInt i ++ rest = WideText.ofChars (Nat.toDigits 10 i.natAbs) ++ rest := by
      simp [printInt, hi, WideText.ofChars]
    have hvalue : (i.natAbs : Int) = i := by omega
    rw [hprint, hdigits, readWith_digit hc, ← hdigits, readNumber_toDigits d false i.natAbs h,
      decide_eq_false hi, if_neg Bool.false_ne_true, hvalue]

end Json
end ClusterAgent
