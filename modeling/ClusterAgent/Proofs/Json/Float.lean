import ClusterAgent.Proofs.Binary64.Text
import ClusterAgent.Proofs.Json.Integer

/-! Printed fractions read back. -/
namespace ClusterAgent.Json

open Binary64 (Layout)

variable {ds : List Char} {rest : Input}

/-! ### Fractions and exponents -/

/-- What follows the digits before a point or behind it. -/
def EndsDigits (s : Input) : Prop := ∀ p ∈ s.head?, digit? p = none

theorem EndsNumber.endsDigits (h : EndsNumber rest) : EndsDigits rest := fun p hp => (h p hp).1

theorem ofChars_append (cs ds : List Char) :
    WideText.ofChars (cs ++ ds) = WideText.ofChars cs ++ WideText.ofChars ds := List.map_append

theorem readFraction_of_ne {s : Input} (h : ∀ p ∈ s.head?, p ≠ .char '.') :
    readFraction s = (none, s) := by
  unfold readFraction
  split
  · exact absurd rfl (h _ rfl)
  · rfl

theorem readFraction_places (hne : ds ≠ []) (hds : ∀ c ∈ ds, c.isDigit) (hrest : EndsDigits rest) :
    readFraction (.char '.' :: (WideText.ofChars ds ++ rest)) = (some ds, rest) := by
  have hdigits := digits_append hds hrest
  simp only [readFraction, hdigits]

theorem digitsOf_digits (width n : ℕ) :
    (∀ c ∈ Decimals.digitsOf width n, c.isDigit) ∧ Decimals.digitsOf width n ≠ [] ∧
      Text.digitsValue (Decimals.digitsOf width n) = n := by
  unfold Decimals.digitsOf
  refine ⟨fun c hc => ?_, by simp, ?_⟩
  · rcases List.mem_append.mp hc with hc | hc
    · rw [List.eq_of_mem_replicate hc]
      rfl
    · exact Nat.isDigit_of_mem_toDigits (by decide) (by decide) hc
  · rw [Text.digitsValue_append, Text.digitsValue_zeros, Text.digitsValue_toDigits,
      zero_mul, zero_add]

theorem readExponent_exponentText (x : ℤ) (hrest : EndsDigits rest) :
    readExponent (WideText.ofChars (Decimals.exponentText x) ++ rest) = (some x, rest) := by
  obtain ⟨hdigits, hne, hvalue⟩ := digitsOf_digits 2 x.natAbs
  have hread := digits_append hdigits hrest
  have htext : WideText.ofChars (Decimals.exponentText x) ++ rest = .char 'e' ::
      .char (if x < 0 then '-' else '+') ::
        (WideText.ofChars (Decimals.digitsOf 2 x.natAbs) ++ rest) := rfl
  rw [htext]
  generalize hsize : x.natAbs = size at hread hvalue hne ⊢
  obtain ⟨c, cs, hcs⟩ := List.exists_cons_of_ne_nil hne
  rw [hcs] at hread hvalue ⊢
  by_cases hx : x < 0
  · have hsign : -(size : ℤ) = x := by omega
    rw [if_pos hx]
    simp [readExponent, hread, hvalue, hsign]
  · have hsign : (size : ℤ) = x := by omega
    rw [if_neg hx]
    simp [readExponent, hread, hvalue, hsign]

theorem readExponent_optional (x : Option ℤ) (hrest : EndsNumber rest) :
    readExponent (WideText.ofChars (x.elim [] Decimals.exponentText) ++ rest) = (x, rest) := by
  cases x with
  | none => exact readExponent_of_endsNumber hrest
  | some x => exact readExponent_exponentText x hrest.endsDigits

theorem head_optional_exponent (x : Option ℤ) (hrest : EndsNumber rest) :
    ∀ p ∈ (WideText.ofChars (x.elim [] Decimals.exponentText) ++ rest).head?,
      digit? p = none ∧ p ≠ .char '.' := by
  cases x with
  | none => exact fun p hp => ⟨(hrest p hp).1, (hrest p hp).2.1⟩
  | some x =>
    rintro p ⟨⟩
    exact ⟨rfl, by decide⟩

/-- Digits behind a point, if there are any. -/
def optionalPlaces (ds : List Char) : List Char := if ds = [] then [] else '.' :: ds

theorem readFraction_optional (hds : ∀ c ∈ ds, c.isDigit)
    (hrest : ∀ p ∈ rest.head?, digit? p = none ∧ p ≠ .char '.') :
    readFraction (WideText.ofChars (optionalPlaces ds) ++ rest) =
      (if ds = [] then none else some ds, rest) := by
  unfold optionalPlaces
  split_ifs with hempty
  · exact readFraction_of_ne fun p hp => (hrest p hp).2
  · exact readFraction_places hempty hds fun p hp => (hrest p hp).1

theorem endsDigits_optional (hrest : ∀ p ∈ rest.head?, digit? p = none ∧ p ≠ .char '.') :
    EndsDigits (WideText.ofChars (optionalPlaces ds) ++ rest) := by
  unfold optionalPlaces
  split_ifs with hempty
  · exact fun p hp => (hrest p hp).1
  · rintro p ⟨⟩
    rfl

/-! ### Numbers -/

/-- A zero in front stands alone. -/
theorem whole_of_zero {t : Layout} (ht : t.Proper) {after tail : Input}
    (h : WideText.ofChars t.whole ++ after = .char '0' :: tail) :
    t.whole = ['0'] ∧ tail = after := by
  rcases ht.head with hhead | hhead
  · rw [hhead] at h
    exact ⟨hhead, (List.cons.inj h).2.symm⟩
  · obtain ⟨c, cs, hcs⟩ := List.exists_cons_of_ne_nil ht.whole_ne_nil
    rw [hcs] at hhead h
    have hc : c = '0' := CodePoint.char.inj (List.cons.inj h).1
    rw [hc] at hhead
    exact absurd rfl hhead

theorem readNumber_layout {t : Layout} (ht : t.Proper) {d : Dialect} {negative : Bool}
    (hsize : d.sizeFits negative false t.whole.length) (hrest : EndsNumber rest) :
    readNumber d negative (WideText.ofChars t.chars ++ rest) =
      .ok (float (t.read negative), rest) := by
  have hexponent := readExponent_optional t.exponent hrest
  have hhead := head_optional_exponent t.exponent hrest
  have hchars : WideText.ofChars t.chars ++ rest = WideText.ofChars t.whole ++
      (WideText.ofChars (optionalPlaces t.places) ++
        (WideText.ofChars (t.exponent.elim [] Decimals.exponentText) ++ rest)) := by
    unfold Layout.chars Text.pointed optionalPlaces
    rw [ofChars_append, ofChars_append, List.append_assoc, List.append_assoc]
  rw [hchars]
  generalize WideText.ofChars (t.exponent.elim [] Decimals.exponentText) ++ rest = tail at *
  have hfraction := readFraction_optional ht.places hhead
  have hstop : EndsDigits (WideText.ofChars (optionalPlaces t.places) ++ tail) :=
    endsDigits_optional hhead
  generalize WideText.ofChars (optionalPlaces t.places) ++ tail = after at *
  have hne : t.whole.isEmpty = false := by simpa using ht.whole_ne_nil
  have hfractional : ((if t.places = [] then none else some t.places).isNone && t.exponent.isNone) =
      false := by
    rcases ht.fractional with hplaces | hsome
    · rw [if_neg hplaces]
      rfl
    · rw [Option.isNone_eq_false_iff.mpr hsome, Bool.and_false]
  have hgetD : (if t.places = [] then none else some t.places).getD [] = t.places := by
    split_ifs with hplaces
    · exact hplaces.symm
    · rfl
  unfold readNumber
  split
  next whole after' hs =>
    have hpair : (whole, after') = (t.whole, after) := by
      rw [← hs]
      split
      · next tail htail =>
        obtain ⟨hzero, rfl⟩ := whole_of_zero ht htail
        rw [hzero]
      · exact digits_append ht.whole hstop
    obtain ⟨rfl, rfl⟩ := Prod.mk.inj hpair
    simp only [hne, hfraction, hexponent, hfractional, hsize, hgetD, Layout.read,
      Bool.false_eq_true, if_false, Bool.not_true]

/-! ### Values -/

/-- A dialect that limits integers only. -/
def Dialect.ReadsFractions (d : Dialect) : Prop :=
  ∀ negative count, d.sizeFits negative false count

theorem readsFractions_lenient (limit : ℕ) : (Dialect.lenient limit).ReadsFractions :=
  fun _ _ => rfl

theorem exists_layout_of_canonical {negative : Bool} {m : ℕ} {e : ℤ}
    (h : (Binary64.finite negative m e).Canonical) :
    ∃ t : Layout, t.Proper ∧ t.read negative = .finite negative m e ∧
      (Binary64.finite negative m e).toText =
        (if negative then "-" else "") ++ String.ofList t.chars := by
  rcases h with ⟨rfl, rfl⟩ | h
  · exact ⟨⟨['0'], ['0'], none⟩,
      ⟨by decide, by simp, Or.inl rfl, by simp, Or.inl (by decide)⟩, rfl, rfl⟩
  · obtain ⟨t, ht, hread, htext⟩ := h.exists_layout
    exact ⟨t, ht, hread negative, htext negative⟩

/-- Inside the sign a number starts with a digit. -/
theorem Layout.exists_cons {t : Layout} (ht : t.Proper) :
    ∃ c cs, t.chars = c :: cs ∧ c.isDigit := by
  obtain ⟨c, cs, hcs⟩ := List.exists_cons_of_ne_nil ht.whole_ne_nil
  have hc := ht.whole c (by simp [hcs])
  unfold Layout.chars Text.pointed
  rw [hcs]
  exact ⟨c, _, rfl, hc⟩

/-- A printed number is read as the number. -/
theorem readWith_printFloat {d : Dialect} (hd : d.ReadsFractions) {x : Binary64} (hx : x.Canonical)
    (array object : Input → Except JsonError (Json × Input)) (hrest : EndsNumber rest) :
    readWith d array object (printFloat x ++ rest) = .ok (float x, rest) := by
  cases x with
  | nan => rfl
  | infinity negative => cases negative <;> rfl
  | finite negative m e =>
    obtain ⟨t, ht, hread, htext⟩ := exists_layout_of_canonical hx
    obtain ⟨c, cs, hcs, hdigit⟩ := Layout.exists_cons ht
    have hc : (digit? (.char c)).isSome := by
      rw [digit?_of_isDigit hdigit]
      rfl
    have hsize : d.sizeFits negative false t.whole.length := hd negative t.whole.length
    have hnumber := readNumber_layout ht hsize hrest
    have hprint : printFloat (.finite negative m e) = WideText.ofString
        ((if negative then "-" else "") ++ String.ofList t.chars) :=
          congrArg WideText.ofString htext
    have hchars : WideText.ofChars t.chars ++ rest = .char c :: (WideText.ofChars cs ++ rest) := by
      rw [hcs]
      rfl
    rw [hread, hchars] at hnumber
    rw [hprint, WideText.ofString, String.toList_append, String.toList_ofList, ofChars_append,
      List.append_assoc, hchars]
    cases negative with
    | false => exact (readWith_digit hc d array object _).trans hnumber
    | true => exact (readWith_minus hc d array object _).trans hnumber

theorem head?_printFloat {x : Binary64} (hx : x.Canonical) :
    (printFloat x).head?.map (fun p => isSpace p || p == .char ']') = some false := by
  cases x with
  | nan => rfl
  | infinity negative => cases negative <;> rfl
  | finite negative m e =>
    obtain ⟨t, ht, -, htext⟩ := exists_layout_of_canonical hx
    obtain ⟨c, cs, hcs, hdigit⟩ := Layout.exists_cons ht
    have hprint : printFloat (.finite negative m e) = WideText.ofString
        ((if negative then "-" else "") ++ String.ofList t.chars) :=
          congrArg WideText.ofString htext
    rw [hprint, WideText.ofString, String.toList_append, String.toList_ofList, hcs]
    cases negative with
    | true => rfl
    | false =>
      have hne : ∀ e : Char, e.isDigit = false → c ≠ e := by
        rintro e he rfl
        rw [he] at hdigit
        cases hdigit
      simp [WideText.ofChars, isSpace, hne ' ' rfl, hne '\t' rfl, hne '\n' rfl, hne '\r' rfl,
        hne ']' rfl]

end ClusterAgent.Json
