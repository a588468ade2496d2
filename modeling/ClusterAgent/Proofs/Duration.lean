import ClusterAgent.Duration
import ClusterAgent.Failure.Reports
import ClusterAgent.Proofs.Text.Case

/-! Durations. A text is read just when its lower case is a number and a known unit or none, with
blanks around both, and then only the number and the unit count. -/
namespace ClusterAgent.Duration

variable {c : Char} {cs number unit : List Char} {p : Parts}

/-- One or more digits, or two such runs around a dot. -/
inductive IsNumeral : List Char → Prop
  | whole {ds : List Char} (hne : ds ≠ []) (hds : ∀ c ∈ ds, Text.isDigit c) : IsNumeral ds
  | point {ds es : List Char} (hne : ds ≠ []) (hds : ∀ c ∈ ds, Text.isDigit c) (hne' : es ≠ [])
    (hes : ∀ c ∈ es, Text.isDigit c) : IsNumeral (ds ++ '.' :: es)

def isUnitLetter (c : Char) : Bool := 'a' ≤ c && c ≤ 'z'

/-- A number and a unit with something around both of them. -/
def spelled (before number between unit after : List Char) : List Char :=
  before ++ (number ++ (between ++ (unit ++ after)))

/-- The text is a number and the letters of a unit, with blanks around both of them. -/
def Spells (cs number unit : List Char) : Prop :=
  ∃ before between after : List Char, (∀ c ∈ before, Text.isBlank c) ∧ IsNumeral number ∧
    (∀ c ∈ between, Text.isBlank c) ∧ (∀ c ∈ unit, isUnitLetter c) ∧
    (∀ c ∈ after, Text.isBlank c) ∧ cs = spelled before number between unit after

/-- The seconds of a unit; without one, seconds are counted. -/
def factor? (unit : List Char) : Option Binary64 :=
  if unit = [] then some (.ofInt 1) else units.lookup (String.ofList unit)

/-! ### Characters -/

theorem not_isDigit_of_isUnitLetter (h : isUnitLetter c) : Text.isDigit c = false := by
  have hzero : ∀ z ∈ Text.digitZeros, z + 9 < 0x61 ∨ 0x7A < z := by decide
  simp only [isUnitLetter, Bool.and_eq_true, decide_eq_true_eq, Char.le_def,
    UInt32.le_iff_toNat_le] at h
  have hlow : 0x61 ≤ c.toNat := h.1
  have hhigh : c.toNat ≤ 0x7A := h.2
  refine Bool.eq_false_iff.mpr fun hdigit => ?_
  obtain ⟨z, hz, hle, hlt⟩ := Text.exists_zero_of_isDigit hdigit
  have hapart := hzero z hz
  omega

theorem not_isBlank_of_isUnitLetter (h : isUnitLetter c) : Text.isBlank c = false := by
  have hcode : ∀ n ∈ Text.blankCodes, isUnitLetter (Char.ofNat n) = false := by decide
  refine Bool.eq_false_iff.mpr fun hblank => ?_
  have hfalse := hcode _ (Text.toNat_mem_blankCodes hblank)
  rw [Char.ofNat_toNat, h] at hfalse
  cases hfalse

theorem not_isDigit_of_isBlank (h : Text.isBlank c) : Text.isDigit c = false :=
  Bool.eq_false_iff.mpr fun hdigit =>
    Bool.eq_false_iff.mp (Text.not_isBlank_of_isDigit hdigit) h

/-! ### Parts -/

/-- The digits behind a dot, and what follows them. A dot without digits is left where it is. -/
def splitFraction (rest : List Char) : List Char × List Char :=
  match rest with
  | '.' :: r =>
    if (r.takeWhile Text.isDigit).isEmpty then ([], rest)
    else (r.takeWhile Text.isDigit, r.dropWhile Text.isDigit)
  | r => ([], r)

/-- What remains of a text behind the blanks and digits in front. -/
def afterWhole (cs : List Char) : List Char := (cs.dropWhile Text.isBlank).dropWhile Text.isDigit

/-- What remains of a text behind the number and the blanks that follow it. -/
def afterNumber (cs : List Char) : List Char :=
  (splitFraction (afterWhole cs)).2.dropWhile Text.isBlank

theorem parts?_eq (cs : List Char) : parts? cs =
    if ((cs.dropWhile Text.isBlank).takeWhile Text.isDigit).isEmpty ||
        !((afterNumber cs).dropWhile isUnitLetter).all Text.isBlank then none
    else some ⟨(cs.dropWhile Text.isBlank).takeWhile Text.isDigit,
      (splitFraction (afterWhole cs)).1, (afterNumber cs).takeWhile isUnitLetter⟩ := rfl

theorem splitFraction_dot (r : List Char) : splitFraction ('.' :: r) =
    if (r.takeWhile Text.isDigit).isEmpty then ([], '.' :: r)
    else (r.takeWhile Text.isDigit, r.dropWhile Text.isDigit) := rfl

theorem splitFraction_spec (rest : List Char) :
    (∀ c ∈ (splitFraction rest).1, Text.isDigit c) ∧
      rest = Text.pointed [] (splitFraction rest).1 ++ (splitFraction rest).2 := by
  unfold splitFraction
  split
  · next r =>
    split
    · simp [Text.pointed]
    · next hdigits =>
      refine ⟨fun c => List.mem_takeWhile_imp, ?_⟩
      rw [List.isEmpty_iff] at hdigits
      simp [Text.pointed, hdigits]
  · simp [Text.pointed]

/-- Behind digits, a fraction is split from what is neither a digit nor a dot. -/
theorem splitFraction_pointed {es tail : List Char} (hes : ∀ c ∈ es, Text.isDigit c)
    (htail : ∀ c ∈ tail.head?, Text.isDigit c = false ∧ c ≠ '.') :
    splitFraction (Text.pointed [] es ++ tail) = (es, tail) := by
  have hdigit : ∀ c ∈ tail.head?, Text.isDigit c = false := fun c hc => (htail c hc).1
  unfold Text.pointed
  by_cases hnil : es = []
  · subst hnil
    rw [if_pos rfl, List.append_nil, List.nil_append]
    unfold splitFraction
    split
    · exact absurd rfl (htail '.' rfl).2
    · rfl
  · rw [if_neg hnil, List.nil_append, List.cons_append]
    rw [splitFraction_dot, Text.takeWhile_exact hes hdigit, Text.dropWhile_exact hes hdigit,
      if_neg (mt List.isEmpty_iff.mp hnil)]

/-- Digits in front of and behind a point, and letters. -/
structure Parts.Proper (p : Parts) : Prop where
  whole_ne_nil : p.whole ≠ []
  whole : ∀ c ∈ p.whole, Text.isDigit c
  fraction : ∀ c ∈ p.fraction, Text.isDigit c
  unit : ∀ c ∈ p.unit, isUnitLetter c

/-- The number of the parts as it is written. -/
def Parts.numeral (p : Parts) : List Char := Text.pointed p.whole p.fraction

theorem exists_parts_of_isNumeral (h : IsNumeral number) (hunit : ∀ c ∈ unit, isUnitLetter c) :
    ∃ p : Parts, p.Proper ∧ p.numeral = number ∧ p.unit = unit := by
  cases h with
  | whole hne hds => exact
      ⟨⟨number, [], unit⟩, ⟨hne, hds, nofun, hunit⟩, by simp [Parts.numeral, Text.pointed], rfl⟩
  | @point ds es hne hds hne' hes =>
    exact ⟨⟨ds, es, unit⟩, ⟨hne, hds, hes, hunit⟩, by simp [Parts.numeral, Text.pointed, hne'], rfl⟩

theorem Parts.Proper.isNumeral (h : p.Proper) : IsNumeral p.numeral := by
  unfold Parts.numeral Text.pointed
  by_cases hnil : p.fraction = []
  · rw [if_pos hnil, List.append_nil]
    exact .whole h.whole_ne_nil h.whole
  · rw [if_neg hnil]
    exact .point h.whole_ne_nil h.whole hnil h.fraction

theorem spells_of_parts? (h : parts? cs = some p) : p.Proper ∧ Spells cs p.numeral p.unit := by
  rw [parts?_eq] at h
  split at h
  · cases h
  · next hparts =>
    cases h
    rw [Bool.or_eq_true, not_or, List.isEmpty_iff, Bool.not_eq_true', Bool.not_eq_false,
      List.all_eq_true] at hparts
    obtain ⟨hne, hafter⟩ := hparts
    obtain ⟨hfraction, hrest⟩ := splitFraction_spec (afterWhole cs)
    have hproper : Parts.Proper ⟨(cs.dropWhile Text.isBlank).takeWhile Text.isDigit,
        (splitFraction (afterWhole cs)).1, (afterNumber cs).takeWhile isUnitLetter⟩ :=
      ⟨hne, fun c => List.mem_takeWhile_imp, hfraction, fun c => List.mem_takeWhile_imp⟩
    refine ⟨hproper, cs.takeWhile Text.isBlank,
      (splitFraction (afterWhole cs)).2.takeWhile Text.isBlank,
      (afterNumber cs).dropWhile isUnitLetter, fun c => List.mem_takeWhile_imp, hproper.isNumeral,
      fun c => List.mem_takeWhile_imp, fun c => List.mem_takeWhile_imp, hafter, ?_⟩
    unfold spelled
    rw [List.takeWhile_append_dropWhile]
    unfold afterNumber
    rw [List.takeWhile_append_dropWhile]
    have hnumber : Parts.numeral ⟨(cs.dropWhile Text.isBlank).takeWhile Text.isDigit,
        (splitFraction (afterWhole cs)).1, (afterNumber cs).takeWhile isUnitLetter⟩ ++
        (splitFraction (afterWhole cs)).2 = cs.dropWhile Text.isBlank := by
      calc _ = (cs.dropWhile Text.isBlank).takeWhile Text.isDigit ++
              (Text.pointed [] (splitFraction (afterWhole cs)).1 ++
                (splitFraction (afterWhole cs)).2) := by
            simp [Parts.numeral, Text.pointed]
        _ = (cs.dropWhile Text.isBlank).takeWhile Text.isDigit ++ afterWhole cs := by rw [← hrest]
        _ = _ := List.takeWhile_append_dropWhile
    unfold afterNumber at hnumber
    rw [hnumber, List.takeWhile_append_dropWhile]

/-- Behind a number stands neither a digit nor a dot. -/
theorem head_afterNumber {between after : List Char} (hbetween : ∀ c ∈ between, Text.isBlank c)
    (hunit : ∀ c ∈ unit, isUnitLetter c) (hafter : ∀ c ∈ after, Text.isBlank c) :
    ∀ c ∈ (between ++ (unit ++ after)).head?, Text.isDigit c = false ∧ c ≠ '.' := by
  intro c hc
  have hmem := List.mem_of_head? hc
  rw [List.mem_append, List.mem_append] at hmem
  have hkind : Text.isBlank c ∨ isUnitLetter c := by
    rcases hmem with hmem | hmem | hmem
    · exact Or.inl (hbetween c hmem)
    · exact Or.inr (hunit c hmem)
    · exact Or.inl (hafter c hmem)
  rcases hkind with hblank | hletter
  · refine ⟨not_isDigit_of_isBlank hblank, ?_⟩
    rintro rfl
    exact absurd hblank (by decide)
  · refine ⟨not_isDigit_of_isUnitLetter hletter, ?_⟩
    rintro rfl
    exact absurd hletter (by decide)

/-- Blanks in front of a unit are dropped; without a unit nothing is left. -/
theorem dropWhile_between {between after : List Char} (hbetween : ∀ c ∈ between, Text.isBlank c)
    (hunit : ∀ c ∈ unit, isUnitLetter c) (hafter : ∀ c ∈ after, Text.isBlank c) :
    (between ++ (unit ++ after)).dropWhile Text.isBlank =
      if unit = [] then [] else unit ++ after := by
  rw [List.dropWhile_append_of_pos hbetween]
  cases unit with
  | nil => exact List.dropWhile_eq_nil_iff.mpr hafter
  | cons c unit =>
    have hc : ¬ Text.isBlank c = true :=
      Bool.eq_false_iff.mp (not_isBlank_of_isUnitLetter (hunit c List.mem_cons_self))
    rw [List.cons_append, List.dropWhile_cons_of_neg hc, if_neg (List.cons_ne_nil c unit)]

theorem parts?_of_spells (hp : p.Proper) (h : Spells cs p.numeral p.unit) : parts? cs = some p := by
  obtain ⟨before, between, after, hbefore, -, hbetween, -, hafter, rfl⟩ := h
  obtain ⟨whole, fraction, unit⟩ := p
  obtain ⟨hne, hwhole, hfraction, hunit⟩ := hp
  dsimp only [Parts.numeral] at hne hwhole hfraction hunit ⊢
  have hhead := head_afterNumber hbetween hunit hafter
  have htext : Text.pointed whole fraction ++ (between ++ (unit ++ after)) =
      whole ++ (Text.pointed [] fraction ++ (between ++ (unit ++ after))) := by
    simp [Text.pointed]
  have hfront : (before ++ (Text.pointed whole fraction ++ (between ++ (unit ++ after)))).dropWhile
      Text.isBlank = whole ++ (Text.pointed [] fraction ++ (between ++ (unit ++ after))) := by
    rw [htext]
    refine Text.dropWhile_exact hbefore fun c hc => ?_
    obtain ⟨d, ds, rfl⟩ := List.exists_cons_of_ne_nil hne
    cases hc
    exact Text.not_isBlank_of_isDigit (hwhole _ List.mem_cons_self)
  have hboundary : ∀ c ∈ (Text.pointed [] fraction ++ (between ++ (unit ++ after))).head?,
      Text.isDigit c = false := by
    intro c hc
    unfold Text.pointed at hc
    by_cases hnil : fraction = []
    · rw [if_pos hnil] at hc
      exact (hhead c hc).1
    · rw [if_neg hnil] at hc
      cases hc
      decide
  have hwholeTake := Text.takeWhile_exact hwhole hboundary
  have hwholeDrop := Text.dropWhile_exact hwhole hboundary
  have hletters : (if unit = [] then [] else unit ++ after).takeWhile isUnitLetter = unit ∧
      ((if unit = [] then [] else unit ++ after).dropWhile isUnitLetter).all Text.isBlank =
        true := by
    by_cases hnil : unit = []
    · simp [hnil]
    · have hend : ∀ c ∈ after.head?, isUnitLetter c = false := by
        intro c hc
        refine Bool.eq_false_iff.mpr fun hletter => ?_
        exact absurd (hafter c (List.mem_of_head? hc))
          (Bool.eq_false_iff.mp (not_isBlank_of_isUnitLetter hletter))
      rw [if_neg hnil, Text.takeWhile_exact hunit hend, Text.dropWhile_exact hunit hend]
      exact ⟨rfl, List.all_eq_true.mpr hafter⟩
  rw [parts?_eq]
  unfold spelled afterNumber afterWhole
  rw [hfront, hwholeTake, hwholeDrop, splitFraction_pointed hfraction hhead]
  dsimp only
  rw [dropWhile_between hbetween hunit hafter, hletters.1, hletters.2,
    List.isEmpty_eq_false_iff.mpr hne]
  rfl

/-! ### Amounts -/

theorem Parts.Proper.readNumber (h : p.Proper) :
    Text.readNumber (String.ofList p.numeral) = .ok p.amount :=
  Text.readNumber_pointed h.whole_ne_nil h.whole h.fraction

theorem parse_eq {s : String} (h : parts? (Text.lower s).toList = some p) :
    parse s = match factor? p.unit with
      | some factor => .ok (p.amount.mul factor)
      | none => .error (.unknownUnit (String.ofList p.unit) s) := by
  unfold parse factor?
  rw [h]
  dsimp only
  by_cases hunit : p.unit = []
  · simp only [if_pos hunit, if_pos (String.ofList_eq_empty_iff.mpr hunit)]
  · cases units.lookup (String.ofList p.unit) with
    | none => simp [hunit]
    | some factor => simp [hunit]

/-- The number of a text is read, and decides with the unit what the text stands for. -/
theorem exists_amount {s : String} (h : Spells (Text.lower s).toList number unit) :
    ∃ amount, Text.readNumber (String.ofList number) = .ok amount ∧
      parse s = match factor? unit with
        | some factor => .ok (amount.mul factor)
        | none => .error (.unknownUnit (String.ofList unit) s) := by
  obtain ⟨p, hp, rfl, rfl⟩ : ∃ p : Parts, p.Proper ∧ p.numeral = number ∧ p.unit = unit := by
    obtain ⟨-, -, -, -, hnumber, -, hunit, -⟩ := h
    exact exists_parts_of_isNumeral hnumber hunit
  exact ⟨p.amount, hp.readNumber, parse_eq (parts?_of_spells hp h)⟩

theorem exists_parts_of_parse {s : String} {x : Binary64} (h : parse s = .ok x) :
    ∃ p factor, parts? (Text.lower s).toList = some p ∧ factor? p.unit = some factor ∧
      x = p.amount.mul factor := by
  cases hparts : parts? (Text.lower s).toList with
  | none =>
    unfold parse at h
    rw [hparts] at h
    cases h
  | some p =>
    rw [parse_eq hparts] at h
    cases hfactor : factor? p.unit with
    | none =>
      rw [hfactor] at h
      cases h
    | some factor =>
      rw [hfactor] at h
      exact ⟨p, factor, rfl, hfactor, (Except.ok.inj h).symm⟩

/-! ### Signs -/

/-- The number is zero, positive or positive infinity, and zero has no sign. -/
def Nonnegative (x : Binary64) : Prop := x.isNegative = false ∧ x ≠ .nan

theorem nonnegative_ofRatio (n d : Nat) : Nonnegative (.ofRatio false n d) := by
  unfold Binary64.ofRatio
  dsimp only
  split_ifs <;> exact ⟨rfl, nofun⟩

theorem nonnegative_ofDecimal (digits : Nat) (exponent : Int) :
    Nonnegative (.ofDecimal false digits exponent) := by
  unfold Binary64.ofDecimal
  dsimp only
  split_ifs
  · exact ⟨rfl, nofun⟩
  · exact ⟨rfl, nofun⟩
  · exact nonnegative_ofRatio _ _

theorem nonnegative_mul {x : Binary64} (hx : Nonnegative x) {m : Nat} (hm : m ≠ 0) (e : Int) :
    Nonnegative (x.mul (.finite false m e)) := by
  obtain ⟨hsign, hnan⟩ := hx
  cases x with
  | finite negative n f =>
    cases negative with
    | true => cases hsign
    | false => exact nonnegative_ofRatio _ _
  | infinity negative =>
    cases negative with
    | true => cases hsign
    | false =>
      have hmul : Binary64.mul (.infinity false) (.finite false m e) = .infinity false := by
        simp [Binary64.mul, Binary64.isZero, Binary64.isNegative, hm]
      rw [hmul]
      exact ⟨rfl, nofun⟩
  | nan => exact absurd rfl hnan

/-- Every unit stands for finitely many seconds, and for more than none. -/
theorem exists_of_factor? {factor : Binary64} (h : factor? unit = some factor) :
    ∃ m e, factor = .finite false m e ∧ m ≠ 0 := by
  have hpositive : ∀ x ∈ .ofInt 1 :: units.map (·.2), x.isPositive ∧ x.toRat?.isSome := by
    decide +kernel
  have hmem : factor ∈ Binary64.ofInt 1 :: units.map (·.2) := by
    unfold factor? at h
    split at h
    · exact List.mem_cons.mpr (Or.inl (Option.some.inj h).symm)
    · obtain ⟨front, back, hunits, -⟩ := List.lookup_eq_some_iff.mp h
      exact List.mem_cons_of_mem _ (by simp [hunits])
  obtain ⟨hsign, hfinite⟩ := hpositive factor hmem
  cases factor with
  | finite negative m e =>
    obtain ⟨hnegative, hm⟩ := Bool.and_eq_true_iff.mp hsign
    cases negative with
    | true => cases hnegative
    | false => exact ⟨m, e, rfl, bne_iff_ne.mp hm⟩
  | infinity negative => cases hfinite
  | nan => cases hfinite

theorem nonnegative_parse {s : String} {x : Binary64} (h : parse s = .ok x) : Nonnegative x := by
  obtain ⟨p, factor, -, hfactor, rfl⟩ := exists_parts_of_parse h
  obtain ⟨m, e, rfl, hm⟩ := exists_of_factor? hfactor
  exact nonnegative_mul (nonnegative_ofDecimal _ _) hm e

/-! ### Letter case -/

theorem lowersAlone_of_mem_isNumeral (h : IsNumeral number) (hc : c ∈ number) :
    Text.LowersAlone c ∧ c.toLower = c := by
  have hdigit {d : Char} (hd : Text.isDigit d) : Text.LowersAlone d ∧ d.toLower = d :=
    ⟨Text.lowersAlone_of_isDigit hd, Text.toLower_of_isDigit hd⟩
  cases h with
  | whole hne hds => exact hdigit (hds c hc)
  | point hne hds hne' hes =>
    rcases List.mem_append.mp hc with hc | hc
    · exact hdigit (hds c hc)
    · rcases List.mem_cons.mp hc with rfl | hc
      · exact ⟨Text.lowersAlone_of_ascii (by decide), rfl⟩
      · exact hdigit (hes c hc)

theorem toNat_lt_of_isAlpha (h : c.isAlpha) : c.toNat < 0x80 := by
  have halpha : c.isAlpha =
      (decide ('A' ≤ c ∧ c ≤ 'Z') || (decide ('a' ≤ c) && decide (c ≤ 'z'))) := rfl
  simp only [halpha, Bool.or_eq_true, Bool.and_eq_true, decide_eq_true_eq] at h
  have hle (d : Char) (hd : d.toNat < 0x80) (hcd : c ≤ d) : c.toNat < 0x80 :=
    Nat.lt_of_le_of_lt (UInt32.le_iff_toNat_le.mp hcd) hd
  obtain ⟨-, hz⟩ | ⟨-, hz⟩ := h
  · exact hle 'Z' (by decide) hz
  · exact hle 'z' (by decide) hz

theorem isUnitLetter_toLower (h : c.isAlpha) : isUnitLetter c.toLower := by
  have hletter : ∀ n < 0x80, (Char.ofNat n).isAlpha → isUnitLetter (Char.ofNat n).toLower := by
    decide
  simpa using hletter c.toNat (toNat_lt_of_isAlpha h) (by simpa using h)

/-- The lower case of a text with a unit in any letter case has the unit in lower case. -/
theorem spells_lower {before between after : List Char} (hbefore : ∀ c ∈ before, Text.isBlank c)
    (hnumber : IsNumeral number) (hbetween : ∀ c ∈ between, Text.isBlank c)
    (hunit : ∀ c ∈ unit, c.isAlpha) (hafter : ∀ c ∈ after, Text.isBlank c) :
    Spells (Text.lower (String.ofList (spelled before number between unit after))).toList number
      (unit.map Char.toLower) := by
  have hblank {cs : List Char} (h : ∀ c ∈ cs, Text.isBlank c) : cs.map Char.toLower = cs := by
    simpa using List.map_congr_left fun c hc => Text.toLower_of_isBlank (h c hc)
  have hdigits : number.map Char.toLower = number := by
    simpa using List.map_congr_left fun c hc => (lowersAlone_of_mem_isNumeral hnumber hc).2
  have halone : ∀ c ∈ spelled before number between unit after, Text.LowersAlone c := by
    unfold spelled
    simp only [List.forall_mem_append]
    exact ⟨fun c hc => Text.lowersAlone_of_isBlank (hbefore c hc),
      fun c hc => (lowersAlone_of_mem_isNumeral hnumber hc).1,
      fun c hc => Text.lowersAlone_of_isBlank (hbetween c hc),
      fun c hc => Text.lowersAlone_of_ascii (toNat_lt_of_isAlpha (hunit c hc)),
      fun c hc => Text.lowersAlone_of_isBlank (hafter c hc)⟩
  refine ⟨before, between, after, hbefore, hnumber, hbetween, ?_, hafter, ?_⟩
  · exact List.forall_mem_map.mpr fun c hc => isUnitLetter_toLower (hunit c hc)
  · rw [Text.toList_lower halone]
    simp only [spelled, List.map_append, hblank hbefore, hblank hbetween, hblank hafter, hdigits]

/-! ### Main statement -/

/-- Only number and unit of a text decide what it stands for. -/
theorem toOption_parse {s t : String} (hs : Spells (Text.lower s).toList number unit)
    (ht : Spells (Text.lower t).toList number unit) : (parse s).toOption = (parse t).toOption := by
  obtain ⟨amount, hamount, hparse⟩ := exists_amount hs
  obtain ⟨amount', hamount', hparse'⟩ := exists_amount ht
  obtain rfl : amount = amount' := Except.ok.inj (hamount.symm.trans hamount')
  rw [hparse, hparse']
  cases factor? unit <;> rfl

/-- A text is read just when its lower case is a number with a known unit or none, and blanks around
them; the number is then counted in the seconds of the unit, and the result is not below zero. Every
other text is an invalid value. Blanks, and the letter case of the unit, do not matter. -/
theorem parse_spells (s : String) :
    ((∃ x, parse s = .ok x) ↔
      ∃ number unit, Spells (Text.lower s).toList number unit ∧ (factor? unit).isSome) ∧
    (∀ number unit factor, Spells (Text.lower s).toList number unit → factor? unit = some factor →
      ∃ amount, Text.readNumber (String.ofList number) = .ok amount ∧
        parse s = .ok (amount.mul factor)) ∧
    (∀ e, parse s = .error e → (Reportable.failure e).kind = .invalidValue) ∧
    (∀ x, parse s = .ok x → Nonnegative x) ∧
    ∀ before between after before' between' after' number unit unit' : List Char,
      (∀ cs ∈ [before, between, after, before', between', after'], ∀ c ∈ cs, Text.isBlank c) →
      IsNumeral number → (∀ c ∈ unit ++ unit', c.isAlpha) →
      unit.map Char.toLower = unit'.map Char.toLower →
      (parse (String.ofList (spelled before number between unit after))).toOption =
        (parse (String.ofList (spelled before' number between' unit' after'))).toOption := by
  have hvalue (number unit : List Char) (factor : Binary64)
      (hspells : Spells (Text.lower s).toList number unit) (hfactor : factor? unit = some factor) :
      ∃ amount, Text.readNumber (String.ofList number) = .ok amount ∧
        parse s = .ok (amount.mul factor) := by
    obtain ⟨amount, hamount, hparse⟩ := exists_amount hspells
    rw [hfactor] at hparse
    exact ⟨amount, hamount, hparse⟩
  refine ⟨⟨?_, ?_⟩, hvalue, fun e _ => rfl, fun x hx => nonnegative_parse hx, ?_⟩
  · rintro ⟨x, hx⟩
    obtain ⟨p, factor, hparts, hfactor, -⟩ := exists_parts_of_parse hx
    exact ⟨p.numeral, p.unit, (spells_of_parts? hparts).2, by rw [hfactor]; rfl⟩
  · rintro ⟨number, unit, hspells, hfactor⟩
    obtain ⟨factor, hfactor⟩ := Option.isSome_iff_exists.mp hfactor
    obtain ⟨amount, -, hparse⟩ := hvalue number unit factor hspells hfactor
    exact ⟨_, hparse⟩
  · intro before between after before' between' after' number unit unit' hblank hnumber hunit hcase
    simp only [List.forall_mem_cons, List.not_mem_nil, false_imp_iff, implies_true,
      and_true] at hblank
    obtain ⟨hbefore, hbetween, hafter, hbefore', hbetween', hafter'⟩ := hblank
    rw [List.forall_mem_append] at hunit
    have hspells := spells_lower hbefore hnumber hbetween hunit.1 hafter
    have hspells' := spells_lower hbefore' hnumber hbetween' hunit.2 hafter'
    rw [← hcase] at hspells'
    exact toOption_parse hspells hspells'

example : (parse "\u2003٣.5 MIN").toOption = some (.finite false 7388718138654720 (-45)) := by
  decide +kernel

end ClusterAgent.Duration
