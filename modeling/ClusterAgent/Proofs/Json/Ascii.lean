import ClusterAgent.Proofs.Json.Encoding
import Mathlib.Tactic.IntervalCases

/-! Printed in ASCII, every value is characters of ASCII, and these are read in whatever encoding is
looked for. -/
namespace ClusterAgent

/-- A character of ASCII other than zero. -/
def InAscii (c : Char) : Prop := 0 < c.toNat ∧ c.toNat < 0x80

instance (c : Char) : Decidable (InAscii c) := inferInstanceAs (Decidable (_ ∧ _))

/-- Whether all of a list are ASCII, as it is computed along the list. -/
theorem inAscii_of_all {cs : List Char} (h : cs.all fun c => InAscii c) : ∀ c ∈ cs, InAscii c :=
  fun c hc => of_decide_eq_true (List.all_eq_true.mp h c hc)

/-! ### Numbers -/

theorem inAscii_of_isDigit {c : Char} (h : c.isDigit) : InAscii c := by
  have hascii := Text.isAsciiDigit_iff_toNat.mp h
  unfold InAscii
  omega

theorem inAscii_zeros (k : ℕ) : ∀ c ∈ List.replicate k '0', InAscii c := fun c hc => by
  rw [List.eq_of_mem_replicate hc]
  decide

theorem inAscii_toDigits (n : ℕ) : ∀ c ∈ Nat.toDigits 10 n, InAscii c := fun _ hc =>
  inAscii_of_isDigit (Nat.isDigit_of_mem_toDigits (by decide) (by decide) hc)

theorem Binary64.inAscii_toText (x : Binary64) : ∀ c ∈ x.toText.toList, InAscii c := by
  cases x with
  | nan => exact inAscii_of_all (by decide)
  | infinity negative => cases negative <;> exact inAscii_of_all (by decide)
  | finite negative m e =>
    have hsign : ∀ c ∈ (if negative then "-" else "").toList, InAscii c := by
      cases negative <;> exact inAscii_of_all (by decide)
    unfold toText
    dsimp only
    by_cases hzero : m = 0
    · rw [if_pos hzero, String.toList_append, List.forall_mem_append]
      exact ⟨hsign, inAscii_of_all (by decide)⟩
    rw [if_neg hzero, String.toList_append, String.toList_ofList, List.forall_mem_append]
    refine ⟨hsign, ?_⟩
    have hdigits : ∀ c ∈ ((Nat.toDigits 10 (shortestDecimal m e).digits).reverse.dropWhile
        (· == '0')).reverse, InAscii c := fun c hc => by
      have hmem := (List.dropWhile_suffix _).subset (List.mem_reverse.mp hc)
      exact inAscii_toDigits _ c (List.mem_reverse.mp hmem)
    generalize ((Nat.toDigits 10 (shortestDecimal m e).digits).reverse.dropWhile
      (· == '0')).reverse = digits at hdigits ⊢
    have htake (k : ℕ) : ∀ c ∈ digits.take k, InAscii c :=
      fun c hc => hdigits c (List.mem_of_mem_take hc)
    have hdrop (k : ℕ) : ∀ c ∈ digits.drop k, InAscii c :=
      fun c hc => hdigits c (List.mem_of_mem_drop hc)
    split_ifs
    all_goals
      simp only [List.forall_mem_append, List.forall_mem_cons]
      and_intros
      all_goals
        first
        | exact htake _
        | exact hdrop _
        | exact hdigits
        | exact inAscii_zeros _
        | exact inAscii_toDigits _
        | exact inAscii_of_all (by decide)
        | decide

/-! ### Texts -/

/-- Characters of ASCII only. -/
def WideText.Ascii (t : WideText) : Prop := ∀ p ∈ t, ∃ c, p = .char c ∧ InAscii c

theorem WideText.ascii_ofChars {cs : List Char} (h : ∀ c ∈ cs, InAscii c) : (ofChars cs).Ascii := by
  intro p hp
  obtain ⟨c, hc, rfl⟩ := List.mem_map.mp hp
  exact ⟨c, rfl, h c hc⟩

theorem WideText.Ascii.append {t u : WideText} (ht : t.Ascii) (hu : u.Ascii) : Ascii (t ++ u) := by
  intro p hp
  rcases List.mem_append.mp hp with hp | hp
  · exact ht p hp
  · exact hu p hp

theorem WideText.Ascii.exists_chars {t : WideText} (h : t.Ascii) :
    ∃ cs, t = ofChars cs ∧ ∀ c ∈ cs, InAscii c := by
  have hwhole : t.Whole := fun p hp => by
    obtain ⟨c, rfl, -⟩ := h p hp
    rfl
  obtain ⟨cs, rfl⟩ := exists_ofChars_of_whole hwhole
  refine ⟨cs, rfl, fun c hc => ?_⟩
  obtain ⟨d, hd, hascii⟩ := h (.char c) (List.mem_map_of_mem hc)
  rwa [CodePoint.char.inj hd]

namespace Json

open WideText (ascii_ofChars)

theorem ascii_char {c : Char} (h : InAscii c) : WideText.Ascii [.char c] :=
  ascii_ofChars (List.forall_mem_singleton.mpr h)

theorem inAscii_escapeHex (n : ℕ) : ∀ c ∈ escapeHex n, InAscii c := by
  have hdigit : ∀ k < 16, InAscii (Text.hexDigit k) := by decide
  have hhex (width n : ℕ) : ∀ c ∈ Text.hexDigits width n, InAscii c := by
    induction width generalizing n with
    | zero => exact List.forall_mem_nil _
    | succ width ih =>
      rw [Text.hexDigits, List.forall_mem_append, List.forall_mem_singleton]
      exact ⟨ih (n / 16), hdigit _ (Nat.mod_lt n (by decide))⟩
  rw [escapeHex, List.forall_mem_cons, List.forall_mem_cons]
  exact ⟨by decide, by decide, hhex 4 n⟩

theorem ascii_escapePoint (p : CodePoint) : (escapePoint true p).Ascii := by
  unfold escapePoint
  split
  iterate 7 exact ascii_ofChars (inAscii_of_all (by decide))
  dsimp only
  split_ifs with hhex hpair
  · exact ascii_ofChars (inAscii_escapeHex _)
  · exact ascii_ofChars (List.forall_mem_append.mpr ⟨inAscii_escapeHex _, inAscii_escapeHex _⟩)
  · simp only [Bool.true_and, Bool.or_eq_true, Bool.and_eq_true, decide_eq_true_eq] at hhex hpair
    cases p with
    | char c =>
      refine ascii_char ?_
      unfold InAscii
      simp only [CodePoint.toNat] at hhex hpair
      omega
    | surrogate i =>
      simp only [CodePoint.toNat] at hhex hpair
      omega

theorem ascii_printString {style : Style} (hstyle : style.asciiOnly = true) (t : WideText) :
    (printString style t).Ascii := by
  have hbody : WideText.Ascii (t.flatMap (escapePoint style.asciiOnly)) := by
    intro p hp
    obtain ⟨q, -, hp⟩ := List.mem_flatMap.mp hp
    rw [hstyle] at hp
    exact ascii_escapePoint q p hp
  have hquote : WideText.Ascii [.char '"'] := ascii_char (by decide)
  exact (hquote.append hbody).append hquote

theorem ascii_printInt (i : ℤ) : (printInt i).Ascii := by
  refine ascii_ofChars (List.forall_mem_append.mpr ⟨?_, inAscii_toDigits i.natAbs⟩)
  split_ifs <;> exact inAscii_of_all (by decide)

theorem ascii_printFloat (x : Binary64) : (printFloat x).Ascii := by
  unfold printFloat
  split
  · exact ascii_ofChars (inAscii_of_all (by decide))
  · split_ifs <;> exact ascii_ofChars (inAscii_of_all (by decide))
  · exact ascii_ofChars (Binary64.inAscii_toText _)

theorem ascii_newLine (style : Style) (level : ℕ) : (newLine style level).Ascii := by
  have hbreak : WideText.Ascii [.char '\n'] := ascii_char (by decide)
  unfold newLine
  split_ifs
  · refine hbreak.append fun p hp => ?_
    rw [List.eq_of_mem_replicate hp]
    exact ⟨' ', rfl, by decide⟩
  · exact ascii_ofChars (List.forall_mem_nil _)

theorem ascii_separator (style : Style) (level : ℕ) : (separator style level).Ascii := by
  have hcomma : WideText.Ascii [.char ','] := ascii_char (by decide)
  unfold separator
  split_ifs
  · exact hcomma.append (ascii_newLine style level)
  · exact ascii_ofChars (inAscii_of_all (by decide))
  · exact ascii_ofChars (inAscii_of_all (by decide))

/-- With all other characters escaped, every value is printed in ASCII. -/
theorem ascii_printAt {style : Style} (hstyle : style.asciiOnly = true) (level : ℕ) (v : Json) :
    (printAt style level v).Ascii := by
  have hbracket {c : Char} (hc : InAscii c) (level : ℕ) :
      WideText.Ascii (.char c :: newLine style level) :=
    (ascii_char hc).append (ascii_newLine style level)
  refine printAt.induct (fun level v => (printAt style level v).Ascii)
    (fun level members => (printMembers style level members).Ascii)
    (fun level k v => (printMember style level k v).Ascii)
    (fun level items => (printItems style level items).Ascii)
    ?null ?true ?false ?int ?float ?str ?noItems ?items ?noMembers ?members ?lastMember ?nextMember
    ?member ?lastItem ?nextItem level v
  case null =>
    intro level
    rw [printAt]
    exact ascii_ofChars (inAscii_of_all (by decide))
  case true =>
    intro level
    rw [printAt]
    exact ascii_ofChars (inAscii_of_all (by decide))
  case false =>
    intro level b hb
    rw [printAt, if_neg hb]
    exact ascii_ofChars (inAscii_of_all (by decide))
  case int =>
    intro level i
    rw [printAt]
    exact ascii_printInt i
  case float =>
    intro level x
    rw [printAt]
    exact ascii_printFloat x
  case str =>
    intro level t
    rw [printAt]
    exact ascii_printString hstyle t
  case noItems =>
    intro level
    rw [printAt]
    exact ascii_ofChars (inAscii_of_all (by decide))
  case items =>
    intro level v rest hv hrest
    rw [printAt]
    exact (((hbracket (by decide) _).append hv).append hrest |>.append
      (ascii_newLine style level)).append (ascii_char (by decide))
  case noMembers =>
    intro level
    rw [printAt]
    exact ascii_ofChars (inAscii_of_all (by decide))
  case members =>
    intro level k v rest hmember hrest
    rw [printAt]
    exact ((((hbracket (by decide) _).append hmember).append hrest).append
      (ascii_newLine style level)).append (ascii_char (by decide))
  case lastMember =>
    intro level
    rw [printMembers]
    exact ascii_ofChars (List.forall_mem_nil _)
  case nextMember =>
    intro level k v rest hmember hrest
    rw [printMembers]
    exact ((ascii_separator style level).append hmember).append hrest
  case member =>
    intro level k v hv
    have hcolon : (WideText.ofString (if style.spaced then ": " else ":")).Ascii := by
      split_ifs <;> exact ascii_ofChars (inAscii_of_all (by decide))
    rw [printMember]
    exact ((ascii_printString hstyle k).append hcolon).append hv
  case lastItem =>
    intro level
    rw [printItems]
    exact ascii_ofChars (List.forall_mem_nil _)
  case nextItem =>
    intro level v rest hv hrest
    rw [printItems]
    exact ((ascii_separator style level).append hv).append hrest

/-! ### Bytes -/

/-- Bytes of ASCII other than zero are neither a mark of an encoding nor parts of wider units. -/
theorem decode_of_ascii {bs : List UInt8} (h : ∀ b ∈ bs, b ≠ 0 ∧ b < 0x80) :
    decode bs = Utf8.decodeWide true bs := by
  rcases bs with _ | ⟨a, bs⟩
  · rfl
  obtain ⟨⟨hzero, hascii⟩, hrest⟩ := List.forall_mem_cons.mp h
  have hlt : a.toNat < 0x80 := hascii
  have hpos : 0 < a.toNat := Nat.pos_of_ne_zero fun hn => hzero (UInt8.toNat_inj.mp hn)
  have hnumber : a = UInt8.ofNat a.toNat := UInt8.ofNat_toNat.symm
  rw [hnumber]
  -- the first byte has to be a number for the patterns to be decided
  generalize a.toNat = n at hlt hpos
  rcases bs with _ | ⟨b, bs⟩
  · interval_cases n <;> rfl
  have hb : b ≠ 0 := (hrest b List.mem_cons_self).1
  rcases bs with _ | ⟨c, _ | ⟨d, bs⟩⟩
  · interval_cases n <;> exact if_neg hb
  · interval_cases n <;> rfl
  · interval_cases n <;> exact if_neg hb

theorem decode_encodeChars_of_inAscii {cs : List Char} (h : ∀ c ∈ cs, InAscii c) :
    decode (Utf8.encodeChars cs) = .ok (WideText.ofChars cs) := by
  have hbytes : ∀ b ∈ Utf8.encodeChars cs, b ≠ 0 ∧ b < 0x80 := by
    intro b hb
    obtain ⟨c, hc, hb⟩ := List.mem_flatMap.mp hb
    obtain ⟨hpos, hlt⟩ := h c hc
    have hbyte : Utf8.encodeChar c = [c.toNat.toUInt8] := if_pos hlt
    have hnumber : c.toNat.toUInt8.toNat = c.toNat := Utf8.toNat_byte (by omega)
    rw [hbyte, List.mem_singleton] at hb
    subst hb
    constructor
    · intro hzero
      rw [hzero] at hnumber
      exact hpos.ne hnumber
    · exact UInt8.lt_iff_toNat_lt.mpr (by rwa [hnumber])
  rw [decode_of_ascii hbytes, Utf8.decodeWide, Utf8.decodeWide?_encodeChars]

/-- A document printed in ASCII is read as what was printed, also with spaces behind it. -/
theorem readLenient_printAscii_append {style : Style} (hstyle : style.asciiOnly = true)
    {limit : Nat} {v : Json} (hv : v.Printable style (.lenient limit) limit) {gap : List Char}
    (hgap : Blank (WideText.ofChars gap)) (hascii : ∀ c ∈ gap, InAscii c) :
    readLenient limit (Utf8.encode (printAscii style v ++ String.ofList gap)) =
      (judged (refused? (.lenient limit) v) v.merged).mapError .json := by
  obtain ⟨cs, hcs, hchars⟩ := (ascii_printAt hstyle 0 v).exists_chars
  have hsame : { style with asciiOnly := true } = style := by
    cases style
    simp_all
  have hprint : print { style with asciiOnly := true } v = WideText.ofChars cs := by
    rw [hsame]
    exact hcs
  have hread := read_print_append (d := .lenient limit) hv hgap
  have hdecode : decode (Utf8.encodeChars (cs ++ gap)) = .ok (WideText.ofChars (cs ++ gap)) :=
    decode_encodeChars_of_inAscii (List.forall_mem_append.mpr ⟨hchars, hascii⟩)
  rw [print, hcs, ← ofChars_append] at hread
  unfold readLenient Utf8.encode
  rw [printAscii_eq hprint, String.toList_append, String.toList_ofList,
    String.toList_ofList, hdecode]
  dsimp only [Except.mapError, bind, Except.bind]
  rw [hread]
  cases refused? (.lenient limit) v <;> rfl

/-- A value without surrogates is printed and read again, unless an integer in it is refused. -/
theorem readLenient_printAscii {limit : Nat} {v : Json} (hv : v.Readable true limit) :
    readLenient limit (Utf8.encode (printAscii .ascii v)) =
      (judged (refused? (.lenient limit) v) v.merged).mapError .json := by
  have hreadable : v.Readable Style.ascii.asciiOnly limit := hv
  have hgap : Blank (WideText.ofChars []) := blank_nil
  have hread := readLenient_printAscii_append rfl (hreadable.printable (.lenient limit)) hgap
    (List.forall_mem_nil InAscii)
  rwa [String.ofList_nil, String.append_empty] at hread

end Json
end ClusterAgent
