import ClusterAgent.Proofs.Text.Utf8
import ClusterAgent.Proofs.Uri.Basic
import ClusterAgent.Uri.Quoting
import Mathlib.Data.List.Infix
import Mathlib.Data.List.SplitBy

/-! Percent escapes: a quoted text is read as the text, whatever follows it, and a text without
escapes is read as it stands. -/
namespace ClusterAgent

theorem Utf8.decodeReplacing_encodeChars_append (cs : List Char) (rest : List UInt8) :
    decodeReplacing (encodeChars cs ++ rest) = cs ++ decodeReplacing rest := by
  induction cs with
  | nil => rfl
  | cons c cs ih =>
    have hcons : encodeChars (c :: cs) ++ rest = encodeChar c ++ (encodeChars cs ++ rest) := by
      simp [encodeChars]
    have hhead := head_encodeChar false c (encodeChars cs ++ rest)
    rw [hcons]
    cases hb : encodeChar c ++ (encodeChars cs ++ rest) with
    | nil => exact absurd (List.append_eq_nil_iff.mp hb).1 (encodeChar_ne_nil c)
    | cons a r =>
      rw [hb] at hhead
      rw [decodeReplacing]
      split
      · next p more heq =>
        rw [hhead] at heq
        cases heq
        rw [ih]
        rfl
      · next heq =>
        rw [hhead] at heq
        cases heq
      · next heq =>
        rw [hhead] at heq
        cases heq

theorem Utf8.length_decodeReplacing_le (bs : List UInt8) :
    (decodeReplacing bs).length ≤ bs.length := by
  fun_induction decodeReplacing bs with
  | case1 => exact Nat.le_refl 0
  | case2 a r p rest hhead ih =>
    have hrest := head_rest_length false a r
    rw [hhead] at hrest
    exact Nat.succ_le_succ (ih.trans hrest)
  | case3 a r rest hhead ih =>
    have hrest := head_rest_length false a r
    rw [hhead] at hrest
    exact Nat.succ_le_succ (ih.trans hrest)
  | case4 a r hhead => exact Nat.zero_le _

namespace Uri

def isAscii (c : Char) : Bool := c.toNat < 0x80

/-- A percent sign with two hexadecimal digits behind it occurs. -/
def HoldsEscape (cs : List Char) : Prop :=
  ∃ a b, (hexValue? a).isSome ∧ (hexValue? b).isSome ∧ ['%', a, b] <:+: cs

theorem HoldsEscape.mono {cs ds : List Char} (h : HoldsEscape cs) (hwithin : cs <:+: ds) :
    HoldsEscape ds := by
  obtain ⟨a, b, ha, hb, hescape⟩ := h
  exact ⟨a, b, ha, hb, hescape.trans hwithin⟩

theorem HoldsEscape.percent_mem {cs : List Char} (h : HoldsEscape cs) : '%' ∈ cs := by
  obtain ⟨a, b, -, -, hwithin⟩ := h
  exact hwithin.subset List.mem_cons_self

/-- No escape reaches over a slash. -/
theorem HoldsEscape.of_append_slash {cs ds : List Char} (h : HoldsEscape (cs ++ '/' :: ds)) :
    HoldsEscape cs ∨ HoldsEscape ds := by
  obtain ⟨a, b, ha, hb, hwithin⟩ := h
  have hslash : '/' ∉ ['%', a, b] := by
    intro hmem
    simp only [List.mem_cons, List.not_mem_nil, or_false] at hmem
    rcases hmem with h | rfl | rfl
    · cases h
    · cases ha
    · cases hb
  rcases List.infix_append_iff.mp hwithin with hleft | hright | ⟨left, right, heq, hleft, hright⟩
  · exact Or.inl ⟨a, b, ha, hb, hleft⟩
  · rcases List.infix_cons_iff.mp hright with hprefix | hwithin
    · exact absurd (List.cons_prefix_cons.mp hprefix).1 (by decide)
    · exact Or.inr ⟨a, b, ha, hb, hwithin⟩
  · cases right with
    | nil =>
      rw [List.append_nil] at heq
      exact Or.inl ⟨a, b, ha, hb, heq ▸ hleft.isInfix⟩
    | cons c right =>
      obtain ⟨rfl, -⟩ := List.cons_prefix_cons.mp hright
      exact absurd (heq ▸ List.mem_append_right left List.mem_cons_self) hslash

/-! ### Bytes -/

theorem unquoteBytes_escape {a b : Char} {x y : Nat} (ha : hexValue? a = some x)
    (hb : hexValue? b = some y) (rest : List Char) :
    unquoteBytes ('%' :: a :: b :: rest) = (x * 16 + y).toUInt8 :: unquoteBytes rest := by
  rw [unquoteBytes, ha, hb]

theorem unquoteBytes_cons {c : Char} (hc : c ≠ '%') (rest : List Char) :
    unquoteBytes (c :: rest) = c.toNat.toUInt8 :: unquoteBytes rest := by
  rw [unquoteBytes]
  exact fun _ _ _ h => absurd h hc

theorem hexValue?_hexDigit : ∀ n < 16, hexValue? (Text.hexDigit n).toUpper = some n := by decide

theorem toNat_ofNat_byte (b : UInt8) : (Char.ofNat b.toNat).toNat = b.toNat := by
  have hvalid : b.toNat.isValidChar := Or.inl (Nat.lt_trans b.toNat_lt (by decide))
  unfold Char.ofNat
  rw [dif_pos hvalid]
  rfl

theorem unquoteBytes_quoteByte (b : UInt8) (rest : List Char) :
    unquoteBytes (quoteByte b ++ rest) = b :: unquoteBytes rest := by
  unfold quoteByte
  dsimp only
  split
  · next hplain =>
    have hpercent : Char.ofNat b.toNat ≠ '%' := by
      intro h
      rw [h] at hplain
      exact absurd hplain (by decide)
    have hbyte : (Char.ofNat b.toNat).toNat.toUInt8 = b := by
      rw [toNat_ofNat_byte]
      simp
    rw [List.singleton_append, unquoteBytes_cons hpercent, hbyte]
  · have hlow : b.toNat % 16 < 16 := Nat.mod_lt _ (by decide)
    have hhigh : b.toNat / 16 < 16 := by
      have := b.toNat_lt
      omega
    have hbyte : (b.toNat / 16 * 16 + b.toNat % 16).toUInt8 = b := by
      rw [Nat.div_add_mod']
      simp
    rw [escapeByte, List.cons_append, List.cons_append, List.cons_append, List.nil_append,
      unquoteBytes_escape (hexValue?_hexDigit _ hhigh) (hexValue?_hexDigit _ hlow), hbyte]

theorem unquoteBytes_quoteChars (cs rest : List Char) :
    unquoteBytes (quoteChars cs ++ rest) = Utf8.encodeChars cs ++ unquoteBytes rest := by
  unfold quoteChars
  induction Utf8.encodeChars cs with
  | nil => rfl
  | cons b bs ih =>
    rw [List.flatMap_cons, List.append_assoc, unquoteBytes_quoteByte, ih, List.cons_append]

theorem unquoteBytes_of_no_escape {cs : List Char} (hascii : ∀ c ∈ cs, isAscii c)
    (h : ¬ HoldsEscape cs) : unquoteBytes cs = Utf8.encodeChars cs := by
  have hcons {c : Char} (hc : isAscii c) (rest : List Char) :
      Utf8.encodeChars (c :: rest) = c.toNat.toUInt8 :: Utf8.encodeChars rest := by
    have hbyte : Utf8.encodeChar c = [c.toNat.toUInt8] := if_pos (of_decide_eq_true hc)
    simp [Utf8.encodeChars, hbyte]
  fun_induction unquoteBytes cs with
  | case1 => rfl
  | case2 a b rest x y hb ha ih =>
    refine absurd ⟨a, b, ?_, ?_, (List.prefix_append ['%', a, b] rest).isInfix⟩ h
    · rw [ha, Option.isSome_some]
    · rw [hb, Option.isSome_some]
  | case3 a b rest hescape ih =>
    rw [List.forall_mem_cons] at hascii
    rw [hcons hascii.1, ih hascii.2 (mt (·.mono (List.suffix_cons _ _).isInfix) h)]
    rfl
  | case4 c rest hescape ih =>
    rw [List.forall_mem_cons] at hascii
    rw [hcons hascii.1, ih hascii.2 (mt (·.mono (List.suffix_cons _ _).isInfix) h)]

/-! ### Texts -/

def sameKind (a b : Char) : Bool := isAscii a == isAscii b

/-- A run of characters that are all in ASCII or all outside it. -/
def unquoteRun (run : List Char) : List Char :=
  if run.any isAscii then Utf8.decodeReplacing (unquoteBytes run) else run

theorem unquoteChars_eq (cs : List Char) :
    unquoteChars cs = (cs.splitBy sameKind).flatMap unquoteRun :=
  rfl

theorem decodeReplacing_encodeChars (cs : List Char) :
    Utf8.decodeReplacing (Utf8.encodeChars cs) = cs := by
  have hdecode := Utf8.decodeReplacing_encodeChars_append cs []
  rwa [List.append_nil, Utf8.decodeReplacing, List.append_nil] at hdecode

/-- A run of ASCII is read by itself. -/
theorem unquoteChars_append {run rest : List Char} (hrun : ∀ c ∈ run, isAscii c)
    (hrest : ∀ c ∈ rest.head?, isAscii c = false) :
    unquoteChars (run ++ rest) = Utf8.decodeReplacing (unquoteBytes run) ++ unquoteChars rest := by
  cases run with
  | nil => rw [unquoteBytes, Utf8.decodeReplacing, List.nil_append, List.nil_append]
  | cons c run =>
    have hcut : ∀ a ∈ (c :: run).getLast?, ∀ b ∈ rest.head?, sameKind a b = false := by
      intro a ha b hb
      unfold sameKind
      rw [hrun a (List.mem_of_getLast? ha), hrest b hb]
      rfl
    have hchain : (c :: run).IsChain (sameKind · · = true) := by
      refine List.Pairwise.isChain (List.pairwise_of_forall_mem_list ?_)
      intro a ha b hb
      unfold sameKind
      rw [hrun a ha, hrun b hb]
      rfl
    have hany : (c :: run).any isAscii = true :=
      List.any_eq_true.mpr ⟨c, List.mem_cons_self, hrun c List.mem_cons_self⟩
    rw [unquoteChars_eq, unquoteChars_eq, List.splitBy_append hcut,
      List.splitBy_of_isChain (List.cons_ne_nil c run) hchain, List.flatMap_append,
      List.flatMap_singleton, unquoteRun, if_pos hany]

/-! ### Quoted texts -/

theorem survives_of_isPlain {c : Char} (h : isPlain c) : isAscii c ∧ Survives c := by
  have hne (d : Char) (hd : isPlain d = false) : c ≠ d := by
    rintro rfl
    rw [hd] at h
    cases h
  refine ⟨?_, ?_, ?_⟩
  · have halpha : c.isAlpha =
        (decide ('A' ≤ c ∧ c ≤ 'Z') || (decide ('a' ≤ c) && decide (c ≤ 'z'))) := rfl
    simp only [isPlain, halpha, Text.isAsciiDigit, Bool.or_eq_true, Bool.and_eq_true,
      decide_eq_true_eq, beq_iff_eq] at h
    have hle (d : Char) (hd : d.toNat < 0x80) (hcd : c ≤ d) : isAscii c :=
      decide_eq_true (Nat.lt_of_le_of_lt (UInt32.le_iff_toNat_le.mp hcd) hd)
    rcases h with ((((((⟨-, hz⟩ | ⟨-, hz⟩) | ⟨-, h9⟩) | rfl) | rfl) | rfl) | rfl) | rfl
    · exact hle 'Z' (by decide) hz
    · exact hle 'z' (by decide) hz
    · exact hle '9' (by decide) h9
    all_goals decide
  · simp [isKept, hne '\t' (by decide), hne '\n' (by decide), hne '\r' (by decide)]
  · simp [isPathChar, hne '#' (by decide), hne '?' (by decide)]

theorem survives_hexDigit : ∀ n < 16, (isAscii (Text.hexDigit n).toUpper ∧
    Survives (Text.hexDigit n).toUpper) ∧ (Text.hexDigit n).toUpper ≠ '/' := by decide

theorem of_mem_quoteByte {b : UInt8} {c : Char} (h : c ∈ quoteByte b) :
    (isAscii c ∧ Survives c) ∧ (c = '/' → b = 0x2F) := by
  unfold quoteByte at h
  dsimp only at h
  split at h
  · next hplain =>
    obtain rfl := List.mem_singleton.mp h
    refine ⟨survives_of_isPlain hplain, fun hslash => UInt8.toNat_inj.mp ?_⟩
    rw [← toNat_ofNat_byte, hslash]
    rfl
  · have hlow := survives_hexDigit (b.toNat % 16) (Nat.mod_lt _ (by decide))
    have hhigh := survives_hexDigit (b.toNat / 16) (by have := b.toNat_lt; omega)
    unfold escapeByte at h
    simp only [List.mem_cons, List.not_mem_nil, or_false] at h
    rcases h with rfl | rfl | rfl
    · exact ⟨by decide, nofun⟩
    · exact ⟨hhigh.1, fun hslash => absurd hslash hhigh.2⟩
    · exact ⟨hlow.1, fun hslash => absurd hslash hlow.2⟩

/-- A quoted text is in ASCII, and no URI loses a part of it. -/
theorem survives_of_mem_quoteChars {cs : List Char} {c : Char} (h : c ∈ quoteChars cs) :
    isAscii c ∧ Survives c := by
  obtain ⟨b, -, hc⟩ := List.mem_flatMap.mp h
  exact (of_mem_quoteByte hc).1

theorem quoteChars_append (cs ds : List Char) :
    quoteChars (cs ++ ds) = quoteChars cs ++ quoteChars ds := by
  unfold quoteChars Utf8.encodeChars
  rw [List.flatMap_append, List.flatMap_append]

theorem length_quoteByte_pos (b : UInt8) : 0 < (quoteByte b).length := by
  unfold quoteByte escapeByte
  dsimp only
  split <;> simp

theorem length_le_quoteChars (cs : List Char) : cs.length ≤ (quoteChars cs).length := by
  have hbytes (bs : List UInt8) : bs.length ≤ (bs.flatMap quoteByte).length := by
    induction bs with
    | nil => exact Nat.le_refl 0
    | cons b bs ih =>
      have hb := length_quoteByte_pos b
      rw [List.flatMap_cons, List.length_append, List.length_cons]
      omega
  exact (Utf8.length_le_encodeChars cs).trans (hbytes _)

theorem quoteChars_ne_nil {cs : List Char} (h : cs ≠ []) : quoteChars cs ≠ [] := by
  have hlength := length_le_quoteChars cs
  have hpos := List.length_pos_iff.mpr h
  exact List.length_pos_iff.mp (by omega)

theorem eq_slash_of_mem_encodeChar {c : Char} (h : 0x2F ∈ Utf8.encodeChar c) : c = '/' := by
  have hvalid := Utf8.char_valid c
  have hbyte {n : Nat} (hn : n < 0x100) (hslash : 0x2F = n.toUInt8) : n = 0x2F := by
    rw [← Utf8.toNat_byte hn, ← hslash]
    rfl
  unfold Utf8.encodeChar Utf8.encodeNat at h
  split_ifs at h with h1 h2 h3
  · have hpoint := hbyte (by omega) (List.mem_singleton.mp h)
    rw [← Char.ofNat_toNat c, hpoint]
  all_goals simp only [List.mem_cons, List.not_mem_nil, or_false] at h
  · rcases h with h | h <;> have := hbyte (by omega) h <;> omega
  · rcases h with h | h | h <;> have := hbyte (by omega) h <;> omega
  · rcases h with h | h | h | h <;> have := hbyte (by omega) h <;> omega

theorem slash_not_mem_quoteChars {cs : List Char} (h : '/' ∉ cs) : '/' ∉ quoteChars cs := by
  intro hslash
  obtain ⟨b, hb, hc⟩ := List.mem_flatMap.mp hslash
  obtain ⟨c, hc', hbyte⟩ := List.mem_flatMap.mp hb
  rw [(of_mem_quoteByte hc).2 rfl] at hbyte
  exact h (eq_slash_of_mem_encodeChar hbyte ▸ hc')

theorem quoteChars_singleton {c : Char} (h : isPlain c) : quoteChars [c] = [c] := by
  have hascii : c.toNat < 0x80 := of_decide_eq_true (survives_of_isPlain h).1
  have hbyte : c.toNat.toUInt8.toNat = c.toNat := Utf8.toNat_byte (by omega)
  have hencode : Utf8.encodeChars [c] = [c.toNat.toUInt8] := by
    rw [Utf8.encodeChars, List.flatMap_singleton]
    exact if_pos hascii
  unfold quoteChars quoteByte
  rw [hencode, List.flatMap_singleton]
  dsimp only
  rw [hbyte, Char.ofNat_toNat, if_pos h]

theorem isPlain_hexDigit : ∀ n < 16, isPlain (Text.hexDigit n).toUpper := by decide

/-- All that a quoted text has besides plain characters is percent signs. -/
theorem isPlain_of_mem_quoteByte {b : UInt8} {c : Char} (h : c ∈ quoteByte b) :
    isPlain c ∨ c = '%' := by
  unfold quoteByte at h
  dsimp only at h
  split at h
  · next hplain =>
    obtain rfl := List.mem_singleton.mp h
    exact Or.inl hplain
  · unfold escapeByte at h
    simp only [List.mem_cons, List.not_mem_nil, or_false] at h
    rcases h with rfl | rfl | rfl
    · exact Or.inr rfl
    · exact Or.inl (isPlain_hexDigit (b.toNat / 16) (by have := b.toNat_lt; omega))
    · exact Or.inl (isPlain_hexDigit (b.toNat % 16) (Nat.mod_lt _ (by decide)))

/-- Quoting leaves a text as it is if nothing in it has to be escaped, and only then. -/
theorem quoteChars_eq_self_iff {cs : List Char} : quoteChars cs = cs ↔ ∀ c ∈ cs, isPlain c := by
  induction cs with
  | nil => simp [quoteChars, Utf8.encodeChars]
  | cons c cs ih =>
    rw [List.forall_mem_cons, ← ih, ← List.singleton_append, quoteChars_append]
    constructor
    · intro h
      have hlength := congrArg List.length h
      have hfirst := length_le_quoteChars [c]
      have hrest := length_le_quoteChars cs
      rw [List.length_append, List.length_append] at hlength
      obtain ⟨hc, hcs⟩ := List.append_inj h (by omega)
      have hmem : c ∈ quoteChars [c] := hc.symm ▸ List.mem_singleton_self c
      obtain ⟨b, -, hb⟩ := List.mem_flatMap.mp hmem
      refine ⟨(isPlain_of_mem_quoteByte hb).resolve_right ?_, hcs⟩
      rintro rfl
      exact absurd hc (by decide)
    · rintro ⟨hc, hcs⟩
      rw [quoteChars_singleton hc, hcs]

theorem quote_eq_self_iff {s : String} : quote s = s ↔ ∀ c ∈ s.toList, isPlain c := by
  rw [← quoteChars_eq_self_iff, ← String.toList_inj, quote, String.toList_ofList]

/-! ### Reading -/

/-- A quoted text is read as the text. What follows it is read by itself. -/
theorem unquoteChars_quoteChars_append (cs rest : List Char) :
    unquoteChars (quoteChars cs ++ rest) = cs ++ unquoteChars rest := by
  obtain ⟨run, more, rfl, hrun, hmore⟩ : ∃ run more, rest = run ++ more ∧
      (∀ c ∈ run, isAscii c) ∧ ∀ c ∈ more.head?, isAscii c = false := by
    refine ⟨rest.takeWhile isAscii, rest.dropWhile isAscii, List.takeWhile_append_dropWhile.symm,
      fun c hc => List.mem_takeWhile_imp hc, ?_⟩
    intro c hc
    have hhead := List.head?_dropWhile_not isAscii rest
    rw [hc] at hhead
    simpa using hhead
  have hquoted : ∀ c ∈ quoteChars cs ++ run, isAscii c := by
    intro c hc
    rcases List.mem_append.mp hc with hc | hc
    · exact (survives_of_mem_quoteChars hc).1
    · exact hrun c hc
  rw [← List.append_assoc, unquoteChars_append hquoted hmore, unquoteChars_append hrun hmore,
    unquoteBytes_quoteChars, Utf8.decodeReplacing_encodeChars_append, List.append_assoc]

/-- The characters of a run are all in ASCII or all outside it. -/
theorem isAscii_eq_of_isChain {run : List Char} (hrun : run.IsChain (sameKind · · = true))
    {c d : Char} (hc : c ∈ run) (hd : d ∈ run) : isAscii c = isAscii d := by
  have hkind : ∀ a b, sameKind a b = true ↔ isAscii a = isAscii b := fun a b => beq_iff_eq
  have htrans : Trans (sameKind · · = true) (sameKind · · = true) (sameKind · · = true) :=
    ⟨fun {a b c} hab hbc => (hkind a c).mpr (((hkind a b).mp hab).trans ((hkind b c).mp hbc))⟩
  have hsymm : Std.Symm (sameKind · · = true) :=
    ⟨fun a b h => (hkind b a).mpr ((hkind a b).mp h).symm⟩
  have hpairs := (List.isChain_iff_pairwise.mp hrun).forall_of_forall fun a _ => (hkind a a).mpr rfl
  exact (hkind c d).mp (hpairs hc hd)

theorem unquoteRun_of_no_escape {run : List Char} (hrun : run.IsChain (sameKind · · = true))
    (h : ¬ HoldsEscape run) : unquoteRun run = run := by
  unfold unquoteRun
  split
  · next hany =>
    obtain ⟨c, hc, hascii⟩ := List.any_eq_true.mp hany
    have hall : ∀ d ∈ run, isAscii d := fun d hd => isAscii_eq_of_isChain hrun hd hc ▸ hascii
    rw [unquoteBytes_of_no_escape hall h, decodeReplacing_encodeChars]
  · rfl

theorem unquoteChars_of_no_escape {cs : List Char} (h : ¬ HoldsEscape cs) :
    unquoteChars cs = cs := by
  have hruns : ∀ run ∈ cs.splitBy sameKind, unquoteRun run = run := by
    intro run hrun
    refine unquoteRun_of_no_escape (List.isChain_of_mem_splitBy hrun) (mt (·.mono ?_) h)
    rw [← List.flatten_splitBy sameKind cs]
    exact List.infix_of_mem_flatten hrun
  rw [unquoteChars_eq, List.flatMap_def, List.map_congr_left hruns, List.map_id',
    List.flatten_splitBy]

/-! ### Lengths -/

theorem length_unquoteBytes_le (cs : List Char) : (unquoteBytes cs).length ≤ cs.length := by
  fun_induction unquoteBytes cs with
  | case1 => exact Nat.le_refl 0
  | case2 a b rest x y hb ha ih =>
    simp only [List.length_cons]
    omega
  | case3 a b rest hescape ih => exact Nat.succ_le_succ ih
  | case4 c rest hescape ih => exact Nat.succ_le_succ ih

theorem length_unquoteBytes_lt {cs : List Char} (h : HoldsEscape cs) :
    (unquoteBytes cs).length < cs.length := by
  fun_induction unquoteBytes cs with
  | case1 => exact absurd h.percent_mem List.not_mem_nil
  | case2 a b rest x y hb ha ih =>
    have hle := length_unquoteBytes_le rest
    simp only [List.length_cons]
    omega
  | case3 a b rest hescape ih =>
    refine Nat.succ_lt_succ (ih ?_)
    obtain ⟨a', b', ha, hb, hwithin⟩ := h
    rcases List.infix_cons_iff.mp hwithin with hprefix | hwithin
    · obtain ⟨-, hdigits⟩ := List.cons_prefix_cons.mp hprefix
      obtain ⟨hhigh, hlow⟩ := List.cons_prefix_cons.mp hdigits
      obtain ⟨x, hx⟩ := Option.isSome_iff_exists.mp ha
      obtain ⟨y, hy⟩ := Option.isSome_iff_exists.mp hb
      exact absurd ((List.cons_prefix_cons.mp hlow).1 ▸ hy) (hescape x y (hhigh ▸ hx))
    · exact ⟨a', b', ha, hb, hwithin⟩
  | case4 c rest hescape ih =>
    refine Nat.succ_lt_succ (ih ?_)
    obtain ⟨a', b', ha, hb, hwithin⟩ := h
    rcases List.infix_cons_iff.mp hwithin with hprefix | hwithin
    · obtain ⟨rfl, more, rfl⟩ := List.cons_prefix_cons.mp hprefix
      exact absurd rfl (hescape a' b' more rfl)
    · exact ⟨a', b', ha, hb, hwithin⟩

theorem isAscii_of_hexValue? {c : Char} (h : (hexValue? c).isSome) : isAscii c := by
  have hle (d : Char) (hd : d.toNat < 0x80) (hcd : c ≤ d) : isAscii c :=
    decide_eq_true (Nat.lt_of_le_of_lt (UInt32.le_iff_toNat_le.mp hcd) hd)
  unfold hexValue? at h
  simp only [Bool.and_eq_true, decide_eq_true_eq] at h
  split at h
  · next hdigit => exact hle '9' (by decide) hdigit.2
  · split at h
    · next hlower => exact hle 'f' (by decide) hlower.2
    · split at h
      · next hupper => exact hle 'F' (by decide) hupper.2
      · cases h

/-- No escape reaches from one run into the next. -/
theorem HoldsEscape.exists_run {runs : List (List Char)} (h : HoldsEscape runs.flatten)
    (hne : [] ∉ runs) (hcut : runs.IsChain fun run next =>
      ∃ ha hb, sameKind (run.getLast ha) (next.head hb) = false) :
    ∃ run ∈ runs, HoldsEscape run := by
  induction runs with
  | nil => exact absurd h.percent_mem List.not_mem_nil
  | cons run runs ih =>
    have hrest (h : HoldsEscape runs.flatten) : ∃ r ∈ run :: runs, HoldsEscape r := by
      obtain ⟨r, hr, hescape⟩ := ih h (mt (List.mem_cons_of_mem run) hne) hcut.tail
      exact ⟨r, List.mem_cons_of_mem run hr, hescape⟩
    obtain ⟨a, b, ha, hb, hwithin⟩ := h
    have hascii : ∀ c ∈ ['%', a, b], isAscii c := by
      simp [isAscii_of_hexValue? ha, isAscii_of_hexValue? hb, show isAscii '%' from by decide]
    rw [List.flatten_cons] at hwithin
    rcases List.infix_append_iff.mp hwithin with hleft | hright | ⟨left, right, heq, hleft, hright⟩
    · exact ⟨run, List.mem_cons_self, a, b, ha, hb, hleft⟩
    · exact hrest ⟨a, b, ha, hb, hright⟩
    · by_cases hnil : left = []
      · rw [hnil, List.nil_append] at heq
        exact hrest ⟨a, b, ha, hb, heq ▸ hright.isInfix⟩
      cases right with
      | nil =>
        rw [List.append_nil] at heq
        exact ⟨run, List.mem_cons_self, a, b, ha, hb, heq ▸ hleft.isInfix⟩
      | cons c right =>
        -- the runs on both sides of the cut would be of one kind
        cases runs with
        | nil => exact absurd (List.prefix_nil.mp hright) (List.cons_ne_nil c right)
        | cons next runs =>
          obtain ⟨hx, hy, hkind⟩ := (List.isChain_cons_cons.mp hcut).1
          obtain ⟨d, next, rfl⟩ := List.exists_cons_of_ne_nil hy
          obtain ⟨rfl, -⟩ := List.cons_prefix_cons.mp hright
          have hlast : isAscii (run.getLast hx) := by
            rw [← hleft.getLast hnil]
            exact hascii _ (heq ▸ List.mem_append_left _ (List.getLast_mem hnil))
          have hhead : isAscii c := hascii c (heq ▸ List.mem_append_right left List.mem_cons_self)
          unfold sameKind at hkind
          rw [List.head_cons, hlast, hhead] at hkind
          cases hkind

theorem length_unquoteRun_le (run : List Char) : (unquoteRun run).length ≤ run.length := by
  unfold unquoteRun
  split
  · exact (Utf8.length_decodeReplacing_le _).trans (length_unquoteBytes_le run)
  · exact Nat.le_refl _

theorem length_unquoteRun_lt {run : List Char} (h : HoldsEscape run) :
    (unquoteRun run).length < run.length := by
  have hany : run.any isAscii = true :=
    List.any_eq_true.mpr ⟨'%', h.percent_mem, by decide⟩
  unfold unquoteRun
  rw [if_pos hany]
  exact (Utf8.length_decodeReplacing_le _).trans_lt (length_unquoteBytes_lt h)

theorem length_flatMap_unquoteRun_le (runs : List (List Char)) :
    (runs.flatMap unquoteRun).length ≤ runs.flatten.length := by
  induction runs with
  | nil => exact Nat.le_refl 0
  | cons run runs ih =>
    rw [List.flatMap_cons, List.flatten_cons, List.length_append, List.length_append]
    exact Nat.add_le_add (length_unquoteRun_le run) ih

theorem length_unquoteChars_le (cs : List Char) : (unquoteChars cs).length ≤ cs.length := by
  have hle := length_flatMap_unquoteRun_le (cs.splitBy sameKind)
  rwa [List.flatten_splitBy] at hle

/-- An escape makes a text shorter. -/
theorem length_unquoteChars_lt {cs : List Char} (h : HoldsEscape cs) :
    (unquoteChars cs).length < cs.length := by
  have hflatten := List.flatten_splitBy sameKind cs
  obtain ⟨run, hrun, hescape⟩ := HoldsEscape.exists_run (hflatten.symm ▸ h)
    (List.nil_notMem_splitBy sameKind cs) (List.isChain_getLast_head_splitBy sameKind cs)
  obtain ⟨before, after, hsplit⟩ := List.append_of_mem hrun
  have hlt := length_unquoteRun_lt hescape
  have hbefore := length_flatMap_unquoteRun_le before
  have hafter := length_flatMap_unquoteRun_le after
  rw [hsplit, List.flatten_append, List.flatten_cons] at hflatten
  rw [unquoteChars_eq, hsplit, ← hflatten]
  simp only [List.flatMap_append, List.flatMap_cons, List.length_append]
  omega

end Uri
end ClusterAgent
