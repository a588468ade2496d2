import ClusterAgent.Proofs.Storage.LocalPath

/-! Addresses of colon-separated groups: every way to write one is taken for an address. -/
namespace ClusterAgent.Uri

/-- Groups and how many they are; a dotted quad stands for the last two. -/
inductive Groups : List (List Char) → Nat → Prop
  | plain {parts : List (List Char)} (h : ∀ part ∈ parts, isGroup part) : Groups parts parts.length
  | quad {parts : List (List Char)} {last : List Char} (h : ∀ part ∈ parts, isGroup part)
    (hlast : isQuad last) : Groups (parts ++ [last]) (parts.length + 2)

/-- Eight groups between colons, where two colons next to each other stand for one or more groups
that are left out. -/
inductive IsAddress : List Char → Prop
  | full {parts : List (List Char)} (h : Groups parts 8) : IsAddress ([':'].intercalate parts)
  | gap {before after : List (List Char)} {n : Nat} (hbefore : ∀ part ∈ before, isGroup part)
    (hafter : Groups after n) (hcount : before.length + n ≤ 7) :
    IsAddress ([':'].intercalate before ++ ':' :: ':' :: [':'].intercalate after)

/-! ### Parts -/

theorem isGroup_iff {part : List Char} :
    isGroup part ↔ part ≠ [] ∧ part.length ≤ 4 ∧ ∀ c ∈ part, isHexDigit c := by
  simp [isGroup, and_assoc]

theorem ne_nil_of_isGroup {part : List Char} (h : isGroup part) : part ≠ [] :=
  (isGroup_iff.mp h).1

theorem not_mem_of_isGroup {part : List Char} (h : isGroup part) {c : Char}
    (hc : isHexDigit c = false) : c ∉ part := by
  intro hmem
  rw [(isGroup_iff.mp h).2.2 c hmem] at hc
  cases hc

theorem isAsciiDigit_of_isOctet {part : List Char} (h : isOctet part) :
    ∀ c ∈ part, Text.isAsciiDigit c := by
  simp only [isOctet, Bool.and_eq_true, List.all_eq_true] at h
  exact h.1.1.1.2

/-- What does not separate the parts stands in one of them. -/
theorem eq_or_mem_splitAll (c : Char) {cs : List Char} {d : Char} (h : d ∈ cs) :
    d = c ∨ ∃ part ∈ splitAll c cs, d ∈ part := by
  have hmem : d ∈ (splitAll c cs).flatMap (c :: ·) := by
    rw [flatMap_splitAll]
    exact List.mem_cons_of_mem _ h
  obtain ⟨part, hpart, hmem⟩ := List.mem_flatMap.mp hmem
  rcases List.mem_cons.mp hmem with hd | hmem
  · exact Or.inl hd
  · exact Or.inr ⟨part, hpart, hmem⟩

/-- A quad has nothing but digits and dots. -/
theorem isAsciiDigit_or_of_isQuad {cs : List Char} (h : isQuad cs) :
    ∀ c ∈ cs, Text.isAsciiDigit c ∨ c = '.' := by
  intro c hc
  simp only [isQuad, Bool.and_eq_true, List.all_eq_true] at h
  rcases eq_or_mem_splitAll '.' hc with hdot | ⟨part, hpart, hmem⟩
  · exact Or.inr hdot
  · exact Or.inl (isAsciiDigit_of_isOctet (h.2 part hpart) c hmem)

theorem colon_not_mem_of_isQuad {cs : List Char} (h : isQuad cs) : ':' ∉ cs := by
  intro hmem
  rcases isAsciiDigit_or_of_isQuad h ':' hmem with hdigit | hdot
  · exact absurd hdigit (by decide)
  · exact absurd hdot (by decide)

/-- A quad of one part is none. -/
theorem dot_mem_of_isQuad {cs : List Char} (h : isQuad cs) : '.' ∈ cs := by
  by_contra hdot
  rw [isQuad, splitAll_of_not_mem hdot] at h
  simp at h

theorem Groups.colon_not_mem {parts : List (List Char)} {n : Nat} (h : Groups parts n) :
    ∀ part ∈ parts, ':' ∉ part := by
  cases h with
  | plain h => exact fun part hpart => not_mem_of_isGroup (h part hpart) (by decide)
  | quad h hlast =>
    intro part hpart
    rcases List.mem_append.mp hpart with hpart | hpart
    · exact not_mem_of_isGroup (h part hpart) (by decide)
    · rw [List.mem_singleton.mp hpart]
      exact colon_not_mem_of_isQuad hlast

/-- The characters of addresses. -/
def isAddressChar (c : Char) : Bool := isHexDigit c || c == ':' || c == '.'

theorem Groups.isAddressChar {parts : List (List Char)} {n : Nat} (h : Groups parts n) :
    ∀ part ∈ parts, ∀ c ∈ part, isAddressChar c := by
  have hgroup {part : List Char} (h : isGroup part) : ∀ c ∈ part, Uri.isAddressChar c := by
    intro c hc
    simp [Uri.isAddressChar, (isGroup_iff.mp h).2.2 c hc]
  cases h with
  | plain h => exact fun part hpart => hgroup (h part hpart)
  | quad h hlast =>
    intro part hpart
    rcases List.mem_append.mp hpart with hpart | hpart
    · exact hgroup (h part hpart)
    · rw [List.mem_singleton.mp hpart]
      intro c hc
      rcases isAsciiDigit_or_of_isQuad hlast c hc with hdigit | rfl
      · simp [Uri.isAddressChar, isHexDigit, hdigit]
      · decide

theorem Groups.length_add_one_ge {parts : List (List Char)} {n : Nat} (h : Groups parts n) :
    n ≤ parts.length + 1 := by
  cases h with
  | plain h => exact Nat.le_succ _
  | quad h hlast => simp

/-! ### Splitting at colons -/

/-- What a joined list of parts is split into: no parts leave an empty one. -/
def rejoined (parts : List (List Char)) : List (List Char) := if parts = [] then [[]] else parts

theorem rejoined_ne_nil (parts : List (List Char)) : rejoined parts ≠ [] := by
  unfold rejoined
  split
  · exact List.cons_ne_nil _ _
  · assumption

theorem splitAll_intercalate {c : Char} {parts : List (List Char)} (h : ∀ part ∈ parts, c ∉ part) :
    splitAll c ([c].intercalate parts) = rejoined parts := by
  induction parts with
  | nil => rfl
  | cons part parts ih =>
    rw [List.forall_mem_cons] at h
    cases parts with
    | nil =>
      rw [List.intercalate_singleton]
      exact splitAll_of_not_mem h.1
    | cons next rest =>
      rw [List.intercalate_cons_cons, List.append_assoc, List.singleton_append, splitAll_append,
        splitAll_of_not_mem h.1, ih h.2]
      rfl

theorem IsAddress.colon_mem {cs : List Char} (h : IsAddress cs) : ':' ∈ cs := by
  cases h with
  | @full parts h =>
    by_contra hcolon
    have hsplit := splitAll_intercalate h.colon_not_mem
    have hcount := h.length_add_one_ge
    rw [splitAll_of_not_mem hcolon, rejoined,
      if_neg (List.ne_nil_of_length_pos (by omega))] at hsplit
    rw [← hsplit] at hcount
    simp at hcount
  | gap => simp

theorem isAddressChar_of_mem_intercalate {parts : List (List Char)}
    (hcolon : ∀ part ∈ parts, ':' ∉ part) (h : ∀ part ∈ parts, ∀ c ∈ part, isAddressChar c) :
    ∀ c ∈ [':'].intercalate parts, isAddressChar c := by
  intro c hc
  rcases eq_or_mem_splitAll ':' hc with rfl | ⟨part, hpart, hmem⟩
  · decide
  · rw [splitAll_intercalate hcolon, rejoined] at hpart
    split at hpart
    · rw [List.mem_singleton.mp hpart] at hmem
      cases hmem
    · exact h part hpart c hmem

theorem IsAddress.isAddressChar {cs : List Char} (h : IsAddress cs) :
    ∀ c ∈ cs, isAddressChar c := by
  cases h with
  | full h => exact isAddressChar_of_mem_intercalate h.colon_not_mem h.isAddressChar
  | @gap before after n hbefore hafter hcount =>
    have hplain := Groups.plain hbefore
    intro c hc
    simp only [List.mem_append, List.mem_cons] at hc
    rcases hc with hc | rfl | rfl | hc
    · exact isAddressChar_of_mem_intercalate hplain.colon_not_mem hplain.isAddressChar c hc
    · decide
    · decide
    · exact isAddressChar_of_mem_intercalate hafter.colon_not_mem hafter.isAddressChar c hc

/-! ### The check -/

/-- The parts with a quad at the end as two groups. -/
def widened (parts : List (List Char)) : List (List Char) :=
  if (parts.getLast?.getD []).contains '.' then parts.dropLast ++ [['0'], ['0']] else parts

/-- Whether the parts, none of which is a quad, are the groups of an address. -/
def groupsFit (parts : List (List Char)) : Bool :=
  match gaps parts with
  | [] => parts.length == 8 && parts.all isGroup
  | [i] =>
    let before := parts.take i
    let after := parts.drop (i + 1)
    let before := if before == [[]] then [] else before
    let after := if after == [[]] then [] else after
    before.all isGroup && after.all isGroup && before.length + after.length < 8
  | _ => false

/-- The end of the parts is no broken quad. -/
def EndsWell (parts : List (List Char)) : Prop :=
  '.' ∈ parts.getLast?.getD [] → isQuad (parts.getLast?.getD [])

theorem isGroups_of {cs : List Char} {parts : List (List Char)} (hsplit : splitAll ':' cs = parts)
    (hmin : 3 ≤ parts.length) (hend : EndsWell parts) (hmax : (widened parts).length ≤ 9)
    (hfit : groupsFit (widened parts)) : isGroups cs := by
  have hquad :
      ((parts.getLast?.getD []).contains '.' && !isQuad (parts.getLast?.getD [])) = false := by
    by_cases hdot : '.' ∈ parts.getLast?.getD []
    · simp [hend hdot]
    · simp [hdot]
  unfold isGroups
  rw [hsplit]
  dsimp only
  rw [hquad, decide_eq_false (by omega : ¬ parts.length < 3), Bool.or_self, Bool.false_or,
    if_neg (by simpa [widened] using hmax)]
  exact hfit

theorem groupsFit_full {parts : List (List Char)} (h : ∀ part ∈ parts, isGroup part)
    (hcount : parts.length = 8) : groupsFit parts := by
  have hgaps : gaps parts = [] := by
    unfold gaps
    rw [List.filter_eq_nil_iff]
    intro i hi
    have hpart := ne_nil_of_isGroup (h _ (List.getElem_mem (List.mem_range.mp hi)))
    simp [List.getElem?_eq_getElem (List.mem_range.mp hi), hpart]
  unfold groupsFit
  rw [hgaps]
  simpa [hcount] using h

theorem mem_gaps {parts : List (List Char)} {i : Nat} :
    i ∈ gaps parts ↔ 0 < i ∧ i + 1 < parts.length ∧ parts[i]? = some [] := by
  unfold gaps
  rw [List.mem_filter, List.mem_range]
  cases hpart : parts[i]? with
  | none => simp
  | some part =>
    simp only [Option.any_some, Bool.and_eq_true, decide_eq_true_eq, List.isEmpty_iff,
      Option.some.injEq, and_assoc]
    exact and_iff_right_of_imp fun h => by omega

theorem gaps_eq_singleton {parts : List (List Char)} {i : Nat}
    (h : ∀ j, j ∈ gaps parts ↔ j = i) : gaps parts = [i] := by
  have hnodup : (gaps parts).Nodup := List.nodup_range.filter _
  refine List.perm_singleton.mp ?_
  rw [List.perm_ext_iff_of_nodup hnodup (List.pairwise_singleton _ i)]
  simpa using h

theorem getElem?_rejoined {parts : List (List Char)} (h : ∀ part ∈ parts, isGroup part) {i : Nat}
    (hi : (rejoined parts)[i]? = some []) : i = 0 ∧ (rejoined parts).length = 1 := by
  unfold rejoined at hi ⊢
  split
  · next hnil =>
    rw [if_pos hnil] at hi
    obtain ⟨hlt, -⟩ := List.getElem?_eq_some_iff.mp hi
    simpa using hlt
  · next hnil =>
    rw [if_neg hnil] at hi
    exact absurd rfl (ne_nil_of_isGroup (h [] (List.mem_of_getElem? hi)))

/-- The only empty part inside is the one that stands for the groups left out. -/
theorem gaps_append {before after : List (List Char)} (hbefore : ∀ part ∈ before, isGroup part)
    (hafter : ∀ part ∈ after, isGroup part) :
    gaps (rejoined before ++ [] :: rejoined after) = [(rejoined before).length] := by
  have hfront := List.length_pos_iff.mpr (rejoined_ne_nil before)
  have hback := List.length_pos_iff.mpr (rejoined_ne_nil after)
  refine gaps_eq_singleton fun j => ?_
  rw [mem_gaps, List.length_append, List.length_cons]
  constructor
  · rintro ⟨hpos, hlast, hpart⟩
    rcases Nat.lt_trichotomy j (rejoined before).length with hj | hj | hj
    · rw [List.getElem?_append_left hj] at hpart
      obtain ⟨rfl, -⟩ := getElem?_rejoined hbefore hpart
      omega
    · exact hj
    · obtain ⟨k, rfl⟩ : ∃ k, j = (rejoined before).length + (k + 1) :=
        ⟨j - (rejoined before).length - 1, by omega⟩
      rw [List.getElem?_append_right (by omega), Nat.add_sub_cancel_left,
        List.getElem?_cons_succ] at hpart
      obtain ⟨rfl, hone⟩ := getElem?_rejoined hafter hpart
      omega
  · rintro rfl
    refine ⟨hfront, by omega, ?_⟩
    rw [List.getElem?_append_right le_rfl, Nat.sub_self, List.getElem?_cons_zero]

theorem eq_of_rejoined {parts : List (List Char)} (h : ∀ part ∈ parts, isGroup part) :
    (if rejoined parts == [[]] then [] else rejoined parts) = parts := by
  unfold rejoined
  split
  · next hnil => simp [hnil]
  · have hne : parts ≠ [[]] := by
      rintro rfl
      exact absurd rfl (ne_nil_of_isGroup (h [] (by simp)))
    simp [hne]

theorem groupsFit_gap {before after : List (List Char)} (hbefore : ∀ part ∈ before, isGroup part)
    (hafter : ∀ part ∈ after, isGroup part) (hcount : before.length + after.length ≤ 7) :
    groupsFit (rejoined before ++ [] :: rejoined after) := by
  unfold groupsFit
  rw [gaps_append hbefore hafter]
  dsimp only
  rw [List.take_left, List.drop_append, List.drop_of_length_le (by omega), List.nil_append,
    Nat.add_sub_cancel_left, List.drop_one, List.tail_cons, eq_of_rejoined hbefore,
    eq_of_rejoined hafter]
  simp only [Bool.and_eq_true, List.all_eq_true, decide_eq_true_eq]
  exact ⟨⟨hbefore, hafter⟩, by omega⟩

/-! ### Quads at the end -/

/-- Behind any parts, groups end well and are widened to as many groups as they are. -/
theorem Groups.exists_widened {after : List (List Char)} {n : Nat} (h : Groups after n) :
    ∃ whole : List (List Char), whole.length = n ∧ (∀ part ∈ whole, isGroup part) ∧
      ∀ front, EndsWell (front ++ rejoined after) ∧
        widened (front ++ rejoined after) = front ++ rejoined whole := by
  cases h with
  | plain h =>
    refine ⟨after, rfl, h, fun front => ?_⟩
    have hdot : '.' ∉ (front ++ rejoined after).getLast?.getD [] := by
      rw [List.getLast?_append_of_ne_nil front (rejoined_ne_nil after)]
      unfold rejoined
      split
      · simp
      · next hnil =>
        rw [List.getLast?_eq_getLast_of_ne_nil hnil]
        exact not_mem_of_isGroup (h _ (List.getLast_mem hnil)) (by decide)
    refine ⟨fun hmem => absurd hmem hdot, ?_⟩
    unfold widened
    rw [if_neg (by simpa using hdot)]
  | @quad parts last h hlast =>
    refine ⟨parts ++ [['0'], ['0']], by simp, ?_, fun front => ?_⟩
    · intro part hpart
      rcases List.mem_append.mp hpart with hpart | hpart
      · exact h part hpart
      · obtain rfl : part = ['0'] := by simpa using hpart
        decide
    · have hback : front ++ rejoined (parts ++ [last]) = (front ++ parts) ++ [last] := by
        simp [rejoined]
      have hend : (front ++ rejoined (parts ++ [last])).getLast?.getD [] = last := by
        rw [hback, List.getLast?_concat, Option.getD_some]
      refine ⟨fun _ => by rwa [hend], ?_⟩
      unfold widened
      rw [hend, if_pos (by simpa using dot_mem_of_isQuad hlast), hback, List.dropLast_concat]
      simp [rejoined]

theorem isGroups_of_isAddress {cs : List Char} (h : IsAddress cs) : isGroups cs := by
  cases h with
  | @full parts h =>
    have hsplit := splitAll_intercalate h.colon_not_mem
    obtain ⟨whole, hlength, hwhole, hends⟩ := h.exists_widened
    obtain ⟨hend, hwidened⟩ := hends []
    rw [List.nil_append] at hend
    rw [List.nil_append, List.nil_append] at hwidened
    have hjoined : rejoined whole = whole := if_neg (List.ne_nil_of_length_pos (by omega))
    rw [hjoined] at hwidened
    have hmin : 3 ≤ (rejoined parts).length := by
      have hcount := h.length_add_one_ge
      rw [rejoined, if_neg (List.ne_nil_of_length_pos (by omega))]
      omega
    exact isGroups_of hsplit hmin hend (by rw [hwidened]; omega)
      (hwidened ▸ groupsFit_full hwhole hlength)
  | @gap before after n hbefore hafter hcount =>
    have hsplit : splitAll ':' ([':'].intercalate before ++ ':' :: ':' :: [':'].intercalate after) =
        rejoined before ++ [] :: rejoined after := by
      have hcolon : ∀ part ∈ before, ':' ∉ part :=
        fun part hpart => not_mem_of_isGroup (hbefore part hpart) (by decide)
      rw [splitAll_append, splitAll_intercalate hcolon, splitAll, if_pos rfl,
        splitAll_intercalate hafter.colon_not_mem]
    obtain ⟨whole, rfl, hwhole, hends⟩ := hafter.exists_widened
    obtain ⟨hend, hwidened⟩ := hends (rejoined before ++ [[]])
    rw [List.append_assoc, List.singleton_append] at hend
    rw [List.append_assoc, List.append_assoc,
      List.singleton_append, List.singleton_append] at hwidened
    have hfront := List.length_pos_iff.mpr (rejoined_ne_nil before)
    have hback := List.length_pos_iff.mpr (rejoined_ne_nil after)
    have hle (parts : List (List Char)) : (rejoined parts).length ≤ max 1 parts.length := by
      unfold rejoined
      split
      · exact Nat.le_max_left _ _
      · exact Nat.le_max_right _ _
    have hlefront := hle before
    have hleback := hle whole
    refine isGroups_of hsplit ?_ hend ?_ (hwidened ▸ groupsFit_gap hbefore hwhole hcount)
    · rw [List.length_append, List.length_cons]
      omega
    · rw [hwidened, List.length_append, List.length_cons]
      omega

end ClusterAgent.Uri
