import ClusterAgent.Proofs.Uri.Quoting
import ClusterAgent.Storage.LocalPath
import Mathlib.Data.List.Flatten

/-! Local paths as texts: the parts that stand between slashes are read back from them. -/
namespace ClusterAgent

namespace Uri

theorem splitAll_of_not_mem {c : Char} {part : List Char} (h : c ∉ part) :
    splitAll c part = [part] := by
  induction part with
  | nil => rfl
  | cons d part ih =>
    rw [List.mem_cons, not_or] at h
    rw [splitAll, if_neg (Ne.symm h.1), ih h.2]

theorem splitAll_ne_nil (c : Char) (cs : List Char) : splitAll c cs ≠ [] := by
  cases cs with
  | nil => exact List.cons_ne_nil _ _
  | cons d cs =>
    rw [splitAll]
    split
    · exact List.cons_ne_nil _ _
    · split <;> exact List.cons_ne_nil _ _

theorem splitAll_append (c : Char) (cs rest : List Char) :
    splitAll c (cs ++ c :: rest) = splitAll c cs ++ splitAll c rest := by
  induction cs with
  | nil => exact if_pos rfl
  | cons d cs ih =>
    obtain ⟨part, parts, hparts⟩ := List.exists_cons_of_ne_nil (splitAll_ne_nil c cs)
    rw [List.cons_append, splitAll, splitAll, ih, hparts]
    by_cases hd : d = c
    · rw [if_pos hd, if_pos hd]
      rfl
    · rw [if_neg hd, if_neg hd]
      rfl

/-- The parts are joined again. -/
theorem flatMap_splitAll (c : Char) (cs : List Char) :
    (splitAll c cs).flatMap (c :: ·) = c :: cs := by
  induction cs with
  | nil => rfl
  | cons d cs ih =>
    obtain ⟨part, parts, hparts⟩ := List.exists_cons_of_ne_nil (splitAll_ne_nil c cs)
    rw [splitAll]
    by_cases hd : d = c
    · rw [if_pos hd, List.flatMap_cons, ih, hd]
      rfl
    · rw [hparts, List.flatMap_cons, List.cons_append] at ih
      rw [if_neg hd, hparts, List.flatMap_cons, ← (List.cons.inj ih).2]
      rfl

theorem not_mem_of_mem_splitAll {c : Char} {cs part : List Char} (h : part ∈ splitAll c cs) :
    c ∉ part := by
  induction cs generalizing part with
  | nil =>
    obtain rfl := List.mem_singleton.mp h
    exact List.not_mem_nil
  | cons d cs ih =>
    rw [splitAll] at h
    split at h
    · rcases List.mem_cons.mp h with rfl | h
      · exact List.not_mem_nil
      · exact ih h
    · next hd =>
      split at h
      · next first rest hsplit =>
        rcases List.mem_cons.mp h with rfl | h
        · rw [List.mem_cons, not_or]
          exact ⟨Ne.symm hd, ih (hsplit ▸ List.mem_cons_self)⟩
        · exact ih (hsplit ▸ List.mem_cons_of_mem _ h)
      · obtain rfl := List.mem_singleton.mp h
        exact fun hc => hd (List.mem_singleton.mp hc).symm

end Uri

namespace LocalPath

/-- What a path in normal form has between two slashes. -/
def IsPart (part : String) : Prop := part ≠ "" ∧ part ≠ "." ∧ '/' ∉ part.toList

instance (part : String) : Decidable (IsPart part) := inferInstanceAs (Decidable (_ ∧ _ ∧ _))

theorem IsPart.exists_chars {part : String} (h : IsPart part) :
    ∃ c cs, part.toList = c :: cs ∧ c ≠ '/' := by
  obtain ⟨hempty, -, hslash⟩ := h
  obtain ⟨c, cs, hpart⟩ := List.exists_cons_of_ne_nil fun heq => hempty (String.toList_inj.mp heq)
  rw [hpart, List.mem_cons, not_or] at hslash
  exact ⟨c, cs, hpart, Ne.symm hslash.1⟩

/-- A name that leads from a directory to something in it. -/
def IsName (name : String) : Prop := IsPart name ∧ name ≠ ".." ∧ '\x00' ∉ name.toList

instance (name : String) : Decidable (IsName name) := inferInstanceAs (Decidable (_ ∧ _ ∧ _))

/-- Parts with a slash before each of them. -/
def slashed (parts : List String) : List Char := parts.flatMap fun part => '/' :: part.toList

theorem slashed_cons (part : String) (parts : List String) :
    slashed (part :: parts) = '/' :: (part.toList ++ slashed parts) := rfl

theorem slashed_append (parts more : List String) :
    slashed (parts ++ more) = slashed parts ++ slashed more :=
  List.flatMap_append

theorem isInfix_slashed {parts : List String} {part : String} (h : part ∈ parts) :
    part.toList <:+: slashed parts := by
  obtain ⟨before, after, rfl⟩ := List.append_of_mem h
  refine ⟨slashed before ++ ['/'], slashed after, ?_⟩
  rw [slashed_append, slashed_cons]
  simp

theorem toList_intercalate (part : String) (parts : List String) :
    ("/".intercalate (part :: parts)).toList = part.toList ++ slashed parts := by
  induction parts generalizing part with
  | nil => simp [slashed]
  | cons next parts ih =>
    rw [slashed_cons, ← ih next, String.intercalate_cons_of_ne_nil (List.cons_ne_nil _ _)]
    simp

/-! ### Reading -/

theorem splitAll_slashed {part : String} {parts : List String}
    (h : ∀ p ∈ part :: parts, IsPart p) :
    Uri.splitAll '/' (part.toList ++ slashed parts) = (part :: parts).map String.toList := by
  induction parts generalizing part with
  | nil =>
    rw [slashed, List.flatMap_nil, List.append_nil]
    exact Uri.splitAll_of_not_mem (h part List.mem_cons_self).2.2
  | cons next parts ih =>
    rw [List.forall_mem_cons] at h
    rw [slashed_cons, Uri.splitAll_append, Uri.splitAll_of_not_mem h.1.2.2, ih h.2,
      List.singleton_append, ← List.map_cons]

theorem filter_parts {parts : List String} (h : ∀ p ∈ parts, IsPart p) :
    ((parts.map String.toList).filter fun p => p != [] && p != ['.']).map String.ofList =
      parts := by
  have hkeep : ∀ p ∈ parts.map String.toList, (p != [] && p != ['.']) = true := by
    intro p hp
    obtain ⟨part, hpart, rfl⟩ := List.mem_map.mp hp
    obtain ⟨hempty, hdot, -⟩ := h part hpart
    have hempty' : part.toList ≠ [] := fun heq => hempty (String.toList_inj.mp heq)
    have hdot' : part.toList ≠ ['.'] := fun heq => hdot (String.toList_inj.mp heq)
    simp [hempty', hdot']
  rw [List.filter_eq_self.mpr hkeep, List.map_map]
  exact (List.map_congr_left fun part _ => String.ofList_toList).trans (List.map_id parts)

theorem splitAll_replicate (n : Nat) (cs : List Char) :
    Uri.splitAll '/' (List.replicate n '/' ++ cs) = List.replicate n [] ++ Uri.splitAll '/' cs := by
  induction n with
  | zero => rfl
  | succ n ih =>
    rw [List.replicate_succ, List.cons_append, Uri.splitAll, if_pos rfl, ih, List.replicate_succ,
      List.cons_append]

/-- The parts are those between the slashes; the anchor counts the slashes in front. -/
theorem ofChars_slashed {parts : List String} (hne : parts ≠ []) (h : ∀ p ∈ parts, IsPart p)
    (n : Nat) : ofChars (List.replicate n '/' ++ slashed parts) = ⟨anchorOf (n + 1), parts⟩ := by
  obtain ⟨part, rest, rfl⟩ := List.exists_cons_of_ne_nil hne
  obtain ⟨c, cs, hpart, hslash⟩ := (h part List.mem_cons_self).exists_chars
  have hc : (c == '/') = false := beq_eq_false_iff_ne.mpr hslash
  have hchars : List.replicate n '/' ++ slashed (part :: rest) =
      List.replicate (n + 1) '/' ++ (part.toList ++ slashed rest) := by
    rw [slashed_cons, List.replicate_succ', List.append_assoc, List.singleton_append]
  have hlead : ((List.replicate (n + 1) '/' ++ (part.toList ++ slashed rest)).takeWhile
      (· == '/')).length = n + 1 := by
    rw [List.takeWhile_append_of_pos (by simp), hpart, List.cons_append,
      List.takeWhile_cons_of_neg (by simp [hc]), List.append_nil, List.length_replicate]
  have hnil : ((List.replicate (n + 1) ([] : List Char)).filter
      fun p => p != [] && p != ['.']) = [] := by
    rw [List.filter_replicate]
    rfl
  unfold ofChars
  rw [hchars, hlead, splitAll_replicate, splitAll_slashed h, List.filter_append, hnil,
    List.nil_append, filter_parts h]

theorem parts_ofChars_slash {name : String} (h : '/' ∉ name.toList) :
    (ofChars ('/' :: name.toList)).parts = if name ∈ ["", "."] then [] else [name] := by
  by_cases hname : name ∈ ["", "."]
  · rw [if_pos hname]
    rcases List.mem_pair.mp hname with rfl | rfl <;> decide
  · rw [List.mem_pair, not_or] at hname
    have hpart : IsPart name := ⟨hname.1, hname.2, h⟩
    have hread := ofChars_slashed (List.cons_ne_nil name []) (List.forall_mem_singleton.mpr hpart) 0
    rw [slashed_cons, slashed, List.flatMap_nil, List.append_nil] at hread
    rw [if_neg (by simpa using hname)]
    exact congrArg LocalPath.parts hread

theorem parts_ofChars_append (cs rest : List Char) :
    (ofChars (cs ++ '/' :: rest)).parts = (ofChars cs).parts ++ (ofChars ('/' :: rest)).parts := by
  unfold ofChars
  dsimp only
  rw [Uri.splitAll_append, Uri.splitAll, if_pos rfl, List.filter_append, List.map_append]
  rfl

theorem anchor_ofChars_slash (cs : List Char) : (ofChars ('/' :: cs)).anchor ≠ .relative := by
  unfold ofChars anchorOf
  dsimp only
  rw [List.takeWhile_cons_of_pos (p := (· == '/')) (beq_self_eq_true '/'), List.length_cons,
    if_neg (Nat.succ_ne_zero _)]
  split <;> exact nofun

/-- Reading a path loses slashes and dots, and adds nothing. -/
theorem slashed_ofChars_sublist (cs : List Char) :
    (slashed (ofChars ('/' :: cs)).parts).Sublist ('/' :: cs) := by
  have hslashed : slashed (ofChars ('/' :: cs)).parts =
      ((Uri.splitAll '/' cs).filter fun p => p != [] && p != ['.']).flatMap ('/' :: ·) := by
    unfold slashed ofChars
    dsimp only
    rw [Uri.splitAll, if_pos rfl, List.flatMap_map]
    exact List.flatMap_congr fun part _ => congrArg _ String.toList_ofList
  have hjoined := Uri.flatMap_splitAll '/' cs
  rw [hslashed, ← hjoined]
  exact List.filter_sublist.flatMap _

/-- How many slashes the text of an absolute path has in front of that of its first part. -/
def extraSlashes : PathAnchor → Nat
  | .doubleRoot => 1
  | _ => 0

theorem toList_text {p : LocalPath} (habsolute : p.anchor ≠ .relative) (hne : p.parts ≠ []) :
    p.text.toList = List.replicate (extraSlashes p.anchor) '/' ++ slashed p.parts := by
  obtain ⟨anchor, parts⟩ := p
  obtain ⟨part, rest, rfl⟩ := List.exists_cons_of_ne_nil hne
  cases anchor with
  | relative => exact absurd rfl habsolute
  | root =>
    change ("/" ++ "/".intercalate (part :: rest)).toList = _
    rw [String.toList_append, toList_intercalate]
    rfl
  | doubleRoot =>
    change ("//" ++ "/".intercalate (part :: rest)).toList = _
    rw [String.toList_append, toList_intercalate]
    rfl

theorem exists_chars_text {p : LocalPath} (habsolute : p.anchor ≠ .relative) :
    ∃ cs, p.text.toList = '/' :: cs := by
  obtain ⟨anchor, parts⟩ := p
  cases anchor with
  | relative => exact absurd rfl habsolute
  | root =>
    refine ⟨("/".intercalate parts).toList, ?_⟩
    change ("/" ++ "/".intercalate parts).toList = _
    rw [String.toList_append]
    rfl
  | doubleRoot =>
    refine ⟨'/' :: ("/".intercalate parts).toList, ?_⟩
    change ("//" ++ "/".intercalate parts).toList = _
    rw [String.toList_append]
    rfl

theorem toList_toUri (p : LocalPath) :
    p.toUri.toList = "file://".toList ++ Uri.quoteChars p.text.toList := by
  rw [toUri, String.toList_append, Uri.quote, String.toList_ofList, String.toList_ofList]

theorem anchorOf_extraSlashes {anchor : PathAnchor} (h : anchor ≠ .relative) :
    anchorOf (extraSlashes anchor + 1) = anchor := by
  cases anchor with
  | relative => exact absurd rfl h
  | _ => rfl

/-! ### Normal form -/

/-- Every part is one that reading gives. -/
def Normal (p : LocalPath) : Prop := ∀ part ∈ p.parts, IsPart part

theorem normal_ofText (s : String) : (ofText s).Normal := by
  intro part hpart
  obtain ⟨cs, hcs, rfl⟩ := List.mem_map.mp hpart
  obtain ⟨hsplit, hkeep⟩ := List.mem_filter.mp hcs
  rw [Bool.and_eq_true, bne_iff_ne, bne_iff_ne] at hkeep
  refine ⟨?_, ?_, ?_⟩
  · intro hempty
    exact hkeep.1 (String.ofList_inj.mp hempty)
  · intro hdot
    exact hkeep.2 (String.ofList_inj.mp hdot)
  · rw [String.toList_ofList]
    exact Uri.not_mem_of_mem_splitAll hsplit

/-- A path in normal form is read back from its text. -/
theorem ofText_text {p : LocalPath} (habsolute : p.anchor ≠ .relative) (hnormal : p.Normal) :
    ofText p.text = p := by
  by_cases hne : p.parts = []
  · obtain ⟨anchor, parts⟩ := p
    obtain rfl : parts = [] := hne
    cases anchor with
    | relative => exact absurd rfl habsolute
    | _ => rfl
  · unfold ofText
    rw [toList_text habsolute hne, ofChars_slashed hne hnormal, anchorOf_extraSlashes habsolute]

end LocalPath
end ClusterAgent
