import ClusterAgent.Text.Blank
import Mathlib.Data.List.DropRight

/-! Trimming a character from the ends of texts. -/
namespace ClusterAgent.Text

section
variable {α : Type} {p : α → Bool}

theorem rdropWhile_append (xs ys : List α) : (xs ++ ys).rdropWhile p =
    if ys.rdropWhile p = [] then xs.rdropWhile p else xs ++ ys.rdropWhile p := by
  unfold List.rdropWhile
  rw [List.reverse_append, List.dropWhile_append]
  by_cases hnil : ys.reverse.dropWhile p = []
  · rw [if_pos (by rw [hnil]; rfl), if_pos (by rw [hnil]; rfl)]
  · rw [if_neg (mt List.isEmpty_iff.mp hnil), if_neg (mt List.reverse_eq_nil_iff.mp hnil),
      List.reverse_append, List.reverse_reverse]

theorem rdropWhile_of_forall_not {xs : List α} (h : ∀ x ∈ xs, ¬ p x) : xs.rdropWhile p = xs :=
  List.rdropWhile_eq_self_iff.mpr fun hne => h _ (List.getLast_mem hne)

/-- Nothing is dropped in front of what ends in elements that stay. -/
theorem rdropWhile_append_of_forall_not {ys : List α} (hne : ys ≠ []) (h : ∀ y ∈ ys, ¬ p y)
    (xs : List α) : (xs ++ ys).rdropWhile p = xs ++ ys := by
  have hys : ys.rdropWhile p = ys := rdropWhile_of_forall_not h
  rw [rdropWhile_append, hys, if_neg hne]

/-- The two ends are trimmed in either order. -/
theorem dropWhile_rdropWhile (xs : List α) :
    (xs.rdropWhile p).dropWhile p = (xs.dropWhile p).rdropWhile p := by
  induction xs with
  | nil => simp
  | cons x xs ih =>
    have hcons : (x :: xs).rdropWhile p =
        if xs.rdropWhile p = [] then [x].rdropWhile p else x :: xs.rdropWhile p :=
      rdropWhile_append [x] xs
    cases hx : p x with
    | true =>
      rw [List.dropWhile_cons_of_pos hx, ← ih, hcons, List.rdropWhile_singleton, if_pos hx]
      split
      · next hnil => rw [hnil]
      · rw [List.dropWhile_cons_of_pos hx]
    | false =>
      have hneg : ¬ p x = true := by simp [hx]
      rw [List.dropWhile_cons_of_neg hneg, hcons, List.rdropWhile_singleton, if_neg hneg]
      split <;> exact List.dropWhile_cons_of_neg hneg

end

variable {c : Char} {s : String}

theorem toList_trimEndOf (c : Char) (s : String) :
    (trimEndOf c s).toList = s.toList.rdropWhile (· == c) := by
  unfold trimEndOf
  rw [String.toList_ofList]
  rfl

theorem toList_trimStartOf (c : Char) (s : String) :
    (trimStartOf c s).toList = s.toList.dropWhile (· == c) := by
  unfold trimStartOf
  rw [String.toList_ofList]

theorem trimOf_of_not_mem (h : c ∉ s.toList) : trimOf c s = s := by
  have hother : ∀ d ∈ s.toList, ¬ (d == c) = true := by
    intro d hd heq
    exact h (beq_iff_eq.mp heq ▸ hd)
  have hstart : s.toList.dropWhile (· == c) = s.toList :=
    List.dropWhile_eq_self_iff.mpr fun hne => hother _ (List.getElem_mem hne)
  unfold trimOf trimList
  rw [hstart]
  exact (congrArg String.ofList (rdropWhile_of_forall_not hother)).trans String.ofList_toList

end ClusterAgent.Text
