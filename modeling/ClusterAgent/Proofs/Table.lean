import ClusterAgent.Table
import Mathlib.Data.List.Induction

/-! Tables whose keys differ. Equality of keys need not be lawful: a key is only asked whether it
equals one that is inserted after it. -/
namespace ClusterAgent.Table

variable {α β : Type} [BEq α]

/-- No key equals one that stands behind it. -/
def Distinct (t : Table α β) : Prop := t.Pairwise fun p q => (p.1 == q.1) = false

instance (t : Table α β) : Decidable t.Distinct := inferInstanceAs (Decidable (t.Pairwise _))

/-- No key of the table equals this one. -/
def Lacks (t : Table α β) (key : α) : Prop := ∀ p ∈ t, (p.1 == key) = false

theorem insert_of_lacks {t : Table α β} {key : α} (h : t.Lacks key) (value : β) :
    t.insert key value = t ++ [(key, value)] := by
  induction t with
  | nil => rfl
  | cons p t ih =>
    have hp : (p.1 == key) = false := h p (by simp)
    have ht : Lacks t key := fun q hq => h q (by simp [hq])
    simp only [insert, hp, Bool.false_eq_true, if_false, ih ht, List.cons_append]

/-- Under a present key only the value changes. -/
theorem insert_of_present {t : Table α β} {key : α} (h : ¬ t.Lacks key) (value : β) :
    ∃ before k v after, t = before ++ (k, v) :: after ∧
      t.insert key value = before ++ (k, value) :: after := by
  induction t with
  | nil => exact absurd (fun p hp => by simp at hp) h
  | cons p t ih =>
    obtain ⟨k, v⟩ := p
    cases hk : k == key with
    | true => exact ⟨[], k, v, t, rfl, by simp [insert, hk]⟩
    | false =>
      have ht : ¬ Lacks t key := by
        intro ht
        apply h
        intro q hq
        rcases List.mem_cons.mp hq with rfl | hq
        · exact hk
        · exact ht q hq
      obtain ⟨before, k', v', after, rfl, hinsert⟩ := ih ht
      exact ⟨(k, v) :: before, k', v', after, rfl, by simp [insert, hk, hinsert]⟩

theorem Distinct.insert {t : Table α β} (h : t.Distinct) (key : α) (value : β) :
    (Table.insert t key value).Distinct := by
  unfold Distinct at h ⊢
  by_cases hl : t.Lacks key
  · rw [insert_of_lacks hl, List.pairwise_append]
    refine ⟨h, List.pairwise_singleton _ _, ?_⟩
    intro p hp q hq
    obtain rfl := List.mem_singleton.mp hq
    exact hl p hp
  · obtain ⟨before, k, v, after, rfl, hinsert⟩ := insert_of_present hl value
    rw [hinsert]
    simpa [List.pairwise_append] using h

theorem mem_insert {t : Table α β} {key : α} {value : β} {p : α × β}
    (h : p ∈ t.insert key value) :
    p ∈ t ∨ p = (key, value) ∨ (∃ v, (p.1, v) ∈ t) ∧ p.2 = value := by
  by_cases hl : t.Lacks key
  · rw [insert_of_lacks hl] at h
    rcases List.mem_append.mp h with h | h
    · exact Or.inl h
    · exact Or.inr (Or.inl (List.mem_singleton.mp h))
  · obtain ⟨before, k, v, after, rfl, hinsert⟩ := insert_of_present hl value
    rw [hinsert] at h
    simp only [List.mem_append, List.mem_cons] at h ⊢
    rcases h with h | rfl | h
    · exact Or.inl (Or.inl h)
    · exact Or.inr (Or.inr ⟨⟨v, Or.inr (Or.inl rfl)⟩, rfl⟩)
    · exact Or.inl (Or.inr (Or.inr h))

theorem length_insert_le (t : Table α β) (key : α) (value : β) :
    (t.insert key value).length ≤ t.length + 1 := by
  by_cases hl : t.Lacks key
  · rw [insert_of_lacks hl]
    simp
  · obtain ⟨before, k, v, after, rfl, hinsert⟩ := insert_of_present hl value
    rw [hinsert]
    simp

theorem Distinct.lacks {t u : Table α β} {p : α × β} (h : Distinct (t ++ p :: u)) :
    t.Lacks p.1 := by
  intro q hq
  exact (List.pairwise_append.mp h).2.2 q hq p (by simp)

/-- Entries with new keys are inserted at the end, in their order. -/
theorem foldl_insert {t u : Table α β} (h : Distinct (t ++ u)) :
    u.foldl (fun t p => t.insert p.1 p.2) t = t ++ u := by
  induction u generalizing t with
  | nil => simp
  | cons p u ih =>
    rw [List.foldl_cons, insert_of_lacks h.lacks]
    rw [ih (by simpa using h)]
    simp

theorem ofPairs_of_distinct {t : Table α β} (h : t.Distinct) : ofPairs t = t := by
  simpa [ofPairs] using foldl_insert (t := []) (u := t) (by simpa using h)

theorem get?_of_mem [LawfulBEq α] {t : Table α β} (h : t.Distinct) {key : α} {value : β}
    (hmem : (key, value) ∈ t) : t.get? key = some value := by
  unfold get?
  induction t with
  | nil => cases hmem
  | cons p t ih =>
    rw [Distinct, List.pairwise_cons] at h
    rcases List.mem_cons.mp hmem with rfl | hmem
    · simp only [List.find?_cons, beq_self_eq_true, Option.map_some]
    · have hp : (p.1 == key) = false := h.1 _ hmem
      simp only [List.find?_cons, hp]
      exact ih h.2 hmem

theorem get?_of_forall_not_mem [LawfulBEq α] {t : Table α β} {key : α}
    (h : ∀ value, (key, value) ∉ t) : t.get? key = none := by
  unfold get?
  rw [Option.map_eq_none_iff, List.find?_eq_none]
  intro p hp hkey
  rw [beq_iff_eq] at hkey
  exact h p.2 (hkey ▸ hp)

/-- Under the key that is inserted stands the new value, and nothing else changes. -/
theorem get?_insert [LawfulBEq α] (t : Table α β) (key key' : α) (value : β) :
    (t.insert key value).get? key' = if key == key' then some value else t.get? key' := by
  unfold get?
  induction t with
  | nil =>
    rw [insert, List.find?_singleton]
    split <;> rfl
  | cons p t ih =>
    unfold insert
    by_cases hk : p.1 = key
    · rw [hk, if_pos (beq_self_eq_true key), List.find?_cons, List.find?_cons]
      dsimp only
      rw [hk]
      cases key == key' <;> rfl
    · rw [if_neg (mt beq_iff_eq.mp hk), List.find?_cons, List.find?_cons]
      dsimp only
      cases hp : p.1 == key' with
      | true =>
        rw [beq_iff_eq] at hp
        have hne : (key == key') = false := beq_eq_false_iff_ne.mpr fun h => hk (hp.trans h.symm)
        rw [hne]
        rfl
      | false => exact ih

/-- Of the values of a key, the last counts. -/
theorem get?_ofPairs [LawfulBEq α] (pairs : List (α × β)) (key : α) :
    (ofPairs pairs).get? key = (pairs.reverse.find? fun p => p.1 == key).map (·.2) := by
  induction pairs using List.reverseRecOn with
  | nil => rfl
  | append_singleton pairs p ih =>
    have hinsert : ofPairs (pairs ++ [p]) = (ofPairs pairs).insert p.1 p.2 := by
      simp [ofPairs]
    rw [hinsert, get?_insert, ih, List.reverse_append, List.reverse_singleton,
      List.singleton_append, List.find?_cons]
    cases p.1 == key <;> rfl

/-! ### Keys -/

theorem lacks_iff [LawfulBEq α] {t : Table α β} {key : α} : t.Lacks key ↔ key ∉ t.keys := by
  unfold Lacks keys
  rw [List.mem_map, not_exists]
  constructor
  · rintro h p ⟨hp, rfl⟩
    exact absurd (h p hp) (by simp)
  · intro h p hp
    rw [beq_eq_false_iff_ne]
    exact fun hkey => h p ⟨hp, hkey⟩

theorem keys_insert [LawfulBEq α] (t : Table α β) (key : α) (value : β) :
    (t.insert key value).keys = if key ∈ t.keys then t.keys else t.keys ++ [key] := by
  split
  · next hkey =>
    have hpresent : ¬ t.Lacks key := mt lacks_iff.mp (not_not.mpr hkey)
    obtain ⟨before, k, v, after, rfl, hinsert⟩ := insert_of_present hpresent value
    rw [hinsert]
    simp [keys]
  · next hkey =>
    rw [insert_of_lacks (lacks_iff.mpr hkey)]
    simp [keys]

/-- The keys stand in the order of their first occurrence. -/
theorem keys_ofPairs [LawfulBEq α] (pairs : List (α × β)) :
    (ofPairs pairs).keys = (pairs.map (·.1)).eraseDups := by
  induction pairs using List.reverseRecOn with
  | nil => rfl
  | append_singleton pairs p ih =>
    have hinsert : ofPairs (pairs ++ [p]) = (ofPairs pairs).insert p.1 p.2 := by
      simp [ofPairs]
    rw [hinsert, keys_insert, ih, List.map_append, List.eraseDups_append]
    simp only [List.mem_eraseDups, List.map_cons, List.map_nil]
    split
    · next hkey => simp [List.removeAll, hkey]
    · next hkey => simp [List.removeAll, hkey, List.eraseDups_cons]

theorem distinct_ofPairs (pairs : List (α × β)) : (ofPairs pairs).Distinct := by
  induction pairs using List.reverseRecOn with
  | nil => exact List.Pairwise.nil
  | append_singleton pairs p ih =>
    have hinsert : ofPairs (pairs ++ [p]) = (ofPairs pairs).insert p.1 p.2 := by
      simp [ofPairs]
    rw [hinsert]
    exact ih.insert p.1 p.2

/-- An entry holds the last value of its key. -/
theorem mem_ofPairs [LawfulBEq α] {pairs : List (α × β)} {key : α} {value : β}
    (h : (key, value) ∈ ofPairs pairs) :
    ∃ before after, pairs = before ++ (key, value) :: after ∧ ∀ p ∈ after, p.1 ≠ key := by
  have hget := get?_of_mem (distinct_ofPairs pairs) h
  rw [get?_ofPairs, Option.map_eq_some_iff] at hget
  obtain ⟨p, hfind, rfl⟩ := hget
  obtain ⟨hkey, after, before, hpairs, hafter⟩ := List.find?_eq_some_iff_append.mp hfind
  obtain rfl : p.1 = key := by simpa using hkey
  refine ⟨before.reverse, after.reverse, ?_, ?_⟩
  · rw [← List.reverse_reverse pairs, hpairs]
    simp
  · intro q hq
    simpa using hafter q (List.mem_reverse.mp hq)

theorem insert_append_of_lacks {t : Table α β} {key : α} (h : t.Lacks key) (u : Table α β)
    (value : β) : Table.insert (t ++ u) key value = t ++ u.insert key value := by
  induction t with
  | nil => rfl
  | cons p t ih =>
    have hp : (p.1 == key) = false := h p (by simp)
    have ht : Lacks t key := fun q hq => h q (by simp [hq])
    rw [List.cons_append, insert, hp, if_neg Bool.false_ne_true, ih ht, List.cons_append]

/-- Inserting the entries of a table into one that has the first of its keys makes the same
table. -/
theorem foldl_insert_of_keys_prefix [ReflBEq α] {t u c : Table α β} (hc : Distinct (t ++ c))
    (h : u.keys <+: c.keys) : c.foldl (fun t p => t.insert p.1 p.2) (t ++ u) = t ++ c := by
  induction c generalizing t u with
  | nil =>
    obtain rfl : u = [] := by simpa [keys] using h
    rfl
  | cons p c ih =>
    have hstep : Table.insert (t ++ u) p.1 p.2 = (t ++ [p]) ++ u.tail := by
      rw [insert_append_of_lacks hc.lacks]
      cases u with
      | nil => simp [insert]
      | cons q u =>
        obtain ⟨hkey, -⟩ : q.1 = p.1 ∧ keys u <+: keys c := by
          simpa [keys, List.cons_prefix_cons] using h
        simp [insert, hkey]
    have htail : keys u.tail <+: keys c := by
      cases u with
      | nil => exact List.nil_prefix
      | cons q u => exact (List.cons_prefix_cons.mp h).2
    rw [List.foldl_cons, hstep, ih (by simpa using hc) htail]
    simp

/-- Keys may be renamed before or after they are inserted, if they are told apart alike. -/
theorem insert_map {γ : Type} [BEq γ] {f : α → γ} (hf : ∀ a b, (f a == f b) = (a == b))
    (t : Table α β) (key : α) (value : β) :
    Table.insert (t.map fun p => (f p.1, p.2)) (f key) value =
      (t.insert key value).map fun p => (f p.1, p.2) := by
  induction t with
  | nil => rfl
  | cons p t ih =>
    rw [List.map_cons, insert, insert, hf, ih]
    split <;> rfl

end ClusterAgent.Table
