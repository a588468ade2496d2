import ClusterAgent.Proofs.Table
import Mathlib.Data.List.Perm.Basic

/-! Pairs in classes of equal keys. The table of a list of pairs has an entry for each class: the
key that came first, with the value that came last. -/
namespace ClusterAgent.Table

variable {α β : Type}

/-- The pairs of a class: a first one, and the others in their order. -/
structure KeyClass (α β : Type) where
  first : α × β
  rest : List (α × β)

namespace KeyClass

def pairs (c : KeyClass α β) : List (α × β) := c.first :: c.rest

def key (c : KeyClass α β) : α := c.first.1

/-- The value that came last. -/
def value (c : KeyClass α β) : β := (c.pairs.getLast (List.cons_ne_nil _ _)).2

def entry (c : KeyClass α β) : α × β := (c.key, c.value)

theorem value_eq_foldl (c : KeyClass α β) : c.value = c.rest.foldl (fun _ p => p.2) c.first.2 := by
  obtain ⟨first, rest⟩ := c
  unfold value pairs
  dsimp only
  induction rest generalizing first with
  | nil => rfl
  | cons p rest ih =>
    rw [List.getLast_cons (List.cons_ne_nil p rest)]
    exact ih p

end KeyClass

section
variable [BEq α]

/-- The pairs behind one whose keys equal its own. -/
def inside (p : α × β) (rest : List (α × β)) : List (α × β) := rest.filter fun q => p.1 == q.1

/-- The pairs behind one whose keys do not equal its own. -/
def outside (p : α × β) (rest : List (α × β)) : List (α × β) := rest.filter fun q => !(p.1 == q.1)

theorem mem_inside {p q : α × β} {rest : List (α × β)} (h : q ∈ inside p rest) :
    (p.1 == q.1) = true :=
  (List.mem_filter.mp h).2

theorem mem_outside {p q : α × β} {rest : List (α × β)} (h : q ∈ outside p rest) :
    (p.1 == q.1) = false := by
  simpa using (List.mem_filter.mp h).2

theorem inside_append_outside (p : α × β) (rest : List (α × β)) :
    (inside p rest ++ outside p rest).Perm rest :=
  List.filter_append_perm _ rest

/-- The classes of a list of pairs: that of the first pair, and those of the pairs outside it. -/
def classes : List (α × β) → List (KeyClass α β)
  | [] => []
  | p :: rest => ⟨p, inside p rest⟩ :: classes (outside p rest)
termination_by pairs => pairs.length
decreasing_by exact Nat.lt_succ_of_le (List.length_filter_le _ _)

end

/-- A pair stands in the list in front of all the others. -/
def Precedes (pairs : List (α × β)) (p : α × β) (others : List (α × β)) : Prop :=
  ∃ before after, pairs = before ++ p :: after ∧ others.Sublist after

/-- The classes hold every pair once, in its place. In a class every key equals the first one, in
different classes no keys are equal, and the classes stand in the order of their first pairs. -/
structure Grouped [BEq α] (pairs : List (α × β)) (classes : List (KeyClass α β)) : Prop where
  perm : (classes.flatMap KeyClass.pairs).Perm pairs
  sublist : ∀ c ∈ classes, c.pairs.Sublist pairs
  equal : ∀ c ∈ classes, ∀ p ∈ c.rest, (c.key == p.1) = true
  apart : classes.Pairwise fun c d => ∀ p ∈ c.pairs, ∀ q ∈ d.pairs, (p.1 == q.1) = false
  ordered : classes.Pairwise fun c d => Precedes pairs c.first d.pairs

theorem Precedes.of_filter {pairs others : List (α × β)} {p : α × β} {f : α × β → Bool}
    (h : Precedes (pairs.filter f) p others) : Precedes pairs p others := by
  obtain ⟨before, after, hsplit, hothers⟩ := h
  obtain ⟨before', behind, rfl, -, hbehind⟩ := List.filter_eq_append_iff.mp hsplit
  obtain ⟨skipped, after', rfl, -, -, rfl⟩ := List.filter_eq_cons_iff.mp hbehind
  exact ⟨before' ++ skipped, after', by simp, hothers.trans List.filter_sublist⟩

variable [BEq α]

/-- What is grouped outside the class of a pair, with that class in front, is grouped. -/
theorem Grouped.cons [PartialEquivBEq α] {p : α × β} {rest : List (α × β)}
    {classes : List (KeyClass α β)} (h : Grouped (outside p rest) classes) :
    Grouped (p :: rest) (⟨p, inside p rest⟩ :: classes) := by
  constructor
  case perm =>
    exact ((h.perm.append_left _).trans (inside_append_outside p rest)).cons p
  case sublist =>
    rintro c (_ | ⟨_, hc⟩)
    · exact List.filter_sublist.cons_cons p
    · exact ((h.sublist c hc).trans List.filter_sublist).cons p
  case equal =>
    rintro c (_ | ⟨_, hc⟩)
    · exact fun q hq => mem_inside hq
    · exact h.equal c hc
  case apart =>
    refine List.pairwise_cons.mpr ⟨?_, h.apart⟩
    intro d hd q hq r hr
    have hr' : (p.1 == r.1) = false := mem_outside ((h.sublist d hd).subset hr)
    rcases List.mem_cons.mp hq with rfl | hq
    · exact hr'
    · refine Bool.eq_false_iff.mpr fun hqr => ?_
      rw [PartialEquivBEq.trans (mem_inside hq) hqr] at hr'
      cases hr'
  case ordered =>
    refine List.pairwise_cons.mpr ⟨?_, h.ordered.imp ?_⟩
    · exact fun d hd => ⟨[], rest, rfl, (h.sublist d hd).trans List.filter_sublist⟩
    · intro c d hcd
      obtain ⟨before, after, hrest, hd⟩ := hcd.of_filter
      exact ⟨p :: before, after, by rw [hrest, List.cons_append], hd⟩

theorem grouped_classes [PartialEquivBEq α] (pairs : List (α × β)) :
    Grouped pairs (classes pairs) := by
  induction pairs using classes.induct with
  | case1 =>
    rw [classes]
    exact ⟨.nil, nofun, nofun, .nil, .nil⟩
  | case2 p rest ih =>
    rw [classes]
    exact ih.cons

/-! ### Tables by classes -/

/-- An entry takes the values under keys that equal its own, and the other pairs pass it by. -/
theorem foldl_insert_cons (p : α × β) (t : Table α β) (pairs : List (α × β)) :
    pairs.foldl (fun t q => Table.insert t q.1 q.2) (p :: t) =
      KeyClass.entry ⟨p, inside p pairs⟩ ::
        (outside p pairs).foldl (fun t q => Table.insert t q.1 q.2) t := by
  obtain ⟨key, value⟩ := p
  unfold KeyClass.entry KeyClass.key inside outside
  rw [KeyClass.value_eq_foldl]
  induction pairs generalizing value t with
  | nil => rfl
  | cons q pairs ih =>
    rw [List.foldl_cons, Table.insert]
    cases hq : key == q.1 with
    | true =>
      rw [if_pos rfl, ih]
      simp [hq]
    | false =>
      rw [if_neg Bool.false_ne_true, ih]
      simp [hq]

theorem ofPairs_eq_map_entry (pairs : List (α × β)) :
    ofPairs pairs = (classes pairs).map KeyClass.entry := by
  induction pairs using classes.induct with
  | case1 =>
    rw [classes]
    rfl
  | case2 p rest ih =>
    rw [classes, List.map_cons, ← ih]
    exact foldl_insert_cons p [] rest

/-- An entry is found under every key that equals its own. -/
theorem get?_of_beq [PartialEquivBEq α] {t : Table α β} (ht : t.Distinct) {p : α × β} (hp : p ∈ t)
    {key : α} (hkey : (p.1 == key) = true) : t.get? key = some p.2 := by
  unfold get?
  induction t with
  | nil => cases hp
  | cons q t ih =>
    rw [Distinct, List.pairwise_cons] at ht
    rcases List.mem_cons.mp hp with rfl | hp
    · rw [List.find?_cons, hkey]
      rfl
    · have hq : (q.1 == key) = false := by
        refine Bool.eq_false_iff.mpr fun h => ?_
        have hqp : (q.1 == p.1) = false := ht.1 p hp
        rw [PartialEquivBEq.trans h (PartialEquivBEq.symm hkey)] at hqp
        cases hqp
      rw [List.find?_cons, hq]
      exact ih ht.2 hp

end ClusterAgent.Table
