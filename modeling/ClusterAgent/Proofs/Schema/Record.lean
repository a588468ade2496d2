import ClusterAgent.Proofs.Text.Utf8
import ClusterAgent.Schema.Record
import Mathlib.Data.List.Forall2

/-! When checks pass, and what they give. -/
namespace ClusterAgent.Schema

variable {α β : Type}

namespace Checked

theorem pure_eq_ok {a b : α} : (pure a : Checked α) = .ok b ↔ a = b :=
  ⟨Except.ok.inj, congrArg Except.ok⟩

theorem map_eq_ok {f : α → β} {c : Checked α} {b : β} :
    f <$> c = .ok b ↔ ∃ a, c = .ok a ∧ f a = b := by
  cases c with
  | error faults =>
    constructor
    · intro h
      cases h
    · rintro ⟨a, ha, -⟩
      cases ha
  | ok a =>
    constructor
    · intro h
      exact ⟨a, rfl, Except.ok.inj h⟩
    · rintro ⟨a', ha, rfl⟩
      obtain rfl := Except.ok.inj ha
      rfl

theorem seq_eq_ok {f : Checked (α → β)} {c : Checked α} {b : β} :
    f <*> c = .ok b ↔ ∃ g a, f = .ok g ∧ c = .ok a ∧ g a = b := by
  cases f with
  | error faults =>
    constructor
    · intro h
      cases c <;> cases h
    · rintro ⟨g, a, hg, -⟩
      cases hg
  | ok g =>
    constructor
    · intro h
      obtain ⟨a, ha, hb⟩ := map_eq_ok.mp h
      exact ⟨g, a, rfl, ha, hb⟩
    · rintro ⟨g', a, hg, ha, hb⟩
      obtain rfl := Except.ok.inj hg
      exact map_eq_ok.mpr ⟨a, ha, hb⟩

theorem within_eq_ok {step : Step} {c : Checked α} {a : α} :
    c.within step = .ok a ↔ c = .ok a := by
  unfold within
  cases c <;> simp

theorem andThen_eq_ok {c : Checked α} {f : α → Checked β} {b : β} :
    c.andThen f = .ok b ↔ ∃ a, c = .ok a ∧ f a = .ok b := by
  cases c with
  | error faults =>
    constructor
    · intro h
      cases h
    · rintro ⟨a, ha, -⟩
      cases ha
  | ok a =>
    constructor
    · intro h
      exact ⟨a, rfl, h⟩
    · rintro ⟨a', ha, hb⟩
      obtain rfl := Except.ok.inj ha
      exact hb

theorem fault_ne_ok {kind : FaultKind} {a : α} : (fault kind : Checked α) ≠ .ok a := by
  intro h
  cases h

end Checked

open Checked

theorem required_eq_ok {entries : List (WideText × Datum)} {name : String}
    {check : Datum → Checked α} {a : α} :
    required entries name check = .ok a ↔
      ∃ v, Datum.entry? entries name = some v ∧ check v = .ok a := by
  unfold required field
  cases Datum.entry? entries name with
  | none => simp [within_eq_ok, fault_ne_ok]
  | some v => simp [within_eq_ok]

theorem checkText_eq_ok {v : Datum} {t : WideText} :
    checkText v = .ok t ↔
      v = .text t ∨ ∃ s, t = WideText.ofString s ∧ v = .bytes (Utf8.encode s) := by
  unfold checkText
  split
  · simp [pure_eq_ok]
  · next bs =>
    cases hs : Utf8.decode? bs with
    | none =>
      simp only [fault_ne_ok, reduceCtorEq, false_or, false_iff, Datum.bytes.injEq]
      rintro ⟨s, -, rfl⟩
      rw [Utf8.decode?_encode] at hs
      cases hs
    | some s =>
      obtain rfl := (Utf8.decode?_eq_some_iff bs s).mp hs
      simp only [pure_eq_ok, reduceCtorEq, false_or, Datum.bytes.injEq]
      constructor
      · rintro rfl
        exact ⟨s, rfl, rfl⟩
      · rintro ⟨u, rfl, hu⟩
        have := Utf8.decode?_encode u
        rw [← hu, Utf8.decode?_encode] at this
        rw [Option.some.inj this]
  · next htext hbytes =>
    simp only [fault_ne_ok, false_iff, not_or, not_exists, not_and]
    exact ⟨fun h => htext t h, fun s _ h => hbytes _ h⟩

/-- A string comes of its own text, or of the bytes that encode it. -/
theorem checkString_eq_ok {v : Datum} {s : String} :
    checkString v = .ok s ↔ v = .string s ∨ v = .bytes (Utf8.encode s) := by
  unfold checkString Datum.string
  rw [andThen_eq_ok]
  constructor
  · rintro ⟨t, ht, hs⟩
    have htext : t = WideText.ofString s := by
      rw [← WideText.toString?_eq_some_iff]
      cases hu : WideText.toString? t with
      | none =>
        rw [hu] at hs
        exact absurd hs fault_ne_ok
      | some u =>
        rw [hu] at hs
        rw [pure_eq_ok.mp hs]
    subst htext
    rcases checkText_eq_ok.mp ht with rfl | ⟨u, hu, rfl⟩
    · exact Or.inl rfl
    · rw [WideText.ofString_injective hu]
      exact Or.inr rfl
  · intro h
    refine ⟨WideText.ofString s, checkText_eq_ok.mpr ?_, by rw [WideText.toString?_ofString]; rfl⟩
    rcases h with rfl | rfl
    · exact Or.inl rfl
    · exact Or.inr ⟨s, rfl, rfl⟩

/-- Bytes come of themselves, or of a text that they encode. -/
theorem checkBytes_eq_ok {v : Datum} {bs : List UInt8} :
    checkBytes v = .ok bs ↔
      v = .bytes bs ∨ ∃ t, Utf8.encodeWide? t = some bs ∧ v = .text t := by
  unfold checkBytes
  split
  · simp [pure_eq_ok]
  · next t =>
    cases ht : Utf8.encodeWide? t with
    | none => simp [fault_ne_ok, ht]
    | some cs => simp [pure_eq_ok, ht]
  · next hbytes htext =>
    simp only [fault_ne_ok, false_iff, not_or, not_exists, not_and]
    exact ⟨fun h => hbytes bs h, fun t _ h => htext t h⟩

/-! ### Fields and parts -/

theorem optional_eq_ok {entries : List (WideText × Datum)} {name : String} {default : α}
    {check : Datum → Checked α} {a : α} :
    optional entries name default check = .ok a ↔
      Datum.entry? entries name = none ∧ default = a ∨
        ∃ v, Datum.entry? entries name = some v ∧ check v = .ok a := by
  unfold optional field
  cases Datum.entry? entries name with
  | none => simp [pure_eq_ok]
  | some v => simp [within_eq_ok]

theorem checkNullable_eq_ok {check : Datum → Checked α} {v : Datum} {o : Option α} :
    checkNullable check v = .ok o ↔
      v = .null ∧ o = none ∨ v ≠ .null ∧ ∃ a, check v = .ok a ∧ o = some a := by
  unfold checkNullable
  split
  · simp [pure_eq_ok, eq_comm]
  · next hv =>
    have hne : v ≠ .null := hv
    simp [map_eq_ok, hne, eq_comm]

theorem checkLiteral_eq_ok {s : String} {v : Datum} {u : Unit} :
    checkLiteral s v = .ok u ↔ v = .string s := by
  unfold checkLiteral
  split
  · next t =>
    split
    · next h => simp [pure_eq_ok, Datum.string, h]
    · next h => simp [fault_ne_ok, Datum.string, h]
  · next hv =>
    simp only [fault_ne_ok, false_iff]
    exact hv _

theorem checkNamed_string {named : List (String × α)} {name : String} {a : α}
    (h : named.lookup name = some a) : checkNamed named (.string name) = .ok a := by
  unfold checkNamed Datum.string
  dsimp only
  rw [WideText.toString?_ofString, Option.bind_some, h]
  rfl

/-- Each item is checked, and nothing else comes out. -/
theorem checkItems_eq_ok {check : Datum → Checked α} {i : Nat} {items : List Datum} {as : List α} :
    checkItems check i items = .ok as ↔ List.Forall₂ (fun v a => check v = .ok a) items as := by
  induction items generalizing i as with
  | nil =>
    rw [checkItems, pure_eq_ok, List.forall₂_nil_left_iff, eq_comm]
  | cons v items ih =>
    rw [checkItems, seq_eq_ok]
    simp only [map_eq_ok, within_eq_ok, List.forall₂_cons_left_iff]
    constructor
    · rintro ⟨_, rest, ⟨a, ha, rfl⟩, hrest, rfl⟩
      exact ⟨a, rest, ha, ih.mp hrest, rfl⟩
    · rintro ⟨a, rest, ha, hrest, rfl⟩
      exact ⟨_, rest, ⟨a, ha, rfl⟩, ih.mpr hrest, rfl⟩

theorem checkList_eq_ok {kind : FaultKind} {check : Datum → Checked α} {v : Datum} {as : List α} :
    checkList kind check v = .ok as ↔
      ∃ items, v = .list items ∧ List.Forall₂ (fun v a => check v = .ok a) items as := by
  unfold checkList
  split
  · simp [checkItems_eq_ok]
  · next hv =>
    simp only [fault_ne_ok, false_iff, not_exists, not_and]
    exact fun items h => absurd h (hv items)

variable {κ : Type}

theorem checkEntries_eq_ok {key : Datum → Checked κ} {value : Datum → Checked α}
    {entries : List (WideText × Datum)} {pairs : List (κ × α)} :
    checkEntries key value entries = .ok pairs ↔ List.Forall₂ (fun p q =>
      key (.text p.1) = .ok q.1 ∧ value p.2 = .ok q.2) entries pairs := by
  induction entries generalizing pairs with
  | nil =>
    rw [checkEntries, pure_eq_ok, List.forall₂_nil_left_iff, eq_comm]
  | cons p entries ih =>
    obtain ⟨k, v⟩ := p
    rw [checkEntries, seq_eq_ok]
    simp only [map_eq_ok, seq_eq_ok, within_eq_ok, List.forall₂_cons_left_iff]
    constructor
    · rintro ⟨_, rest, ⟨_, ⟨_, a, ⟨key, hkey, rfl⟩, ha, rfl⟩, rfl⟩, hrest, rfl⟩
      exact ⟨(key, a), rest, ⟨hkey, ha⟩, ih.mp hrest, rfl⟩
    · rintro ⟨⟨key, a⟩, rest, ⟨hkey, ha⟩, hrest, rfl⟩
      exact ⟨_, rest, ⟨_, ⟨_, a, ⟨key, hkey, rfl⟩, ha, rfl⟩, rfl⟩, ih.mpr hrest, rfl⟩

theorem checkTable_eq_ok [BEq κ] {key : Datum → Checked κ} {value : Datum → Checked α} {v : Datum}
    {t : Table κ α} :
    checkTable key value v = .ok t ↔ ∃ entries pairs, v = .map entries ∧
      List.Forall₂ (fun p q => key (.text p.1) = .ok q.1 ∧ value p.2 = .ok q.2) entries pairs ∧
      Table.ofPairs pairs = t := by
  unfold checkTable
  split
  · simp [map_eq_ok, checkEntries_eq_ok]
  · next hv =>
    simp only [fault_ne_ok, false_iff, not_exists, not_and]
    exact fun entries _ h => absurd h (hv entries)

theorem noOtherFields_eq_ok {entries : List (WideText × Datum)} {known : List String} {u : Unit} :
    noOtherFields entries known = .ok u ↔
      ∀ p ∈ entries, ∃ name ∈ known, p.1 = WideText.ofString name := by
  have hrefuse : ∀ extra : List WideText, (if extra.isEmpty then (pure () : Checked Unit)
      else .error (extra.map fun k => ⟨[.key k], .extraField⟩)) = .ok u ↔ extra = [] := by
    intro extra
    cases extra with
    | nil => simp [pure_eq_ok]
    | cons k extra => simp
  have hknown : ∀ k, (!(known.map WideText.ofString).contains k) = false ↔
      ∃ name ∈ known, k = WideText.ofString name := by
    intro k
    rw [Bool.not_eq_false', List.contains_iff_mem, List.mem_map]
    constructor
    · rintro ⟨name, hname, rfl⟩
      exact ⟨name, hname, rfl⟩
    · rintro ⟨name, hname, rfl⟩
      exact ⟨name, hname, rfl⟩
  unfold noOtherFields
  rw [hrefuse, List.filter_eq_nil_iff, List.forall_mem_map]
  simp only [Bool.not_eq_true, hknown]

end ClusterAgent.Schema
