import ClusterAgent.Proofs.Json.Ascii
import ClusterAgent.Proofs.Json.Surrogates

/-! What a document of unknown origin can hold: values that nest as deep as is allowed, with numbers
that are printed and read again. Printed, a document is read as itself, unless two halves of a pair
stand side by side in one of its texts. -/
namespace ClusterAgent

namespace Text

theorem digitsValue_lt_pow {ds : List Char} (h : ∀ c ∈ ds, c.isDigit) :
    digitsValue ds < 10 ^ ds.length := by
  induction ds with
  | nil => decide
  | cons c ds ih =>
    obtain ⟨hc, hds⟩ := List.forall_mem_cons.mp h
    have hdigit : digitsValue [c] ≤ 9 := by
      have hrange := isAsciiDigit_iff_toNat.mp hc
      simp only [digitsValue, List.foldl_cons, List.foldl_nil]
      omega
    have hsplit : digitsValue (c :: ds) = digitsValue [c] * 10 ^ ds.length + digitsValue ds :=
      digitsValue_append [c] ds
    have hrest := ih hds
    rw [hsplit, List.length_cons, pow_succ]
    nlinarith

/-- A number is not written with fewer digits than it has without zeros in front. -/
theorem length_toDigits_digitsValue_le {ds : List Char} (hne : ds ≠ []) (h : ∀ c ∈ ds, c.isDigit) :
    (Nat.toDigits 10 (digitsValue ds)).length ≤ ds.length :=
  (Nat.length_toDigits_le_iff (by decide) (List.length_pos_iff.mpr hne)).mpr (digitsValue_lt_pow h)

end Text

namespace Json

/-- Values that can be read: nested no deeper than allowed, with integers that can be written and
numbers that rounding results in. -/
def Producible : (depth : Nat) → Json → Prop
  | _, null | _, bool _ | _, str _ => True
  | _, int i => Text.isWritable i
  | _, float x => x.Canonical
  | 0, arr _ | 0, obj _ => False
  | depth + 1, arr items => ∀ v ∈ items, Producible depth v
  | depth + 1, obj members => ∀ p ∈ members, Producible depth p.2

/-- The dialect reads no integer that could not be written. -/
def Dialect.Bounds (d : Dialect) : Prop :=
  ∀ negative count, d.sizeFits negative true count → count ≤ Text.maxIntegerDigits

theorem Dialect.bounds_strict : Dialect.strict.Bounds := fun _ _ h => of_decide_eq_true h

theorem Dialect.bounds_lenient (limit : Nat) : (Dialect.lenient limit).Bounds :=
  fun _ _ h => of_decide_eq_true h

variable {d : Dialect} {limit depth : Nat}

theorem producible_int {i : Int} (h : Text.isWritable i) : (int i).Producible depth := by
  cases depth <;> exact h

theorem producible_float {x : Binary64} (h : x.Canonical) : (float x).Producible depth := by
  cases depth <;> exact h

theorem producible_str (t : WideText) : (str t).Producible depth := by
  cases depth <;> trivial

/-- Whatever is read has a property. -/
def Yields (P : Json → Prop) (r : Except JsonError (Json × Input)) : Prop :=
  ∀ v rest, r = .ok (v, rest) → P v

namespace Yields

variable {P : Json → Prop}

theorem ok {v : Json} (h : P v) (rest : Input) : Yields P (.ok (v, rest)) := by
  rintro w tail heq
  obtain ⟨rfl, -⟩ := Prod.mk.inj (Except.ok.inj heq)
  exact h

theorem error (e : JsonError) : Yields P (.error e) := by
  rintro v rest ⟨⟩

theorem bind {α : Type} {r : Except JsonError α} {f : α → Except JsonError (Json × Input)}
    (h : ∀ a, r = .ok a → Yields P (f a)) : Yields P (r >>= f) := by
  cases r with
  | error e => exact error e
  | ok a => exact h a rfl

end Yields

/-! ### Numbers and words -/

theorem isDigit_of_digit? {p : CodePoint} {c : Char} (h : digit? p = some c) : c.isDigit := by
  unfold digit? at h
  split at h
  · split at h
    · next hdigit =>
      obtain rfl := Option.some.inj h
      exact hdigit
    · cases h
  · cases h

theorem isDigit_digits (s : Input) : ∀ c ∈ (digits s).1, c.isDigit := by
  intro c hc
  obtain ⟨p, -, hp⟩ := List.mem_filterMap.mp hc
  exact isDigit_of_digit? hp

theorem isWritable_digitsValue {whole : List Char} (hne : whole ≠ [])
    (hdigits : ∀ c ∈ whole, c.isDigit) (hfits : whole.length ≤ Text.maxIntegerDigits)
    (negative : Bool) :
    Text.isWritable
      (if negative then -(Text.digitsValue whole : ℤ) else Text.digitsValue whole) := by
  have hlength := (Text.length_toDigits_digitsValue_le hne hdigits).trans hfits
  cases negative <;> simpa [Text.isWritable] using hlength

theorem readNumber_yields (hd : d.Bounds) (negative : Bool) (s : Input) :
    Yields (Producible depth) (readNumber d negative s) := by
  unfold readNumber
  split
  next whole afterWhole hwhole =>
  have hdigits : ∀ c ∈ whole, c.isDigit := by
    split at hwhole
    · obtain ⟨rfl, -⟩ := Prod.mk.inj hwhole
      exact List.forall_mem_singleton.mpr rfl
    · have hall := isDigit_digits s
      rwa [hwhole] at hall
  split
  · exact .error _
  next hne =>
  dsimp only
  split
  · exact .error _
  next hfits =>
  split
  · next hinteger =>
    rw [List.isEmpty_iff] at hne
    rw [hinteger] at hfits
    have hlength : whole.length ≤ Text.maxIntegerDigits := hd negative _ (by simpa using hfits)
    exact .ok (producible_int (isWritable_digitsValue hne hdigits hlength negative)) _
  · exact .ok (producible_float (Binary64.canonical_ofDecimal _ _ _)) _

theorem readWord_yields (s : Input) : Yields (Producible depth) (readWord s) := by
  unfold readWord
  dsimp only
  split
  · next r hfound =>
    obtain ⟨⟨w, v⟩, hmem, hr⟩ := List.exists_of_findSome?_eq_some hfound
    obtain ⟨rest, -, rfl⟩ := Option.map_eq_some_iff.mp hr
    have hscalars : ∀ p ∈ [("null", Json.null), ("true", .bool true), ("false", .bool false),
        ("NaN", .float .nan), ("Infinity", .float (.infinity false)),
        ("-Infinity", .float (.infinity true))], p.2.Producible depth := by
      simp only [List.forall_mem_cons, List.not_mem_nil, false_imp_iff, implies_true, and_true]
      refine ⟨?_, ?_, ?_, ?_, ?_, ?_⟩
      all_goals cases depth <;> trivial
    exact .ok (hscalars (w, v) hmem) rest
  · exact .error _

theorem readWith_yields (hd : d.Bounds) {array object : Input → Except JsonError (Json × Input)}
    (harray : ∀ rest, Yields (Producible depth) (array rest))
    (hobject : ∀ rest, Yields (Producible depth) (object rest)) (s : Input) :
    Yields (Producible depth) (readWith d array object s) := by
  unfold readWith
  split
  · exact harray _
  · exact hobject _
  · next rest =>
    cases readString d.loneSurrogates [] rest with
    | error e => exact .error e
    | ok r => exact .ok (producible_str r.1) r.2
  · exact readWord_yields _
  · exact readNumber_yields hd true _
  · split
    · exact readNumber_yields hd false _
    · exact readWord_yields _
  · exact .error _

/-! ### Containers -/

section

variable {item : Input → Except JsonError (Json × Input)}

theorem readItems_yields (hitem : ∀ s, Yields (Producible depth) (item s)) {fuel : Nat}
    {read : List Json} (hread : ∀ v ∈ read, v.Producible depth) (s : Input) :
    Yields (Producible (depth + 1)) (readItems item fuel read s) := by
  induction fuel generalizing read s with
  | zero => exact .error _
  | succ fuel ih =>
    rw [readItems]
    refine .bind fun r hr => ?_
    obtain ⟨v, rest⟩ := r
    have hitems : ∀ w ∈ v :: read, w.Producible depth :=
      List.forall_mem_cons.mpr ⟨hitem _ v rest hr, hread⟩
    dsimp only
    split
    · exact ih hitems _
    · exact .ok (fun w hw => hitems w (List.mem_reverse.mp hw)) _
    · exact .error _

theorem readArray_yields (hitem : ∀ s, Yields (Producible depth) (item s)) (s : Input) :
    Yields (Producible (depth + 1)) (readArray item s) := by
  unfold readArray
  split
  · exact .ok (List.forall_mem_nil _) _
  · exact readItems_yields hitem (List.forall_mem_nil _) _

theorem readMembers_yields (hitem : ∀ s, Yields (Producible depth) (item s)) {fuel : Nat}
    {read : List (WideText × Json)} (hread : ∀ p ∈ read, p.2.Producible depth) (s : Input) :
    Yields (Producible (depth + 1)) (readMembers d item fuel read s) := by
  induction fuel generalizing read s with
  | zero => exact .error _
  | succ fuel ih =>
    rw [readMembers]
    split
    · refine .bind fun r _ => ?_
      obtain ⟨name, afterName⟩ := r
      dsimp only
      split
      · refine .bind fun afterColon _ => ?_
        refine .bind fun r hr => ?_
        obtain ⟨v, rest⟩ := r
        have hmembers : ∀ p ∈ (name, v) :: read, p.2.Producible depth :=
          List.forall_mem_cons.mpr ⟨hitem _ v rest hr, hread⟩
        dsimp only
        split
        · exact ih hmembers _
        · exact .ok (fun p hp => hmembers p (List.mem_reverse.mp hp)) _
        · exact .error _
      · exact .error _
    · exact .error _

theorem readObject_yields (hitem : ∀ s, Yields (Producible depth) (item s)) (s : Input) :
    Yields (Producible (depth + 1)) (readObject d item s) := by
  unfold readObject
  split
  · exact .ok (List.forall_mem_nil _) _
  · exact readMembers_yields hitem (List.forall_mem_nil _) _

end

theorem refuse_yields (P : Json → Prop) (inArray : Bool) (s : Input) :
    Yields P (refuse inArray s) :=
  .error _

/-- An empty container that does not count may stand at a level of its own. -/
theorem readValue_yields (hd : d.Bounds) (depth : Nat) (s : Input) :
    Yields (Producible (depth + (!d.countsEmpty).toNat)) (readValue d depth s) := by
  induction depth generalizing s with
  | zero =>
    unfold readValue
    split
    · exact readWith_yields hd (refuse_yields _ true) (refuse_yields _ false) s
    · next hempty =>
      rw [Bool.not_eq_true] at hempty
      rw [hempty]
      exact readWith_yields hd (readArray_yields (refuse_yields (Producible 0) true))
        (readObject_yields (refuse_yields (Producible 0) false)) s
  | succ depth ih =>
    rw [Nat.add_right_comm]
    exact readWith_yields hd (readArray_yields ih) (readObject_yields ih) s

theorem producible_of_read (hd : d.Bounds) {s : Input} {v : Json} (h : read d s = .ok v) :
    v.Producible (d.maxDepth + (!d.countsEmpty).toNat) := by
  unfold read at h
  cases hr : readValue d d.maxDepth (skipSpace s) with
  | error e =>
    rw [hr] at h
    cases h
  | ok r =>
    obtain ⟨u, rest⟩ := r
    have hu := readValue_yields hd d.maxDepth _ u rest hr
    rw [hr] at h
    dsimp only [bind, Except.bind] at h
    split at h
    · obtain rfl := Except.ok.inj h
      exact hu
    · cases h

theorem producible_of_readStrict {bs : List UInt8} {v : Json} (h : readStrict bs = .ok v) :
    v.Producible (Dialect.strict.maxDepth + 1) := by
  unfold readStrict at h
  split at h
  · cases h
  · exact producible_of_read Dialect.bounds_strict h

/-! ### Merging -/

/-- A member that is left after merging is one of the members, merged itself. -/
theorem exists_of_mem_merged {members : List (WideText × Json)} {q : WideText × Json}
    (hq : q ∈ Table.ofPairs (mergedMembers members)) : ∃ p ∈ members, q = (p.1, p.2.merged) := by
  obtain ⟨before, after, hpairs, -⟩ := Table.mem_ofPairs hq
  have hmem : q ∈ mergedMembers members := by
    rw [hpairs]
    exact List.mem_append_right before List.mem_cons_self
  rw [mergedMembers_eq_map] at hmem
  obtain ⟨p, hp, rfl⟩ := List.mem_map.mp hmem
  exact ⟨p, hp, rfl⟩

theorem Producible.merged {v : Json} (h : v.Producible depth) : v.merged.Producible depth := by
  induction depth generalizing v with
  | zero =>
    cases v with
    | arr items => exact h.elim
    | obj members => exact h.elim
    | _ => exact h
  | succ depth ih =>
    cases v with
    | arr items =>
      rw [Json.merged, mergedItems_eq_map]
      exact List.forall_mem_map.mpr fun w hw => ih (h w hw)
    | obj members =>
      intro q hq
      obtain ⟨p, hp, rfl⟩ := exists_of_mem_merged hq
      exact ih (h p hp)
    | _ => exact h

/-- Merging leaves nothing to merge. -/
theorem Producible.merged_merged {v : Json} (h : v.Producible depth) :
    v.merged.merged = v.merged := by
  induction depth generalizing v with
  | zero =>
    cases v with
    | arr items => exact h.elim
    | obj members => exact h.elim
    | _ => rfl
  | succ depth ih =>
    cases v with
    | arr items =>
      have hitems : ∀ w ∈ items, w.merged.merged = w.merged := fun w hw => ih (h w hw)
      rw [Json.merged, Json.merged, mergedItems_eq_map, mergedItems_eq_map, List.map_map]
      exact congrArg arr (List.map_congr_left hitems)
    | obj members =>
      have hkept : mergedMembers (Table.ofPairs (mergedMembers members)) =
          Table.ofPairs (mergedMembers members) := by
        have hmembers : ∀ q ∈ Table.ofPairs (mergedMembers members), (q.1, q.2.merged) = q := by
          intro q hq
          obtain ⟨p, hp, rfl⟩ := exists_of_mem_merged hq
          rw [ih (h p hp)]
        rw [mergedMembers_eq_map (Table.ofPairs _), List.map_congr_left hmembers, List.map_id']
      rw [Json.merged, Json.merged, hkept, Table.ofPairs_of_distinct (Table.distinct_ofPairs _)]
    | _ => rfl

/-! ### Documents -/

/-- In no text of the value a half of a pair stands in front of its other half. -/
inductive Unpaired : Json → Prop
  | null : Unpaired .null
  | bool (b : Bool) : Unpaired (.bool b)
  | int (i : Int) : Unpaired (.int i)
  | float (x : Binary64) : Unpaired (.float x)
  | str {t : WideText} (h : t.Unpaired) : Unpaired (.str t)
  | arr {items : List Json} (h : ∀ v ∈ items, Unpaired v) : Unpaired (.arr items)
  | obj {members : List (WideText × Json)} (hnames : ∀ p ∈ members, p.1.Unpaired)
      (hvalues : ∀ p ∈ members, Unpaired p.2) : Unpaired (.obj members)

theorem quotesBack_of_unpaired {t : WideText} (h : t.Unpaired) :
    QuotesBack .readable (.lenient limit) t :=
  readString_unpaired h []

theorem Producible.printable {v : Json} (h : v.Producible depth) (hv : v.Unpaired) :
    v.Printable .readable (.lenient limit) depth := by
  induction depth generalizing v with
  | zero =>
    cases hv with
    | float x => exact ⟨readsFractions_lenient limit, h⟩
    | str ht => exact quotesBack_of_unpaired ht
    | arr _ => exact h
    | obj _ _ => exact h
    | _ => trivial
  | succ depth ih =>
    cases hv with
    | float x => exact ⟨readsFractions_lenient limit, h⟩
    | str ht => exact quotesBack_of_unpaired ht
    | arr hitems => exact fun w hw => ih (h w hw) (hitems w hw)
    | obj hnames hvalues =>
      exact fun p hp => ⟨quotesBack_of_unpaired (hnames p hp), ih (h p hp) (hvalues p hp)⟩
    | _ => trivial

theorem Producible.refused?_eq_none {v : Json} (h : v.Producible depth) :
    refused? (.lenient limit) v = none := by
  induction depth generalizing v with
  | zero =>
    cases v with
    | int i => exact refused?_int_eq_none.mpr h
    | arr items => exact h.elim
    | obj members => exact h.elim
    | _ => rfl
  | succ depth ih =>
    cases v with
    | int i => exact refused?_int_eq_none.mpr h
    | arr items =>
      rw [refused?]
      exact refusedItem?_eq_none.mpr fun w hw => ih (h w hw)
    | obj members =>
      rw [refused?]
      exact refusedMember?_eq_none.mpr fun p hp => ih (h p hp)
    | _ => rfl

theorem exists_of_readLenient {bs : List UInt8} {v : Json} (h : readLenient limit bs = .ok v) :
    ∃ text u, decode bs = .ok text ∧ read (.lenient limit) text = .ok u ∧ v = u.merged := by
  unfold readLenient at h
  cases hdecode : decode bs with
  | error e =>
    rw [hdecode] at h
    cases h
  | ok text =>
    rw [hdecode] at h
    cases hread : read (.lenient limit) text with
    | error e =>
      dsimp only [Except.mapError, bind, Except.bind] at h
      rw [hread] at h
      cases h
    | ok u =>
      dsimp only [Except.mapError, bind, Except.bind] at h
      rw [hread] at h
      exact ⟨text, u, rfl, hread, (Except.ok.inj h).symm⟩

/-- A document that has been read is read again as itself when it is printed on lines of its own. -/
theorem readLenient_printed {bs : List UInt8} {v : Json} (h : readLenient limit bs = .ok v)
    (hv : v.Unpaired) :
    readLenient limit (Utf8.encode (printAscii .readable v ++ "\n")) = .ok v := by
  obtain ⟨text, u, -, hread, rfl⟩ := exists_of_readLenient h
  have hu : u.Producible limit := producible_of_read (Dialect.bounds_lenient limit) hread
  have hgap : Blank (WideText.ofChars ['\n']) := List.forall_mem_singleton.mpr rfl
  have hascii : ∀ c ∈ ['\n'], InAscii c := inAscii_of_all (by decide)
  have hstyle : Style.readable.asciiOnly = true := rfl
  have hback := readLenient_printAscii_append hstyle (hu.merged.printable hv) hgap hascii
  rw [hu.merged.refused?_eq_none, hu.merged_merged] at hback
  exact hback

end Json
end ClusterAgent
