import ClusterAgent.Proofs.MessagePack.Container

/-! Whole documents of MessagePack. A written document reads back as its value, no part of it is
read as a document of its own, nothing may follow it, and whatever document is read can be
written. -/
namespace ClusterAgent.MessagePack

open Reader

/-- Containers nest at most `depth` deep, and no map repeats a key. -/
def Value.Proper : (depth : Nat) → Value → Prop
  | _, scalar _ => True
  | 0, _ => False
  | depth + 1, array items => ∀ v ∈ items, Proper depth v
  | depth + 1, map entries => Table.Distinct entries ∧ ∀ p ∈ entries, Proper depth p.2

theorem Value.proper_scalar (depth : Nat) (s : Scalar) : (scalar s).Proper depth := by
  cases depth <;> trivial

theorem readValue_takes_scalar (limits : Limits) (depth : Nat) {s : Scalar} {bytes : List UInt8}
    (h : IsForm bytes s) : (readValue limits depth).Takes bytes (.scalar s) := by
  cases depth <;> exact readWith_takes_scalar h _ _

/-- Limits that come of the size of a document, or of a longer one, hold for each of its parts. -/
theorem readValue_takes {limits : Limits} {depth : Nat} {v : Value} {bytes : List UInt8}
    (hv : v.Proper depth) (h : v.encode? = some bytes) (harray : bytes.length ≤ limits.array)
    (hmap : bytes.length / 2 ≤ limits.map) : (readValue limits depth).Takes bytes v := by
  induction depth generalizing v bytes with
  | zero =>
    cases v with
    | scalar s =>
      rw [Value.encode?] at h
      exact readValue_takes_scalar limits 0 (Scalar.encode?_isForm h)
    | array items => exact False.elim hv
    | map entries => exact False.elim hv
  | succ depth ih =>
    cases v with
    | scalar s =>
      rw [Value.encode?] at h
      exact readValue_takes_scalar limits _ (Scalar.encode?_isForm h)
    | array items =>
      obtain ⟨header, content, hheader, hcontent, rfl⟩ := Value.encode?_array_eq_some.mp h
      rw [List.length_append] at harray hmap
      -- an item takes a byte, so there are no more items than the limit allows
      have hsize := Value.length_le_of_encodeItems? hcontent
      refine arrayHeader?_takes hheader ?_
      unfold readArray
      rw [if_neg (by omega)]
      refine (readItems_takes hcontent fun w hw first hfirst hlen => ?_).bind_pure _
      exact ih (hv w hw) hfirst (by omega) (by omega)
    | map entries =>
      obtain ⟨header, content, hheader, hcontent, rfl⟩ := Value.encode?_map_eq_some.mp h
      rw [List.length_append] at harray hmap
      -- and an entry takes two
      have hsize := Value.length_le_of_encodeEntries? hcontent
      refine mapHeader?_takes hheader ?_
      unfold readMap
      rw [if_neg (by omega)]
      have hkeys : Table.Distinct ([] ++ entries) := by simpa using hv.1
      refine (readEntries_takes hcontent hkeys ?_ ?_).bind_pure _
      · exact fun s cs hs => readValue_takes_scalar limits depth hs
      · exact fun p hp first hfirst hlen => ih (hv.2 p hp) hfirst (by omega) (by omega)

/-- What is read nests no deeper than allowed, repeats no key, and can be written. -/
theorem readValue_yields (limits : Limits) (depth : Nat) :
    (readValue limits depth).Yields fun v => v.Proper depth ∧ v.encode?.isSome := by
  have hscalar : ∀ (depth : Nat) (s : Scalar), s.Storable →
      (Value.scalar s).Proper depth ∧ (Value.scalar s).encode?.isSome := by
    intro depth s hs
    refine ⟨Value.proper_scalar depth s, ?_⟩
    rw [Value.encode?]
    exact (Scalar.isSome_encode?_iff s).mpr hs
  induction depth with
  | zero => exact readWith_yields (hscalar 0) (fun _ _ => .throw _) (fun _ _ => .throw _)
  | succ depth ih =>
    refine readWith_yields (hscalar (depth + 1)) ?_ ?_
    · intro n hn
      unfold readArray
      split
      · exact .throw _
      · refine (readItems_yields ih n).bind fun items hitems => .pure ⟨?_, ?_⟩
        · exact fun v hv => (hitems.2 v hv).1
        · have hlen : items.length < 0x100000000 := hitems.1.trans_lt hn
          exact (Value.isSome_encode?_array_iff items).mpr
            ⟨hlen, fun v hv => (hitems.2 v hv).2⟩
    · intro n hn
      unfold readMap
      split
      · exact .throw _
      · refine (readEntries_yields ih (fun v hv => hv.2) n List.Pairwise.nil (by simp)).bind ?_
        intro entries hread
        obtain ⟨hcount, hkeys, hentries⟩ := hread
        rw [List.length_nil] at hcount
        have hlen : entries.length < 0x100000000 := by omega
        refine .pure ⟨⟨hkeys, fun p hp => (hentries p hp).2.1⟩, ?_⟩
        exact (Value.isSome_encode?_map_iff entries).mpr
          ⟨hlen, fun p hp => ⟨(hentries p hp).1, (hentries p hp).2.2⟩⟩

/-- With wider limits a longer input reads the same, unless the shorter one was cut off. -/
theorem readValue_extends {limits wide : Limits} (harray : limits.array ≤ wide.array)
    (hmap : limits.map ≤ wide.map) (depth : Nat) :
    (readValue limits depth).Extends (readValue wide depth) := by
  induction depth with
  | zero => exact readWith_extends (fun _ => .throw _) (fun _ => .throw _)
  | succ depth ih =>
    refine readWith_extends (fun n => ?_) (fun n => ?_)
    · unfold readArray
      by_cases h : limits.array < n
      · rw [if_pos h]
        exact .shortage rfl _
      · rw [if_neg h, if_neg (by omega)]
        exact (readItems_extends ih n).bind fun items => .pure _
    · unfold readMap
      by_cases h : limits.map < n
      · rw [if_pos h]
        exact .shortage rfl _
      · rw [if_neg h, if_neg (by omega)]
        exact (readEntries_extends ih n []).bind fun entries => .pure _

theorem Limits.ofSize_mono {m n : Nat} (h : m ≤ n) :
    (ofSize m).array ≤ (ofSize n).array ∧ (ofSize m).map ≤ (ofSize n).map :=
  ⟨h, Nat.div_le_div_right h⟩

theorem decode_of_ok {document rest : List UInt8} {v : Value}
    (h : readValue (.ofSize document.length) maxDepth document = .ok (v, rest)) :
    decode document = if rest.isEmpty then .ok v else .error .extraData := by
  unfold decode
  rw [h]
  rfl

theorem decode_of_error {document : List UInt8} {e : ReadError}
    (h : readValue (.ofSize document.length) maxDepth document = .error e) :
    decode document = .error e := by
  unfold decode
  rw [h]
  rfl

/-- The value at the head of a written document, read under the limits of the whole. -/
theorem readValue_document {v : Value} {bytes : List UInt8} (hv : v.Proper maxDepth)
    (h : v.encode? = some bytes) (more : List UInt8) :
    readValue (.ofSize (bytes ++ more).length) maxDepth (bytes ++ more) = .ok (v, more) := by
  have hlimits := Limits.ofSize_mono (List.prefix_append bytes more).length_le
  exact readValue_takes hv h hlimits.1 hlimits.2 more

theorem decode_encode? {v : Value} {bytes : List UInt8} (hv : v.Proper maxDepth)
    (h : v.encode? = some bytes) : decode bytes = .ok v := by
  have hread := readValue_document hv h []
  rw [List.append_nil] at hread
  rw [decode_of_ok hread]
  rfl

theorem decode_append {v : Value} {bytes more : List UInt8} (hv : v.Proper maxDepth)
    (h : v.encode? = some bytes) (hmore : more ≠ []) :
    decode (bytes ++ more) = .error .extraData := by
  rw [decode_of_ok (readValue_document hv h more)]
  exact if_neg (by simpa using hmore)

/-- A cut document runs short: its own limits are narrower than those of the whole, and under them
no reading of a part goes on to the end of the whole. -/
theorem decode_cut {v : Value} {bytes more : List UInt8} (hv : v.Proper maxDepth)
    (h : v.encode? = some (bytes ++ more)) (hmore : more ≠ []) :
    ∃ e, decode bytes = .error e ∧ e.isShortage = true := by
  have hwhole := readValue_document hv h []
  rw [List.append_nil] at hwhole
  have hlimits := Limits.ofSize_mono (List.prefix_append bytes more).length_le
  have hextends : (readValue (.ofSize bytes.length) maxDepth).Extends
      (readValue (.ofSize (bytes ++ more).length) maxDepth) :=
    readValue_extends hlimits.1 hlimits.2 maxDepth
  cases hread : readValue (.ofSize bytes.length) maxDepth bytes with
  | ok p =>
    have := hextends.ok _ _ _ hread more
    rw [hwhole] at this
    have hrest : p.2 ++ more = [] := (congrArg Prod.snd (Except.ok.inj this)).symm
    exact absurd (List.append_eq_nil_iff.mp hrest).2 hmore
  | error e =>
    refine ⟨e, decode_of_error hread, ?_⟩
    by_contra hs
    have := hextends.error _ _ hread (by simpa using hs) more
    rw [hwhole] at this
    cases this

/-- Whatever document is read can be written. -/
theorem decode_yields {document : List UInt8} {v : Value} (h : decode document = .ok v) :
    v.Proper maxDepth ∧ v.encode?.isSome := by
  cases hread : readValue (.ofSize document.length) maxDepth document with
  | error e =>
    rw [decode_of_error hread] at h
    cases h
  | ok p =>
    rw [decode_of_ok hread] at h
    split_ifs at h
    obtain rfl := Except.ok.inj h
    exact readValue_yields _ _ _ _ _ hread

end ClusterAgent.MessagePack
