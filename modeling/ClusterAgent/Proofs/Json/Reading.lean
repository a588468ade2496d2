import ClusterAgent.Json.Encoding
import ClusterAgent.Proofs.Json.Document

/-! What a reader can come to, whatever the text. It leaves a part of the text; it makes up no
surrogates unless its dialect lets escapes name them; and it finds a text nested too deeply only
when the text opens more brackets than may be nested. -/
namespace ClusterAgent

namespace Json

/-- No text of the value has a surrogate. -/
inductive Whole : Json → Prop
  | null : Whole .null
  | bool (b : Bool) : Whole (.bool b)
  | int (i : Int) : Whole (.int i)
  | float (x : Binary64) : Whole (.float x)
  | str {t : WideText} (h : t.Whole) : Whole (.str t)
  | arr {items : List Json} (h : ∀ v ∈ items, Whole v) : Whole (.arr items)
  | obj {members : List (WideText × Json)} (hnames : ∀ p ∈ members, p.1.Whole)
      (hvalues : ∀ p ∈ members, Whole p.2) : Whole (.obj members)

/-- The members of an object without surrogates have none. -/
theorem Whole.of_member? {members : List (WideText × Json)} (h : Whole (.obj members))
    {name : String} {v : Json} (hv : member? members name = some v) : v.Whole := by
  obtain ⟨p, hp, rfl⟩ := Option.map_eq_some_iff.mp hv
  cases h with
  | obj _ hvalues => exact hvalues p (List.mem_reverse.mp (List.mem_of_find?_eq_some hp))

/-- How many brackets and braces a text opens. -/
def openings (s : Input) : Nat := s.countP fun p => p == .char '[' || p == .char '\x7b'

theorem openings_le_of_suffix {s t : Input} (h : s <:+ t) : openings s ≤ openings t :=
  h.sublist.countP_le

variable {d : Dialect} {needed : Nat}

/-- What reading a value from a text, or from a part of it, can come to. A text that nests too
deeply has at least so many openings as `needed` says. -/
structure ReadsFrom (d : Dialect) (needed : Nat) (s : Input)
    (r : Except JsonError (Json × Input)) : Prop where
  suffix : ∀ v rest, r = .ok (v, rest) → rest <:+ s
  whole : d.loneSurrogates = false → s.Whole → ∀ v rest, r = .ok (v, rest) → v.Whole
  deep : ∀ inArray, r = .error (.tooDeep inArray) → needed ≤ openings s

namespace ReadsFrom

theorem ok {s rest : Input} {v : Json} (hrest : rest <:+ s)
    (hv : d.loneSurrogates = false → s.Whole → v.Whole) : ReadsFrom d needed s (.ok (v, rest)) := by
  refine ⟨?_, ?_, nofun⟩
  · rintro v rest ⟨⟩
    exact hrest
  · rintro hd hs v rest ⟨⟩
    exact hv hd hs

theorem malformed (s : Input) : ReadsFrom d needed s (.error .malformed) := ⟨nofun, nofun, nofun⟩

theorem tooManyDigits (s : Input) (count : Nat) :
    ReadsFrom d needed s (.error (.tooManyDigits count)) := ⟨nofun, nofun, nofun⟩

/-- What can be read from a part of a text can be read from the text. -/
theorem mono {s t : Input} {r : Except JsonError (Json × Input)} (h : ReadsFrom d needed s r)
    (hst : s <:+ t) : ReadsFrom d needed t r where
  suffix v rest hr := (h.suffix v rest hr).trans hst
  whole hd ht := h.whole hd (ht.of_suffix hst)
  deep inArray hr := (h.deep inArray hr).trans (openings_le_of_suffix hst)

/-- An opening bracket makes up for one more level. -/
theorem opening {s : Input} {r : Except JsonError (Json × Input)} (h : ReadsFrom d needed s r)
    {p : CodePoint} (hp : p = .char '[' ∨ p = .char '\x7b') :
    ReadsFrom d (needed + 1) (p :: s) r := by
  have hcount : openings (p :: s) = openings s + 1 := by
    unfold openings
    rw [List.countP_cons_of_pos]
    simpa using hp
  have hs : ReadsFrom d needed (p :: s) r := h.mono (List.suffix_cons p s)
  refine ⟨hs.suffix, hs.whole, fun inArray hr => ?_⟩
  have hdeep := h.deep inArray hr
  omega

end ReadsFrom

/-! ### Texts -/

theorem skipSpace_suffix (s : Input) : skipSpace s <:+ s := List.dropWhile_suffix _

theorem readString_suffix {lone : Bool} {read s t rest : WideText}
    (h : readString lone read s = .ok (t, rest)) : rest <:+ s := by
  fun_induction readString lone read s with
  | case1 read tail =>
    obtain ⟨-, rfl⟩ := Prod.mk.inj (Except.ok.inj h)
    exact List.suffix_cons _ _
  | case4 read a b c d u _ _ a' b' c' d' tail v _ _ ih =>
    exact (ih h).trans (List.suffix_append [_, _, _, _, _, _, _, _, _, _, _, _] tail)
  | case5 read a b c d u _ _ a' b' c' d' tail v _ _ _ ih =>
    exact (ih h).trans (List.suffix_append [_, _, _, _, _, _] _)
  | case7 read a b c d u _ _ tail _ _ ih =>
    exact (ih h).trans (List.suffix_append [_, _, _, _, _, _] tail)
  | case10 read a b c d tail u _ _ _ ih =>
    exact (ih h).trans (List.suffix_append [_, _, _, _, _, _] tail)
  | case11 read e tail _ c _ ih => exact (ih h).trans (List.suffix_append [_, _] tail)
  | case14 read p tail _ _ _ _ ih => exact (ih h).trans (List.suffix_cons p tail)
  | _ => cases h

theorem readString_error {lone : Bool} {read s : WideText} {e : JsonError}
    (h : readString lone read s = .error e) : e = .malformed := by
  fun_induction readString lone read s with
  | case1 => cases h
  | case4 _ _ _ _ _ _ _ _ _ _ _ _ _ _ _ _ ih => exact ih h
  | case5 _ _ _ _ _ _ _ _ _ _ _ _ _ _ _ _ _ ih => exact ih h
  | case7 _ _ _ _ _ _ _ _ _ _ _ ih => exact ih h
  | case10 _ _ _ _ _ _ _ _ _ _ ih => exact ih h
  | case11 _ _ _ _ _ _ ih => exact ih h
  | case14 _ _ _ _ _ _ _ ih => exact ih h
  | _ => exact (Except.error.inj h).symm

theorem whole_ofNat? {n : Nat} (h : ¬ (0xD800 ≤ n ∧ n < 0xE000)) :
    WideText.Whole (CodePoint.ofNat? n).toList := by
  unfold CodePoint.ofNat?
  rw [if_neg h]
  split
  · exact WideText.whole_ofChars [Char.ofNat n]
  · exact WideText.whole_ofChars []

/-- Without leave for lone surrogates, the text read has only those that stand in the input. -/
theorem readString_whole {lone : Bool} {read s t rest : WideText} (hlone : lone = false)
    (hread : read.Whole) (hs : s.Whole) (h : readString lone read s = .ok (t, rest)) :
    t.Whole := by
  fun_induction readString lone read s with
  | case1 read tail =>
    obtain ⟨rfl, -⟩ := Prod.mk.inj (Except.ok.inj h)
    exact fun p hp => hread p (List.mem_reverse.mp hp)
  | case4 read a b c d u _ _ a' b' c' d' tail v _ _ ih =>
    have htail := hs.of_suffix (List.suffix_append [_, _, _, _, _, _, _, _, _, _, _, _] tail)
    exact ih (WideText.whole_cons rfl hread) htail h
  | case5 _ _ _ _ _ _ _ _ _ _ _ _ _ _ _ _ htrue =>
    rw [hlone] at htrue
    cases htrue
  | case7 _ _ _ _ _ _ _ _ _ _ htrue =>
    rw [hlone] at htrue
    cases htrue
  | case10 read a b c d tail u _ hhigh hlow ih =>
    have hu : ¬ (0xD800 ≤ u ∧ u < 0xE000) := by
      rw [hlone] at hlow
      simp [isHigh, isLow] at hhigh hlow
      omega
    have htail := hs.of_suffix (List.suffix_append [_, _, _, _, _, _] tail)
    exact ih ((whole_ofNat? hu).append hread) htail h
  | case11 read e tail _ c _ ih =>
    have htail := hs.of_suffix (List.suffix_append [_, _] tail)
    exact ih (WideText.whole_cons rfl hread) htail h
  | case14 read p tail _ _ _ _ ih =>
    obtain ⟨hp, htail⟩ := List.forall_mem_cons.mp hs
    exact ih (WideText.whole_cons hp hread) htail h
  | _ => cases h

/-- What stands between quotes is a part of the text around it. -/
theorem readString_readsFrom {quoted t name rest : WideText} (hquoted : quoted <:+ t)
    (h : readString d.loneSurrogates [] quoted = .ok (name, rest)) :
    rest <:+ t ∧ (d.loneSurrogates = false → t.Whole → name.Whole) :=
  ⟨(readString_suffix h).trans hquoted, fun hd ht =>
    readString_whole hd (WideText.whole_ofChars []) (ht.of_suffix hquoted) h⟩

/-! ### Numbers and words -/

theorem digits_suffix (s : Input) : (digits s).2 <:+ s := List.dropWhile_suffix _

theorem readFraction_suffix (s : Input) : (readFraction s).2 <:+ s := by
  unfold readFraction
  split
  · next rest =>
    have hrest := (digits_suffix rest).trans (List.suffix_cons (.char '.') rest)
    split
    · exact List.suffix_rfl
    · next hdigits =>
      rw [hdigits] at hrest
      exact hrest
  · exact List.suffix_rfl

theorem readExponent_suffix (s : Input) : (readExponent s).2 <:+ s := by
  unfold readExponent
  split
  · next e rest =>
    split
    · split
      next negative unsigned hsign =>
      have hunsigned : unsigned <:+ rest := by
        split at hsign
        · obtain ⟨-, rfl⟩ := Prod.mk.inj hsign
          exact List.suffix_cons _ _
        · obtain ⟨-, rfl⟩ := Prod.mk.inj hsign
          exact List.suffix_cons _ _
        · obtain ⟨-, rfl⟩ := Prod.mk.inj hsign
          exact List.suffix_rfl
      have hrest :=
        ((digits_suffix unsigned).trans hunsigned).trans (List.suffix_cons (.char e) rest)
      split
      · exact List.suffix_rfl
      · next hdigits =>
        rw [hdigits] at hrest
        exact hrest
    · exact List.suffix_rfl
  · exact List.suffix_rfl

theorem readNumber_readsFrom (negative : Bool) (s : Input) :
    ReadsFrom d needed s (readNumber d negative s) := by
  unfold readNumber
  split
  next whole afterWhole hwhole =>
  have hafter : afterWhole <:+ s := by
    split at hwhole
    · next rest =>
      obtain ⟨-, rfl⟩ := Prod.mk.inj hwhole
      exact List.suffix_cons _ rest
    · have hdigits := digits_suffix s
      rw [hwhole] at hdigits
      exact hdigits
  have hrest := ((readExponent_suffix (readFraction afterWhole).2).trans
    (readFraction_suffix afterWhole)).trans hafter
  split
  · exact .malformed s
  · dsimp only
    split
    · exact .tooManyDigits s _
    · split
      · exact .ok hrest fun _ _ => .int _
      · exact .ok hrest fun _ _ => .float _

theorem word?_suffix {w : String} {s rest : Input} (h : word? w s = some rest) : rest <:+ s := by
  unfold word? at h
  split at h
  · obtain rfl := Option.some.inj h
    exact List.drop_suffix _ _
  · cases h

theorem readWord_readsFrom (s : Input) : ReadsFrom d needed s (readWord s) := by
  unfold readWord
  dsimp only
  split
  · next r hfound =>
    obtain ⟨⟨w, v⟩, hmem, hr⟩ := List.exists_of_findSome?_eq_some hfound
    obtain ⟨rest, hrest, rfl⟩ := Option.map_eq_some_iff.mp hr
    refine .ok (word?_suffix hrest) fun _ _ => ?_
    have hscalars : ∀ p ∈ [("null", Json.null), ("true", .bool true), ("false", .bool false),
        ("NaN", .float .nan), ("Infinity", .float (.infinity false)),
        ("-Infinity", .float (.infinity true))], p.2.Whole := by
      simp only [List.forall_mem_cons, List.not_mem_nil, false_imp_iff, implies_true, and_true]
      exact ⟨.null, .bool _, .bool _, .float _, .float _, .float _⟩
    exact hscalars (w, v) hmem
  · exact .malformed s

theorem readWith_readsFrom {array object : Input → Except JsonError (Json × Input)}
    (harray : ∀ rest, ReadsFrom d needed (.char '[' :: rest) (array rest))
    (hobject : ∀ rest, ReadsFrom d needed (.char '\x7b' :: rest) (object rest)) (s : Input) :
    ReadsFrom d needed s (readWith d array object s) := by
  unfold readWith
  split
  · exact harray _
  · exact hobject _
  · next rest =>
    cases hr : readString d.loneSurrogates [] rest with
    | error e =>
      obtain rfl := readString_error hr
      exact .malformed _
    | ok r =>
      obtain ⟨t, tail⟩ := r
      obtain ⟨htail, ht⟩ := readString_readsFrom (List.suffix_cons (.char '"') rest) hr
      exact .ok htail fun hd hs => .str (ht hd hs)
  · exact readWord_readsFrom _
  · exact (readNumber_readsFrom true _).mono (List.suffix_cons _ _)
  · split
    · exact readNumber_readsFrom false _
    · exact readWord_readsFrom _
  · exact .malformed _

/-! ### Containers -/

theorem readItems_readsFrom {item : Input → Except JsonError (Json × Input)}
    (hitem : ∀ s, ReadsFrom d needed s (item s)) {t : Input} {fuel : Nat} {read : List Json}
    (hread : d.loneSurrogates = false → t.Whole → ∀ v ∈ read, v.Whole) {s : Input} (hs : s <:+ t) :
    ReadsFrom d needed t (readItems item fuel read s) := by
  induction fuel generalizing read s with
  | zero => exact .malformed t
  | succ fuel ih =>
    have hvalue := (hitem (skipSpace s)).mono ((skipSpace_suffix s).trans hs)
    rw [readItems]
    cases hr : item (skipSpace s) with
    | error e =>
      rw [hr] at hvalue
      exact hvalue
    | ok r =>
      obtain ⟨v, rest⟩ := r
      have hrest : skipSpace rest <:+ t := (skipSpace_suffix rest).trans (hvalue.suffix v rest hr)
      have hitems : d.loneSurrogates = false → t.Whole → ∀ w ∈ v :: read, w.Whole :=
        fun hd ht => List.forall_mem_cons.mpr ⟨hvalue.whole hd ht v rest hr, hread hd ht⟩
      dsimp only [bind, Except.bind]
      split
      · next tail hnext =>
        rw [hnext] at hrest
        exact ih hitems ((List.suffix_cons _ tail).trans hrest)
      · next tail hclose =>
        rw [hclose] at hrest
        refine .ok ((List.suffix_cons _ tail).trans hrest) fun hd ht => .arr fun w hw => ?_
        exact hitems hd ht w (List.mem_reverse.mp hw)
      · exact .malformed t

theorem readMembers_readsFrom {item : Input → Except JsonError (Json × Input)}
    (hitem : ∀ s, ReadsFrom d needed s (item s)) {t : Input} {fuel : Nat}
    {read : List (WideText × Json)}
    (hread : d.loneSurrogates = false → t.Whole → ∀ p ∈ read, p.1.Whole ∧ p.2.Whole) {s : Input}
    (hs : s <:+ t) : ReadsFrom d needed t (readMembers d item fuel read s) := by
  induction fuel generalizing read s with
  | zero => exact .malformed t
  | succ fuel ih =>
    have hstart := (skipSpace_suffix s).trans hs
    rw [readMembers]
    split
    · next quoted hquote =>
      rw [hquote] at hstart
      have hquoted := (List.suffix_cons _ quoted).trans hstart
      cases hname : readString d.loneSurrogates [] quoted with
      | error e =>
        obtain rfl := readString_error hname
        exact .malformed t
      | ok r =>
        obtain ⟨name, afterName⟩ := r
        obtain ⟨hrest, hwhole⟩ := readString_readsFrom hquoted hname
        have hafter := (skipSpace_suffix afterName).trans hrest
        dsimp only [bind, Except.bind]
        split
        · next afterColon hcolon =>
          rw [hcolon] at hafter
          have hvalue := (hitem (skipSpace afterColon)).mono ((skipSpace_suffix afterColon).trans
            ((List.suffix_cons _ afterColon).trans hafter))
          dsimp only [pure, Except.pure]
          cases hr : item (skipSpace afterColon) with
          | error e =>
            rw [hr] at hvalue
            exact hvalue
          | ok r =>
            obtain ⟨v, rest⟩ := r
            have hrest : skipSpace rest <:+ t :=
              (skipSpace_suffix rest).trans (hvalue.suffix v rest hr)
            have hmembers : d.loneSurrogates = false → t.Whole →
                ∀ p ∈ (name, v) :: read, p.1.Whole ∧ p.2.Whole := fun hd ht =>
              List.forall_mem_cons.mpr
                ⟨⟨hwhole hd ht, hvalue.whole hd ht v rest hr⟩, hread hd ht⟩
            dsimp only
            split
            · next tail hnext =>
              rw [hnext] at hrest
              exact ih hmembers ((List.suffix_cons _ tail).trans hrest)
            · next tail hclose =>
              rw [hclose] at hrest
              have hall : d.loneSurrogates = false → t.Whole →
                  ∀ p ∈ ((name, v) :: read).reverse, p.1.Whole ∧ p.2.Whole :=
                fun hd ht p hp => hmembers hd ht p (List.mem_reverse.mp hp)
              exact .ok ((List.suffix_cons _ tail).trans hrest) fun hd ht =>
                .obj (fun p hp => (hall hd ht p hp).1) (fun p hp => (hall hd ht p hp).2)
            · exact .malformed t
        · exact .malformed t
    · exact .malformed t

theorem readArray_readsFrom {item : Input → Except JsonError (Json × Input)}
    (hitem : ∀ s, ReadsFrom d needed s (item s)) (s : Input) :
    ReadsFrom d needed s (readArray item s) := by
  have hskip := skipSpace_suffix s
  unfold readArray
  split
  · next rest hclose =>
    rw [hclose] at hskip
    exact .ok ((List.suffix_cons _ rest).trans hskip) fun _ _ => .arr (by simp)
  · exact readItems_readsFrom hitem (by simp) hskip

theorem readObject_readsFrom {item : Input → Except JsonError (Json × Input)}
    (hitem : ∀ s, ReadsFrom d needed s (item s)) (s : Input) :
    ReadsFrom d needed s (readObject d item s) := by
  have hskip := skipSpace_suffix s
  unfold readObject
  split
  · next rest hclose =>
    rw [hclose] at hskip
    exact .ok ((List.suffix_cons _ rest).trans hskip) fun _ _ => .obj (by simp) (by simp)
  · exact readMembers_readsFrom hitem (by simp) hskip

theorem refuse_readsFrom (inArray : Bool) (s : Input) : ReadsFrom d 0 s (refuse inArray s) :=
  ⟨nofun, nofun, fun _ _ => Nat.zero_le _⟩

theorem readValue_readsFrom (d : Dialect) (depth : Nat) (s : Input) :
    ReadsFrom d (depth + 1) s (readValue d depth s) := by
  induction depth generalizing s with
  | zero =>
    unfold readValue
    split
    · refine readWith_readsFrom (fun rest => ?_) (fun rest => ?_) s
      · exact (refuse_readsFrom true rest).opening (.inl rfl)
      · exact (refuse_readsFrom false rest).opening (.inr rfl)
    · refine readWith_readsFrom (fun rest => ?_) (fun rest => ?_) s
      · exact (readArray_readsFrom (refuse_readsFrom true) rest).opening (.inl rfl)
      · exact (readObject_readsFrom (refuse_readsFrom false) rest).opening (.inr rfl)
  | succ depth ih =>
    refine readWith_readsFrom (fun rest => ?_) (fun rest => ?_) s
    · exact (readArray_readsFrom ih rest).opening (.inl rfl)
    · exact (readObject_readsFrom ih rest).opening (.inr rfl)

/-! ### Documents -/

theorem whole_of_read {s : WideText} {v : Json} (hd : d.loneSurrogates = false) (hs : s.Whole)
    (h : read d s = .ok v) : v.Whole := by
  have hvalue := (readValue_readsFrom d d.maxDepth (skipSpace s)).whole hd
    (hs.of_suffix (skipSpace_suffix s))
  unfold read at h
  cases hr : readValue d d.maxDepth (skipSpace s) with
  | error e =>
    rw [hr] at h
    cases h
  | ok r =>
    obtain ⟨u, rest⟩ := r
    rw [hr] at h
    dsimp only [bind, Except.bind] at h
    split at h
    · obtain rfl := Except.ok.inj h
      exact hvalue u rest hr
    · cases h

theorem maxDepth_lt_openings {s : WideText} {inArray : Bool}
    (h : read d s = .error (.tooDeep inArray)) : d.maxDepth < openings s := by
  have hdeep := (readValue_readsFrom d d.maxDepth (skipSpace s)).deep
  unfold read at h
  cases hr : readValue d d.maxDepth (skipSpace s) with
  | error e =>
    rw [hr] at h
    obtain rfl := Except.error.inj h
    exact (hdeep inArray hr).trans (openings_le_of_suffix (skipSpace_suffix s))
  | ok r =>
    obtain ⟨u, rest⟩ := r
    rw [hr] at h
    dsimp only [bind, Except.bind] at h
    split at h <;> cases h

/-- A message has no surrogates, and neither has what is read from it. -/
theorem whole_of_readStrict {bs : List UInt8} {v : Json} (h : readStrict bs = .ok v) : v.Whole := by
  unfold readStrict at h
  split at h
  · cases h
  · next t ht =>
    obtain ⟨cs, rfl, -⟩ := Utf8.eq_encodeChars_of_decodeWide? ht
    exact whole_of_read rfl (WideText.whole_ofChars cs) h

theorem readLenient_eq_tooDeep {limit : Nat} {bs : List UInt8} {inArray : Bool} :
    readLenient limit bs = .error (.json (.tooDeep inArray)) ↔
      ∃ text, decode bs = .ok text ∧
        read (.lenient limit) text = .error (.tooDeep inArray) := by
  unfold readLenient
  cases decode bs with
  | error e => simp [Except.mapError, bind, Except.bind]
  | ok text =>
    cases hread : read (.lenient limit) text with
    | error e => simp [Except.mapError, bind, Except.bind, hread]
    | ok v => simp [Except.mapError, bind, Except.bind, pure, Except.pure, hread]

/-- Two brackets are an array that is not empty. -/
theorem readArray_brackets {item : Input → Except JsonError (Json × Input)} {n : Nat} {rest : Input}
    (hitem : item (List.replicate (n + 1) (.char '[') ++ rest) = .error (.tooDeep true)) :
    readArray item (List.replicate (n + 1) (.char '[') ++ rest) = .error (.tooDeep true) := by
  rw [List.replicate_succ, List.cons_append] at hitem ⊢
  rw [readArray, skipSpace_cons rfl]
  change readItems item (_ + 1) [] (.char '[' :: (List.replicate n (.char '[') ++ rest)) = _
  rw [readItems, skipSpace_cons rfl, hitem]
  rfl

/-- Brackets that open deeper than a reader nests are refused, whatever follows them. The innermost
array may be empty, so that a reader which does not count empty ones has to see one bracket more. -/
theorem readValue_brackets (d : Dialect) {depth n : Nat} (h : depth + (!d.countsEmpty).toNat < n)
    (rest : Input) :
    readValue d depth (List.replicate n (.char '[') ++ rest) = .error (.tooDeep true) := by
  induction depth generalizing n with
  | zero =>
    obtain ⟨n, rfl⟩ := Nat.exists_eq_add_one.mpr (Nat.zero_lt_of_lt h)
    unfold readValue
    split
    · rfl
    · next hempty =>
      rw [Bool.not_eq_true] at hempty
      rw [hempty, Bool.not_false, Bool.toNat_true] at h
      obtain ⟨m, rfl⟩ := Nat.exists_eq_add_one.mpr (by omega : 0 < n)
      exact readArray_brackets rfl
  | succ depth ih =>
    obtain ⟨n, rfl⟩ := Nat.exists_eq_add_one.mpr (Nat.zero_lt_of_lt h)
    obtain ⟨m, rfl⟩ := Nat.exists_eq_add_one.mpr (by omega : 0 < n)
    exact readArray_brackets (ih (by omega : depth + (!d.countsEmpty).toNat < m + 1))

theorem read_brackets (d : Dialect) {n : Nat} (h : d.maxDepth + (!d.countsEmpty).toNat < n)
    (rest : Input) : read d (List.replicate n (.char '[') ++ rest) = .error (.tooDeep true) := by
  have hskip : skipSpace (List.replicate n (.char '[') ++ rest) =
      List.replicate n (.char '[') ++ rest := by
    obtain ⟨m, rfl⟩ := Nat.exists_eq_add_one.mpr (Nat.zero_lt_of_lt h)
    exact skipSpace_cons rfl _
  unfold read
  rw [hskip, readValue_brackets d h]
  rfl

end Json
end ClusterAgent
