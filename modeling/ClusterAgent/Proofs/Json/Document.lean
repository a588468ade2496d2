import ClusterAgent.Proofs.Json.Float
import ClusterAgent.Proofs.Json.Text

/-! Printed values read back, in every style, if their texts and fractions do. The one thing that a
reader may then refuse is the length of an integer, and it is the first such integer that it
reports. -/
namespace ClusterAgent.Json

/-! ### Spaces -/

def Blank (s : Input) : Prop := ∀ p ∈ s, isSpace p

theorem skipSpace_append {s : Input} (h : Blank s) (rest : Input) :
    skipSpace (s ++ rest) = skipSpace rest := List.dropWhile_append_of_pos h

theorem skipSpace_cons {p : CodePoint} (h : isSpace p = false) (rest : Input) :
    skipSpace (p :: rest) = p :: rest := List.dropWhile_cons_of_neg (by simp [h])

theorem blank_nil : Blank [] := by
  intro p hp
  cases hp

theorem blank_newLine (style : Style) (level : Nat) : Blank (newLine style level) := by
  unfold newLine
  split
  · refine List.forall_mem_cons.mpr ⟨rfl, fun p hp => ?_⟩
    rw [List.eq_of_mem_replicate hp]
    rfl
  · exact blank_nil

theorem skipSpace_newLine (style : Style) (level : Nat) {p : CodePoint} (h : isSpace p = false)
    (rest : Input) : skipSpace (newLine style level ++ p :: rest) = p :: rest := by
  rw [skipSpace_append (blank_newLine style level), skipSpace_cons h]

theorem separator_eq (style : Style) (level : Nat) :
    ∃ gap, Blank gap ∧ separator style level = .char ',' :: gap := by
  unfold separator
  split
  · exact ⟨_, blank_newLine style level, rfl⟩
  · split
    · exact ⟨[.char ' '], by simp [Blank, isSpace], rfl⟩
    · exact ⟨[], blank_nil, rfl⟩

theorem endsNumber_newLine (style : Style) (level : Nat) {p : CodePoint} (rest : Input)
    (h : EndsNumber (p :: rest)) : EndsNumber (newLine style level ++ p :: rest) := by
  unfold newLine
  split
  · exact endsNumber_cons (by decide) _
  · exact h

/-! ### What is refused -/

/-- Values that a reader can take, whatever their integers: nested no deeper than allowed, without
fractions, and without surrogates where characters are escaped by their numbers. -/
def Readable (asciiOnly : Bool) : (depth : Nat) → Json → Prop
  | _, null | _, bool _ | _, int _ => True
  | _, float _ => False
  | _, str t => asciiOnly = true → t.Whole
  | 0, arr _ | 0, obj _ => False
  | depth + 1, arr items => ∀ v ∈ items, Readable asciiOnly depth v
  | depth + 1, obj members =>
    ∀ p ∈ members, (asciiOnly = true → p.1.Whole) ∧ Readable asciiOnly depth p.2

mutual

/-- The first integer of a value that a dialect refuses for its length. -/
def refused? (d : Dialect) : Json → Option Int
  | int i => if d.admits i then none else some i
  | arr items => refusedItem? d items
  | obj members => refusedMember? d members
  | _ => none

def refusedItem? (d : Dialect) : List Json → Option Int
  | [] => none
  | v :: rest => (refused? d v).or (refusedItem? d rest)

def refusedMember? (d : Dialect) : List (WideText × Json) → Option Int
  | [] => none
  | (_, v) :: rest => (refused? d v).or (refusedMember? d rest)

end

theorem refusedItem?_eq_none {d : Dialect} {items : List Json} :
    refusedItem? d items = none ↔ ∀ v ∈ items, refused? d v = none := by
  induction items with
  | nil => simp [refusedItem?]
  | cons v items ih => rw [refusedItem?, Option.or_eq_none_iff, ih, List.forall_mem_cons]

theorem refusedMember?_eq_none {d : Dialect} {members : List (WideText × Json)} :
    refusedMember? d members = none ↔ ∀ p ∈ members, refused? d p.2 = none := by
  induction members with
  | nil => simp [refusedMember?]
  | cons p members ih => rw [refusedMember?, Option.or_eq_none_iff, ih, List.forall_mem_cons]

theorem refused?_int_eq_none {d : Dialect} {i : Int} : refused? d (.int i) = none ↔ d.admits i := by
  rw [refused?]
  cases d.admits i <;> simp

theorem refused?_ofFields_eq_none {d : Dialect} {fields : List (String × Json)} :
    refused? d (ofFields fields) = none ↔ ∀ p ∈ fields, refused? d p.2 = none := by
  rw [ofFields, refused?, refusedMember?_eq_none, List.forall_mem_map]

theorem readable_text (asciiOnly : Bool) (depth : Nat) (s : String) :
    (text s).Readable asciiOnly depth := by
  cases depth <;> exact fun _ => WideText.whole_ofChars _

theorem readable_int (asciiOnly : Bool) (depth : Nat) (i : Int) :
    (int i).Readable asciiOnly depth := by
  cases depth <;> trivial

theorem readable_ofFields {asciiOnly : Bool} {depth : Nat} {fields : List (String × Json)}
    (h : ∀ p ∈ fields, p.2.Readable asciiOnly depth) :
    (ofFields fields).Readable asciiOnly (depth + 1) := by
  intro q hq
  obtain ⟨p, hp, rfl⟩ := List.mem_map.mp hq
  exact ⟨fun _ => WideText.whole_ofChars _, h p hp⟩

/-- What reading gives, unless an integer is refused. -/
def judged {α : Type} (refused : Option Int) (result : α) : Except JsonError α :=
  match refused with
  | none => .ok result
  | some i => .error (.tooManyDigits (Nat.toDigits 10 i.natAbs).length)

/-! ### Values -/

/-- A printed text is read as the text. -/
def QuotesBack (style : Style) (d : Dialect) (t : WideText) : Prop :=
  ∀ rest, readString d.loneSurrogates []
    (t.flatMap (escapePoint style.asciiOnly) ++ .char '"' :: rest) = .ok (t, rest)

/-- Values that a reader can take back, whatever their integers. -/
def Printable (style : Style) (d : Dialect) : (depth : Nat) → Json → Prop
  | _, null | _, bool _ | _, int _ => True
  | _, float x => d.ReadsFractions ∧ x.Canonical
  | _, str t => QuotesBack style d t
  | 0, arr _ | 0, obj _ => False
  | depth + 1, arr items => ∀ v ∈ items, Printable style d depth v
  | depth + 1, obj members => ∀ p ∈ members, QuotesBack style d p.1 ∧ Printable style d depth p.2

theorem quotesBack_of_whole {style : Style} {t : WideText}
    (ht : style.asciiOnly = true → t.Whole) (d : Dialect) : QuotesBack style d t := fun rest => by
  rw [readString_flatMap ht, List.reverse_nil, List.nil_append]

theorem Readable.printable {style : Style} {depth : Nat} {v : Json}
    (h : v.Readable style.asciiOnly depth) (d : Dialect) : v.Printable style d depth := by
  induction depth generalizing v with
  | zero =>
    cases v with
    | float x => exact h.elim
    | str t => exact quotesBack_of_whole h d
    | _ => exact h
  | succ depth ih =>
    cases v with
    | float x => exact h.elim
    | str t => exact quotesBack_of_whole h d
    | arr items => exact fun w hw => ih (h w hw)
    | obj members => exact fun p hp => ⟨quotesBack_of_whole (h p hp).1 d, ih (h p hp).2⟩
    | _ => exact h

/-- A printed value starts with no space and no end of a list. -/
theorem exists_cons_printAt {style : Style} {d : Dialect} {depth : Nat} {v : Json}
    (hv : v.Printable style d depth) (level : Nat) :
    ∃ p tail, printAt style level v = p :: tail ∧ isSpace p = false ∧ p ≠ .char ']' := by
  have hhead : (printAt style level v).head?.map (fun p => isSpace p || p == .char ']') =
      some false := by
    cases v with
    | null =>
      rw [printAt]
      rfl
    | bool b =>
      rw [printAt]
      cases b <;> rfl
    | int i =>
      rw [printAt]
      exact head?_printInt i
    | float x =>
      have hx : x.Canonical := by cases depth <;> exact hv.2
      rw [printAt]
      exact head?_printFloat hx
    | str t =>
      rw [printAt]
      rfl
    | arr items =>
      cases items <;> rw [printAt] <;> rfl
    | obj members =>
      cases members <;> rw [printAt] <;> rfl
  obtain ⟨p, hp, hspace⟩ := Option.map_eq_some_iff.mp hhead
  obtain ⟨tail, hprint⟩ := List.head?_eq_some_iff.mp hp
  rw [Bool.or_eq_false_iff, beq_eq_false_iff_ne] at hspace
  exact ⟨p, tail, hprint, hspace⟩

theorem skipSpace_printAt {style : Style} {d : Dialect} {depth : Nat} {v : Json}
    (hv : v.Printable style d depth) (level : Nat) (rest : Input) :
    skipSpace (printAt style level v ++ rest) = printAt style level v ++ rest := by
  obtain ⟨p, tail, hprint, hspace, -⟩ := exists_cons_printAt hv level
  rw [hprint]
  exact skipSpace_cons hspace _

/-- What follows a container's value: a separator, or its end. -/
theorem endsNumber_printItems (style : Style) (level level' : Nat) (items : List Json)
    (rest : Input) :
    EndsNumber (printItems style level items ++ (newLine style level' ++ .char ']' :: rest)) := by
  cases items with
  | nil =>
    rw [printItems]
    exact endsNumber_newLine style level' rest (endsNumber_cons (by decide) rest)
  | cons v items =>
    obtain ⟨gap, -, hgap⟩ := separator_eq style level
    rw [printItems, hgap]
    exact endsNumber_cons (by decide) _

theorem readItems_printItems {style : Style} {d : Dialect} {depth level : Nat}
    {item : Input → Except JsonError (Json × Input)}
    (hitem : ∀ v rest, v.Printable style d depth → EndsNumber rest →
      item (printAt style (level + 1) v ++ rest) = judged (refused? d v) (v, rest))
    {v : Json} {items : List Json} (hv : v.Printable style d depth)
    (hitems : ∀ w ∈ items, w.Printable style d depth) {fuel : Nat} (hfuel : items.length < fuel)
    {gap : Input} (hgap : Blank gap) (read : List Json) (rest : Input) :
    readItems item fuel read (gap ++ (printAt style (level + 1) v ++
        (printItems style (level + 1) items ++ (newLine style level ++ .char ']' :: rest)))) =
      judged (refusedItem? d (v :: items)) (arr (read.reverse ++ v :: items), rest) := by
  -- `v` is the item at hand, so the induction is on those after it; each takes one unit of fuel
  induction items generalizing v fuel gap read with
  | nil =>
    obtain ⟨fuel, rfl⟩ := Nat.exists_eq_add_one.mpr hfuel
    have hend := endsNumber_printItems style (level + 1) level [] rest
    rw [readItems, skipSpace_append hgap, skipSpace_printAt hv, hitem v _ hv hend, refusedItem?,
      refusedItem?, Option.or_none]
    cases refused? d v with
    | some i => rfl
    | none =>
      have hclose : skipSpace (printItems style (level + 1) [] ++
          (newLine style level ++ .char ']' :: rest)) = .char ']' :: rest := by
        rw [printItems]
        exact skipSpace_newLine style level rfl rest
      simp only [judged]
      dsimp only [bind, Except.bind]
      rw [hclose]
      simp [pure, Except.pure]
  | cons w items ih =>
    rw [List.forall_mem_cons] at hitems
    rw [List.length_cons] at hfuel
    obtain ⟨fuel, rfl⟩ := Nat.exists_eq_add_one.mpr (Nat.zero_lt_of_lt hfuel)
    have hend := endsNumber_printItems style (level + 1) level (w :: items) rest
    rw [readItems, skipSpace_append hgap, skipSpace_printAt hv, hitem v _ hv hend, refusedItem?]
    cases refused? d v with
    | some i => rfl
    | none =>
      obtain ⟨gap', hgap', hseparator⟩ := separator_eq style (level + 1)
      have hnext := ih hitems.1 hitems.2 (by omega : items.length < fuel) hgap' (v :: read)
      have hcomma : skipSpace (printItems style (level + 1) (w :: items) ++
          (newLine style level ++ .char ']' :: rest)) = .char ',' :: (gap' ++
            (printAt style (level + 1) w ++ (printItems style (level + 1) items ++
              (newLine style level ++ .char ']' :: rest)))) := by
        rw [printItems, hseparator]
        simp only [List.cons_append, List.append_assoc]
        exact skipSpace_cons rfl _
      simp only [judged]
      dsimp only [bind, Except.bind]
      rw [hcomma]
      refine hnext.trans ?_
      rw [Option.none_or, List.reverse_cons, List.append_assoc, List.singleton_append]
      rfl

theorem colon_eq (style : Style) :
    ∃ gap, Blank gap ∧
      WideText.ofString (if style.spaced then ": " else ":") = .char ':' :: gap := by
  split
  · exact ⟨[.char ' '], by simp [Blank, isSpace], rfl⟩
  · exact ⟨[], blank_nil, rfl⟩

theorem endsNumber_printMembers (style : Style) (level level' : Nat)
    (members : List (WideText × Json)) (rest : Input) :
    EndsNumber (printMembers style level members ++
      (newLine style level' ++ .char '\x7d' :: rest)) := by
  cases members with
  | nil =>
    rw [printMembers]
    exact endsNumber_newLine style level' rest (endsNumber_cons (by decide) rest)
  | cons p members =>
    obtain ⟨gap, -, hgap⟩ := separator_eq style level
    rw [printMembers, hgap]
    exact endsNumber_cons (by decide) _

/-- A member up to the end of its value. -/
theorem readMembers_printMember {style : Style} {d : Dialect} {depth level : Nat}
    {item : Input → Except JsonError (Json × Input)} {k : WideText} {v : Json}
    (hk : QuotesBack style d k) (hv : v.Printable style d depth) {gap : Input}
    (hgap : Blank gap) (fuel : Nat) (read : List (WideText × Json)) (tail : Input) :
    readMembers d item (fuel + 1) read (gap ++ (printMember style level k v ++ tail)) =
      (item (printAt style level v ++ tail) >>= fun (v, rest) =>
        match skipSpace rest with
        | .char ',' :: rest => readMembers d item fuel ((k, v) :: read) rest
        | .char '\x7d' :: rest => return (obj ((k, v) :: read).reverse, rest)
        | _ => throw .malformed) := by
  obtain ⟨gap', hgap', hcolon⟩ := colon_eq style
  have hname := hk (.char ':' :: (gap' ++ (printAt style level v ++ tail)))
  have hmember : printMember style level k v ++ tail = .char '"' ::
      (k.flatMap (escapePoint style.asciiOnly) ++ .char '"' :: .char ':' ::
        (gap' ++ (printAt style level v ++ tail))) := by
    rw [printMember, hcolon, printString]
    simp
  have hvalue : skipSpace (gap' ++ (printAt style level v ++ tail)) =
      printAt style level v ++ tail := by rw [skipSpace_append hgap', skipSpace_printAt hv]
  rw [← hvalue, readMembers, skipSpace_append hgap, hmember, skipSpace_cons rfl]
  change (readString d.loneSurrogates [] (k.flatMap _ ++ _) >>= _) = _
  rewrite [hname]
  dsimp only [bind, Except.bind]
  rewrite [skipSpace_cons rfl]
  rfl

theorem readMembers_printMembers {style : Style} {d : Dialect} {depth level : Nat}
    {item : Input → Except JsonError (Json × Input)}
    (hitem : ∀ v rest, v.Printable style d depth → EndsNumber rest →
      item (printAt style (level + 1) v ++ rest) = judged (refused? d v) (v, rest))
    {k : WideText} {v : Json} {members : List (WideText × Json)}
    (hk : QuotesBack style d k) (hv : v.Printable style d depth)
    (hmembers : ∀ p ∈ members,
      QuotesBack style d p.1 ∧ p.2.Printable style d depth)
    {fuel : Nat} (hfuel : members.length < fuel) {gap : Input} (hgap : Blank gap)
    (read : List (WideText × Json)) (rest : Input) :
    readMembers d item fuel read (gap ++ (printMember style (level + 1) k v ++
        (printMembers style (level + 1) members ++
          (newLine style level ++ .char '\x7d' :: rest)))) =
      judged (refusedMember? d ((k, v) :: members))
        (obj (read.reverse ++ (k, v) :: members), rest) := by
  induction members generalizing k v fuel gap read with
  | nil =>
    obtain ⟨fuel, rfl⟩ := Nat.exists_eq_add_one.mpr hfuel
    have hend := endsNumber_printMembers style (level + 1) level [] rest
    rw [readMembers_printMember hk hv hgap, hitem v _ hv hend, refusedMember?, refusedMember?,
      Option.or_none]
    cases refused? d v with
    | some i => rfl
    | none =>
      have hclose : skipSpace (printMembers style (level + 1) [] ++
          (newLine style level ++ .char '\x7d' :: rest)) = .char '\x7d' :: rest := by
        rw [printMembers]
        exact skipSpace_newLine style level rfl rest
      simp only [judged]
      dsimp only [bind, Except.bind]
      rw [hclose]
      simp [pure, Except.pure]
  | cons p members ih =>
    rw [List.forall_mem_cons] at hmembers
    rw [List.length_cons] at hfuel
    obtain ⟨fuel, rfl⟩ := Nat.exists_eq_add_one.mpr (Nat.zero_lt_of_lt hfuel)
    have hend := endsNumber_printMembers style (level + 1) level (p :: members) rest
    rw [readMembers_printMember hk hv hgap, hitem v _ hv hend, refusedMember?]
    cases refused? d v with
    | some i => rfl
    | none =>
      obtain ⟨gap', hgap', hseparator⟩ := separator_eq style (level + 1)
      have hnext := ih hmembers.1.1 hmembers.1.2 hmembers.2 (by omega : members.length < fuel) hgap'
        ((k, v) :: read)
      have hcomma : skipSpace (printMembers style (level + 1) (p :: members) ++
          (newLine style level ++ .char '\x7d' :: rest)) = .char ',' :: (gap' ++
            (printMember style (level + 1) p.1 p.2 ++ (printMembers style (level + 1) members ++
              (newLine style level ++ .char '\x7d' :: rest)))) := by
        rw [printMembers, hseparator]
        simp only [List.cons_append, List.append_assoc]
        exact skipSpace_cons rfl _
      simp only [judged]
      dsimp only [bind, Except.bind]
      rw [hcomma]
      refine hnext.trans ?_
      rw [Option.none_or, List.reverse_cons, List.append_assoc, List.singleton_append]
      rfl

theorem length_le_printItems (style : Style) (level : Nat) (items : List Json) :
    items.length ≤ (printItems style level items).length := by
  induction items with
  | nil => exact Nat.zero_le _
  | cons v items ih =>
    obtain ⟨gap, -, hgap⟩ := separator_eq style level
    rw [printItems, hgap]
    simp only [List.length_cons, List.length_append]
    omega

theorem length_le_printMembers (style : Style) (level : Nat) (members : List (WideText × Json)) :
    members.length ≤ (printMembers style level members).length := by
  induction members with
  | nil => exact Nat.zero_le _
  | cons p members ih =>
    obtain ⟨gap, -, hgap⟩ := separator_eq style level
    rw [printMembers, hgap]
    simp only [List.length_cons, List.length_append]
    omega

theorem readArray_printAt {style : Style} {d : Dialect} {depth level : Nat}
    {item : Input → Except JsonError (Json × Input)}
    (hitem : ∀ v rest, v.Printable style d depth → EndsNumber rest →
      item (printAt style (level + 1) v ++ rest) = judged (refused? d v) (v, rest))
    {items : List Json} (hitems : ∀ v ∈ items, v.Printable style d depth)
    (object : Input → Except JsonError (Json × Input)) (rest : Input) :
    readWith d (readArray item) object (printAt style level (arr items) ++ rest) =
      judged (refused? d (arr items)) (arr items, rest) := by
  cases items with
  | nil =>
    rw [printAt]
    rfl
  | cons v items =>
    rw [List.forall_mem_cons] at hitems
    have hprint : printAt style level (arr (v :: items)) ++ rest = .char '[' ::
        (newLine style (level + 1) ++ (printAt style (level + 1) v ++
          (printItems style (level + 1) items ++ (newLine style level ++ .char ']' :: rest)))) := by
      rw [printAt]
      simp
    have hskip : skipSpace (newLine style (level + 1) ++ (printAt style (level + 1) v ++
          (printItems style (level + 1) items ++ (newLine style level ++ .char ']' :: rest)))) =
        printAt style (level + 1) v ++
          (printItems style (level + 1) items ++ (newLine style level ++ .char ']' :: rest)) := by
      rw [skipSpace_append (blank_newLine style (level + 1)), skipSpace_printAt hitems.1]
    -- the fuel is the length of the text, and an item takes at least its comma
    have hcount := length_le_printItems style (level + 1) items
    rw [hprint, readWith, readArray, hskip, refused?]
    split
    · next tail htail =>
      obtain ⟨p, tail', hp, -, hne⟩ := exists_cons_printAt hitems.1 (level + 1)
      rw [hp] at htail
      exact absurd (List.cons.inj htail).1 hne
    · refine readItems_printItems hitem hitems.1 hitems.2 ?_ blank_nil [] rest
      simp only [List.length_append]
      omega

theorem readObject_printAt {style : Style} {d : Dialect} {depth level : Nat}
    {item : Input → Except JsonError (Json × Input)}
    (hitem : ∀ v rest, v.Printable style d depth → EndsNumber rest →
      item (printAt style (level + 1) v ++ rest) = judged (refused? d v) (v, rest))
    {members : List (WideText × Json)} (hmembers : ∀ p ∈ members,
      QuotesBack style d p.1 ∧ p.2.Printable style d depth)
    (array : Input → Except JsonError (Json × Input)) (rest : Input) :
    readWith d array (readObject d item) (printAt style level (obj members) ++ rest) =
      judged (refused? d (obj members)) (obj members, rest) := by
  cases members with
  | nil =>
    rw [printAt]
    rfl
  | cons p members =>
    rw [List.forall_mem_cons] at hmembers
    have hprint : printAt style level (obj (p :: members)) ++ rest = .char '\x7b' ::
        (newLine style (level + 1) ++ (printMember style (level + 1) p.1 p.2 ++
          (printMembers style (level + 1) members ++
            (newLine style level ++ .char '\x7d' :: rest)))) := by
      rw [printAt]
      simp
    have hskip : skipSpace (newLine style (level + 1) ++ (printMember style (level + 1) p.1 p.2 ++
          (printMembers style (level + 1) members ++
            (newLine style level ++ .char '\x7d' :: rest)))) =
        printMember style (level + 1) p.1 p.2 ++ (printMembers style (level + 1) members ++
          (newLine style level ++ .char '\x7d' :: rest)) := by
      rw [printMember, printString]
      exact skipSpace_newLine style (level + 1) rfl _
    have hcount := length_le_printMembers style (level + 1) members
    rw [hprint, readWith, readObject, hskip, refused?]
    split
    · next tail htail =>
      rw [printMember, printString] at htail
      cases (List.cons.inj htail).1
    · refine readMembers_printMembers hitem hmembers.1.1 hmembers.1.2 hmembers.2
        ?_ blank_nil [] rest
      simp only [List.length_append]
      omega

theorem readWith_printAt_scalar {style : Style} {d : Dialect} {depth level : Nat} {v : Json}
    (hv : v.Printable style d depth) (harray : ∀ items, v ≠ arr items)
    (hobject : ∀ members, v ≠ obj members)
    (array object : Input → Except JsonError (Json × Input)) {rest : Input}
    (hrest : EndsNumber rest) :
    readWith d array object (printAt style level v ++ rest) = judged (refused? d v) (v, rest) := by
  cases v with
  | null =>
    rw [printAt, refused?]
    · rfl
    all_goals simp
  | bool b =>
    rw [printAt, refused?]
    · cases b <;> rfl
    all_goals simp
  | int i =>
    rw [printAt, refused?, readWith_printInt d array object i hrest]
    cases d.admits i <;> rfl
  | float x =>
    have hx : d.ReadsFractions ∧ x.Canonical := by cases depth <;> exact hv
    rw [printAt, refused?, readWith_printFloat hx.1 hx.2 array object hrest]
    · rfl
    all_goals simp
  | str t =>
    have ht : QuotesBack style d t := by cases depth <;> exact hv
    have hprint : printString style t ++ rest = .char '"' ::
        (t.flatMap (escapePoint style.asciiOnly) ++ .char '"' :: rest) := by simp [printString]
    rw [printAt, refused?, hprint, readWith, ht rest]
    · rfl
    all_goals simp
  | arr items => exact absurd rfl (harray items)
  | obj members => exact absurd rfl (hobject members)

/-- Levels differ only in how they read arrays and objects. -/
theorem exists_readWith (d : Dialect) (depth : Nat) :
    ∃ array object, readValue d depth = readWith d array object := by
  cases depth with
  | zero =>
    unfold readValue
    split
    · exact ⟨_, _, rfl⟩
    · exact ⟨_, _, rfl⟩
  | succ depth => exact ⟨_, _, rfl⟩

/-- A printed value is read up to its end, unless an integer in it is refused. -/
theorem readValue_printAt {style : Style} {d : Dialect} {depth : Nat} {v : Json}
    (hv : v.Printable style d depth) (level : Nat) {rest : Input} (hrest : EndsNumber rest) :
    readValue d depth (printAt style level v ++ rest) = judged (refused? d v) (v, rest) := by
  induction depth generalizing v level rest with
  | zero =>
    obtain ⟨array, object, hread⟩ := exists_readWith d 0
    rw [hread]
    refine readWith_printAt_scalar hv ?_ ?_ _ _ hrest
    · rintro items rfl
      exact hv
    · rintro members rfl
      exact hv
  | succ depth ih =>
    cases v with
    | arr items => exact readArray_printAt (fun _ _ hv hrest => ih hv _ hrest) hv _ rest
    | obj members => exact readObject_printAt (fun _ _ hv hrest => ih hv _ hrest) hv _ rest
    | _ => exact readWith_printAt_scalar hv (by simp) (by simp) _ _ hrest

/-! ### Documents -/

/-- A printed value is read as a document, also with spaces behind it. -/
theorem read_print_append {style : Style} {d : Dialect} {v : Json}
    (hv : v.Printable style d d.maxDepth) {gap : Input} (hgap : Blank gap) :
    read d (print style v ++ gap) = judged (refused? d v) v := by
  have hend : EndsNumber gap := by
    intro p hp
    have hspace := hgap p (List.mem_of_mem_head? hp)
    simp only [isSpace, Bool.or_eq_true, beq_iff_eq] at hspace
    rcases hspace with ((rfl | rfl) | rfl) | rfl <;> decide
  have hvalue := readValue_printAt hv 0 hend
  have hskip : skipSpace (printAt style 0 v ++ gap) = printAt style 0 v ++ gap :=
    skipSpace_printAt hv 0 gap
  have hblank : skipSpace gap = [] := List.dropWhile_eq_nil_iff.mpr hgap
  unfold read print
  rw [hskip, hvalue]
  cases refused? d v with
  | none => simp [judged, bind, Except.bind, hblank, pure, Except.pure]
  | some i => rfl

theorem read_print (style : Style) (d : Dialect) {v : Json}
    (hv : v.Readable style.asciiOnly d.maxDepth) :
    read d (print style v) = judged (refused? d v) v := by
  have hread := read_print_append (hv.printable d) blank_nil
  rwa [List.append_nil] at hread

end ClusterAgent.Json
