import ClusterAgent.Proofs.Json.Document

/-! Texts that are put together by hand, and the values that readers take them for. -/
namespace ClusterAgent.Json

variable {d : Dialect} {depth : Nat}

/-- A reader takes the text for the value, and leaves what follows it. The text can stand in a list:
it starts with neither a space nor the end of one. -/
structure Spells (d : Dialect) (depth : Nat) (text : WideText) (v : Json) : Prop where
  start : ∃ p tail, text = p :: tail ∧ isSpace p = false ∧ p ≠ .char ']'
  readValue_append : ∀ rest, EndsNumber rest → readValue d depth (text ++ rest) = .ok (v, rest)

namespace Spells

theorem skipSpace_append {text : WideText} {v : Json} (h : Spells d depth text v) (rest : Input) :
    skipSpace (text ++ rest) = text ++ rest := by
  obtain ⟨p, tail, rfl, hspace, -⟩ := h.start
  exact skipSpace_cons hspace _

/-- A text that spells a value is read as a document. -/
theorem read {text : WideText} {v : Json} (h : Spells d d.maxDepth text v) :
    Json.read d text = .ok v := by
  have hvalue := h.readValue_append [] endsNumber_nil
  have hskip := h.skipSpace_append []
  rw [List.append_nil] at hvalue hskip
  unfold Json.read
  rw [hskip, hvalue]
  rfl

/-! ### Scalars -/

theorem of_readWith {text : WideText} {v : Json}
    (hstart : ∃ p tail, text = p :: tail ∧ isSpace p = false ∧ p ≠ .char ']')
    (h : ∀ array object rest, EndsNumber rest →
      readWith d array object (text ++ rest) = .ok (v, rest)) : Spells d depth text v := by
  obtain ⟨array, object, hread⟩ := exists_readWith d depth
  refine ⟨hstart, fun rest hrest => ?_⟩
  rw [hread]
  exact h array object rest hrest

theorem printInt {i : Int} (hi : d.admits i) : Spells d depth (Json.printInt i) (.int i) := by
  apply of_readWith
  · obtain ⟨p, hp, hstart⟩ := Option.map_eq_some_iff.mp (head?_printInt i)
    obtain ⟨tail, hprint⟩ := List.head?_eq_some_iff.mp hp
    rw [Bool.or_eq_false_iff, beq_eq_false_iff_ne] at hstart
    exact ⟨p, tail, hprint, hstart⟩
  · intro array object rest hrest
    rw [readWith_printInt d array object i hrest, if_pos hi]

end Spells

/-- Between quotes, the content reads as the text. -/
def Quotes (d : Dialect) (content t : WideText) : Prop :=
  ∀ rest, readString d.loneSurrogates [] (content ++ .char '"' :: rest) = .ok (t, rest)

theorem Quotes.spells {content t : WideText} (h : Quotes d content t) :
    Spells d depth (.char '"' :: content ++ [.char '"']) (.str t) := by
  apply Spells.of_readWith
  · exact ⟨_, _, rfl, rfl, by decide⟩
  · intro array object rest _
    have hquoted : .char '"' :: content ++ [.char '"'] ++ rest =
        .char '"' :: (content ++ .char '"' :: rest) := by simp
    rw [hquoted, readWith, h rest]
    rfl

/-- Texts without quotes, backslashes and control characters need no escapes. -/
def Plain (t : WideText) : Prop := ∀ p ∈ t, p ≠ .char '"' ∧ p ≠ .char '\\' ∧ 0x20 ≤ p.toNat

instance (t : WideText) : Decidable (Plain t) := inferInstanceAs (Decidable (∀ p ∈ t, _))

theorem readString_of_plain {t : WideText} (h : Plain t) (lone : Bool) (read rest : WideText) :
    readString lone read (t ++ rest) = readString lone (t.reverse ++ read) rest := by
  induction t generalizing read with
  | nil => rfl
  | cons p t ih =>
    obtain ⟨⟨hquote, hescape, hp⟩, ht⟩ := List.forall_mem_cons.mp h
    rw [List.cons_append, readString_plain hquote hescape hp, ih ht, List.reverse_cons,
      List.append_assoc, List.singleton_append]

theorem Plain.quotes {t : WideText} (h : Plain t) : Quotes d t t := by
  intro rest
  rw [readString_of_plain h, readString_quote, List.append_nil, List.reverse_reverse]

/-! ### Arrays -/

/-- What stands between two items. -/
def comma : WideText := ", "

theorem blank_space : Blank [.char ' '] := by
  simp [Blank, isSpace]

theorem endsNumber_joined (texts : List WideText) (close : CodePoint) (rest : Input)
    (hclose : EndsNumber (close :: rest)) :
    EndsNumber ((texts.map (comma ++ ·)).flatten ++ close :: rest) := by
  cases texts with
  | nil => exact hclose
  | cons text texts => exact endsNumber_cons (by decide) _

theorem skipSpace_joined (text : WideText) (texts : List WideText) (rest : Input) :
    skipSpace (((text :: texts).map (comma ++ ·)).flatten ++ rest) =
      .char ',' :: ([.char ' '] ++ (text ++ ((texts.map (comma ++ ·)).flatten ++ rest))) := by
  rw [List.map_cons, List.flatten_cons, List.append_assoc, List.append_assoc]
  exact skipSpace_cons rfl _

theorem intercalate_comma (text : WideText) (texts : List WideText) :
    List.intercalate comma (text :: texts) = text ++ (texts.map (comma ++ ·)).flatten := by
  induction texts generalizing text with
  | nil => simp
  | cons next texts ih =>
    rw [List.intercalate_cons_cons, ih next, List.map_cons, List.flatten_cons]
    simp only [List.append_assoc]

theorem readItems_joined {texts : List WideText} {values : List Json}
    (h : List.Forall₂ (Spells d depth) texts values) {text : WideText} {v : Json}
    (hv : Spells d depth text v) {fuel : Nat} (hfuel : texts.length < fuel) {gap : Input}
    (hgap : Blank gap) (read : List Json) (rest : Input) :
    readItems (readValue d depth) fuel read
        (gap ++ (text ++ ((texts.map (comma ++ ·)).flatten ++ .char ']' :: rest))) =
      .ok (arr (read.reverse ++ v :: values), rest) := by
  -- `text` is the item at hand, and the induction is on those behind it
  induction h generalizing text v fuel gap read with
  | nil =>
    obtain ⟨fuel, rfl⟩ := Nat.exists_eq_add_one.mpr hfuel
    have hend : EndsNumber (.char ']' :: rest) := endsNumber_cons (by decide) rest
    have hclose : skipSpace (.char ']' :: rest) = .char ']' :: rest := skipSpace_cons rfl rest
    rw [readItems, skipSpace_append hgap, hv.skipSpace_append]
    change (readValue d depth (text ++ .char ']' :: rest) >>= _) = _
    rw [hv.readValue_append _ hend]
    dsimp only [bind, Except.bind]
    rw [hclose]
    simp [pure, Except.pure]
  | @cons next w texts values hw hrest ih =>
    rw [List.length_cons] at hfuel
    obtain ⟨fuel, rfl⟩ := Nat.exists_eq_add_one.mpr (Nat.zero_lt_of_lt hfuel)
    have hend :=
      endsNumber_joined (next :: texts) (.char ']') rest (endsNumber_cons (by decide) rest)
    have hnext := ih hw (by omega : texts.length < fuel) blank_space (v :: read)
    rw [readItems, skipSpace_append hgap, hv.skipSpace_append, hv.readValue_append _ hend]
    dsimp only [bind, Except.bind]
    rw [skipSpace_joined]
    refine hnext.trans ?_
    rw [List.reverse_cons, List.append_assoc, List.singleton_append]

theorem length_le_flatten_comma (texts : List WideText) :
    texts.length ≤ (texts.map (comma ++ ·)).flatten.length := by
  induction texts with
  | nil => exact Nat.zero_le _
  | cons text texts ih =>
    have hcomma : comma.length = 2 := rfl
    rw [List.map_cons, List.flatten_cons, List.length_cons, List.length_append, List.length_append]
    omega

theorem Spells.array {texts : List WideText} {values : List Json}
    (h : List.Forall₂ (Spells d depth) texts values) :
    Spells d (depth + 1) (.char '[' :: List.intercalate comma texts ++ [.char ']'])
      (.arr values) := by
  refine ⟨⟨_, _, rfl, rfl, by decide⟩, fun rest _ => ?_⟩
  cases h with
  | nil => rfl
  | @cons text v texts values hv hvalues =>
    have hbody : .char '[' :: List.intercalate comma (text :: texts) ++ [.char ']'] ++ rest =
        .char '[' :: (text ++ ((texts.map (comma ++ ·)).flatten ++ .char ']' :: rest)) := by
      rw [intercalate_comma]
      simp
    have hcount := length_le_flatten_comma texts
    rw [hbody, readValue, readWith, readArray, hv.skipSpace_append]
    split
    · next tail htail =>
      obtain ⟨p, tail', rfl, -, hne⟩ := hv.start
      exact absurd (List.cons.inj htail).1 hne
    · refine readItems_joined hvalues hv ?_ blank_nil [] rest
      simp only [List.length_append]
      omega

/-! ### Objects -/

/-- The text spells a member of an object: its name in quotes, a colon, and its value. -/
def SpellsMember (d : Dialect) (depth : Nat) (text : WideText) (member : WideText × Json) : Prop :=
  ∃ name value, text = .char '"' :: name ++ (.char '"' :: .char ':' :: .char ' ' :: value) ∧
    Quotes d name member.1 ∧ Spells d depth value member.2

theorem readMembers_name {name t : WideText} (hname : Quotes d name t) {gap : Input}
    (hgap : Blank gap) (item : Input → Except JsonError (Json × Input)) (fuel : Nat)
    (read : List (WideText × Json)) (rest : Input) :
    readMembers d item (fuel + 1) read
        (gap ++ .char '"' :: (name ++ .char '"' :: .char ':' :: rest)) = (do
      let (v, tail) ← item (skipSpace rest)
      match skipSpace tail with
      | .char ',' :: tail => readMembers d item fuel ((t, v) :: read) tail
      | .char '\x7d' :: tail => return (obj ((t, v) :: read).reverse, tail)
      | _ => throw .malformed) := by
  rw [readMembers, skipSpace_append hgap, skipSpace_cons rfl]
  change (readString d.loneSurrogates [] (name ++ .char '"' :: _) >>= _) = _
  rw [hname]
  dsimp only [bind, Except.bind]
  rw [skipSpace_cons rfl]
  rfl

theorem readMembers_member {text : WideText} {member : WideText × Json}
    (h : SpellsMember d depth text member) {gap : Input} (hgap : Blank gap) (fuel : Nat)
    (read : List (WideText × Json)) {tail : Input} (htail : EndsNumber tail) :
    readMembers d (readValue d depth) (fuel + 1) read (gap ++ (text ++ tail)) =
      match skipSpace tail with
      | .char ',' :: rest => readMembers d (readValue d depth) fuel (member :: read) rest
      | .char '\x7d' :: rest => .ok (obj (member :: read).reverse, rest)
      | _ => .error .malformed := by
  obtain ⟨name, value, rfl, hname, hvalue⟩ := h
  have htext : .char '"' :: name ++ (.char '"' :: .char ':' :: .char ' ' :: value) ++ tail =
      .char '"' :: (name ++ .char '"' :: .char ':' :: .char ' ' :: (value ++ tail)) := by simp
  have hspace : skipSpace (.char ' ' :: (value ++ tail)) = value ++ tail :=
    hvalue.skipSpace_append tail
  rw [htext, readMembers_name hname hgap, hspace, hvalue.readValue_append tail htail]
  rfl

theorem readMembers_joined {texts : List WideText} {members : List (WideText × Json)}
    (h : List.Forall₂ (SpellsMember d depth) texts members) {text : WideText}
    {member : WideText × Json} (hmember : SpellsMember d depth text member) {fuel : Nat}
    (hfuel : texts.length < fuel) {gap : Input} (hgap : Blank gap)
    (read : List (WideText × Json)) (rest : Input) :
    readMembers d (readValue d depth) fuel read
        (gap ++ (text ++ ((texts.map (comma ++ ·)).flatten ++ .char '\x7d' :: rest))) =
      .ok (obj (read.reverse ++ member :: members), rest) := by
  induction h generalizing text member fuel gap read with
  | nil =>
    obtain ⟨fuel, rfl⟩ := Nat.exists_eq_add_one.mpr hfuel
    have hend : EndsNumber (.char '\x7d' :: rest) := endsNumber_cons (by decide) rest
    rw [List.map_nil, List.flatten_nil, List.nil_append,
      readMembers_member hmember hgap fuel read hend, skipSpace_cons rfl]
    simp
  | @cons next m texts members hm hrest ih =>
    rw [List.length_cons] at hfuel
    obtain ⟨fuel, rfl⟩ := Nat.exists_eq_add_one.mpr (Nat.zero_lt_of_lt hfuel)
    have hend := endsNumber_joined (next :: texts) (.char '\x7d') rest
      (endsNumber_cons (by decide) rest)
    have hnext := ih hm (by omega : texts.length < fuel) blank_space (member :: read)
    rw [readMembers_member hmember hgap fuel read hend, skipSpace_joined]
    refine hnext.trans ?_
    rw [List.reverse_cons, List.append_assoc, List.singleton_append]

theorem Spells.object {texts : List WideText} {members : List (WideText × Json)}
    (h : List.Forall₂ (SpellsMember d depth) texts members) :
    Spells d (depth + 1) (.char '\x7b' :: List.intercalate comma texts ++ [.char '\x7d'])
      (.obj members) := by
  refine ⟨⟨_, _, rfl, rfl, by decide⟩, fun rest _ => ?_⟩
  cases h with
  | nil => rfl
  | @cons text member texts members hmember hmembers =>
    have hbody : .char '\x7b' :: List.intercalate comma (text :: texts) ++ [.char '\x7d'] ++ rest =
        .char '\x7b' :: (text ++ ((texts.map (comma ++ ·)).flatten ++ .char '\x7d' :: rest)) := by
      rw [intercalate_comma]
      simp
    have hskip : skipSpace (text ++ ((texts.map (comma ++ ·)).flatten ++ .char '\x7d' :: rest)) =
        text ++ ((texts.map (comma ++ ·)).flatten ++ .char '\x7d' :: rest) := by
      obtain ⟨name, value, rfl, -, -⟩ := hmember
      exact skipSpace_cons rfl _
    have hcount := length_le_flatten_comma texts
    rw [hbody, readValue, readWith, readObject, hskip]
    split
    · next tail htail =>
      obtain ⟨name, value, rfl, -, -⟩ := hmember
      cases (List.cons.inj htail).1
    · refine readMembers_joined hmembers hmember ?_ blank_nil [] rest
      simp only [List.length_append]
      omega

end ClusterAgent.Json
