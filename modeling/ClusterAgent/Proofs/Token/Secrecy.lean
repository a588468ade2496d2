import ClusterAgent.Proofs.Pairing
import ClusterAgent.Proofs.Token.Bundle

/-! Passwords of tokens: how long a token file is and how it ends does not tell one from another of
its length, and neither do the requests and the messages of obtaining and bundling tokens. -/
namespace ClusterAgent

open ClusterAgent.Action MessagePack

/-- The second token is the first with a password of the same length. -/
def Token.Alike (t u : Token) : Prop :=
  ∃ password, password.length = t.password.length ∧ u = { t with password }

theorem Token.Alike.refl (t : Token) : t.Alike t := ⟨t.password, rfl, rfl⟩

/-- The same aliases in the same order, with tokens that differ in their passwords. -/
def Credentials.Alike : Credentials → Credentials → Prop :=
  List.Forall₂ fun p q => q.1 = p.1 ∧ p.2.Alike q.2

namespace Credentials

theorem Alike.add {c c' : Credentials} (h : c.Alike c') (a : Alias) {t u : Token}
    (htu : t.Alike u) : (c.add a t).Alike (c'.add a u) := by
  unfold Credentials.add
  induction h with
  | nil => exact .cons ⟨rfl, htu⟩ .nil
  | @cons p q c c' hpq hrest ih =>
    obtain ⟨b, t'⟩ := p
    obtain ⟨b', u'⟩ := q
    obtain ⟨rfl, htu'⟩ := hpq
    rw [Table.insert, Table.insert]
    by_cases hb : (b' == a) = true
    · rw [if_pos hb, if_pos hb]
      exact .cons ⟨rfl, htu⟩ hrest
    · rw [if_neg hb, if_neg hb]
      exact .cons ⟨rfl, htu'⟩ ih

theorem Alike.addAll {c c' : Credentials} (h : c.Alike c') {ts us : List Token}
    (hts : List.Forall₂ Token.Alike ts us) : (c.addAll ts).Alike (c'.addAll us) := by
  induction hts generalizing c c' with
  | nil => exact h
  | @cons t u ts us htu _ ih =>
    obtain ⟨password, hlength, rfl⟩ := htu
    exact ih (h.add _ ⟨password, hlength, rfl⟩)

end Credentials

/-! ### How long a token file is -/

/-- Two encodings that are equally long, if there are any. -/
def EquallyLong (a b : Option (List UInt8)) : Prop := a.map List.length = b.map List.length

theorem EquallyLong.append {a a' b b' : Option (List UInt8)} (ha : EquallyLong a a')
    (hb : EquallyLong b b') :
    EquallyLong (do return (← a) ++ (← b)) (do return (← a') ++ (← b')) := by
  unfold EquallyLong at ha hb ⊢
  cases a <;> cases a' <;> cases b <;> cases b' <;> simp_all

namespace MessagePack.Value

variable {v v' : Value} {items items' : List Value} {entries entries' : List (Key × Value)}

theorem equallyLong_bytes {bs cs : List UInt8} (h : cs.length = bs.length) :
    EquallyLong (scalar (.bytes bs)).encode? (scalar (.bytes cs)).encode? := by
  rw [encode?, encode?]
  change ((bytesHeader? bs.length).map (· ++ bs)).map List.length =
    ((bytesHeader? cs.length).map (· ++ cs)).map List.length
  rw [h]
  cases bytesHeader? bs.length with
  | none => rfl
  | some header => simp [h]

theorem equallyLong_array (hcount : items'.length = items.length)
    (h : EquallyLong (encodeItems? items) (encodeItems? items')) :
    EquallyLong (array items).encode? (array items').encode? := by
  rw [encode?, encode?, hcount]
  exact .append rfl h

theorem equallyLong_map (hcount : entries'.length = entries.length)
    (h : EquallyLong (encodeEntries? entries) (encodeEntries? entries')) :
    EquallyLong (map entries).encode? (map entries').encode? := by
  rw [encode?, encode?, hcount]
  exact .append rfl h

theorem equallyLong_items_cons (hv : EquallyLong v.encode? v'.encode?)
    (h : EquallyLong (encodeItems? items) (encodeItems? items')) :
    EquallyLong (encodeItems? (v :: items)) (encodeItems? (v' :: items')) := by
  rw [encodeItems?, encodeItems?]
  exact .append hv h

theorem equallyLong_entries_cons (k : Key) (hv : EquallyLong v.encode? v'.encode?)
    (h : EquallyLong (encodeEntries? entries) (encodeEntries? entries')) :
    EquallyLong (encodeEntries? ((k, v) :: entries)) (encodeEntries? ((k, v') :: entries')) := by
  have hassoc (a b c : Option (List UInt8)) : (do return (← a) ++ (← b) ++ (← c)) =
      (do return (← a) ++ (← (do return (← b) ++ (← c)))) := by
    cases a <;> cases b <;> cases c <;> simp
  rw [encodeEntries?, encodeEntries?, hassoc, hassoc]
  exact .append rfl (.append hv h)

end MessagePack.Value

namespace TokenFile

open Value

theorem equallyLong_tokenValue {t u : Token} (h : t.Alike u) :
    EquallyLong (tokenValue t).encode? (tokenValue u).encode? := by
  obtain ⟨password, hlength, rfl⟩ := h
  refine equallyLong_map rfl (equallyLong_entries_cons _ rfl ?_)
  exact equallyLong_entries_cons _ (equallyLong_bytes hlength) rfl

theorem equallyLong_write? {c c' : Credentials} (h : c.Alike c') :
    EquallyLong (write? c) (write? c') := by
  have hitems :
      EquallyLong (encodeItems? (c.map entryValue)) (encodeItems? (c'.map entryValue)) := by
    induction h with
    | nil => rfl
    | @cons p q c c' hpq hrest ih =>
      obtain ⟨a, t⟩ := p
      obtain ⟨a', u⟩ := q
      obtain ⟨rfl, htu⟩ := hpq
      refine equallyLong_items_cons (equallyLong_array rfl ?_) ih
      exact equallyLong_items_cons rfl (equallyLong_items_cons (equallyLong_tokenValue htu) rfl)
  have hcount : (c'.map entryValue).length = (c.map entryValue).length := by
    rw [List.length_map, List.length_map, h.length_eq]
  unfold write?
  rw [document_eq, document_eq]
  refine equallyLong_map rfl (equallyLong_entries_cons _ rfl (equallyLong_entries_cons _ rfl ?_))
  exact equallyLong_entries_cons _ (equallyLong_array hcount hitems) rfl

end TokenFile

/-! ### How a token file ends -/

namespace MessagePack.Value

variable {k : Key} {v : Value} {items : List Value} {entries : List (Key × Value)}
  {bytes : List UInt8}

theorem encode?_of_singleton (h : encodeItems? [v] = some bytes) : v.encode? = some bytes := by
  obtain ⟨first, rest, hfirst, hrest, rfl⟩ := encodeItems?_cons_eq_some.mp h
  obtain rfl := Option.some.inj hrest
  rw [hfirst, List.append_nil]

theorem exists_suffix_array (h : (array items).encode? = some bytes) :
    ∃ content, encodeItems? items = some content ∧ content <:+ bytes := by
  obtain ⟨header, content, -, hcontent, rfl⟩ := encode?_array_eq_some.mp h
  exact ⟨content, hcontent, List.suffix_append header content⟩

theorem exists_suffix_map (h : (map entries).encode? = some bytes) :
    ∃ content, encodeEntries? entries = some content ∧ content <:+ bytes := by
  obtain ⟨header, content, -, hcontent, rfl⟩ := encode?_map_eq_some.mp h
  exact ⟨content, hcontent, List.suffix_append header content⟩

theorem exists_suffix_items_cons (h : encodeItems? (v :: items) = some bytes) :
    ∃ rest, encodeItems? items = some rest ∧ rest <:+ bytes := by
  obtain ⟨first, rest, -, hrest, rfl⟩ := encodeItems?_cons_eq_some.mp h
  exact ⟨rest, hrest, List.suffix_append first rest⟩

theorem exists_suffix_entries_cons (h : encodeEntries? ((k, v) :: entries) = some bytes) :
    ∃ rest, encodeEntries? entries = some rest ∧ rest <:+ bytes := by
  obtain ⟨name, value, rest, -, -, hrest, rfl⟩ := encodeEntries?_cons_eq_some.mp h
  exact ⟨rest, hrest, List.suffix_append (name ++ value) rest⟩

theorem exists_suffix_entry (h : encodeEntries? [(k, v)] = some bytes) :
    ∃ value, v.encode? = some value ∧ value <:+ bytes := by
  obtain ⟨name, value, rest, -, hvalue, hrest, rfl⟩ := encodeEntries?_cons_eq_some.mp h
  obtain rfl := Option.some.inj hrest
  rw [List.append_nil]
  exact ⟨value, hvalue, List.suffix_append name value⟩

end MessagePack.Value

namespace TokenFile

open Value

/-- The fields of a token behind its password. -/
def lastFields (t : Token) : List (Key × Value) :=
  [(.text "kind", .text t.kind), (.text "service", .text t.service)]

/-- A token ends in the fields behind its password. -/
theorem exists_suffix_entryValue {p : Alias × Token} {bytes : List UInt8}
    (h : (entryValue p).encode? = some bytes) :
    ∃ tail, encodeEntries? (lastFields p.2) = some tail ∧ tail <:+ bytes := by
  obtain ⟨pair, hpair, hinBytes⟩ := exists_suffix_array h
  obtain ⟨token, htoken, hinPair⟩ := exists_suffix_items_cons hpair
  obtain ⟨fields, hfields, hinToken⟩ := exists_suffix_map (encode?_of_singleton htoken)
  obtain ⟨more, hmore, hinFields⟩ := exists_suffix_entries_cons hfields
  obtain ⟨tail, htail, hinMore⟩ := exists_suffix_entries_cons hmore
  exact ⟨tail, htail, hinMore.trans (hinFields.trans (hinToken.trans (hinPair.trans hinBytes)))⟩

/-- The marks that bytes are quoted with. -/
def quotationMarks : List Char := ['\'', '"']

/-- To be checked mark by mark: an instance that decides it for all characters would do so by trying
each of them. -/
theorem forall_mem_quotationMarks {P : Char → Prop} (hsingle : P '\'') (hdouble : P '"') :
    ∀ quote ∈ quotationMarks, P quote :=
  List.forall_mem_cons.mpr ⟨hsingle, List.forall_mem_singleton.mpr hdouble⟩

theorem length_quoteByte_of_foreign {b : UInt8} (hb : 0x80 ≤ b.toNat) :
    ∀ quote ∈ quotationMarks, (Text.quoteByte quote b).length = 4 := by
  have hsingle : ∀ n : Fin 0x100, 0x80 ≤ n.val →
      (Text.quoteByte '\'' (UInt8.ofNat n.val)).length = 4 := by
    decide +kernel
  have hdouble : ∀ n : Fin 0x100, 0x80 ≤ n.val →
      (Text.quoteByte '"' (UInt8.ofNat n.val)).length = 4 := by
    decide +kernel
  have hnumber : UInt8.ofNat b.toNat = b := UInt8.ofNat_toNat
  exact forall_mem_quotationMarks (hnumber ▸ hsingle ⟨b.toNat, b.toNat_lt⟩ hb)
    (hnumber ▸ hdouble ⟨b.toNat, b.toNat_lt⟩ hb)

/-- A text starts with a header that is not of ASCII. -/
theorem length_quoted_text {s : String} {bytes : List UInt8}
    (h : (Value.text s).encode? = some bytes) {quote : Char} (hquote : quote ∈ quotationMarks) :
    4 ≤ (bytes.flatMap (Text.quoteByte quote)).length := by
  obtain ⟨header, hheader, rfl⟩ : ∃ header, textHeader? (Utf8.encode s).length = some header ∧
      header ++ Utf8.encode s = bytes := Option.map_eq_some_iff.mp h
  obtain ⟨b, rest, rfl, hb⟩ : ∃ b rest, header = b :: rest ∧ 0x80 ≤ b.toNat := by
    unfold textHeader? tagged at hheader
    split_ifs at hheader with hshort <;> obtain rfl := Option.some.inj hheader
    · exact ⟨_, _, rfl, by rw [Utf8.toNat_byte (by omega)]; omega⟩
    all_goals exact ⟨_, _, rfl, by decide⟩
  rw [List.cons_append, List.flatMap_cons, List.length_append,
    length_quoteByte_of_foreign hb quote hquote]
  exact Nat.le_add_right 4 _

theorem length_quoted_lastFields {t : Token} {tail : List UInt8}
    (h : encodeEntries? (lastFields t) = some tail) {quote : Char}
    (hquote : quote ∈ quotationMarks) : 22 ≤ (tail.flatMap (Text.quoteByte quote)).length := by
  have hnames : ∀ quote ∈ quotationMarks,
      ((0xA4 :: Utf8.encode "kind").flatMap (Text.quoteByte quote)).length = 8 ∧
        ((0xA7 :: Utf8.encode "service").flatMap (Text.quoteByte quote)).length = 11 :=
    forall_mem_quotationMarks (by decide +kernel) (by decide +kernel)
  obtain ⟨kindName, kind, rest, hkindName, hkind, hrest, rfl⟩ := encodeEntries?_cons_eq_some.mp h
  obtain ⟨serviceName, service, rest, hserviceName, hservice, -, rfl⟩ :=
    encodeEntries?_cons_eq_some.mp hrest
  obtain rfl : 0xA4 :: Utf8.encode "kind" = kindName := Option.some.inj hkindName
  obtain rfl : 0xA7 :: Utf8.encode "service" = serviceName := Option.some.inj hserviceName
  obtain ⟨hkindName, hserviceName⟩ := hnames quote hquote
  have hkind' := length_quoted_text hkind hquote
  have hservice' := length_quoted_text hservice hquote
  rw [List.flatMap_append, List.flatMap_append, List.flatMap_append, List.flatMap_append,
    List.length_append, List.length_append, List.length_append, List.length_append]
  omega

/-- Two token files that are equally long and end alike, for longer than reports show of an end. -/
structure Alike (bytes bytes' : List UInt8) : Prop where
  length : bytes'.length = bytes.length
  ending : ∃ tail, tail <:+ bytes ∧ tail <:+ bytes' ∧ ∀ quote ∈ quotationMarks,
    22 ≤ (tail.flatMap (Text.quoteByte quote)).length

theorem exists_suffix_entries {c c' : Credentials} (h : c.Alike c') (hne : c ≠ [])
    {bytes bytes' : List UInt8} (hbytes : encodeItems? (c.map entryValue) = some bytes)
    (hbytes' : encodeItems? (c'.map entryValue) = some bytes') :
    ∃ t tail, encodeEntries? (lastFields t) = some tail ∧ tail <:+ bytes ∧ tail <:+ bytes' := by
  induction h generalizing bytes bytes' with
  | nil => exact absurd rfl hne
  | @cons p q c c' hpq hrest ih =>
    obtain ⟨first, rest, hfirst, htail, rfl⟩ := encodeItems?_cons_eq_some.mp hbytes
    obtain ⟨first', rest', hfirst', htail', rfl⟩ := encodeItems?_cons_eq_some.mp hbytes'
    cases hrest with
    | nil =>
      -- the last token
      have hlast : lastFields q.2 = lastFields p.2 := by
        obtain ⟨-, password, -, hq⟩ := hpq
        rw [hq]
        rfl
      obtain ⟨tail, hfields, hsuffix⟩ := exists_suffix_entryValue hfirst
      obtain ⟨tail', hfields', hsuffix'⟩ := exists_suffix_entryValue hfirst'
      rw [hlast] at hfields'
      obtain rfl : tail' = tail := Option.some.inj (hfields'.symm.trans hfields)
      obtain rfl := Option.some.inj htail
      obtain rfl := Option.some.inj htail'
      rw [List.append_nil, List.append_nil]
      exact ⟨p.2, tail', hfields, hsuffix, hsuffix'⟩
    | cons hnext hmore =>
      obtain ⟨t, tail, hfields, hsuffix, hsuffix'⟩ := ih (List.cons_ne_nil _ _) htail htail'
      exact ⟨t, tail, hfields, hsuffix.trans (List.suffix_append _ _),
        hsuffix'.trans (List.suffix_append _ _)⟩

/-- The tokens stand at the end of a token file. -/
theorem exists_suffix_write? {c : Credentials} {bytes : List UInt8} (h : write? c = some bytes) :
    ∃ items, encodeItems? (c.map entryValue) = some items ∧ items <:+ bytes := by
  unfold write? at h
  rw [document_eq] at h
  obtain ⟨fields, hfields, hinBytes⟩ := exists_suffix_map h
  obtain ⟨more, hmore, hinFields⟩ := exists_suffix_entries_cons hfields
  obtain ⟨last, hlast, hinMore⟩ := exists_suffix_entries_cons hmore
  obtain ⟨tokens, htokens, hinLast⟩ := exists_suffix_entry hlast
  obtain ⟨items, hitems, hinTokens⟩ := exists_suffix_array htokens
  exact ⟨items, hitems, hinTokens.trans (hinLast.trans (hinMore.trans (hinFields.trans hinBytes)))⟩

/-- The file without tokens. -/
def emptyFile : List UInt8 :=
  0x83 :: 0xA5 :: Utf8.encode "magic" ++ 0xA4 :: Utf8.encode "FLTS" ++
    0xA7 :: Utf8.encode "version" ++ 0x01 :: 0xA6 :: Utf8.encode "tokens" ++ [0x90]

/-- Whether tokens fit into a file, how long it is and how it ends does not tell of passwords. -/
theorem write?_alike {c c' : Credentials} (h : c.Alike c') :
    Option.Rel Alike (write? c) (write? c') := by
  have hlength := equallyLong_write? h
  unfold EquallyLong at hlength
  cases hbytes : write? c with
  | none =>
    cases hbytes' : write? c' with
    | none => exact .none
    | some bytes' => simp [hbytes, hbytes'] at hlength
  | some bytes =>
    cases hbytes' : write? c' with
    | none => simp [hbytes, hbytes'] at hlength
    | some bytes' =>
      rw [hbytes, hbytes'] at hlength
      refine .some ⟨(Option.some.inj hlength).symm, ?_⟩
      by_cases hne : c = []
      · subst hne
        cases h
        obtain rfl := Option.some.inj (hbytes.symm.trans hbytes')
        have hempty : write? [] = some emptyFile := by decide +kernel
        obtain rfl := Option.some.inj (hempty.symm.trans hbytes)
        exact ⟨emptyFile, List.suffix_rfl, List.suffix_rfl,
          forall_mem_quotationMarks (by decide +kernel) (by decide +kernel)⟩
      · obtain ⟨items, hitems, hsuffix⟩ := exists_suffix_write? hbytes
        obtain ⟨items', hitems', hsuffix'⟩ := exists_suffix_write? hbytes'
        obtain ⟨t, tail, hfields, htail, htail'⟩ := exists_suffix_entries h hne hitems hitems'
        exact ⟨tail, htail.trans hsuffix, htail'.trans hsuffix', fun quote hquote =>
          length_quoted_lastFields hfields hquote⟩

end TokenFile

/-! ### What services are asked for -/

/-- Keys that amount to tokens of one kind for every bucket, or to none for one reason. -/
def SessionKeys.Alike (keys keys' : SessionKeys) : Prop :=
  ∀ bucket, Matched Eq Token.Alike (TokenService.sessionToken bucket keys)
    (TokenService.sessionToken bucket keys')

/-- The second world is the first with sessions that amount to tokens with other passwords. -/
def World.Alike (w v : World) : Prop :=
  ∃ answer, v = { w with sessionAnswer := answer } ∧
    ∀ n, Matched Eq SessionKeys.Alike (w.sessionAnswer n) (answer n)

/-- The same service, or one that issues the same tokens with other passwords. -/
inductive TokenService.Alike : TokenService → TokenService → Prop
  | same (service : TokenService) : Alike service service
  | fixed {ts us : List Token} (h : List.Forall₂ Token.Alike ts us) : Alike (.fixed ts) (.fixed us)

theorem Action.IgnoresSessions.paired {ε α : Type} {E : ε → ε → Prop} [Std.Refl E]
    {a : Action ε α} (h : a.IgnoresSessions) : Paired World.Alike World.Alike E Eq a a := by
  rintro w v ⟨answer, rfl, hanswers⟩
  rw [h w answer]
  refine ⟨.of_eq refl (fun _ => rfl) _, answer, rfl, ?_⟩
  rwa [h.sessionAnswer_eq w]

namespace TokenService

theorem paired_requestSession (request : SessionRequest) :
    Paired World.Alike World.Alike Eq SessionKeys.Alike (requestSession request)
      (requestSession request) := by
  refine .get_bind fun w v hwv => ?_
  obtain ⟨answer, rfl, hanswers⟩ := hwv
  refine (IgnoresSessions.note _).paired.bind_eq fun _ => ?_
  dsimp only
  generalize (requestsIn w.journal).length = n
  have hanswer := hanswers n
  generalize w.sessionAnswer n = r at hanswer ⊢
  generalize answer n = s at hanswer ⊢
  cases hanswer with
  | error h =>
    subst h
    exact .throw rfl
  | ok h => exact .pure h

theorem paired_bucketToken (role : Option String) (duration : Int) (bucket : String) :
    Paired World.Alike World.Alike Eq Token.Alike (bucketToken role duration bucket)
      (bucketToken role duration bucket) := by
  refine (paired_requestSession _).bind fun keys keys' hkeys => ?_
  refine (Paired.liftM (hkeys bucket)).bind fun t u htu => ?_
  exact (IgnoresSessions.logEntry _ _).paired.bind_eq fun _ => .pure htu

theorem ignoresSessions_bucketsOf (found paths : List String) :
    (bucketsOf found paths).IgnoresSessions := by
  induction paths generalizing found with
  | nil => exact .pure _
  | cons path rest ih =>
    rw [bucketsOf]
    split
    · exact .throw _
    · split
      · exact (IgnoresSessions.logEntry _ _).bind fun _ => ih found
      · split
        · exact ih found
        · exact ih _

theorem paired_obtain {service service' : TokenService} (h : service.Alike service')
    (paths : List String) :
    Paired World.Alike World.Alike Eq (List.Forall₂ Token.Alike) (service.obtain paths)
      (service'.obtain paths) := by
  refine (IgnoresSessions.note _).paired.bind_eq fun _ => ?_
  cases h with
  | same service =>
    cases service with
    | sessions role duration =>
      refine (ignoresSessions_bucketsOf [] paths).paired.bind_eq fun found => ?_
      refine Paired.mapM (List.forall₂_same.mpr fun _ _ => rfl) fun bucket _ hbucket => ?_
      exact hbucket ▸ paired_bucketToken role duration bucket
    | fixed tokens => exact .pure (List.forall₂_same.mpr fun t _ => .refl t)
    | failing fault => exact .throw rfl
  | fixed h => exact .pure h

end TokenService

namespace Credentials

theorem forM_logInfo_congr {ts us : List Token} (h : List.Forall₂ Token.Alike ts us) :
    (ts.forM fun t => logInfo s!"Adding user token {t.identifier} with {t.describe}" :
        Action CredentialError Unit) =
      us.forM fun t => logInfo s!"Adding user token {t.identifier} with {t.describe}" := by
  induction h with
  | nil => rfl
  | cons htu _ ih =>
    obtain ⟨password, -, rfl⟩ := htu
    rw [List.forM, List.forM, ih]
    rfl

/-- Bundling tokens of one kind asks for the same and says the same, and ends in files alike. -/
theorem paired_bundle {service service' : TokenService} (hservice : service.Alike service')
    {ts us : List Token} (hts : List.Forall₂ Token.Alike ts us) (paths : List String) :
    Paired World.Alike World.Alike Eq TokenFile.Alike (bundle service paths ts)
      (bundle service' paths us) := by
  refine (TokenService.paired_obtain hservice paths).bind fun issued issued' hissued => ?_
  rw [forM_logInfo_congr hts]
  have hlog : IgnoresSessions (us.forM fun t =>
      logInfo s!"Adding user token {t.identifier} with {t.describe}" :
        Action CredentialError Unit) := by
    intro w answer
    rw [run_forM_logInfo, run_forM_logInfo]
  refine hlog.paired.bind_eq fun _ => ?_
  have hempty : empty.Alike empty := .nil
  have hfiles := TokenFile.write?_alike ((hempty.addAll hissued).addAll hts)
  generalize TokenFile.write? ((empty.addAll issued).addAll ts) = r at hfiles ⊢
  generalize TokenFile.write? ((empty.addAll issued').addAll us) = s at hfiles ⊢
  cases hfiles with
  | none => exact .throw rfl
  | some h =>
    dsimp only
    rw [h.length]
    exact (IgnoresSessions.logEntry _ _).paired.bind_eq fun _ => .pure h

end Credentials
end ClusterAgent
