import ClusterAgent.Failure.Reports
import ClusterAgent.Proofs.MessagePack.Document
import ClusterAgent.Proofs.Schema.Record
import ClusterAgent.Token.Storage

/-! Token files. What is written reads back, what is read can be written and then stays as it is,
and a file with a part missing or added holds no credentials. -/
namespace ClusterAgent

open MessagePack

/-- No text of the token, and not its password, is too long for a header. -/
def Token.Storable (t : Token) : Prop :=
  (Utf8.encode t.identifier).length < 0x100000000 ∧ t.password.length < 0x100000000 ∧
    (Utf8.encode t.kind).length < 0x100000000 ∧ (Utf8.encode t.service).length < 0x100000000

instance (t : Token) : Decidable t.Storable := inferInstanceAs (Decidable (_ ∧ _ ∧ _ ∧ _))

theorem Token.check_eq_ok {entries : List (WideText × Datum)} {t : Token} :
    Token.check (.map entries) = .ok t ↔ ∃ identifier password kind service,
      Datum.entry? entries "identifier" = some identifier ∧
      Schema.checkString identifier = .ok t.identifier ∧
      Datum.entry? entries "password" = some password ∧
      Schema.checkBytes password = .ok t.password ∧
      Datum.entry? entries "kind" = some kind ∧ Schema.checkString kind = .ok t.kind ∧
      Datum.entry? entries "service" = some service ∧
      Schema.checkString service = .ok t.service := by
  unfold Token.check Schema.checkRecord
  simp only [Schema.Checked.seq_eq_ok, Schema.Checked.map_eq_ok, Schema.required_eq_ok]
  constructor
  · rintro ⟨_, _, ⟨_, _, ⟨_, _, ⟨_, ⟨i, hi, hi'⟩, rfl⟩, ⟨p, hp, hp'⟩, rfl⟩, ⟨k, hk, hk'⟩, rfl⟩,
      ⟨s, hs, hs'⟩, rfl⟩
    exact ⟨i, p, k, s, hi, hi', hp, hp', hk, hk', hs, hs'⟩
  · rintro ⟨i, p, k, s, hi, hi', hp, hp', hk, hk', hs, hs'⟩
    exact ⟨_, _, ⟨_, _, ⟨_, _, ⟨_, ⟨i, hi, hi'⟩, rfl⟩, ⟨p, hp, hp'⟩, rfl⟩, ⟨k, hk, hk'⟩, rfl⟩,
      ⟨s, hs, hs'⟩, rfl⟩

namespace Credentials

/-- Nothing in the credentials, and not their number, is too large for a header. -/
def Storable (c : Credentials) : Prop :=
  c.length < 0x100000000 ∧ ∀ p ∈ c, p.1.value.Storable ∧ p.2.Storable

instance (c : Credentials) : Decidable c.Storable := inferInstanceAs (Decidable (_ ∧ _))

/-- Adds tokens under texts, one after the other. -/
def addNamed (c : Credentials) (steps : List (String × Token)) : Credentials :=
  steps.foldl (fun c step => c.add (.ofString step.1) step.2) c

theorem distinct_addNamed {c : Credentials} (h : Table.Distinct c) (steps : List (String × Token)) :
    Table.Distinct (c.addNamed steps) := by
  unfold addNamed
  induction steps generalizing c with
  | nil => exact h
  | cons step steps ih => exact ih (h.insert _ _)

end Credentials

namespace TokenFile

/-! ### Writing -/

/-- The value of one entry of the list of tokens. -/
def entryValue (p : Alias × Token) : Value := .array [.scalar p.1.value, tokenValue p.2]

theorem document_eq (c : Credentials) :
    document c = .map [(.text "magic", .text magic), (.text "version", .scalar (.int version)),
      (.text "tokens", .array (c.map entryValue))] := rfl

theorem isSome_encode?_text_iff (s : String) :
    (Value.text s).encode?.isSome ↔ (Utf8.encode s).length < 0x100000000 := by
  rw [Value.text, Value.encode?]
  exact Scalar.isSome_encode?_iff _

theorem isSome_encode?_scalar_iff (s : Scalar) : (Value.scalar s).encode?.isSome ↔ s.Storable := by
  rw [Value.encode?]
  exact Scalar.isSome_encode?_iff s

theorem isSome_encode?_tokenValue_iff (t : Token) : (tokenValue t).encode?.isSome ↔ t.Storable := by
  have hidentifier : (Key.text "identifier").toScalar.Storable := by decide
  have hpassword : (Key.text "password").toScalar.Storable := by decide
  have hkind : (Key.text "kind").toScalar.Storable := by decide
  have hservice : (Key.text "service").toScalar.Storable := by decide
  unfold tokenValue Token.Storable
  rw [Value.isSome_encode?_map_iff]
  simp only [List.forall_mem_cons, List.not_mem_nil, false_imp_iff, implies_true, and_true,
    hidentifier, hpassword, hkind, hservice, true_and, isSome_encode?_text_iff,
    isSome_encode?_scalar_iff]
  exact and_iff_right (by simp)

theorem isSome_encode?_entryValue_iff (p : Alias × Token) :
    (entryValue p).encode?.isSome ↔ p.1.value.Storable ∧ p.2.Storable := by
  unfold entryValue
  rw [Value.isSome_encode?_array_iff]
  simp only [List.forall_mem_cons, List.not_mem_nil, false_imp_iff, implies_true, and_true,
    isSome_encode?_scalar_iff, isSome_encode?_tokenValue_iff]
  exact and_iff_right (by simp)

/-- What can be written, and nothing else, has a form. -/
theorem isSome_write?_iff (c : Credentials) : (write? c).isSome ↔ c.Storable := by
  have hmagic : (Key.text "magic").toScalar.Storable := by decide
  have hversion : (Key.text "version").toScalar.Storable := by decide
  have htokens : (Key.text "tokens").toScalar.Storable := by decide
  have hword : (Utf8.encode magic).length < 0x100000000 := by decide
  have hnumber : (Scalar.int version).Storable := by decide
  unfold write? Credentials.Storable
  rw [document_eq, Value.isSome_encode?_map_iff]
  simp only [List.forall_mem_cons, List.not_mem_nil, false_imp_iff, implies_true, and_true,
    hmagic, hversion, htokens, hword, hnumber, true_and, isSome_encode?_text_iff,
    isSome_encode?_scalar_iff, Value.isSome_encode?_array_iff, List.length_map,
    List.forall_mem_map, isSome_encode?_entryValue_iff]
  exact and_iff_right (by simp)

/-! ### Reading what was written -/

theorem proper_entryValue (depth : Nat) (p : Alias × Token) :
    (entryValue p).Proper (depth + 2) := by
  have hkeys : Table.Distinct [(Key.text "identifier", Value.text p.2.identifier),
      (.text "password", .scalar (.bytes p.2.password)), (.text "kind", .text p.2.kind),
      (.text "service", .text p.2.service)] := by simp [Table.Distinct]
  unfold entryValue tokenValue
  refine List.forall_mem_cons.mpr ⟨Value.proper_scalar _ _, ?_⟩
  refine List.forall_mem_singleton.mpr ⟨hkeys, ?_⟩
  simp only [List.forall_mem_cons, List.not_mem_nil, false_imp_iff, implies_true, and_true]
  exact ⟨Value.proper_scalar _ _, Value.proper_scalar _ _, Value.proper_scalar _ _,
    Value.proper_scalar _ _⟩

theorem proper_document (c : Credentials) : (document c).Proper maxDepth := by
  have hkeys : Table.Distinct [(Key.text "magic", Value.text magic),
      (.text "version", .scalar (.int version)),
      (.text "tokens", .array (c.map entryValue))] := by simp [Table.Distinct]
  rw [document_eq]
  refine ⟨hkeys, ?_⟩
  simp only [List.forall_mem_cons, List.not_mem_nil, false_imp_iff, implies_true, and_true]
  refine ⟨Value.proper_scalar _ _, Value.proper_scalar _ _, ?_⟩
  exact List.forall_mem_map.mpr fun p _ => proper_entryValue _ p

theorem readToken_tokenValue (t : Token) : readToken (tokenValue t) = .ok t := by
  have hcheck : Token.check (.map [(WideText.ofString "identifier", .string t.identifier),
      (WideText.ofString "password", .bytes t.password),
      (WideText.ofString "kind", .string t.kind),
      (WideText.ofString "service", .string t.service)]) = .ok t := by
    rw [Token.check_eq_ok]
    refine ⟨_, _, _, _, ?_, Schema.checkString_eq_ok.mpr (Or.inl rfl), ?_,
      Schema.checkBytes_eq_ok.mpr (Or.inl rfl), ?_, Schema.checkString_eq_ok.mpr (Or.inl rfl), ?_,
      Schema.checkString_eq_ok.mpr (Or.inl rfl)⟩ <;>
      simp [Datum.entry?, WideText.ofString_beq]
  unfold readToken tokenValue
  simp only [fields?, Value.text, fieldDatum, List.mapM_cons, List.mapM_nil]
  dsimp only [Option.bind_eq_bind, Option.bind_some, Option.pure_def]
  rw [hcheck]
  rfl

theorem readEntry_entryValue (p : Alias × Token) : readEntry (entryValue p) = .ok p := by
  unfold readEntry entryValue Value.elements?
  dsimp only
  rw [readToken_tokenValue]
  rfl

theorem readEntries_map_entryValue (c u : Credentials) :
    readEntries c (u.map entryValue) = .ok (u.foldl (fun c p => c.add p.1 p.2) c) := by
  induction u generalizing c with
  | nil => rfl
  | cons p u ih =>
    rw [List.map_cons, readEntries, readEntry_entryValue, List.foldl_cons, ← ih]
    rfl

theorem ofDocument_document {c : Credentials} (h : Table.Distinct c) :
    ofDocument (document c) = .ok c := by
  have hversion : isVersion (.scalar (.int version)) = true := by decide
  have hread : readEntries .empty (c.map entryValue) = .ok c := by
    rw [readEntries_map_entryValue]
    congr 1
    exact Table.foldl_insert (t := []) (by simpa using h)
  rw [document_eq, ← hread]
  simp [ofDocument, Value.entry?, Table.get?, Value.text, Value.elements?, hversion]

theorem read_of_write? {c : Credentials} {bytes : List UInt8} (hc : Table.Distinct c)
    (h : write? c = some bytes) : read bytes = .ok c := by
  unfold read
  rw [decode_encode? (proper_document c) h]
  exact ofDocument_document hc

/-! ### What is read -/

theorem text_of_fieldDatum {v : Value} {s : String} (h : fieldDatum v = .string s) :
    v = .text s := by
  unfold fieldDatum at h
  split at h
  · next u =>
    rw [Datum.string, Datum.string, Datum.text.injEq] at h
    rw [WideText.ofString_injective h]
    rfl
  · cases h
  · cases h

theorem bytes_of_fieldDatum {v : Value} {bs : List UInt8} (h : fieldDatum v = .bytes bs) :
    v = .scalar (.bytes bs) := by
  unfold fieldDatum at h
  split at h
  · cases h
  · rw [Datum.bytes.inj h]
  · cases h

theorem short_of_checkString {v : Value} {s : String} (hv : v.encode?.isSome)
    (h : Schema.checkString (fieldDatum v) = .ok s) : (Utf8.encode s).length < 0x100000000 := by
  rcases Schema.checkString_eq_ok.mp h with h | h
  · rw [text_of_fieldDatum h] at hv
    exact (isSome_encode?_text_iff s).mp hv
  · rw [bytes_of_fieldDatum h] at hv
    exact (isSome_encode?_scalar_iff _).mp hv

theorem short_of_checkBytes {v : Value} {bs : List UInt8} (hv : v.encode?.isSome)
    (h : Schema.checkBytes (fieldDatum v) = .ok bs) : bs.length < 0x100000000 := by
  rcases Schema.checkBytes_eq_ok.mp h with h | ⟨t, ht, h⟩
  · rw [bytes_of_fieldDatum h] at hv
    exact (isSome_encode?_scalar_iff _).mp hv
  · -- the bytes are the encoding of a text that was read
    cases v with
    | scalar x =>
      cases x with
      | text s =>
        rw [fieldDatum, Datum.string, Datum.text.injEq] at h
        rw [← h, Utf8.encodeWide?_ofString] at ht
        rw [← Option.some.inj ht]
        exact (isSome_encode?_text_iff s).mp hv
      | _ => cases h
    | _ => cases h

/-- Each field holds a value of the map. -/
theorem exists_value_of_mem_fields {entries : List (Key × Value)}
    {fields : List (WideText × Datum)} (h : fields? entries = some fields)
    {field : WideText × Datum} (hfield : field ∈ fields) :
    ∃ p ∈ entries, field.2 = fieldDatum p.2 := by
  unfold fields? at h
  induction entries generalizing fields with
  | nil =>
    obtain rfl : [] = fields := by simpa using h
    cases hfield
  | cons q entries ih =>
    rw [List.mapM_cons] at h
    obtain ⟨first, hfirst, h⟩ := Option.bind_eq_some_iff.mp h
    obtain ⟨rest, hrest, h⟩ := Option.bind_eq_some_iff.mp h
    obtain rfl := Option.some.inj h
    rcases List.mem_cons.mp hfield with rfl | hfield
    · refine ⟨q, by simp, ?_⟩
      dsimp only at hfirst
      split at hfirst
      · rw [← Option.some.inj hfirst]
      · cases hfirst
    · obtain ⟨p, hp, heq⟩ := ih hrest hfield
      exact ⟨p, by simp [hp], heq⟩

theorem exists_value_of_entry? {entries : List (Key × Value)} {fields : List (WideText × Datum)}
    (h : fields? entries = some fields) {name : String} {v : Datum}
    (hv : Datum.entry? fields name = some v) : ∃ p ∈ entries, v = fieldDatum p.2 := by
  obtain ⟨field, hfind, rfl⟩ := Option.map_eq_some_iff.mp hv
  exact exists_value_of_mem_fields h (List.mem_reverse.mp (List.mem_of_find?_eq_some hfind))

theorem storable_of_readToken {v : Value} {t : Token} (hv : v.encode?.isSome)
    (h : readToken v = .ok t) : t.Storable := by
  unfold readToken at h
  split at h
  · next entries =>
    split at h
    · cases h
    · next fields hfields =>
      have hentries := ((Value.isSome_encode?_map_iff entries).mp hv).2
      have hcheck : Token.check (.map fields) = .ok t := by
        cases hc : Token.check (.map fields) with
        | error faults =>
          rw [hc] at h
          cases h
        | ok u =>
          rw [hc] at h
          rw [Except.ok.inj h]
      obtain ⟨i, p, k, s, hi, hi', hp, hp', hk, hk', hs, hs'⟩ := Token.check_eq_ok.mp hcheck
      obtain ⟨i, himem, rfl⟩ := exists_value_of_entry? hfields hi
      obtain ⟨p, hpmem, rfl⟩ := exists_value_of_entry? hfields hp
      obtain ⟨k, hkmem, rfl⟩ := exists_value_of_entry? hfields hk
      obtain ⟨s, hsmem, rfl⟩ := exists_value_of_entry? hfields hs
      exact ⟨short_of_checkString (hentries i himem).2 hi',
        short_of_checkBytes (hentries p hpmem).2 hp',
        short_of_checkString (hentries k hkmem).2 hk',
        short_of_checkString (hentries s hsmem).2 hs'⟩
  · cases h

/-- The parts of a value that can be written can be written, and are not too many. -/
theorem storable_elements? {v : Value} {parts : List Value} (hv : v.encode?.isSome)
    (h : v.elements? = some parts) :
    parts.length < 0x100000000 ∧ ∀ w ∈ parts, w.encode?.isSome := by
  cases v with
  | array items =>
    obtain rfl := Option.some.inj h
    exact (Value.isSome_encode?_array_iff items).mp hv
  | map entries =>
    obtain rfl := Option.some.inj h
    have hentries := (Value.isSome_encode?_map_iff entries).mp hv
    rw [List.length_map, List.forall_mem_map]
    exact ⟨hentries.1, fun p hp => (isSome_encode?_scalar_iff _).mpr (hentries.2 p hp).1⟩
  | scalar x =>
    have hx := (isSome_encode?_scalar_iff x).mp hv
    cases x with
    | text s =>
      obtain rfl := Option.some.inj h
      -- the parts of a text are its characters, of which there are no more than bytes
      have hcount := Utf8.length_le_encodeChars s.toList
      have hshort : (Utf8.encodeChars s.toList).length < 0x100000000 := hx
      rw [List.length_map, List.forall_mem_map]
      refine ⟨by omega, fun c _ => (isSome_encode?_text_iff _).mpr ?_⟩
      have hchar := Utf8.length_encodeChar_le c
      simp only [Utf8.encode, String.toList_singleton, Utf8.encodeChars, List.flatMap_singleton]
      omega
    | bytes bs =>
      obtain rfl := Option.some.inj h
      have hshort : bs.length < 0x100000000 := hx
      rw [List.length_map, List.forall_mem_map]
      refine ⟨hshort, fun b _ => (isSome_encode?_scalar_iff _).mpr ?_⟩
      have hb : b.toNat < 0x100 := b.toNat_lt
      unfold Scalar.Storable
      omega
    | ext code data =>
      obtain rfl := Option.some.inj h
      have hcode : code.val < 0x80 := code.isLt
      refine ⟨by simp, ?_⟩
      simp only [List.forall_mem_cons, List.not_mem_nil, false_imp_iff, implies_true, and_true,
        isSome_encode?_scalar_iff]
      exact ⟨by unfold Scalar.Storable; omega, hx⟩
    | _ => cases h

theorem storable_of_readEntry {v : Value} {p : Alias × Token} (hv : v.encode?.isSome)
    (h : readEntry v = .ok p) : p.1.value.Storable ∧ p.2.Storable := by
  unfold readEntry at h
  split at h
  · cases h
  · next a fields helements =>
    have hparts := (storable_elements? hv helements).2
    cases htoken : readToken fields with
    | error e =>
      rw [htoken] at h
      cases h
    | ok t =>
      rw [htoken] at h
      cases a with
      | scalar s =>
        obtain rfl := Except.ok.inj h
        exact ⟨(isSome_encode?_scalar_iff s).mp (hparts (.scalar s) (by simp)),
          storable_of_readToken (hparts fields (by simp)) htoken⟩
      | array items => cases h
      | map entries => cases h
  · cases h

theorem readEntries_storable {c c' : Credentials} {items : List Value}
    (hc : ∀ p ∈ c, p.1.value.Storable ∧ p.2.Storable) (hkeys : Table.Distinct c)
    (hitems : ∀ v ∈ items, v.encode?.isSome) (h : readEntries c items = .ok c') :
    Table.Distinct c' ∧ c'.length ≤ c.length + items.length ∧
      ∀ p ∈ c', p.1.value.Storable ∧ p.2.Storable := by
  induction items generalizing c with
  | nil =>
    obtain rfl := Except.ok.inj h
    exact ⟨hkeys, le_rfl, hc⟩
  | cons v items ih =>
    rw [List.forall_mem_cons] at hitems
    rw [readEntries] at h
    cases hentry : readEntry v with
    | error e =>
      rw [hentry] at h
      cases h
    | ok p =>
      rw [hentry] at h
      have hp := storable_of_readEntry hitems.1 hentry
      have hadd : ∀ q ∈ c.add p.1 p.2, q.1.value.Storable ∧ q.2.Storable := by
        intro q hq
        rcases Table.mem_insert hq with hq | rfl | ⟨⟨w, hw⟩, hvalue⟩
        · exact hc q hq
        · exact hp
        · exact ⟨(hc _ hw).1, hvalue ▸ hp.2⟩
      have hsize : (c.add p.1 p.2).length ≤ c.length + 1 := Table.length_insert_le c p.1 p.2
      obtain ⟨hdistinct, hlen, hall⟩ := ih hadd (hkeys.insert p.1 p.2) hitems.2 h
      refine ⟨hdistinct, ?_, hall⟩
      rw [List.length_cons]
      omega

theorem ofDocument_storable {v : Value} {c : Credentials} (hv : v.encode?.isSome)
    (h : ofDocument v = .ok c) : Table.Distinct c ∧ c.Storable := by
  unfold ofDocument at h
  split at h
  · next entries =>
    have hentries := ((Value.isSome_encode?_map_iff entries).mp hv).2
    split at h
    · dsimp only at h
      split_ifs at h
      have htokens : ((Value.entry? entries "tokens").getD (.array [])).encode?.isSome := by
        cases htokens : Value.entry? entries "tokens" with
        | none => exact (Value.isSome_encode?_array_iff []).mpr (by simp)
        | some w =>
          obtain ⟨p, hfind, rfl⟩ := Option.map_eq_some_iff.mp htokens
          exact (hentries p (List.mem_of_find?_eq_some hfind)).2
      split at h
      · cases h
      · next items hitems =>
        obtain ⟨hcount, hitems⟩ := storable_elements? htokens hitems
        obtain ⟨hdistinct, hlen, hall⟩ :=
          readEntries_storable (c := .empty) (by simp [Credentials.empty]) List.Pairwise.nil
            hitems h
        refine ⟨hdistinct, ?_, hall⟩
        have hempty : Credentials.empty.length = 0 := rfl
        omega
    · cases h
  · cases h

theorem read_storable {bytes : List UInt8} {c : Credentials} (h : read bytes = .ok c) :
    Table.Distinct c ∧ c.Storable := by
  unfold read at h
  split at h
  · cases h
  · next v hv => exact ofDocument_storable (decode_yields hv).2 h

/-! ### Main statements -/

theorem eq_ok_of_toOption {r : Except Error Credentials} {c : Credentials}
    (h : r.toOption = some c) : r = .ok c := by
  cases r with
  | error e => cases h
  | ok c' => rw [Option.some.inj h]

/-- Credentials built by adding tokens under texts, in any order and number, read back from their
file: the same aliases in the same order, each with its token. -/
theorem read_write_addNamed (steps : List (String × Token))
    (h : (Credentials.empty.addNamed steps).Storable) :
    ∃ bytes, write? (Credentials.empty.addNamed steps) = some bytes ∧
      read bytes = .ok (Credentials.empty.addNamed steps) := by
  obtain ⟨bytes, hbytes⟩ := Option.isSome_iff_exists.mp ((isSome_write?_iff _).mpr h)
  have hdistinct := Credentials.distinct_addNamed (c := .empty) List.Pairwise.nil steps
  exact ⟨bytes, hbytes, read_of_write? hdistinct hbytes⟩

/-- An alias that is added twice, and one that is not the token's identifier. -/
def namedSteps : List (String × Token) :=
  [("home", ⟨"hdfs://home", [0x00, 0xFF], "delegation", "hdfs"⟩), ("", ⟨"", [], "", ""⟩),
    ("home", ⟨"hdfs://new", [0x7F], "delegation", "hdfs"⟩)]

theorem read_write_namedSteps :
    (Credentials.empty.addNamed namedSteps).Storable ∧
      ∃ bytes, write? (Credentials.empty.addNamed namedSteps) = some bytes ∧
        read bytes = .ok (Credentials.empty.addNamed namedSteps) :=
  ⟨by decide, read_write_addNamed namedSteps (by decide)⟩

/-- Any file that is read, in whatever forms it is spelled, has a written form that reads the same
and is written the same again. -/
theorem write_read_fixed {document : List UInt8} {c : Credentials} (h : read document = .ok c) :
    ∃ bytes, write? c = some bytes ∧ read bytes = .ok c ∧
      ∀ c', read bytes = .ok c' → write? c' = some bytes := by
  obtain ⟨hdistinct, hstorable⟩ := read_storable h
  obtain ⟨bytes, hbytes⟩ := Option.isSome_iff_exists.mp ((isSome_write?_iff c).mpr hstorable)
  have hread := read_of_write? hdistinct hbytes
  refine ⟨bytes, hbytes, hread, ?_⟩
  intro c' hc'
  rw [hread] at hc'
  rw [← Except.ok.inj hc', hbytes]

/-- A token file with headers longer than they have to be, `true` for the version and for the alias,
and a text for the password. -/
def foreignDocument : List UInt8 :=
  [0xDE, 0, 3, 0xD9, 5, 0x6D, 0x61, 0x67, 0x69, 0x63, 0xD9, 4, 0x46, 0x4C, 0x54, 0x53, 0xA7, 0x76,
    0x65, 0x72, 0x73, 0x69, 0x6F, 0x6E, 0xC3, 0xA6, 0x74, 0x6F, 0x6B, 0x65, 0x6E, 0x73, 0xDC, 0, 1,
    0x92, 0xC3, 0x84, 0xAA, 0x69, 0x64, 0x65, 0x6E, 0x74, 0x69, 0x66, 0x69, 0x65, 0x72, 0xC4, 1,
    0x69, 0xA8, 0x70, 0x61, 0x73, 0x73, 0x77, 0x6F, 0x72, 0x64, 0xA1, 0x70, 0xA4, 0x6B, 0x69, 0x6E,
    0x64, 0xA1, 0x6B, 0xA7, 0x73, 0x65, 0x72, 0x76, 0x69, 0x63, 0x65, 0xA1, 0x73]

def foreignCredentials : Credentials := [(⟨.bool true⟩, ⟨"i", [0x70], "k", "s"⟩)]

theorem read_foreignDocument : read foreignDocument = .ok foreignCredentials :=
  eq_ok_of_toOption (by decide +kernel)

theorem write_read_foreignDocument :
    read foreignDocument = .ok foreignCredentials ∧
      ∃ bytes, write? foreignCredentials = some bytes ∧ read bytes = .ok foreignCredentials ∧
        ∀ c', read bytes = .ok c' → write? c' = some bytes :=
  ⟨read_foreignDocument, write_read_fixed read_foreignDocument⟩

theorem kind_of_isShortage {e : ReadError} (h : e.isShortage = true) :
    (Error.document e).failure.kind = .invalidValue := by
  cases e <;> first | rfl | cases h

/-- A file that lost bytes at its end, or got some, holds no credentials at all. -/
theorem read_damaged {c : Credentials} {bytes : List UInt8} (h : write? c = some bytes) :
    (∀ cut, cut <+: bytes → cut ≠ bytes → ∃ e, read cut = .error (.document e) ∧
      e.isShortage = true ∧ (Error.document e).failure.kind = .invalidValue) ∧
    ∀ more, more ≠ [] → read (bytes ++ more) = .error (.document .extraData) := by
  constructor
  · rintro cut ⟨more, rfl⟩ hcut
    have hmore : more ≠ [] := fun hnil => hcut (by rw [hnil, List.append_nil])
    obtain ⟨e, he, hshort⟩ := decode_cut (proper_document c) h hmore
    refine ⟨e, ?_, hshort, kind_of_isShortage hshort⟩
    unfold read
    rw [he]
  · intro more hmore
    unfold read
    rw [decode_append (proper_document c) h hmore]

/-- The file that the credentials of the foreign document are written to. -/
def rewrittenDocument : List UInt8 :=
  [0x83, 0xA5, 0x6D, 0x61, 0x67, 0x69, 0x63, 0xA4, 0x46, 0x4C, 0x54, 0x53, 0xA7, 0x76, 0x65, 0x72,
    0x73, 0x69, 0x6F, 0x6E, 0x01, 0xA6, 0x74, 0x6F, 0x6B, 0x65, 0x6E, 0x73, 0x91, 0x92, 0xC3, 0x84,
    0xAA, 0x69, 0x64, 0x65, 0x6E, 0x74, 0x69, 0x66, 0x69, 0x65, 0x72, 0xA1, 0x69, 0xA8, 0x70, 0x61,
    0x73, 0x73, 0x77, 0x6F, 0x72, 0x64, 0xC4, 0x01, 0x70, 0xA4, 0x6B, 0x69, 0x6E, 0x64, 0xA1, 0x6B,
    0xA7, 0x73, 0x65, 0x72, 0x76, 0x69, 0x63, 0x65, 0xA1, 0x73]

theorem write?_foreignCredentials : write? foreignCredentials = some rewrittenDocument := by
  decide +kernel

theorem read_damaged_rewrittenDocument :
    write? foreignCredentials = some rewrittenDocument ∧
      (∀ cut, cut <+: rewrittenDocument → cut ≠ rewrittenDocument →
        ∃ e, read cut = .error (.document e) ∧ e.isShortage = true ∧
          (Error.document e).failure.kind = .invalidValue) ∧
      ∀ more, more ≠ [] → read (rewrittenDocument ++ more) = .error (.document .extraData) :=
  ⟨write?_foreignCredentials, read_damaged write?_foreignCredentials⟩

end TokenFile
end ClusterAgent
