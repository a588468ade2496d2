import ClusterAgent.Uri.Basic
import Mathlib.Data.List.TakeWhile

/-! Splitting URIs of a known scheme. -/
namespace ClusterAgent.Uri

/-- Tabs and line ends are dropped from every URI. -/
def isKept (c : Char) : Bool := c != '\t' && c != '\n' && c != '\r'

/-- The path ends before a query or a fragment. -/
def isPathChar (c : Char) : Bool := c != '#' && c != '?'

/-- No URI loses the character, neither from its text nor from its path. -/
def Survives (c : Char) : Prop := isKept c ∧ isPathChar c

instance (c : Char) : Decidable (Survives c) := inferInstanceAs (Decidable (_ ∧ _))

/-- What a URI keeps of a text that is put into its path. -/
def carry (cs : List Char) : List Char := (cs.filter isKept).takeWhile isPathChar

theorem filter_isKept {cs : List Char} (h : ∀ c ∈ cs, Survives c) : cs.filter isKept = cs :=
  List.filter_eq_self.mpr fun c hc => (h c hc).1

theorem carry_append {cs : List Char} (h : ∀ c ∈ cs, Survives c) (rest : List Char) :
    carry (cs ++ rest) = cs ++ carry rest := by
  unfold carry
  rw [List.filter_append, filter_isKept h, List.takeWhile_append_of_pos fun c hc => (h c hc).2]

theorem carry_of_survives {cs : List Char} (h : ∀ c ∈ cs, Survives c) : carry cs = cs := by
  have happend := carry_append h []
  rwa [List.append_nil, show carry [] = [] from rfl, List.append_nil] at happend

theorem carry_sublist (cs : List Char) : (carry cs).Sublist cs :=
  (List.takeWhile_sublist _).trans List.filter_sublist

theorem survives_of_mem_carry {cs : List Char} {c : Char} (h : c ∈ carry cs) : Survives c :=
  ⟨(List.mem_filter.mp ((List.takeWhile_sublist _).subset h)).2, List.mem_takeWhile_imp h⟩

theorem carry_slash (cs : List Char) : carry ('/' :: cs) = '/' :: carry cs := by
  have hslash : Survives '/' := by decide
  exact carry_append (List.forall_mem_singleton.mpr hslash) cs

/-- A text is carried whole if all of it is found behind the slashes in front. -/
theorem carry_eq_of_dropWhile {cs : List Char}
    (h : (carry cs).dropWhile (· == '/') = cs.dropWhile (· == '/')) : carry cs = cs := by
  induction cs with
  | nil => rfl
  | cons c cs ih =>
    by_cases hc : c = '/'
    · rw [hc, carry_slash] at h ⊢
      exact congrArg _ (ih h)
    · rw [List.dropWhile_cons_of_neg (by simpa using hc)] at h
      exact (carry_sublist _).eq_of_length_le (h ▸ List.dropWhile_sublist _).length_le

/-- Splits what follows the colon of a scheme. -/
def parseAfter (scheme : String) (cs : List Char) : Except UriError Uri := do
  let (authority, rest) := splitAuthority cs
  checkBrackets authority
  if authority.any fun c => delimiterLookalikes.contains c.toNat then
    throw (.compatibility authority)
  return ⟨scheme, String.ofList authority, String.ofList (rest.takeWhile isPathChar)⟩

theorem parseChars_s3 (cs : List Char) :
    parseChars ('s' :: '3' :: ':' :: cs) = parseAfter "s3" (cs.filter isKept) := rfl

theorem parseChars_file (cs : List Char) :
    parseChars ('f' :: 'i' :: 'l' :: 'e' :: ':' :: cs) = parseAfter "file" (cs.filter isKept) := rfl

/-- What follows an authority when neither a query nor a fragment does. -/
def IsRooted (path : List Char) : Prop := path = [] ∨ ∃ rest, path = '/' :: rest

/-- An authority extends to the next slash. -/
theorem splitAuthority_append {authority path : List Char}
    (hauthority : ∀ c ∈ authority, (!isAuthorityEnd c) = true) (hpath : IsRooted path) :
    splitAuthority ('/' :: '/' :: (authority ++ path)) = (authority, path) := by
  have hslash : ¬ (!isAuthorityEnd '/') = true := by decide
  change (_, _) = _
  rw [List.takeWhile_append_of_pos hauthority, List.dropWhile_append_of_pos hauthority]
  obtain rfl | ⟨rest, rfl⟩ := hpath
  · rw [List.takeWhile_nil, List.dropWhile_nil, List.append_nil]
  · rw [List.takeWhile_cons_of_neg (p := fun c => !isAuthorityEnd c) hslash,
      List.dropWhile_cons_of_neg (p := fun c => !isAuthorityEnd c) hslash, List.append_nil]

/-- Where every character survives, an authority is followed by nothing or a slash. -/
theorem exists_authority {cs : List Char} (h : ∀ c ∈ cs, Survives c) :
    ∃ authority path, cs = authority ++ path ∧
      (∀ c ∈ authority, (!isAuthorityEnd c) = true) ∧ IsRooted path := by
  refine ⟨cs.takeWhile fun c => !isAuthorityEnd c, cs.dropWhile fun c => !isAuthorityEnd c,
    List.takeWhile_append_dropWhile.symm, fun c => List.mem_takeWhile_imp, ?_⟩
  cases hpath : cs.dropWhile fun c => !isAuthorityEnd c with
  | nil => exact Or.inl rfl
  | cons c rest =>
    obtain ⟨-, hc⟩ := h c ((List.dropWhile_sublist _).subset (hpath ▸ List.mem_cons_self))
    have hend : isAuthorityEnd c = true := by
      have hhead := List.head_dropWhile_not (l := cs) (p := fun c => !isAuthorityEnd c)
      simpa [hpath] using hhead
    have hslash : c = '/' := by
      simp only [isPathChar, isAuthorityEnd, Bool.and_eq_true, bne_iff_ne, Bool.or_eq_true,
        beq_iff_eq] at hc hend
      obtain (hslash | hquery) | hfragment := hend
      · exact hslash
      · exact absurd hquery hc.2
      · exact absurd hfragment hc.1
    exact Or.inr ⟨rest, by rw [hslash]⟩

/-- Whether a URI is split depends on its authority alone. -/
theorem parseAfter_eq_ok {scheme : String} {cs : List Char} {u : Uri} :
    parseAfter scheme cs = .ok u ↔
      checkBrackets (splitAuthority cs).1 = .ok () ∧
      ((splitAuthority cs).1.any fun c => delimiterLookalikes.contains c.toNat) = false ∧
      u = ⟨scheme, String.ofList (splitAuthority cs).1,
        String.ofList ((splitAuthority cs).2.takeWhile isPathChar)⟩ := by
  unfold parseAfter
  dsimp only [bind, Except.bind]
  cases checkBrackets (splitAuthority cs).1 with
  | error e => exact iff_of_false (by simp) (by simp)
  | ok _ =>
    cases (splitAuthority cs).1.any fun c => delimiterLookalikes.contains c.toNat with
    | true => exact iff_of_false nofun (by simp)
    | false => exact ⟨fun h => ⟨rfl, rfl, (Except.ok.inj h).symm⟩, fun h => congrArg _ h.2.2.symm⟩

theorem IsRooted.filter_isKept {path : List Char} (h : IsRooted path) :
    IsRooted (path.filter isKept) := by
  obtain rfl | ⟨rest, rfl⟩ := h
  · exact Or.inl rfl
  · exact Or.inr ⟨rest.filter isKept, rfl⟩

/-- An `s3` URI is split into its authority and its path. -/
theorem parseChars_s3_eq_ok {authority path : List Char} {u : Uri}
    (hauthority : ∀ c ∈ authority, (!isAuthorityEnd c) = true)
    (hsurvive : ∀ c ∈ authority, Survives c) (hpath : IsRooted path) :
    parseChars ('s' :: '3' :: ':' :: '/' :: '/' :: (authority ++ path)) = .ok u ↔
      checkBrackets authority = .ok () ∧
      (authority.any fun c => delimiterLookalikes.contains c.toNat) = false ∧
      u = ⟨"s3", String.ofList authority, String.ofList (carry path)⟩ := by
  have hkept : ('/' :: '/' :: (authority ++ path)).filter isKept =
      '/' :: '/' :: (authority ++ path.filter isKept) := by
    change '/' :: '/' :: (authority ++ path).filter isKept = _
    rw [List.filter_append, filter_isKept hsurvive]
  rw [parseChars_s3, hkept, parseAfter_eq_ok, splitAuthority_append hauthority hpath.filter_isKept]
  rfl

/-- A `file` URI without an authority: none stands between two slashes and a third. -/
theorem parseChars_file_empty (path : List Char) :
    parseChars ("file://".toList ++ '/' :: path) =
      .ok ⟨"file", "", String.ofList (carry ('/' :: path))⟩ := by
  change parseChars ('f' :: 'i' :: 'l' :: 'e' :: ':' :: '/' :: '/' :: '/' :: path) = _
  have hsplit : splitAuthority (('/' :: '/' :: '/' :: path).filter isKept) =
      ([], ('/' :: path).filter isKept) := rfl
  rw [parseChars_file, parseAfter_eq_ok, hsplit]
  exact ⟨rfl, rfl, rfl⟩

/-- A `file` URI without an authority: none is announced. -/
theorem parseChars_file_none {c : Char} (hc : c ≠ '/') (hkept : isKept c) (path : List Char) :
    parseChars ("file:".toList ++ '/' :: c :: path) =
      .ok ⟨"file", "", String.ofList (carry ('/' :: c :: path))⟩ := by
  have hfilter : ('/' :: c :: path).filter isKept = '/' :: c :: path.filter isKept := by
    change '/' :: (c :: path).filter isKept = _
    rw [List.filter_cons_of_pos hkept]
  have hsplit : splitAuthority ('/' :: c :: path.filter isKept) =
      ([], '/' :: c :: path.filter isKept) := by
    unfold splitAuthority
    split
    · next heq =>
      cases heq
      exact absurd rfl hc
    · rfl
  change parseChars ('f' :: 'i' :: 'l' :: 'e' :: ':' :: '/' :: c :: path) = _
  unfold carry
  rw [parseChars_file, hfilter, parseAfter_eq_ok, hsplit]
  exact ⟨rfl, rfl, rfl⟩

/-! ### What the parts of a URI are parts of -/

theorem eq_append_of_cut {c : Char} {cs before after : List Char}
    (h : cut c cs = (before, some after)) : cs = before ++ c :: after := by
  unfold cut at h
  cases hdrop : cs.dropWhile (· != c) with
  | nil =>
    rw [hdrop] at h
    cases h
  | cons d rest =>
    rw [hdrop] at h
    cases h
    have hd := List.head_dropWhile_not (l := cs) (p := (· != c))
    obtain rfl : d = c := by simpa [hdrop] using hd
    rw [← hdrop, List.takeWhile_append_dropWhile]

theorem exists_of_splitScheme {cs : List Char} (h : (splitScheme cs).1 ≠ []) :
    ∃ name rest, cs = name ++ ':' :: rest ∧ (∀ c ∈ name, isSchemeChar c) ∧
      splitScheme cs = (name.map Char.toLower, rest) := by
  unfold splitScheme at h ⊢
  cases hcut : cut ':' cs with
  | mk name more =>
    rw [hcut] at h
    cases more with
    | none => exact absurd rfl h
    | some rest =>
      dsimp only at h ⊢
      split at h
      · next hname =>
        rw [if_pos hname]
        rw [Bool.and_eq_true, List.all_eq_true] at hname
        exact ⟨name, rest, eq_append_of_cut hcut, hname.2, rfl⟩
      · exact absurd rfl h

theorem exists_of_splitAuthority {cs : List Char} (h : (splitAuthority cs).1 ≠ []) :
    ∃ authority rest, cs = '/' :: '/' :: (authority ++ rest) ∧
      (∀ c ∈ authority, (!isAuthorityEnd c) = true) ∧ splitAuthority cs = (authority, rest) := by
  unfold splitAuthority at h ⊢
  split at h
  · next rest =>
    exact ⟨_, _, by rw [List.takeWhile_append_dropWhile], fun c => List.mem_takeWhile_imp, rfl⟩
  · exact absurd rfl h

/-- The parts of a URI with scheme and authority stand in its text, one behind the other. -/
theorem exists_of_parse {s : String} {u : Uri} (h : parse s = .ok u) (hscheme : u.scheme ≠ "")
    (hauthority : u.authority ≠ "") : ∃ name authority rest,
      sanitize s.toList = name ++ ':' :: '/' :: '/' :: (authority ++ rest) ∧
      (∀ c ∈ name, isSchemeChar c) ∧ (∀ c ∈ authority, (!isAuthorityEnd c) = true) ∧
      checkBrackets authority = .ok () ∧
      (authority.any fun c => delimiterLookalikes.contains c.toNat) = false ∧
      u = ⟨String.ofList (name.map Char.toLower), String.ofList authority,
        String.ofList (rest.takeWhile isPathChar)⟩ := by
  have hparse : parseAfter (String.ofList (splitScheme (sanitize s.toList)).1)
      (splitScheme (sanitize s.toList)).2 = .ok u := h
  obtain ⟨hbrackets, hlookalikes, rfl⟩ := parseAfter_eq_ok.mp hparse
  obtain ⟨name, after, hsanitize, hname, hsplit⟩ :=
    exists_of_splitScheme fun hnil => hscheme (congrArg String.ofList hnil)
  rw [hsplit] at hbrackets hlookalikes hauthority
  obtain ⟨authority, rest, rfl, hend, hafter⟩ :=
    exists_of_splitAuthority fun hnil => hauthority (congrArg String.ofList hnil)
  rw [hafter] at hbrackets hlookalikes
  refine ⟨name, authority, rest, hsanitize, hname, hend, hbrackets, hlookalikes, ?_⟩
  rw [hsplit, hafter]

/-- What neither a query nor a fragment starts with stands in a path. -/
theorem isPathChar_of {p : Char → Bool} (hfragment : p '#' = false) (hquery : p '?' = false)
    {c : Char} (h : p c) : isPathChar c := by
  have hne (d : Char) (hd : p d = false) : c ≠ d := by
    rintro rfl
    rw [hd] at h
    cases h
  simp [isPathChar, hne '#' hfragment, hne '?' hquery]

theorem isPathChar_of_isSchemeChar {c : Char} (h : isSchemeChar c) : isPathChar c :=
  isPathChar_of (by decide) (by decide) h

theorem isPathChar_of_not_isAuthorityEnd {c : Char} (h : (!isAuthorityEnd c) = true) :
    isPathChar c :=
  isPathChar_of (p := fun c => !isAuthorityEnd c) (by decide) (by decide) h

theorem sanitize_eq (cs : List Char) :
    sanitize cs = (cs.dropWhile fun c => c.toNat ≤ 0x20).filter isKept := rfl

theorem isKept_of_mem_sanitize {cs : List Char} {c : Char} (h : c ∈ sanitize cs) : isKept c :=
  (List.mem_filter.mp h).2

/-- What is carried of a text is, but for blanks in front, what is carried of a URI that is read
from it. -/
theorem exists_carry_eq (cs : List Char) : ∃ blanks, (∀ c ∈ blanks, c.toNat ≤ 0x20) ∧
    carry cs = blanks ++ (sanitize cs).takeWhile isPathChar := by
  refine ⟨(cs.takeWhile fun c => c.toNat ≤ 0x20).filter isKept, ?_, ?_⟩
  · intro c hc
    have hle := List.mem_takeWhile_imp (List.mem_filter.mp hc).1
    simpa using hle
  · have hblanks : ∀ c ∈ (cs.takeWhile fun c => c.toNat ≤ 0x20).filter isKept, isPathChar c := by
      intro c hc
      have hblank := List.mem_takeWhile_imp (List.mem_filter.mp hc).1
      exact isPathChar_of (p := fun c => c.toNat ≤ 0x20) (by decide) (by decide) hblank
    unfold carry
    rw [sanitize_eq, ← List.takeWhile_append_of_pos hblanks, ← List.filter_append,
      List.takeWhile_append_dropWhile]

end ClusterAgent.Uri
