import ClusterAgent.BindAddress
import ClusterAgent.Proofs.Uri.Authority

/-! Addresses to listen on. A URL and its authority alone give the same address, except when the
path has two slashes in a row: then the authority alone is not recognized, and everything takes its
default. -/
namespace ClusterAgent.BindAddress

open Uri

variable {c : Char} {host name path : List Char} {port : Option Nat}

/-- Host, port and path one behind the other. -/
def written (host : List Char) (port : Option Nat) (path : List Char) : List Char :=
  host ++ portText port ++ path

/-- A port that is written is one that can be listened on. -/
def PortInRange (port : Option Nat) : Prop := ∀ n, port = some n → 1 ≤ n ∧ n ≤ 65535

/-- The address of a host and a port, if one is written. -/
def named (name : List Char) (port : Option Nat) : BindAddress :=
  ⟨String.ofList name, port.getD defaultPort⟩

/-- The address of a URL in which neither host nor port is found. -/
def unnamed : BindAddress := ⟨defaultHost, defaultPort⟩

/-! ### Two slashes in a row -/

theorem hasSlashes_cons (h : c ≠ '/') (rest : List Char) :
    hasSlashes (c :: rest) = hasSlashes rest := by
  rw [hasSlashes.eq_def]
  split
  · next heq =>
    cases heq
    exact absurd rfl h
  · next heq =>
    cases heq
    rfl
  · next heq => cases heq

theorem hasSlashes_append {front : List Char} (h : '/' ∉ front) (rest : List Char) :
    hasSlashes (front ++ rest) = hasSlashes rest := by
  induction front with
  | nil => rfl
  | cons c front ih =>
    rw [List.mem_cons, not_or] at h
    rw [List.cons_append, hasSlashes_cons (Ne.symm h.1), ih h.2]

theorem slash_not_mem (h : IsHost host name) (port : Option Nat) : '/' ∉ host ++ portText port := by
  intro hmem
  exact absurd (h.isInside port '/' hmem) (by decide)

theorem hasSlashes_written (h : IsHost host name) (port : Option Nat) (path : List Char) :
    hasSlashes (written host port path) = hasSlashes path :=
  hasSlashes_append (slash_not_mem h port) path

/-! ### With an authority -/

/-- What is found in the authority of a split URL. -/
def ofUri (u : Uri) : Except UriError BindAddress := do
  let port ← u.port?
  return {
    host := if u.host = "" then defaultHost else u.host
    port := if port.getD 0 = 0 then defaultPort else port.getD 0 }

theorem parse_eq (url : String) :
    parse url = (Uri.parse (if hasSlashes url.toList then url else "//" ++ url)) >>= ofUri := rfl

theorem ofUri_written (h : IsHost host name) (hport : PortInRange port)
    (scheme path : String) :
    ofUri ⟨scheme, String.ofList (host ++ portText port), path⟩ = .ok (named name port) := by
  have hname : String.ofList name ≠ "" := by
    rw [Ne, String.ofList_eq_empty_iff]
    exact h.name_ne_nil
  unfold ofUri
  rw [h.port?_eq (fun n hn => (hport n hn).2), h.host_eq]
  dsimp only [bind, Except.bind, pure, Except.pure]
  rw [if_neg hname]
  cases port with
  | none => rfl
  | some n =>
    have hn : n ≠ 0 := by
      have hpos := (hport n rfl).1
      omega
    simp [named, hn]

theorem ofUri_of_authority_empty {u : Uri} (h : u.authority = "") : ofUri u = .ok unnamed := by
  have hread : Uri.hostAndPort u.authority.toList = ([], []) := by
    rw [h, String.toList_empty]
    rfl
  have hhost : u.host = "" := by
    unfold Uri.host
    rw [hread]
    decide
  have hport : u.port? = .ok none := by
    unfold Uri.port?
    rw [hread]
  unfold ofUri
  rw [hhost, hport]
  rfl

/-- Behind two slashes host, port and path are split from one another. -/
theorem parseAfter_written (h : IsHost host name) (port : Option Nat) (hpath : IsRooted path)
    (scheme : String) :
    parseAfter scheme (('/' :: '/' :: written host port path).filter isKept) =
      .ok ⟨scheme, String.ofList (host ++ portText port), String.ofList (carry path)⟩ := by
  have hinside := h.isInside port
  have hkept : ('/' :: '/' :: written host port path).filter isKept =
      '/' :: '/' :: (host ++ portText port ++ path.filter isKept) := by
    change '/' :: '/' :: (host ++ portText port ++ path).filter isKept = _
    rw [List.filter_append, List.filter_eq_self.mpr fun c hc => (hinside c hc).1]
  rw [hkept, parseAfter_eq_ok,
    splitAuthority_append (fun c hc => (hinside c hc).2.1) hpath.filter_isKept]
  refine ⟨h.checkBrackets port, List.any_eq_false.mpr ?_, rfl⟩
  intro c hc
  rw [(hinside c hc).2.2]
  exact Bool.false_ne_true

theorem splitScheme_of_head (hc : c.isAlpha = false) (cs : List Char) :
    splitScheme (c :: cs) = ([], c :: cs) := by
  unfold splitScheme cut
  split
  · next heq =>
    cases hdrop : (c :: cs).dropWhile (· != ':') with
    | nil =>
      rw [hdrop] at heq
      cases heq
    | cons d rest =>
      rw [hdrop] at heq
      cases heq
      by_cases hcolon : c = ':'
      · subst hcolon
        rfl
      · simp [hcolon, hc]
  · rfl

theorem parse_url (h : IsHost host name) (hport : PortInRange port)
    (hpath : IsRooted path) :
    parse (String.ofList ("http://".toList ++ written host port path)) = .ok (named name port) := by
  have hslashes : hasSlashes ("http://".toList ++ written host port path) = true := rfl
  have hparse : parseChars ("http://".toList ++ written host port path) =
      parseAfter "http" (('/' :: '/' :: written host port path).filter isKept) := rfl
  rw [parse_eq, String.toList_ofList, hslashes, if_pos rfl, Uri.parse, String.toList_ofList, hparse,
    parseAfter_written h port hpath]
  dsimp only [bind, Except.bind]
  exact ofUri_written h hport _ _

/-! ### Without a scheme -/

theorem parse_bare (h : IsHost host name) (hport : PortInRange port)
    (hpath : IsRooted path) (hslashes : hasSlashes path = false) :
    parse (String.ofList (written host port path)) = .ok (named name port) := by
  have hbare : hasSlashes (written host port path) = false :=
    (hasSlashes_written h port path).trans hslashes
  have hparse : parseChars ('/' :: '/' :: written host port path) =
      parseAfter "" (('/' :: '/' :: written host port path).filter isKept) := by
    have hsanitize : sanitize ('/' :: '/' :: written host port path) =
        '/' :: ('/' :: written host port path).filter isKept := rfl
    have hscheme := splitScheme_of_head (c := '/') (by decide)
      (('/' :: written host port path).filter isKept)
    unfold parseChars
    rw [hsanitize, hscheme]
    rfl
  have htext : ("//" ++ String.ofList (written host port path)).toList =
      '/' :: '/' :: written host port path := by simp
  rw [parse_eq, String.toList_ofList, hbare, if_neg Bool.false_ne_true, Uri.parse, htext, hparse,
    parseAfter_written h port hpath]
  dsimp only [bind, Except.bind]
  exact ofUri_written h hport _ _

theorem splitAuthority_of_head (hc : c ≠ '/') (cs : List Char) :
    splitAuthority (c :: cs) = ([], c :: cs) := by
  unfold splitAuthority
  split
  · next heq =>
    cases heq
    exact absurd rfl hc
  · rfl

theorem isNameChar_bounds (h : isNameChar c) : c ≠ ':' ∧ c ≠ '/' ∧ 0x20 < c.toNat := by
  refine ⟨?_, ?_, ?_⟩
  · rintro rfl
    exact absurd h (by decide)
  · rintro rfl
    exact absurd h (by decide)
  · by_contra hc
    have hblank : ∀ n ≤ 0x20, isNameChar (Char.ofNat n) = false := by decide
    rw [← Char.ofNat_toNat c, hblank _ (by omega)] at h
    cases h

/-- Where a slash follows a name, no scheme is split off. -/
theorem splitScheme_of_slash (hcolon : ':' ∉ name) (rest : List Char) :
    splitScheme (name ++ '/' :: rest) = ([], name ++ '/' :: rest) := by
  unfold splitScheme
  cases hcut : cut ':' (name ++ '/' :: rest) with
  | mk before more =>
    cases more with
    | none => rfl
    | some after =>
      have hslash : '/' ∈ before := by
        rcases List.append_eq_append_iff.mp (eq_append_of_cut hcut) with ⟨a, rfl, ha⟩ | ⟨a, rfl, ha⟩
        · cases a with
          | nil => cases ha
          | cons d a =>
            cases ha
            simp
        · cases a with
          | nil => cases ha
          | cons d a =>
            cases ha
            exact absurd (by simp) hcolon
      have hall : before.all isSchemeChar = false := by
        rw [List.all_eq_false]
        exact ⟨'/', hslash, by decide⟩
      dsimp only
      rw [hall, Bool.and_false, if_neg Bool.false_ne_true]

/-- No authority follows what a host in front of everything is split into. -/
theorem splitAuthority_splitScheme (h : IsHost host name) (port : Option Nat) (rest : List Char) :
    (splitAuthority (splitScheme (written host port ('/' :: rest))).2).1 = [] := by
  rcases h.bracketed_or with ⟨rfl, hne, hchars⟩ | ⟨rfl, -⟩
  · have hcolon : ':' ∉ host := fun hmem => (isNameChar_bounds (hchars _ hmem)).1 rfl
    obtain ⟨c, cs, rfl⟩ := List.exists_cons_of_ne_nil hne
    have hc : c ≠ '/' := (isNameChar_bounds (hchars c List.mem_cons_self)).2.1
    cases port with
    | none =>
      have hwritten : written (c :: cs) none ('/' :: rest) = (c :: cs) ++ '/' :: rest := by
        simp [written, portText]
      rw [hwritten, splitScheme_of_slash hcolon]
      exact congrArg Prod.fst (splitAuthority_of_head hc _)
    | some n =>
      obtain ⟨d, ds, hds, hdigit⟩ := Text.exists_cons_toDigits n
      have hd : d ≠ '/' := by
        rintro rfl
        cases hdigit
      have hwritten : written (c :: cs) (some n) ('/' :: rest) =
          (c :: cs) ++ ':' :: (d :: (ds ++ '/' :: rest)) := by simp [written, portText, hds]
      unfold splitScheme
      rw [hwritten, cut_append hcolon]
      dsimp only
      split
      · exact congrArg Prod.fst (splitAuthority_of_head hd _)
      · exact congrArg Prod.fst (splitAuthority_of_head hc _)
  · have hwritten : written ('[' :: (name ++ [']'])) port ('/' :: rest) =
        '[' :: (name ++ ']' :: (portText port ++ '/' :: rest)) := by simp [written]
    rw [hwritten, splitScheme_of_head (by decide)]
    rfl

theorem sanitize_written (h : IsHost host name) (port : Option Nat) (path : List Char) :
    sanitize (written host port path) = written host port (path.filter isKept) := by
  have hhead : ∃ c rest, written host port path = c :: rest ∧ 0x20 < c.toNat := by
    rcases h.bracketed_or with ⟨rfl, hne, hchars⟩ | ⟨rfl, -⟩
    · obtain ⟨c, cs, rfl⟩ := List.exists_cons_of_ne_nil hne
      exact ⟨c, _, rfl, (isNameChar_bounds (hchars c List.mem_cons_self)).2.2⟩
    · exact ⟨'[', _, rfl, by decide⟩
  obtain ⟨c, rest, hwritten, hc⟩ := hhead
  rw [sanitize_eq, hwritten, List.dropWhile_cons_of_neg (by simpa using hc), ← hwritten, written,
    List.filter_append, List.filter_eq_self.mpr fun c hc => (h.isInside port c hc).1]
  rfl

theorem parse_slashed (h : IsHost host name) (port : Option Nat) (hpath : IsRooted path)
    (hslashes : hasSlashes path = true) :
    parse (String.ofList (written host port path)) = .ok unnamed := by
  obtain rfl | ⟨rest, rfl⟩ := hpath
  · cases hslashes
  · have hwritten : hasSlashes (written host port ('/' :: rest)) = true :=
      (hasSlashes_written h port _).trans hslashes
    have hsanitize : sanitize (written host port ('/' :: rest)) =
        written host port ('/' :: rest.filter isKept) := sanitize_written h port _
    have hauthority := splitAuthority_splitScheme h port (rest.filter isKept)
    have hparse : ∃ u : Uri, parseChars (written host port ('/' :: rest)) = .ok u ∧
        u.authority = "" := by
      have hsplit (cs : List Char) :
          parseChars cs = parseAfter (String.ofList (splitScheme (sanitize cs)).1)
            (splitScheme (sanitize cs)).2 := rfl
      rw [hsplit, hsanitize]
      refine ⟨_, parseAfter_eq_ok.mpr ⟨?_, ?_, rfl⟩, ?_⟩
      · rw [hauthority]
        rfl
      · rw [hauthority]
        rfl
      · dsimp only
        rw [hauthority]
    obtain ⟨u, hparse, hu⟩ := hparse
    rw [parse_eq, String.toList_ofList, hwritten, if_pos rfl,
      Uri.parse, String.toList_ofList, hparse]
    dsimp only [bind, Except.bind]
    exact ofUri_of_authority_empty hu

/-! ### Main statements -/

/-- A host with or without a port, and with any path, is listened on as a URL says. Without its
scheme it is listened on alike just when no two slashes follow one another in the path. -/
theorem parse_written (h : IsHost host name) (hport : PortInRange port) (hpath : IsRooted path) :
    parse (String.ofList ("http://".toList ++ written host port path)) = .ok (named name port) ∧
      parse (String.ofList (written host port path)) =
        .ok (if hasSlashes path then unnamed else named name port) := by
  refine ⟨parse_url h hport hpath, ?_⟩
  cases hslashes : hasSlashes path with
  | true => exact parse_slashed h port hpath hslashes
  | false => exact parse_bare h hport hpath hslashes

/-- An address with a gap, a port, and a path with a query. -/
theorem parse_written_address :
    IsHost "[::1]".toList "::1".toList ∧ PortInRange (some 90) ∧ IsRooted "/x?y".toList ∧
      parse (String.ofList ("http://".toList ++ written "[::1]".toList (some 90) "/x?y".toList)) =
        .ok (named "::1".toList (some 90)) ∧
      parse (String.ofList (written "[::1]".toList (some 90) "/x?y".toList)) =
        .ok (if hasSlashes "/x?y".toList then unnamed else named "::1".toList (some 90)) := by
  have hafter : Groups [['1']] 1 := .plain (by decide)
  have hbefore : ∀ part ∈ ([] : List (List Char)), isGroup part := nofun
  have haddress : IsAddress "::1".toList := .gap hbefore hafter (by decide)
  have hhost : IsHost "[::1]".toList "::1".toList := .address haddress (by decide)
  have hport : PortInRange (some 90) := by
    rintro n ⟨⟩
    decide
  have hpath : IsRooted "/x?y".toList := Or.inr ⟨_, rfl⟩
  exact ⟨hhost, hport, hpath, parse_written hhost hport hpath⟩

/-- A host that stays without its scheme, and is lost behind it: the path has two slashes in a
row. -/
theorem not_parse_slashed :
    IsHost "localhost".toList "localhost".toList ∧ PortInRange (some 7000) ∧
      IsRooted "//x".toList ∧
      parse (String.ofList (written "localhost".toList (some 7000) "//x".toList)) ≠
        .ok (named "localhost".toList (some 7000)) := by
  have hport : PortInRange (some 7000) := by
    rintro n ⟨⟩
    decide
  have hname := List.all_eq_true.mp (by decide : "localhost".toList.all isNameChar)
  exact ⟨.name (by decide) hname (by decide), hport, Or.inr ⟨_, rfl⟩, by decide +kernel⟩

end ClusterAgent.BindAddress
