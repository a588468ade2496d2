import ClusterAgent.Proofs.Json.Integer
import ClusterAgent.Proofs.Uri.Address

/-! Authorities that are put together from a host and a port: both are read back from them. -/
namespace ClusterAgent.Uri

variable {c : Char} {cs before after host name : List Char} {port : Option Nat}

theorem cut_append (h : c ∉ before) (after : List Char) :
    cut c (before ++ c :: after) = (before, some after) := by
  have hbefore : ∀ d ∈ before, (d != c) = true := by
    intro d hd
    rw [bne_iff_ne]
    rintro rfl
    exact h hd
  unfold cut
  rw [List.dropWhile_append_of_pos hbefore, List.takeWhile_append_of_pos hbefore]
  simp

theorem cut_of_not_mem (h : c ∉ cs) : cut c cs = (cs, none) := by
  have hdrop : cs.dropWhile (· != c) = [] := by
    rw [List.dropWhile_eq_nil_iff]
    intro d hd
    rw [bne_iff_ne]
    rintro rfl
    exact h hd
  unfold cut
  rw [hdrop]

/-! ### Characters of hosts -/

/-- The characters that end an authority or divide it, and those that no URI keeps. -/
def delimiters : List Char := ['\t', '\n', '\r', '/', '?', '#', '@', '[', ']']

/-- The character neither is a delimiter nor turns into one. -/
def isOrdinary (c : Char) : Bool :=
  !delimiters.contains c && !delimiterLookalikes.contains c.toNat

/-- Small letters, digits, dots and dashes, and all letters outside ASCII. -/
def isNameChar (c : Char) : Bool :=
  if c.toNat < 0x80 then c.isLower || Text.isAsciiDigit c || c == '.' || c == '-'
  else !delimiterLookalikes.contains c.toNat

theorem isOrdinary_of {p : Char → Bool} (hp : delimiters.all fun d => !p d) (h : p c)
    (hascii : 0x80 ≤ c.toNat → c.toNat ∉ delimiterLookalikes) : isOrdinary c := by
  have hlook : c.toNat ∉ delimiterLookalikes := by
    by_cases hc : 0x80 ≤ c.toNat
    · exact hascii hc
    · have hbeyond : ∀ n ∈ delimiterLookalikes, 0x80 ≤ n := by decide
      exact fun hmem => hc (hbeyond _ hmem)
  have hdelimiter : c ∉ delimiters := by
    intro hmem
    have hnot := List.all_eq_true.mp hp c hmem
    rw [h] at hnot
    cases hnot
  simp [isOrdinary, hlook, hdelimiter]

theorem ne_of_isOrdinary {d : Char} (h : isOrdinary c) (hd : isOrdinary d = false) : c ≠ d := by
  rintro rfl
  rw [hd] at h
  cases h

theorem isOrdinary_of_isNameChar (h : isNameChar c) : isOrdinary c := by
  refine isOrdinary_of (by decide) h fun hc => ?_
  rw [isNameChar, if_neg (by omega)] at h
  simpa using h

theorem isOrdinary_of_isAsciiDigit (h : Text.isAsciiDigit c) : isOrdinary c := by
  refine isOrdinary_of (by decide) h fun hc => ?_
  simp only [Text.isAsciiDigit, Bool.and_eq_true, decide_eq_true_eq, Char.le_def,
    UInt32.le_iff_toNat_le] at h
  exact absurd (hc.trans h.2) (by decide)

theorem isOrdinary_of_isAddressChar (h : isAddressChar c) : isOrdinary c := by
  refine isOrdinary_of (by decide) h fun hc => ?_
  have hbound : c.toNat < 0x80 := by
    simp only [isAddressChar, isHexDigit, Text.isAsciiDigit, Bool.or_eq_true, Bool.and_eq_true,
      decide_eq_true_eq, beq_iff_eq, Char.le_def, UInt32.le_iff_toNat_le] at h
    unfold Char.toNat
    obtain (((h | h) | h) | rfl) | rfl := h
    · exact Nat.lt_of_le_of_lt h.2 (by decide)
    · exact Nat.lt_of_le_of_lt h.2 (by decide)
    · exact Nat.lt_of_le_of_lt h.2 (by decide)
    · decide
    · decide
  omega

/-! ### Hosts and ports -/

/-- Lower case leaves the text as it is. -/
def IsLower (cs : List Char) : Prop := Text.lower (String.ofList cs) = String.ofList cs

instance (cs : List Char) : Decidable (IsLower cs) := inferInstanceAs (Decidable (_ = _))

/-- A host as it is written, and as it is read: a name as it stands, an address without its
brackets, with or without a zone. -/
inductive IsHost : List Char → List Char → Prop
  | name {cs : List Char} (hne : cs ≠ []) (hchars : ∀ c ∈ cs, isNameChar c) (hlower : IsLower cs) :
    IsHost cs cs
  | address {cs : List Char} (h : IsAddress cs) (hlower : IsLower cs) :
      IsHost ('[' :: (cs ++ [']'])) cs
  | zoned {cs zone : List Char} (h : IsAddress cs) (hlower : IsLower cs) (hne : zone ≠ [])
    (hchars : ∀ c ∈ zone, isOrdinary c ∧ c ≠ '%') :
    IsHost ('[' :: (cs ++ '%' :: zone ++ [']'])) (cs ++ '%' :: zone)

/-- A port behind its colon, if one is written. -/
def portText : Option Nat → List Char
  | none => []
  | some n => ':' :: Nat.toDigits 10 n

/-- The text in brackets is that of an address. -/
structure Bracketed (cs : List Char) : Prop where
  plain : ∀ c ∈ cs, isOrdinary c
  check : checkBracketedHost cs = .ok ()

theorem isAsciiDigit_of_mem_toDigits {n : Nat} (h : c ∈ Nat.toDigits 10 n) : Text.isAsciiDigit c :=
  Nat.isDigit_of_mem_toDigits (by decide) (by decide) h

theorem isOrdinary_portText (port : Option Nat) : ∀ c ∈ portText port, isOrdinary c := by
  cases port with
  | none => nofun
  | some n =>
    exact List.forall_mem_cons.mpr
      ⟨by decide, fun c hc => isOrdinary_of_isAsciiDigit (isAsciiDigit_of_mem_toDigits hc)⟩

/-- Address characters and a colon among them keep a text from being a quad or of a later
version. -/
theorem checkBracketedHost_of {zone : List Char} (h : IsAddress cs)
    (hcheck : isZonedGroups (cs ++ zone)) : checkBracketedHost (cs ++ zone) = .ok () := by
  have hcolon : ':' ∈ cs ++ zone := List.mem_append_left _ h.colon_mem
  have hhead : (cs ++ zone).head? ≠ some 'v' := by
    have hne : cs ≠ [] := List.ne_nil_of_mem h.colon_mem
    rw [List.head?_append_of_ne_nil _ hne, List.head?_eq_some_head hne]
    intro hv
    have hchar := h.isAddressChar _ (List.head_mem hne)
    rw [Option.some.inj hv] at hchar
    cases hchar
  have hquad : ¬ isQuad (cs ++ zone) := fun hquad => colon_not_mem_of_isQuad hquad hcolon
  unfold checkBracketedHost
  rw [if_neg hhead, if_neg hquad, if_pos hcheck]

theorem percent_not_mem (h : IsAddress cs) : '%' ∉ cs :=
  fun hmem => absurd (h.isAddressChar _ hmem) (by decide)

theorem bracketed_of_isAddress (h : IsAddress cs) : Bracketed cs := by
  refine ⟨fun c hc => isOrdinary_of_isAddressChar (h.isAddressChar c hc), ?_⟩
  have hcheck : isZonedGroups (cs ++ []) := by
    unfold isZonedGroups
    rw [List.append_nil, cut_of_not_mem (percent_not_mem h)]
    exact isGroups_of_isAddress h
  simpa using checkBracketedHost_of h hcheck

theorem bracketed_of_zone {zone : List Char} (h : IsAddress cs) (hne : zone ≠ [])
    (hchars : ∀ c ∈ zone, isOrdinary c ∧ c ≠ '%') : Bracketed (cs ++ '%' :: zone) := by
  constructor
  · intro c hc
    rcases List.mem_append.mp hc with hc | hc
    · exact isOrdinary_of_isAddressChar (h.isAddressChar c hc)
    · rcases List.mem_cons.mp hc with rfl | hc
      · decide
      · exact (hchars c hc).1
  · refine checkBracketedHost_of h ?_
    have hpercent : '%' ∉ zone := fun hmem => (hchars _ hmem).2 rfl
    unfold isZonedGroups
    rw [cut_append (percent_not_mem h)]
    simp [hne, hpercent, isGroups_of_isAddress h]

/-! ### Taking authorities apart -/

theorem hostPart_eq_self (h : '@' ∉ cs) : hostPart cs = cs := by
  have hall : ∀ d ∈ cs.reverse, (d != '@') = true := by
    intro d hd
    rw [bne_iff_ne]
    rintro rfl
    exact h (List.mem_reverse.mp hd)
  unfold hostPart
  rw [List.takeWhile_eq_self_iff.mpr hall, List.reverse_reverse]

theorem not_mem_of_isOrdinary {d : Char} (hd : isOrdinary d = false) (h : ∀ c ∈ cs, isOrdinary c) :
    d ∉ cs :=
  fun hmem => ne_of_isOrdinary (h d hmem) hd rfl

theorem checkBrackets_of_isOrdinary (h : ∀ c ∈ cs, isOrdinary c) : checkBrackets cs = .ok () := by
  have hopen : '[' ∉ cs := not_mem_of_isOrdinary (by decide) h
  have hclose : ']' ∉ cs := not_mem_of_isOrdinary (by decide) h
  simp [checkBrackets, hopen, hclose]

theorem bracketed_append (cs rest : List Char) :
    '[' :: (cs ++ [']']) ++ rest = '[' :: (cs ++ ']' :: rest) := by simp

section
variable (h : Bracketed cs) (port : Option Nat)
include h

theorem at_not_mem_bracketed : '@' ∉ '[' :: (cs ++ ']' :: portText port) := by
  have hcs : '@' ∉ cs := not_mem_of_isOrdinary (by decide) h.plain
  have hport : '@' ∉ portText port := not_mem_of_isOrdinary (by decide) (isOrdinary_portText port)
  simp [hcs, hport]

omit h in
theorem cut_bracketed : cut '[' ('[' :: (cs ++ ']' :: portText port)) =
    ([], some (cs ++ ']' :: portText port)) :=
  cut_append (List.not_mem_nil (a := '[')) _

theorem cut_inner : cut ']' (cs ++ ']' :: portText port) = (cs, some (portText port)) :=
  cut_append (not_mem_of_isOrdinary (by decide) h.plain) _

theorem checkBrackets_bracketed : checkBrackets ('[' :: (cs ++ ']' :: portText port)) = .ok () := by
  unfold checkBrackets
  rw [hostPart_eq_self (at_not_mem_bracketed h port)]
  dsimp only
  rw [cut_bracketed port]
  dsimp only
  rw [cut_inner h port]
  cases port with
  | none => simpa [portText] using h.check
  | some n => simpa [portText] using h.check

theorem hostAndPort_bracketed : hostAndPort ('[' :: (cs ++ ']' :: portText port)) =
    (cs, (portText port).drop 1) := by
  unfold hostAndPort
  rw [hostPart_eq_self (at_not_mem_bracketed h port)]
  dsimp only
  rw [cut_bracketed port]
  dsimp only
  rw [cut_inner h port]
  cases port with
  | none => rfl
  | some n => rfl

end

theorem hostAndPort_name (hchars : ∀ c ∈ name, isNameChar c) (port : Option Nat) :
    hostAndPort (name ++ portText port) = (name, (portText port).drop 1) := by
  have hplain : ∀ c ∈ name ++ portText port, isOrdinary c := by
    intro c hc
    rcases List.mem_append.mp hc with hc | hc
    · exact isOrdinary_of_isNameChar (hchars c hc)
    · exact isOrdinary_portText port c hc
  have hcolon : ':' ∉ name := fun hmem => absurd (hchars _ hmem) (by decide)
  unfold hostAndPort
  rw [hostPart_eq_self (not_mem_of_isOrdinary (by decide) hplain)]
  dsimp only
  rw [cut_of_not_mem (not_mem_of_isOrdinary (by decide) hplain)]
  cases port with
  | none =>
    dsimp only [portText]
    rw [List.append_nil, cut_of_not_mem hcolon]
    rfl
  | some n =>
    dsimp only [portText]
    rw [cut_append hcolon]
    rfl

/-! ### Hosts -/

/-- No URI loses the character, and an authority holds it. -/
def IsInside (c : Char) : Prop :=
  isKept c ∧ (!isAuthorityEnd c) = true ∧ delimiterLookalikes.contains c.toNat = false

instance (c : Char) : Decidable (IsInside c) := inferInstanceAs (Decidable (_ ∧ _ ∧ _))

theorem isInside_of_isOrdinary (h : isOrdinary c) : IsInside c := by
  have hne {d : Char} (hd : isOrdinary d = false) : (c != d) = true :=
    bne_iff_ne.mpr (ne_of_isOrdinary h hd)
  have hdiff {d : Char} (hd : isOrdinary d = false) : (c == d) = false :=
    beq_eq_false_iff_ne.mpr (ne_of_isOrdinary h hd)
  refine ⟨?_, ?_, ?_⟩
  · simp [isKept, hne (d := '\t') (by decide), hne (d := '\n') (by decide),
      hne (d := '\r') (by decide)]
  · simp [isAuthorityEnd, hdiff (d := '/') (by decide), hdiff (d := '?') (by decide),
      hdiff (d := '#') (by decide)]
  · exact Bool.not_eq_true' _ ▸ (Bool.and_eq_true_iff.mp h).2

theorem isInside_bracketed (h : Bracketed cs) (port : Option Nat) :
    ∀ c ∈ '[' :: (cs ++ ']' :: portText port), IsInside c := by
  simp only [List.forall_mem_cons, List.forall_mem_append]
  exact ⟨by decide, fun c hc => isInside_of_isOrdinary (h.plain c hc), by decide,
    fun c hc => isInside_of_isOrdinary (isOrdinary_portText port c hc)⟩

namespace IsHost

theorem bracketed_or (h : IsHost host name) :
    (host = name ∧ name ≠ [] ∧ ∀ c ∈ name, isNameChar c) ∨
      host = '[' :: (name ++ [']']) ∧ Bracketed name := by
  cases h with
  | name hne hchars => exact Or.inl ⟨rfl, hne, hchars⟩
  | address h => exact Or.inr ⟨rfl, bracketed_of_isAddress h⟩
  | zoned h _ hne hchars => exact Or.inr ⟨rfl, bracketed_of_zone h hne hchars⟩

theorem isInside (h : IsHost host name) (port : Option Nat) :
    ∀ c ∈ host ++ portText port, IsInside c := by
  rcases h.bracketed_or with ⟨rfl, -, hchars⟩ | ⟨rfl, hname⟩
  · rw [List.forall_mem_append]
    exact ⟨fun c hc => isInside_of_isOrdinary (isOrdinary_of_isNameChar (hchars c hc)),
      fun c hc => isInside_of_isOrdinary (isOrdinary_portText port c hc)⟩
  · rw [bracketed_append]
    exact isInside_bracketed hname port

theorem checkBrackets (h : IsHost host name) (port : Option Nat) :
    checkBrackets (host ++ portText port) = .ok () := by
  rcases h.bracketed_or with ⟨rfl, -, hchars⟩ | ⟨rfl, hname⟩
  · refine checkBrackets_of_isOrdinary ?_
    rw [List.forall_mem_append]
    exact ⟨fun c hc => isOrdinary_of_isNameChar (hchars c hc), isOrdinary_portText port⟩
  · rw [bracketed_append]
    exact checkBrackets_bracketed hname port

theorem hostAndPort (h : IsHost host name) (port : Option Nat) :
    hostAndPort (host ++ portText port) = (name, (portText port).drop 1) := by
  rcases h.bracketed_or with ⟨rfl, -, hchars⟩ | ⟨rfl, hname⟩
  · exact hostAndPort_name hchars port
  · rw [bracketed_append]
    exact hostAndPort_bracketed hname port

theorem name_ne_nil (h : IsHost host name) : name ≠ [] := by
  cases h with
  | name hne => exact hne
  | address h => exact List.ne_nil_of_mem h.colon_mem
  | zoned h => simp

/-- The host is read in lower case, and a zone as it stands. -/
theorem host_eq (h : IsHost host name) (port : Option Nat) (scheme path : String) :
    Uri.host ⟨scheme, String.ofList (host ++ portText port), path⟩ = String.ofList name := by
  have hread := h.hostAndPort port
  unfold Uri.host
  dsimp only
  rw [String.toList_ofList, hread]
  dsimp only
  cases h with
  | name hne hchars hlower =>
    have hpercent : '%' ∉ host := fun hmem => absurd (hchars '%' hmem) (by decide)
    rw [cut_of_not_mem hpercent]
    exact hlower
  | address h hlower =>
    rw [cut_of_not_mem (percent_not_mem h)]
    exact hlower
  | zoned h hlower =>
    rw [cut_append (percent_not_mem h)]
    dsimp only
    rw [hlower, ← String.ofList_append]

theorem port?_eq (h : IsHost host name) (hport : ∀ n, port = some n → n ≤ 65535)
    (scheme path : String) :
    Uri.port? ⟨scheme, String.ofList (host ++ portText port), path⟩ = .ok port := by
  have hread := h.hostAndPort port
  unfold Uri.port?
  dsimp only
  rw [String.toList_ofList, hread]
  cases port with
  | none => rfl
  | some n =>
    have hbound : n ≤ 65535 := hport n rfl
    obtain ⟨c, cs, hcs, -⟩ := Text.exists_cons_toDigits n
    have hdigits : (Nat.toDigits 10 n).all Text.isAsciiDigit = true :=
      List.all_eq_true.mpr fun c hc => isAsciiDigit_of_mem_toDigits hc
    have hlength : (Nat.toDigits 10 n).length ≤ 5 :=
      (Nat.length_toDigits_le_iff (by decide) (by decide)).mpr (by omega)
    have hvalue := Text.digitsValue_toDigits n
    have hdrop : (portText (some n)).drop 1 = c :: cs := hcs
    dsimp only
    rw [hdrop]
    dsimp only
    rw [← hcs, hdigits, if_neg (by decide), if_neg (by unfold Text.maxIntegerDigits; omega),
      hvalue, if_neg (by omega)]

end IsHost
end ClusterAgent.Uri
