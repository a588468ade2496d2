import ClusterAgent.Proofs.Storage.Place
import ClusterAgent.Proofs.Text.Blank

/-! Places below a root: where names lead that are joined to the URI of the root. -/
namespace ClusterAgent

open LocalPath

/-- The object of some names below a key. Slashes at the end of the key do not count. -/
def ObjectAddress.below (address : ObjectAddress) (names : List String) : ObjectAddress :=
  let directory := Text.trimEndOf '/' address.key
  ⟨address.bucket, "/".intercalate (if directory = "" then names else directory :: names)⟩

/-- The place of some names below another. -/
def Place.below (names : List String) : Place → Place
  | node key => node (key ++ names)
  | object address => object (address.below names)

namespace LocalPath

theorem slashed_inj {parts parts' : List String} (hne : parts ≠ []) (hne' : parts' ≠ [])
    (h : ∀ part ∈ parts, IsPart part) (h' : ∀ part ∈ parts', IsPart part)
    (heq : slashed parts = slashed parts') : parts = parts' := by
  have hread : ofChars (slashed parts) = ⟨.root, parts⟩ := ofChars_slashed hne h 0
  have hread' : ofChars (slashed parts') = ⟨.root, parts'⟩ := ofChars_slashed hne' h' 0
  rw [heq, hread'] at hread
  exact (congrArg LocalPath.parts hread).symm

theorem dropWhile_slashed {parts : List String} (hne : parts ≠ [])
    (h : ∀ part ∈ parts, IsPart part) :
    '/' :: (slashed parts).dropWhile (· == '/') = slashed parts := by
  obtain ⟨part, rest, rfl⟩ := List.exists_cons_of_ne_nil hne
  obtain ⟨c, cs, hpart, hslash⟩ := (h part List.mem_cons_self).exists_chars
  have hc : ¬ (c == '/') = true := mt beq_iff_eq.mp hslash
  rw [slashed_cons, hpart, List.cons_append, List.dropWhile_cons, if_pos (beq_self_eq_true '/'),
    List.dropWhile_cons_of_neg (p := (· == '/')) hc]

end LocalPath

namespace ObjectAddress

theorem below_eq (address : ObjectAddress) (names : List String) :
    address.below names = ⟨address.bucket, (address.below names).key⟩ := rfl

theorem toList_key_below {address : ObjectAddress} {names : List String} (hne : names ≠ [])
    (h : ∀ name ∈ names, IsPart name) :
    (address.below names).key.toList =
      if Text.trimEndOf '/' address.key = "" then (slashed names).dropWhile (· == '/')
      else (Text.trimEndOf '/' address.key).toList ++ slashed names := by
  unfold below
  dsimp only
  split
  · obtain ⟨name, rest, rfl⟩ := List.exists_cons_of_ne_nil hne
    rw [toList_intercalate]
    exact (List.cons.inj (dropWhile_slashed hne h)).2.symm
  · rw [toList_intercalate]

/-- Different names lead to different objects. -/
theorem below_inj {address : ObjectAddress} {names names' : List String} (hne : names ≠ [])
    (hne' : names' ≠ []) (h : ∀ name ∈ names, IsPart name) (h' : ∀ name ∈ names', IsPart name)
    (heq : address.below names = address.below names') : names = names' := by
  have hkeys := congrArg (fun a => a.key.toList) heq
  rw [toList_key_below hne h, toList_key_below hne' h'] at hkeys
  refine slashed_inj hne hne' h h' ?_
  split at hkeys
  · rw [← dropWhile_slashed hne h, hkeys, dropWhile_slashed hne' h']
  · exact List.append_cancel_left hkeys

end ObjectAddress

/-- Different names lead to different places. -/
theorem Place.below_inj {place : Place} {names names' : List String} (hne : names ≠ [])
    (hne' : names' ≠ []) (h : ∀ name ∈ names, IsPart name) (h' : ∀ name ∈ names', IsPart name)
    (heq : place.below names = place.below names') : names = names' := by
  cases place with
  | node key => exact List.append_cancel_left (Place.node.inj heq)
  | object address => exact ObjectAddress.below_inj hne hne' h h' (Place.object.inj heq)

namespace Storage

variable {root : String} {names : List String}

theorem toList_joinPath_trimmed (root : String) (parts : List String) :
    (joinPath root parts).toList =
      root.toList.rdropWhile (· == '/') ++ slashed (parts.map (Text.trimOf '/')) := by
  unfold joinPath
  rw [toList_intercalate, Text.toList_trimEndOf]

theorem map_trimOf (h : ∀ name ∈ names, '/' ∉ name.toList) :
    names.map (Text.trimOf '/') = names :=
  (List.map_congr_left fun name hname => Text.trimOf_of_not_mem (h name hname)).trans
    (List.map_id names)

theorem toList_joinPath (h : ∀ name ∈ names, '/' ∉ name.toList) :
    (joinPath root names).toList = root.toList.rdropWhile (· == '/') ++ slashed names := by
  rw [toList_joinPath_trimmed, map_trimOf h]

/-! ### What URIs carry -/

/-- A name that a URI of a local path carries as it stands. -/
def Carried (name : String) : Prop :=
  (∀ c ∈ name.toList, Uri.Survives c) ∧ ¬ Uri.HoldsEscape name.toList

theorem survives_of_mem_slashed {parts : List String}
    (h : ∀ part ∈ parts, ∀ c ∈ part.toList, Uri.Survives c) :
    ∀ c ∈ slashed parts, Uri.Survives c := by
  intro c hc
  obtain ⟨part, hpart, hc⟩ := List.mem_flatMap.mp hc
  rcases List.mem_cons.mp hc with rfl | hc
  · decide
  · exact h part hpart c hc

theorem not_holdsEscape_append_slashed {cs : List Char} (hcs : ¬ Uri.HoldsEscape cs)
    {parts : List String} (h : ∀ part ∈ parts, Carried part) :
    ¬ Uri.HoldsEscape (cs ++ slashed parts) := by
  induction parts generalizing cs with
  | nil => rwa [slashed, List.flatMap_nil, List.append_nil]
  | cons part parts ih =>
    rw [List.forall_mem_cons] at h
    intro hescape
    rw [slashed_cons] at hescape
    rcases hescape.of_append_slash with hescape | hescape
    · exact hcs hescape
    · exact ih h.1.2 h.2 hescape

theorem unquoteChars_slashed {parts : List String} (h : ∀ part ∈ parts, Carried part) :
    Uri.unquoteChars (slashed parts) = slashed parts := by
  have hnil : ¬ Uri.HoldsEscape [] := fun hescape => List.not_mem_nil hescape.percent_mem
  exact Uri.unquoteChars_of_no_escape (not_holdsEscape_append_slashed hnil h)

/-- Names are carried whole exactly if no character of them is lost. -/
theorem carry_slashed_eq_iff :
    Uri.carry (slashed names) = slashed names ↔
      ∀ name ∈ names, ∀ c ∈ name.toList, Uri.Survives c := by
  constructor
  · intro h name hname c hc
    exact Uri.survives_of_mem_carry (h.symm ▸ (isInfix_slashed hname).subset hc)
  · exact fun h => Uri.carry_of_survives (survives_of_mem_slashed h)

theorem exists_chars_unquote_carry_slashed (hne : names ≠ []) :
    ∃ rest, Uri.unquoteChars (Uri.carry (slashed names)) = '/' :: rest := by
  obtain ⟨first, more, rfl⟩ := List.exists_cons_of_ne_nil hne
  rw [slashed_cons, Uri.carry_slash]
  exact ⟨_, Uri.unquoteChars_quoteChars_append ['/'] _⟩

/-! ### Mounted paths -/

/-- The URI of a path other than the root does not end in a slash. -/
theorem rdropWhile_toUri {p : LocalPath} (habsolute : p.anchor ≠ .relative) (hnormal : p.Normal)
    (hne : p.parts ≠ []) : p.toUri.toList.rdropWhile (· == '/') = p.toUri.toList := by
  obtain ⟨front, last, hparts⟩ := (List.eq_nil_or_concat' p.parts).resolve_left hne
  have hlast : IsPart last := hnormal last (by simp [hparts])
  obtain ⟨pre, hpre⟩ : ∃ pre, p.toUri.toList = pre ++ Uri.quoteChars last.toList := by
    refine ⟨"file://".toList ++ Uri.quoteChars
      (List.replicate (extraSlashes p.anchor) '/' ++ slashed front ++ ['/']), ?_⟩
    have hslashed : slashed p.parts = slashed front ++ ['/'] ++ last.toList := by
      rw [hparts, slashed_append]
      simp [slashed]
    rw [toList_toUri, toList_text habsolute hne, hslashed, ← List.append_assoc, ← List.append_assoc,
      Uri.quoteChars_append _ last.toList, List.append_assoc "file://".toList]
  rw [hpre]
  refine Text.rdropWhile_append_of_forall_not ?_ ?_ pre
  · exact Uri.quoteChars_ne_nil fun heq => hlast.1 (String.toList_inj.mp heq)
  · intro c hc heq
    rw [beq_iff_eq] at heq
    exact Uri.slash_not_mem_quoteChars hlast.2.2 (heq ▸ hc)

theorem rdropWhile_toUri_root {p : LocalPath} (habsolute : p.anchor ≠ .relative)
    (hnil : p.parts = []) : p.toUri.toList.rdropWhile (· == '/') = "file:".toList := by
  obtain ⟨anchor, parts⟩ := p
  obtain rfl : parts = [] := hnil
  cases anchor with
  | relative => exact absurd rfl habsolute
  | root => rfl
  | doubleRoot => rfl

/-- What is read of texts that are joined to a path: parts below it. The first text has to start
with a character that is not dropped. -/
theorem localPath_joinPath_trimmed {p : LocalPath} (habsolute : p.anchor ≠ .relative)
    (hnormal : p.Normal) {first : String} {parts : List String}
    (hparts : parts.map (Text.trimOf '/') = first :: names) {c : Char} {cs : List Char}
    (hfirst : first.toList = c :: cs) (hslash : c ≠ '/') (hkept : Uri.isKept c) :
    ∃ q, localPath (joinPath p.toUri parts) = .ok q ∧ q.anchor ≠ .relative ∧
      q.parts = p.parts ++
        (ofChars (Uri.unquoteChars (Uri.carry (slashed (first :: names))))).parts := by
  have hjoined : (joinPath p.toUri parts).toList =
      p.toUri.toList.rdropWhile (· == '/') ++ slashed (first :: names) := by
    rw [toList_joinPath_trimmed, hparts]
  obtain ⟨rest, hrest⟩ := exists_chars_unquote_carry_slashed (List.cons_ne_nil first names)
  by_cases hroot : p.parts = []
  · rw [rdropWhile_toUri_root habsolute hroot] at hjoined
    have hparse : Uri.parse (joinPath p.toUri parts) =
        .ok ⟨"file", "", String.ofList (Uri.carry (slashed (first :: names)))⟩ := by
      rw [slashed_cons, hfirst] at hjoined ⊢
      unfold Uri.parse
      rw [hjoined]
      exact Uri.parseChars_file_none hslash hkept _
    refine ⟨_, localPath_of_parse hparse, ?_, ?_⟩
    · rw [hrest]
      exact anchor_ofChars_slash rest
    · rw [hroot, List.nil_append]
  · rw [rdropWhile_toUri habsolute hnormal hroot, toList_toUri, List.append_assoc] at hjoined
    refine ⟨_, localPath_quoted habsolute hjoined, ?_, ?_⟩
    · obtain ⟨cs, hcs⟩ := exists_chars_text habsolute
      rw [hcs]
      exact anchor_ofChars_slash _
    · have htext : (ofChars p.text.toList).parts = p.parts :=
        congrArg LocalPath.parts (ofText_text habsolute hnormal)
      rw [hrest, parts_ofChars_append, htext]

/-- What is read of names that are joined to a path: parts below it. -/
theorem localPath_joinPath {p : LocalPath} (habsolute : p.anchor ≠ .relative) (hnormal : p.Normal)
    {first : String} (hfirst : ∀ c ∈ first.toList, Uri.Survives c)
    (hnames : ∀ name ∈ first :: names, IsPart name) :
    ∃ q, localPath (joinPath p.toUri (first :: names)) = .ok q ∧ q.anchor ≠ .relative ∧
      q.parts = p.parts ++
        (ofChars (Uri.unquoteChars (Uri.carry (slashed (first :: names))))).parts := by
  obtain ⟨c, cs, hname, hslash⟩ := (hnames first List.mem_cons_self).exists_chars
  have hkept : Uri.Survives c := hfirst c (by rw [hname]; exact List.mem_cons_self)
  exact localPath_joinPath_trimmed habsolute hnormal
    (map_trimOf fun name hname => (hnames name hname).2.2) hname hslash hkept.1

/-- Parts that are read of names lead where the names say exactly if all the names are carried. -/
theorem resolve_eq_append_iff {key : List String} (hne : names ≠ [])
    (hnames : ∀ name ∈ names, IsName name) :
    resolve key (ofChars (Uri.unquoteChars (Uri.carry (slashed names)))).parts = key ++ names ↔
      ∀ name ∈ names, Carried name := by
  have hparts : ∀ name ∈ names, IsPart name := fun name hname => (hnames name hname).1
  obtain ⟨rest, hrest⟩ := exists_chars_unquote_carry_slashed hne
  constructor
  · intro hkey
    -- nothing gets longer on the way, so nothing may get shorter
    have hread := resolve_sublist key
      (ofChars (Uri.unquoteChars (Uri.carry (slashed names)))).parts
    rw [hkey, List.append_sublist_append_left] at hread
    have hsublist : (slashed names).Sublist (Uri.unquoteChars (Uri.carry (slashed names))) := by
      refine (hread.flatMap _).trans ?_
      rw [hrest]
      exact slashed_ofChars_sublist rest
    have hunquote := Uri.length_unquoteChars_le (Uri.carry (slashed names))
    have hcarry : Uri.carry (slashed names) = slashed names :=
      (Uri.carry_sublist _).eq_of_length_le (hsublist.length_le.trans hunquote)
    rw [hcarry] at hsublist
    have hescape : ¬ Uri.HoldsEscape (slashed names) := fun hescape =>
      absurd hsublist.length_le (Nat.not_le_of_lt (Uri.length_unquoteChars_lt hescape))
    exact fun name hname =>
      ⟨carry_slashed_eq_iff.mp hcarry name hname, fun h => hescape (h.mono (isInfix_slashed hname))⟩
  · intro hcarried
    have hdots : ∀ name ∈ names, name ≠ ".." := fun name hname => (hnames name hname).2.1
    have hcarry := carry_slashed_eq_iff.mpr fun name hname => (hcarried name hname).1
    have hread : ofChars (slashed names) = ⟨.root, names⟩ := ofChars_slashed hne hparts 0
    rw [hcarry, unquoteChars_slashed hcarried, hread, resolve_of_no_dots hdots]

/-! ### Buckets -/

/-- Below the object of a path are the objects of what is joined to the path. -/
theorem below_eq_joined (bucket : String) (path : List Char) (hne : names ≠ [])
    (hnames : ∀ name ∈ names, IsPart name) :
    ObjectAddress.below ⟨bucket, Text.trimStartOf '/' (String.ofList path)⟩ names =
      ⟨bucket, Text.trimStartOf '/'
        (String.ofList (path.rdropWhile (· == '/') ++ slashed names))⟩ := by
  have hdirectory : (Text.trimEndOf '/' (Text.trimStartOf '/' (String.ofList path))).toList =
      (path.rdropWhile (· == '/')).dropWhile (· == '/') := by
    rw [Text.toList_trimEndOf, Text.toList_trimStartOf, String.toList_ofList,
      Text.dropWhile_rdropWhile]
  rw [ObjectAddress.below_eq]
  refine congrArg (ObjectAddress.mk bucket) (String.toList_inj.mp ?_)
  rw [ObjectAddress.toList_key_below hne hnames, Text.toList_trimStartOf, String.toList_ofList,
    List.dropWhile_append, ← hdirectory]
  dsimp only
  by_cases hempty : Text.trimEndOf '/' (Text.trimStartOf '/' (String.ofList path)) = ""
  · rw [if_pos hempty, hempty]
    rfl
  · rw [if_neg hempty, if_neg]
    intro hnil
    exact hempty (String.toList_eq_nil_iff.mp (List.isEmpty_iff.mp hnil))

theorem isRooted_joined {path : List Char} (hpath : Uri.IsRooted path) (hne : names ≠ []) :
    Uri.IsRooted (path.rdropWhile (· == '/') ++ slashed names) := by
  obtain ⟨name, more, rfl⟩ := List.exists_cons_of_ne_nil hne
  right
  cases hdrop : path.rdropWhile (· == '/') with
  | nil => exact ⟨_, rfl⟩
  | cons c cs =>
    obtain ⟨after, hafter⟩ : path.rdropWhile (· == '/') <+: path := List.rdropWhile_prefix _ _
    obtain rfl | ⟨rest, rfl⟩ := hpath
    · rw [hdrop] at hafter
      cases hafter
    · rw [hdrop] at hafter
      obtain ⟨rfl, -⟩ := List.cons.inj hafter
      exact ⟨_, rfl⟩

/-- Trimming a root leaves its authority as it is. -/
theorem rdropWhile_root {authority : List Char} (hne : authority ≠ [])
    (hauthority : ∀ c ∈ authority, (!Uri.isAuthorityEnd c) = true) (path : List Char) :
    ('s' :: '3' :: ':' :: '/' :: '/' :: (authority ++ path)).rdropWhile (· == '/') =
      's' :: '3' :: ':' :: '/' :: '/' :: (authority ++ path.rdropWhile (· == '/')) := by
  have hslash : ∀ c ∈ authority, ¬ (c == '/') = true := by
    intro c hc heq
    have hend := hauthority c hc
    rw [beq_iff_eq.mp heq] at hend
    exact absurd hend (by decide)
  have happend := Text.rdropWhile_append (p := (· == '/')) ("s3://".toList ++ authority) path
  rw [Text.rdropWhile_append_of_forall_not hne hslash] at happend
  refine happend.trans ?_
  split
  · next hnil => rw [hnil, List.append_nil]; rfl
  · rfl

/-- A key is carried whole exactly if what is joined to the root is. -/
theorem trimStartOf_carry_eq_iff {path : List Char} (hpath : ∀ c ∈ path, Uri.Survives c)
    (rest : List Char) :
    Text.trimStartOf '/' (String.ofList (Uri.carry (path ++ rest))) =
      Text.trimStartOf '/' (String.ofList (path ++ rest)) ↔ Uri.carry rest = rest := by
  rw [← String.toList_inj, Text.toList_trimStartOf, Text.toList_trimStartOf, String.toList_ofList,
    String.toList_ofList]
  constructor
  · intro h
    have hcarry := Uri.carry_eq_of_dropWhile h
    rw [Uri.carry_append hpath] at hcarry
    exact List.append_cancel_left hcarry
  · intro h
    rw [Uri.carry_append hpath, h]

/-- Names that are joined to a root lead to an object, and to the one they say exactly if they are
carried. -/
theorem parse_joinPath {address : ObjectAddress} {body : List Char}
    (hroot : root.toList = 's' :: '3' :: ':' :: '/' :: '/' :: body)
    (haddress : ObjectAddress.parse root = .ok address)
    (hsurvive : ∀ c ∈ root.toList, Uri.Survives c) (hne : names ≠ [])
    (hnames : ∀ name ∈ names, IsPart name) :
    (∃ rest, (joinPath root names).toList = 's' :: '3' :: ':' :: '/' :: '/' :: rest) ∧
      ∃ target, ObjectAddress.parse (joinPath root names) = .ok target ∧
        (target = address.below names ↔ ∀ name ∈ names, ∀ c ∈ name.toList, Uri.Survives c) := by
  have hbody : ∀ c ∈ body, Uri.Survives c := fun c hc => hsurvive c (by simp [hroot, hc])
  obtain ⟨authority, path, rfl, hauthority, hpath⟩ := Uri.exists_authority hbody
  rw [List.forall_mem_append] at hbody
  obtain ⟨u, hparse, -, hbucket, rfl⟩ := ObjectAddress.parse_eq_ok.mp haddress
  unfold Uri.parse at hparse
  rw [hroot, Uri.parseChars_s3_eq_ok hauthority hbody.1 hpath,
    Uri.carry_of_survives hbody.2] at hparse
  obtain ⟨hbrackets, hlookalikes, rfl⟩ := hparse
  have hne' : authority ≠ [] := fun heq => hbucket (congrArg String.ofList heq)
  have hjoined : (joinPath root names).toList = 's' :: '3' :: ':' :: '/' :: '/' ::
      (authority ++ (path.rdropWhile (· == '/') ++ slashed names)) := by
    rw [toList_joinPath fun name hname => (hnames name hname).2.2, hroot,
      rdropWhile_root hne' hauthority, ← List.append_assoc]
    rfl
  have hdirectory : ∀ c ∈ path.rdropWhile (· == '/'), Uri.Survives c := fun c hc =>
    hbody.2 c ((List.rdropWhile_prefix _ _).subset hc)
  refine ⟨⟨_, hjoined⟩, _, ObjectAddress.parse_eq_ok.mpr ⟨⟨"s3", String.ofList authority,
    String.ofList (Uri.carry (path.rdropWhile (· == '/') ++ slashed names))⟩, ?_, rfl, hbucket,
    rfl⟩, ?_⟩
  · unfold Uri.parse
    rw [hjoined, Uri.parseChars_s3_eq_ok hauthority hbody.1 (isRooted_joined hpath hne)]
    exact ⟨hbrackets, hlookalikes, rfl⟩
  · rw [below_eq_joined _ path hne hnames, ← carry_slashed_eq_iff,
      ← trimStartOf_carry_eq_iff hdirectory, ObjectAddress.mk.injEq, and_iff_right rfl]

/-! ### Both kinds of storage -/

/-- A name that URIs of the storage carry as it stands. -/
def Carries : Storage → String → Prop
  | mounted _, name => Carried name
  | bucket _, name => ∀ c ∈ name.toList, Uri.Survives c

theorem carries_of_all (storage : Storage) {name : String}
    (h : name.toList.all fun c => Uri.isKept c && Uri.isPathChar c && c != '%') :
    storage.Carries name := by
  have hsurvive : ∀ c ∈ name.toList, Uri.Survives c ∧ c ≠ '%' := by
    intro c hc
    have hchar := List.all_eq_true.mp h c hc
    rw [Bool.and_eq_true, Bool.and_eq_true, bne_iff_ne] at hchar
    exact hchar
  cases storage with
  | mounted home =>
    refine ⟨fun c hc => (hsurvive c hc).1, fun hescape => ?_⟩
    exact (hsurvive '%' hescape.percent_mem).2 rfl
  | bucket _ => exact fun c hc => (hsurvive c hc).1

/-- A root that is not cut off in its URI. That of a local path is quoted, and holds all of it. -/
def CarriesRoot : Storage → String → Prop
  | mounted _, _ => True
  | bucket name, root => ∀ c ∈ (qualifyObject name root).toList, Uri.Survives c

variable {storage : Storage} {uri : String} {base : Place} {w w' : World}

/-- What is joined to the URI of a root leads to a place, and to the one that the names say exactly
if they are carried. The first name is one that is. -/
theorem place?_joinPath {first : String} (hsettled : w.workingDirectory.Settled)
    (hbase : storage.place? w.workingDirectory root = some base)
    (hroot : storage.CarriesRoot root) (huri : (storage.qualify root).run w = (.ok uri, w'))
    (hnames : ∀ name ∈ first :: names, IsName name) (hfirst : storage.Carries first) :
    ∃ place, storage.place? w.workingDirectory (joinPath uri (first :: names)) = some place ∧
      (place = base.below (first :: names) ↔ ∀ name ∈ names, storage.Carries name) := by
  have hparts : ∀ name ∈ first :: names, IsPart name := fun name hname => (hnames name hname).1
  have hcarries : (∀ name ∈ first :: names, storage.Carries name) ↔
      ∀ name ∈ names, storage.Carries name := by
    rw [List.forall_mem_cons, and_iff_right hfirst]
  rw [← hcarries]
  cases storage with
  | mounted home =>
    obtain ⟨p, hp, rfl, -⟩ := run_qualifyLocal_eq_ok.mp huri
    obtain rfl := Option.some.inj ((place?_mounted hp).symm.trans hbase)
    have hnormal := normal_absolute hsettled (normal_of_localPath hp)
    obtain ⟨q, hlocal, hanchor, hq⟩ :=
      localPath_joinPath (absolute_absolute hsettled) hnormal hfirst.1 hparts
    refine ⟨_, place?_mounted hlocal, ?_⟩
    rw [key_of_absolute hanchor, hq, resolve_append, resolve_absolute hsettled]
    exact (iff_of_eq (Place.node.injEq _ _)).trans
      (resolve_eq_append_iff (List.cons_ne_nil first names) hnames)
  | bucket name =>
    cases huri
    obtain ⟨body, hbody⟩ := exists_chars_qualifyObject name root
    obtain ⟨address, haddress, rfl⟩ := exists_of_place?_bucket hbase
    obtain ⟨⟨rest, hrest⟩, target, hparse, htarget⟩ :=
      parse_joinPath hbody haddress hroot (List.cons_ne_nil first names) hparts
    refine ⟨_, place?_bucket (by rw [qualifyObject_of_chars hrest, hparse]), ?_⟩
    exact (iff_of_eq (Place.object.injEq _ _)).trans htarget

end Storage
end ClusterAgent
