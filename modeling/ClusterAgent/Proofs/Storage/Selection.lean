import ClusterAgent.Proofs.Storage.Object
import ClusterAgent.Proofs.Text.Blank

/-! The storage of a URI: which one is chosen for it, and what the chosen one takes the URI for. -/
namespace ClusterAgent

namespace ObjectAddress

variable {uri : String} {address : ObjectAddress}

/-- What a URI has in front of its path is read from its text. -/
theorem exists_of_parse (h : parse uri = .ok address) : ∃ name authority rest,
    Uri.sanitize uri.toList = name ++ ':' :: '/' :: '/' :: (authority ++ rest) ∧
    name.map Char.toLower = ['s', '3'] ∧ (∀ c ∈ name, Uri.isSchemeChar c) ∧
    String.ofList authority ≠ "" ∧ (∀ c ∈ authority, (!Uri.isAuthorityEnd c) = true) ∧
    Uri.checkBrackets authority = .ok () ∧
    (authority.any fun c => Uri.delimiterLookalikes.contains c.toNat) = false ∧
    address = ⟨String.ofList authority,
      Text.trimStartOf '/' (String.ofList (rest.takeWhile Uri.isPathChar))⟩ := by
  obtain ⟨u, hparse, hs3, hbucket, rfl⟩ := parse_eq_ok.mp h
  have hscheme : u.scheme ≠ "" := by
    rw [hs3]
    decide
  obtain ⟨name, authority, rest, hsanitize, hname, hend, hbrackets, hlookalikes, rfl⟩ :=
    Uri.exists_of_parse hparse hscheme hbucket
  exact ⟨name, authority, rest, hsanitize, String.ofList_inj.mp hs3, hname, hbucket, hend,
    hbrackets, hlookalikes, rfl⟩

/-- A URI carries more than its key, and does not start with a slash. -/
theorem exists_carry_of_parse (h : parse uri = .ok address) : ∃ c cs,
    Uri.carry uri.toList = c :: cs ∧ c ≠ '/' ∧ address.key.toList.length < (c :: cs).length := by
  obtain ⟨name, authority, rest, hsanitize, hname, hscheme, -, hend, -, -, rfl⟩ := exists_of_parse h
  obtain ⟨blanks, hblanks, hcarry⟩ := Uri.exists_carry_eq uri.toList
  obtain ⟨first, more, rfl⟩ : ∃ first more, name = first :: more := by
    refine List.exists_cons_of_ne_nil ?_
    rintro rfl
    cases hname
  have hfirst : first ≠ '/' := by
    rintro rfl
    exact absurd (List.cons.inj hname).1 (by decide)
  have hfront : ∀ c ∈ first :: more ++ ':' :: '/' :: '/' :: authority, Uri.isPathChar c := by
    intro c hc
    rcases List.mem_append.mp hc with hc | hc
    · exact Uri.isPathChar_of_isSchemeChar (hscheme c hc)
    · simp only [List.mem_cons] at hc
      rcases hc with rfl | rfl | rfl | hc
      · decide
      · decide
      · decide
      · exact Uri.isPathChar_of_not_isAuthorityEnd (hend c hc)
  have htail : (Uri.sanitize uri.toList).takeWhile Uri.isPathChar =
      first :: (more ++ ':' :: '/' :: '/' :: authority ++ rest.takeWhile Uri.isPathChar) := by
    have hsplit : Uri.sanitize uri.toList =
        (first :: more ++ ':' :: '/' :: '/' :: authority) ++ rest := by
      rw [hsanitize]
      simp
    rw [hsplit, List.takeWhile_append_of_pos hfront]
    rfl
  rw [hcarry, htail]
  have hkey : (Text.trimStartOf '/' (String.ofList (rest.takeWhile Uri.isPathChar))).toList.length ≤
      (rest.takeWhile Uri.isPathChar).length := by
    rw [Text.toList_trimStartOf, String.toList_ofList]
    exact (List.dropWhile_sublist _).length_le
  cases blanks with
  | nil =>
    refine ⟨first, _, rfl, hfirst, ?_⟩
    simp only [List.length_cons, List.length_append] at hkey ⊢
    omega
  | cons b blanks =>
    refine ⟨b, _, List.cons_append, ?_, ?_⟩
    · rintro rfl
      exact absurd (hblanks '/' List.mem_cons_self) (by decide)
    · simp only [List.length_cons, List.length_append] at hkey ⊢
      omega

theorem dropWhile_slash_of_parse (h : parse uri = .ok address) :
    uri.toList.dropWhile (· == '/') = uri.toList := by
  obtain ⟨c, cs, hcarry, hslash, -⟩ := exists_carry_of_parse h
  cases huri : uri.toList with
  | nil => rfl
  | cons d ds =>
    refine List.dropWhile_cons_of_neg ?_
    rw [beq_iff_eq]
    rintro rfl
    rw [huri, Uri.carry_slash] at hcarry
    exact hslash (List.cons.inj hcarry).1.symm

end ObjectAddress

namespace Storage

variable {uri bucket : String} {w w' : World}

theorem run_forUri_eq_ok {storage : Storage} (h : (forUri uri).run w = (.ok storage, w')) :
    (∃ address, ObjectAddress.parse uri = .ok address ∧ storage = .bucket address.bucket) ∨
      ∃ u, Uri.parse uri = .ok u ∧ (u.scheme = "" ∨ u.scheme = "file") ∧
        storage = .mounted none := by
  unfold forUri at h
  split at h
  · cases h
  · next u hparse =>
    split at h
    · obtain ⟨address, w₁, haddress, hrest⟩ := Action.run_bind_eq_ok.mp h
      obtain ⟨haddress', -⟩ := Action.run_liftM_eq_ok.mp haddress
      rw [Action.run_bind_of_ok (Action.run_logInfo _ _)] at hrest
      cases hrest
      exact Or.inl ⟨address, haddress', rfl⟩
    · split at h
      · next hlocal =>
        cases h
        exact Or.inr ⟨u, hparse, by simpa using hlocal, rfl⟩
      · cases h

theorem toList_qualifyObject_of_not_prefix (bucket : String) (h : ¬ "s3://".isPrefixOf uri)
    (hslash : uri.toList.dropWhile (· == '/') = uri.toList) :
    (qualifyObject bucket uri).toList =
      's' :: '3' :: ':' :: '/' :: '/' :: (bucket.toList ++ '/' :: uri.toList) := by
  unfold qualifyObject
  rw [if_neg h, String.toList_append, String.toList_append, String.toList_append,
    Text.toList_trimStartOf, hslash, List.append_assoc, List.append_assoc]
  rfl

/-- A URI that is not taken as one becomes a key of the bucket. -/
theorem parse_qualifyObject_of_not_prefix {key : String}
    (haddress : ObjectAddress.parse uri = .ok ⟨bucket, key⟩) (h : ¬ "s3://".isPrefixOf uri) :
    ObjectAddress.parse (qualifyObject bucket uri) =
      .ok ⟨bucket, String.ofList (Uri.carry uri.toList)⟩ := by
  obtain ⟨name, authority, rest, hsanitize, -, -, hne, hend, hbrackets, hlookalikes, heq⟩ :=
    ObjectAddress.exists_of_parse haddress
  obtain ⟨rfl, -⟩ := ObjectAddress.mk.inj heq
  obtain ⟨c, cs, hcarry, hslash, -⟩ := ObjectAddress.exists_carry_of_parse haddress
  have hsurvive : ∀ c ∈ authority, Uri.Survives c := by
    intro c hc
    have hmem : c ∈ Uri.sanitize uri.toList := by
      rw [hsanitize]
      simp [hc]
    exact ⟨Uri.isKept_of_mem_sanitize hmem, Uri.isPathChar_of_not_isAuthorityEnd (hend c hc)⟩
  have hchars := toList_qualifyObject_of_not_prefix (String.ofList authority) h
    (ObjectAddress.dropWhile_slash_of_parse haddress)
  rw [String.toList_ofList] at hchars
  refine ObjectAddress.parse_eq_ok.mpr ⟨⟨"s3", String.ofList authority,
    String.ofList (Uri.carry ('/' :: uri.toList))⟩, ?_, rfl, hne, ?_⟩
  · unfold Uri.parse
    rw [hchars]
    exact (Uri.parseChars_s3_eq_ok hend hsurvive (Or.inr ⟨_, rfl⟩)).mpr
      ⟨hbrackets, hlookalikes, rfl⟩
  · refine congrArg (ObjectAddress.mk _) (String.toList_inj.mp ?_)
    rw [Text.toList_trimStartOf, String.toList_ofList, String.toList_ofList, Uri.carry_slash,
      hcarry, List.dropWhile_cons_of_pos (p := (· == '/')) (beq_self_eq_true '/'),
      List.dropWhile_cons_of_neg (by simpa using hslash)]

theorem run_copy_bucket {address : ObjectAddress}
    (h : ObjectAddress.parse (qualifyObject bucket uri) = .ok address) (source : LocalPath)
    (w : World) :
    ((Storage.bucket bucket).copy source uri).run w = (upload source address).run w := by
  unfold copy
  rw [Action.run_bind_of_ok (Action.run_liftM_eq_ok.mpr ⟨h, rfl⟩)]

/-- What a look-up of an object answers. -/
def objectStatus (uri : String) (objects : ObjectStore) (address : ObjectAddress) :
    Except StorageError FileStatus :=
  match objects.head address with
  | .ok object => .ok ⟨uri, object.content.length, Timestamp.ofObject object.modified⟩
  | .error fault => .error (.service fault)

theorem run_stat_bucket {address : ObjectAddress}
    (h : ObjectAddress.parse (qualifyObject bucket uri) = .ok address) (w : World) :
    ((Storage.bucket bucket).stat uri).run w =
      (objectStatus (qualifyObject bucket uri) w.objects address, w) := by
  unfold stat objectStatus
  rw [Action.run_bind_of_ok (Action.run_liftM_eq_ok.mpr ⟨h, rfl⟩),
    Action.run_bind_of_ok (Action.run_get w)]
  cases w.objects.head address <;> rfl

/-- The bucket that is chosen for a URI is that of the URI. It takes the URI for the object that the
URI addresses if the scheme is written in lower case and in front, and else for a key. -/
theorem forUri_addresses (h : (forUri uri).run w = (.ok (.bucket bucket), w')) :
    ∃ key qualified address, ObjectAddress.parse uri = .ok ⟨bucket, key⟩ ∧
      (∀ w, ((Storage.bucket bucket).qualify uri).run w = (.ok qualified, w)) ∧
      ObjectAddress.parse qualified = .ok address ∧
      (∀ source w, ((Storage.bucket bucket).copy source uri).run w =
        (upload source address).run w) ∧
      (∀ w, ((Storage.bucket bucket).stat uri).run w =
        (objectStatus qualified w.objects address, w)) ∧
      address = ⟨bucket, if "s3://".isPrefixOf uri then key
        else String.ofList (Uri.carry uri.toList)⟩ ∧
      (address = ⟨bucket, key⟩ ↔ "s3://".isPrefixOf uri) := by
  obtain ⟨⟨chosen, key⟩, haddress, hchosen⟩ | ⟨_, -, -, hlocal⟩ := run_forUri_eq_ok h
  · obtain rfl : bucket = chosen := (Storage.bucket.inj hchosen :)
    by_cases hprefix : "s3://".isPrefixOf uri
    · have hqualified : ObjectAddress.parse (qualifyObject bucket uri) = .ok ⟨bucket, key⟩ := by
        rw [qualifyObject, if_pos hprefix, haddress]
      refine ⟨key, _, ⟨bucket, key⟩, haddress, fun _ => rfl, hqualified,
        run_copy_bucket hqualified, run_stat_bucket hqualified, ?_, iff_of_true rfl hprefix⟩
      rw [if_pos hprefix]
    · have hqualified := parse_qualifyObject_of_not_prefix haddress hprefix
      refine ⟨key, _, _, haddress, fun _ => rfl, hqualified, run_copy_bucket hqualified,
        run_stat_bucket hqualified, ?_, iff_of_false ?_ hprefix⟩
      · rw [if_neg hprefix]
      · intro heq
        obtain ⟨c, cs, hcarry, -, hlength⟩ := ObjectAddress.exists_carry_of_parse haddress
        rw [← (ObjectAddress.mk.inj heq).2, String.toList_ofList, hcarry] at hlength
        exact Nat.lt_irrefl _ hlength
  · cases hlocal

/-- A scheme in capitals. -/
theorem run_forUri_capitals : (forUri "S3://b/k").run World.bare =
    (.ok (.bucket "b"), ((forUri "S3://b/k").run World.bare).2) :=
  Action.run_eq_of_toOption (by decide +kernel)

theorem forUri_addresses_capitals :
    (∃ w', (forUri "S3://b/k").run World.bare = (.ok (.bucket "b"), w')) ∧
    ∃ key qualified address, ObjectAddress.parse "S3://b/k" = .ok ⟨"b", key⟩ ∧
      (∀ w, ((Storage.bucket "b").qualify "S3://b/k").run w = (.ok qualified, w)) ∧
      ObjectAddress.parse qualified = .ok address ∧
      (address = ⟨"b", key⟩ ↔ "s3://".isPrefixOf "S3://b/k") := by
  obtain ⟨key, qualified, address, hparse, hqualify, haddress, -, -, -, hsame⟩ :=
    forUri_addresses run_forUri_capitals
  exact ⟨⟨_, run_forUri_capitals⟩, key, qualified, address, hparse, hqualify, haddress, hsame⟩

/-- A copy goes to another object than the one that the URI addresses. -/
theorem not_addresses_capitals :
    (∃ w', (forUri "S3://b/k").run World.bare = (.ok (.bucket "b"), w')) ∧
    ObjectAddress.parse "S3://b/k" = .ok ⟨"b", "k"⟩ ∧
    ObjectAddress.parse (qualifyObject "b" "S3://b/k") = .ok ⟨"b", "S3://b/k"⟩ ∧
    ∀ source w, ((Storage.bucket "b").copy source "S3://b/k").run w =
      (upload source ⟨"b", "S3://b/k"⟩).run w := by
  have hqualified : ObjectAddress.parse (qualifyObject "b" "S3://b/k") =
      .ok ⟨"b", "S3://b/k"⟩ := by
    decide +kernel
  exact ⟨⟨_, run_forUri_capitals⟩, by decide +kernel, hqualified, run_copy_bucket hqualified⟩

end Storage
end ClusterAgent
