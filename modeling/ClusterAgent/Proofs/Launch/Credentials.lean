import ClusterAgent.Proofs.Launch.Assembly
import ClusterAgent.Proofs.Token.Issuance
import Mathlib.Data.List.Nodup

/-! The credentials of an assembled specification: there is a session for every bucket that the
container has to reach. -/
namespace ClusterAgent

open TokenService

theorem Datum.string_inj {v : Option Datum} {s u : String} (hs : v = some (.string s))
    (hu : v = some (.string u)) : s = u := by
  have hsame := Option.some.inj (hs.symm.trans hu)
  exact WideText.ofString_injective (Datum.text.inj hsame)

theorem Alias.ofString_injective {s u : String} (h : ofString s = ofString u) : s = u := by
  cases h
  rfl

theorem SessionKeys.Textual.colon_not_mem {keys : SessionKeys} (h : keys.Textual) {id : String}
    (hid : keys.accessKeyId = some (.string id)) : ':' ∉ id.toList := by
  obtain ⟨id', hdatum, hcolon⟩ := h.accessKeyId _ hid
  obtain rfl : id = id' := Datum.string_inj hid (hid.trans (congrArg some hdatum))
  exact hcolon

namespace Credentials

/-- The credentials hold the session of a bucket, in an entry under the identifier that the bucket
and the access key make, unless a token of the user has that identifier. -/
def Grants (c : Credentials) (userTokens : List Token) (bucket : String) (keys : SessionKeys) :
    Prop :=
  ∃ id secret token : String, keys.accessKeyId = some (.string id) ∧
    keys.secretAccessKey = some (.string secret) ∧ keys.sessionToken = some (.string token) ∧
    ∃ t, (Alias.ofString (sessionIdentifier bucket id), t) ∈ c ∧
      ((∀ u ∈ userTokens, u.identifier ≠ sessionIdentifier bucket id) →
        t.service = "s3://" ++ bucket ∧ ∀ depth ≥ 1, Json.readLenient depth t.password =
          .ok (secretDocument id secret token ((keys.expiration.map Datum.phrase).getD [])))

theorem Merges.exists_entry {c : Credentials} {tokens : List Token} (h : Merges c tokens)
    {t : Token}
    (ht : t ∈ tokens) : ∃ u ∈ tokens, u.identifier = t.identifier ∧
      (Alias.ofString t.identifier, u) ∈ c := by
  have halias : Alias.ofString t.identifier ∈ Table.keys c := by
    rw [h.aliases_eq]
    exact List.mem_map_of_mem (List.mem_eraseDups.mpr (List.mem_map_of_mem ht))
  obtain ⟨⟨a, u⟩, hentry, rfl⟩ := List.mem_map.mp halias
  obtain ⟨ha, before, after, rfl, -⟩ := h.last _ u hentry
  exact ⟨u, by simp, (Alias.ofString_injective ha).symm, hentry⟩

/-- The sessions stay when other tokens are merged after theirs. -/
theorem Merges.grants {c : Credentials} {role : Option String} {duration : Int} {w w' : World}
    {sessions : List (String × SessionKeys)} {issued userTokens : List Token}
    (h : Merges c (issued ++ userTokens)) (hissues : Issues role duration w sessions issued w')
    (hbuckets : (sessions.map (·.1)).Nodup) (hkeys : ∀ s ∈ sessions, s.2.Textual)
    {s : String × SessionKeys} (hs : s ∈ sessions) : c.Grants userTokens s.1 s.2 := by
  obtain ⟨t, ht, hmade⟩ := hissues.exists_token hs
  obtain ⟨id, secret, token, hid, hcolon, hsecret, htoken, hidentifier, -, -⟩ :=
    sessionToken_eq_ok (hkeys s hs) hmade
  obtain ⟨u, hu, hsame, hentry⟩ := h.exists_entry (List.mem_append_left userTokens ht)
  rw [hidentifier] at hsame hentry
  refine ⟨id, secret, token, hid, hsecret, htoken, u, hentry, ?_⟩
  intro huser
  have hissued : u ∈ issued := by
    rcases List.mem_append.mp hu with hu | hu
    · exact hu
    · exact absurd hsame (huser u hu)
  obtain ⟨s', hs', hmade'⟩ := hissues.exists_session hissued
  obtain ⟨id', secret', token', hid', hcolon', hsecret', htoken', hidentifier', hservice,
      hpassword⟩ :=
    sessionToken_eq_ok (hkeys s' hs') hmade'
  have hbucket : s'.1 = s.1 := sessionIdentifier_inj hcolon' hcolon (hidentifier'.symm.trans hsame)
  obtain rfl : s' = s := List.inj_on_of_nodup_map hbuckets hs' hs hbucket
  obtain rfl : id' = id := Datum.string_inj hid' hid
  obtain rfl : secret' = secret := Datum.string_inj hsecret' hsecret
  obtain rfl : token' = token := Datum.string_inj htoken' htoken
  exact ⟨hservice, hpassword⟩

end Credentials

namespace LaunchRequest

variable {r : LaunchRequest} {name : String} {role : Option String} {duration : Int}
  {w w' : World}

/-- All paths that need tokens are `s3` URIs. -/
theorem exists_qualifyObject_of_resources {resources : List Resource}
    (h : (r.resources (.bucket name)).run w = (.ok resources, w')) {resource : Resource}
    (hresource : resource ∈ resources) :
    ∃ path, resource.uri = Storage.qualifyObject name path := by
  obtain ⟨staged, present, w₁, hstaged, hpresent, rfl⟩ := run_resources_eq_ok h
  rcases List.mem_append.mp hresource with hmem | hmem
  · obtain ⟨a, -, w₂, w₃, hrun⟩ := hstaged.exists_of_mem hmem
    obtain ⟨target, log, -, -, hregister⟩ := Resource.run_provision_eq_ok hrun
    exact Resource.exists_qualifyObject_of_register hregister
  · obtain ⟨path, -, w₂, w₃, hrun⟩ := hpresent.exists_of_mem hmem
    exact Resource.exists_qualifyObject_of_register hrun

theorem scheme_of_mem_tokenPaths {resources : List Resource} {root path : String}
    (hresources : (r.resources (.bucket name)).run w = (.ok resources, w'))
    (hpath : path ∈ resources.map (·.uri) ++ [Storage.qualifyObject name root]) {u : Uri}
    (hu : Uri.parse path = .ok u) : u.scheme = "s3" := by
  rcases List.mem_append.mp hpath with hmem | hmem
  · obtain ⟨resource, hresource, rfl⟩ := List.mem_map.mp hmem
    obtain ⟨q, hq⟩ := exists_qualifyObject_of_resources hresources hresource
    exact Storage.scheme_qualifyObject (hq ▸ hu)
  · obtain rfl := List.mem_singleton.mp hmem
    exact Storage.scheme_qualifyObject hu

/-- What an assembled specification holds for the buckets that its container has to reach: a session
for each of them, asked for in turn, and each in an entry of its own. -/
structure Equips (r : LaunchRequest) (name : String) (role : Option String) (duration : Int)
    (w w' : World) (spec : LaunchSpec) (c : Credentials) (root : String)
    (sessions : List (String × SessionKeys)) : Prop where
  read : TokenFile.read spec.credentials = .ok c
  staged : (Resource.rootOrHome (.bucket name) r.root).run w = (.ok root, w)
  requests : requestsIn w'.journal = requestsIn w.journal ++
    sessions.map fun s => sessionRequest role duration s.1
  answers : ∀ i s, sessions[i]? = some s →
    w.sessionAnswer ((requestsIn w.journal).length + i) = .ok s.2
  /-- The bucket of every resource, and of the staging root, has a session. -/
  buckets : ∀ uri ∈ spec.resources.map (·.uri) ++ [Storage.qualifyObject name root],
    ∃ u, Uri.parse uri = .ok u ∧ u.scheme = "s3" ∧ ∃ keys, (u.authority, keys) ∈ sessions
  grants : ∀ s ∈ sessions, c.Grants r.userTokens s.1 s.2
  distinct : ∀ s ∈ sessions, ∀ s' ∈ sessions, ∀ id id' : String,
    s.2.accessKeyId = some (.string id) → s'.2.accessKeyId = some (.string id') →
      sessionIdentifier s.1 id = sessionIdentifier s'.1 id' → s = s'

theorem assemble_equips {spec : LaunchSpec}
    (hkeys : ∀ n keys, w.sessionAnswer n = .ok keys → keys.Textual)
    (h : (r.assemble (.bucket name) (.sessions role duration)).run w = (.ok spec, w')) :
    ∃ c root sessions, Equips r name role duration w w' spec c root sessions := by
  obtain ⟨w₁, paths, w₂, log, hresources, hpaths, hbundle, rfl⟩ := run_assemble_eq_ok h
  obtain ⟨files, objects, log', rfl⟩ :=
    World.exists_of_setting_eq ((keeps_resources r (.bucket name)).eq hresources)
  obtain ⟨root, uri, hroot, huri, rfl, -⟩ := run_tokenPaths_eq_ok hpaths
  obtain rfl : Storage.qualifyObject name root = uri := by
    cases huri
    rfl
  obtain ⟨issued, w₃, log'', hissued, hbytes, rfl⟩ := Credentials.run_bundle_eq_ok hbundle
  obtain ⟨sessions, hbuckets, hparse, hissues⟩ := run_obtain_sessions_eq_ok hissued
  obtain ⟨log₃, hstate⟩ := hissues.state
  have hread := TokenFile.read_of_write? (Credentials.distinct_addAll _) hbytes
  have hdistinct : (sessions.map (·.1)).Nodup := hbuckets ▸ nodup_eraseDups _
  have hrequests : requestsIn (w.journal ++ [.tokensRequested (spec.resources.map (·.uri) ++
      [Storage.qualifyObject name root])]) =
      requestsIn w.journal := (requestsIn_append _ _).trans (List.append_nil _)
  have hanswers : ∀ i s, sessions[i]? = some s →
      w.sessionAnswer ((requestsIn w.journal).length + i) = .ok s.2 := by
    intro i s hs
    have hanswer := hissues.answers i s hs
    dsimp only at hanswer
    rwa [hrequests] at hanswer
  have htextual : ∀ s ∈ sessions, s.2.Textual := by
    intro s hs
    obtain ⟨i, hi⟩ := List.mem_iff_getElem?.mp hs
    exact hkeys _ _ (hanswers i s hi)
  refine ⟨_, root, sessions, hread, ?_, ?_, hanswers, ?_, ?_, ?_⟩
  · rw [Resource.run_rootOrHome_bucket] at hroot ⊢
    cases hroot
    rfl
  · subst hstate
    dsimp only
    rw [requestsIn_append, hrequests, requestsIn_map]
  · intro path hpath
    obtain ⟨u, hu⟩ := hparse path hpath
    have hscheme := scheme_of_mem_tokenPaths hresources hpath hu
    have hbucket : u.authority ∈ sessions.map (·.1) := by
      rw [hbuckets, List.mem_eraseDups]
      exact List.mem_filterMap.mpr ⟨path, hpath, bucket?_of_parse hu hscheme⟩
    obtain ⟨s, hs, hauthority⟩ := List.mem_map.mp hbucket
    exact ⟨u, hu, hscheme, s.2, hauthority ▸ hs⟩
  · intro s hs
    exact (Credentials.merges_addAll _).grants hissues hdistinct htextual hs
  · intro s hs s' hs' id id' hid hid' hsame
    have hid₀ : ':' ∉ id.toList := (htextual s hs).colon_not_mem hid
    have hid₁ : ':' ∉ id'.toList := (htextual s' hs').colon_not_mem hid'
    exact List.inj_on_of_nodup_map hdistinct hs hs' (sessionIdentifier_inj hid₀ hid₁ hsame)

/-- The keys of a session whose access key has this name. -/
def keysNamed (id : String) : SessionKeys :=
  ⟨some (.string id), some (.string "S"), some (.string "T"), none⟩

/-- One file to stage, one object in another bucket, and a session service that answers. -/
def twoBuckets : World := { World.bare with
  files := [(["a"], .file [1, 2] 0 0o644)]
  objects := [(⟨"c", "x"⟩, ⟨[3], 0⟩)]
  sessionAnswer n := .ok (keysNamed (if n = 0 then "K" else "L")) }

def twoBucketsRequest : LaunchRequest where
  budget := 1000
  application := "app"
  artifacts := [.ofText "/a"]
  root := some "s3://b"
  existing := ["s3://c/x"]
  heapRatio := .whole 1

def twoBucketsResources : List Resource :=
  [⟨"s3://b/.floe/app/a", 2, 0, .application, .file⟩, ⟨"s3://c/x", 1, 0, .application, .file⟩]

/-- The token of the session with these keys. -/
def tokenNamed (bucket id : String) : Token where
  identifier := sessionIdentifier bucket id
  password := Utf8.encode (Json.printAscii .ascii (secretDocument id "S" "T" []))
  kind := tokenKind
  service := "s3://" ++ bucket

theorem sessionToken_keysNamed (bucket id : String) :
    sessionToken bucket (keysNamed id) = .ok (tokenNamed bucket id) :=
  sessionToken_of_texts bucket id "S" "T" none

def twoBucketsTokens : List Token := [tokenNamed "b" "K", tokenNamed "c" "L"]

theorem length_secret : ∀ id ∈ ["K", "L"],
    (Json.printAscii .ascii (secretDocument id "S" "T" [])).length < 0x40000000 := by
  intro id hid
  simp only [Json.printAscii, String.length_ofList, Json.print, secretDocument, Json.ofFields,
    List.map_cons, List.map_nil, Json.text, Json.printAt, Json.printMember, Json.printMembers]
  revert id
  decide +kernel

theorem fit_twoBucketsTokens : Credentials.Fit twoBucketsTokens := by
  have hshort {s : String} (h : s.length < 0x40000000) : (Utf8.encode s).length < 0x100000000 :=
    (Utf8.length_encode_le s).trans_lt (Nat.mul_lt_mul_of_pos_left h (by decide))
  have hfirst : (tokenNamed "b" "K").Storable :=
    ⟨hshort (by decide +kernel), hshort (length_secret "K" (by decide)), hshort (by decide),
      hshort (by decide +kernel)⟩
  have hsecond : (tokenNamed "c" "L").Storable :=
    ⟨hshort (by decide +kernel), hshort (length_secret "L" (by decide)), hshort (by decide),
      hshort (by decide +kernel)⟩
  exact ⟨List.forall_mem_cons.mpr ⟨hfirst, List.forall_mem_singleton.mpr hsecond⟩,
    by decide +kernel⟩

def twoBucketsPaths : List String := ["s3://b/.floe/app/a", "s3://c/x", "s3://b"]

/-- The world in which the file has been staged. -/
def twoBucketsStaged : World := ((twoBucketsRequest.resources (.bucket "b")).run twoBuckets).2

theorem answeredTokens_twoBuckets :
    answeredTokens twoBucketsStaged.upcoming ["b", "c"] = .ok twoBucketsTokens := by
  have hresources := Action.run_eq_of_toOption (show
    ((twoBucketsRequest.resources (.bucket "b")).run twoBuckets).1.toOption =
      some twoBucketsResources by decide +kernel)
  obtain ⟨files, objects, log, hstaged⟩ :=
    World.exists_of_setting_eq ((keeps_resources _ _).eq hresources)
  have hanswer (i : ℕ) : twoBucketsStaged.upcoming i = twoBuckets.sessionAnswer i := by
    unfold twoBucketsStaged World.upcoming
    rw [hstaged]
    exact congrArg twoBuckets.sessionAnswer (Nat.zero_add i)
  have hfirst : answeredToken "b" (twoBucketsStaged.upcoming 0) = .ok (tokenNamed "b" "K") :=
    answeredToken_eq_ok.mpr ⟨_, hanswer 0, sessionToken_keysNamed "b" "K"⟩
  have hsecond : answeredToken "c" (twoBucketsStaged.upcoming 1) = .ok (tokenNamed "c" "L") :=
    answeredToken_eq_ok.mpr ⟨_, hanswer 1, sessionToken_keysNamed "c" "L"⟩
  simp only [answeredTokens, hfirst, hsecond]
  rfl

theorem assemble_equips_twoBuckets :
    (∀ n keys, twoBuckets.sessionAnswer n = .ok keys → keys.Textual) ∧ ∃ spec w',
      (twoBucketsRequest.assemble (.bucket "b") (.sessions none 60)).run twoBuckets =
        (.ok spec, w') ∧
      ∃ c root sessions,
        Equips twoBucketsRequest "b" none 60 twoBuckets w' spec c root sessions := by
  have hkeys : ∀ n keys, twoBuckets.sessionAnswer n = .ok keys → keys.Textual := by
    intro n keys hn
    cases hn
    refine ⟨?_, fun v hv => ⟨"S", (Option.some.inj hv).symm⟩,
      fun v hv => ⟨"T", (Option.some.inj hv).symm⟩, nofun⟩
    intro v hv
    refine ⟨_, (Option.some.inj hv).symm, ?_⟩
    split <;> decide
  have hresources : (twoBucketsRequest.resources (.bucket "b")).run twoBuckets =
      (.ok twoBucketsResources, twoBucketsStaged) := Action.run_eq_of_toOption (by decide +kernel)
  have hpaths : ((twoBucketsRequest.tokenPaths (.bucket "b") twoBucketsResources).run
      twoBucketsStaged) = (.ok twoBucketsPaths, _) := Action.run_eq_of_toOption (by decide +kernel)
  obtain ⟨_, _, -, -, -, hsame⟩ := run_tokenPaths_eq_ok hpaths
  rw [hsame] at hpaths
  obtain ⟨log, hissued⟩ := run_obtain_of_read
    (show firstRejection? twoBucketsPaths = none by decide +kernel) none 60 twoBucketsStaged
  rw [show namedBuckets twoBucketsPaths = ["b", "c"] by decide +kernel,
    answeredTokens_twoBuckets] at hissued
  obtain ⟨bytes, hbytes⟩ := Option.isSome_iff_exists.mp
    ((TokenFile.isSome_write?_iff _).mpr (Credentials.storable_addAll fit_twoBucketsTokens))
  obtain ⟨log', hbundle⟩ := Credentials.run_bundle_of_ok hissued twoBucketsRequest.userTokens
  have htokens : twoBucketsTokens ++ twoBucketsRequest.userTokens = twoBucketsTokens := rfl
  rw [htokens, hbytes, Option.elim_some] at hbundle
  have hheap : heapLimit twoBucketsRequest.budget twoBucketsRequest.heapRatio
      twoBucketsRequest.heapCap = .ok 1000 := rfl
  obtain ⟨spec, log'', h⟩ :=
    run_assemble_of_ok hheap (by decide) (by decide) hresources hpaths hbundle
  exact ⟨hkeys, spec, _, h, assemble_equips hkeys h⟩

end LaunchRequest
end ClusterAgent
