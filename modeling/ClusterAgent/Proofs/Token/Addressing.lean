import ClusterAgent.Proofs.Storage.Object
import ClusterAgent.Proofs.Token.Issuance

/-! Buckets that sessions are asked for, and buckets that storage can address. They are the same but
for the bucket without a name: an `s3` URI with an empty authority addresses nothing, and yet a
session is asked for it. -/
namespace ClusterAgent.TokenService

variable {role : Option String} {duration : Int} {bucket uri : String} {w w' : World}

/-- A bucket with a name is that of a URI just when the URI addresses an object in it. -/
theorem exists_address_iff : (∃ key, ObjectAddress.parse uri = .ok ⟨bucket, key⟩) ↔
    bucket? uri = some bucket ∧ bucket ≠ "" := by
  rw [bucket?_eq_some_iff]
  constructor
  · rintro ⟨key, h⟩
    obtain ⟨u, hparse, hscheme, hname, haddress⟩ := ObjectAddress.parse_eq_ok.mp h
    obtain ⟨rfl, -⟩ := ObjectAddress.mk.inj haddress
    exact ⟨⟨u, hparse, hscheme, rfl⟩, hname⟩
  · rintro ⟨⟨u, hparse, hscheme, rfl⟩, hname⟩
    exact ⟨_, ObjectAddress.parse_eq_ok.mpr ⟨u, hparse, hscheme, hname, rfl⟩⟩

theorem bucket?_of_address {address : ObjectAddress} (h : ObjectAddress.parse uri = .ok address) :
    bucket? uri = some address.bucket :=
  (exists_address_iff.mp ⟨address.key, h⟩).1

/-- The URI is one of S3, and names no bucket. -/
def Nameless (uri : String) : Prop :=
  ∃ u, Uri.parse uri = .ok u ∧ u.scheme = "s3" ∧ u.authority = ""

theorem nameless_iff : Nameless uri ↔ bucket? uri = some "" :=
  bucket?_eq_some_iff.symm

theorem Nameless.not_addressed (h : Nameless uri) (address : ObjectAddress) :
    ObjectAddress.parse uri ≠ .ok address := by
  intro haddress
  obtain ⟨hbucket, hname⟩ := exists_address_iff.mp ⟨address.key, haddress⟩
  exact hname (Option.some.inj (hbucket.symm.trans (nameless_iff.mp h)))

/-- A URI that lies in a bucket addresses an object there, unless the bucket has no name. -/
theorem exists_bucket_iff : (∃ bucket, bucket? uri = some bucket) ↔
    (∃ address, ObjectAddress.parse uri = .ok address) ∨ Nameless uri := by
  constructor
  · rintro ⟨bucket, h⟩
    by_cases hname : bucket = ""
    · subst hname
      exact Or.inr (nameless_iff.mpr h)
    · obtain ⟨key, hkey⟩ := exists_address_iff.mpr ⟨h, hname⟩
      exact Or.inl ⟨_, hkey⟩
  · rintro (⟨address, h⟩ | h)
    · exact ⟨_, bucket?_of_address h⟩
    · exact ⟨_, nameless_iff.mp h⟩

/-! ### What is asked -/

/-- Whatever the keys are, the token is for the bucket. -/
theorem service_of_sessionToken {keys : SessionKeys} {t : Token}
    (h : sessionToken bucket keys = .ok t) : t.service = "s3://" ++ bucket := by
  unfold sessionToken at h
  simp only [bind, Except.bind] at h
  -- Each key, the secret and the identifier may be missing; one case is left.
  repeat' split at h
  all_goals cases h
  rfl

section
variable {answers : ℕ → Except ServiceFault SessionKeys} {buckets : List String}
  {tokens : List Token}

theorem askedBuckets_prefix (answers : ℕ → Except ServiceFault SessionKeys)
    (buckets : List String) : askedBuckets answers buckets <+: buckets := by
  induction buckets generalizing answers with
  | nil => exact List.nil_prefix
  | cons bucket rest ih =>
    unfold askedBuckets
    cases answeredToken bucket (answers 0) with
    | error e => exact List.prefix_append [bucket] rest
    | ok token => exact (List.prefix_cons_inj bucket).mpr (ih _)

/-- One bucket is asked for, whatever the answer is. -/
theorem askedBuckets_singleton (answers : ℕ → Except ServiceFault SessionKeys) (bucket : String) :
    askedBuckets answers [bucket] = [bucket] := by
  unfold askedBuckets
  cases answeredToken bucket (answers 0) <;> rfl

theorem map_service_of_answeredTokens (h : answeredTokens answers buckets = .ok tokens) :
    tokens.map (·.service) = buckets.map ("s3://" ++ ·) := by
  induction buckets generalizing answers tokens with
  | nil =>
    cases h
    rfl
  | cons bucket rest ih =>
    unfold answeredTokens at h
    cases hfirst : answeredToken bucket (answers 0) with
    | error e =>
      rw [hfirst] at h
      cases h
    | ok t =>
      rw [hfirst] at h
      cases hrest : answeredTokens (fun i => answers (i + 1)) rest with
      | error e =>
        rw [hrest] at h
        cases h
      | ok ts =>
        rw [hrest] at h
        cases h
        obtain ⟨keys, -, htoken⟩ := answeredToken_eq_ok.mp hfirst
        rw [List.map_cons, List.map_cons, service_of_sessionToken htoken, ih hrest]

end

/-- Buckets are asked for in the order in which they are named, and no others. -/
theorem exists_run_obtain (role : Option String) (duration : Int) (paths : List String)
    (w : World) : ∃ r w', ∃ asked : List String,
      ((sessions role duration).obtain paths).run w = (r, w') ∧
      requestsIn w'.journal = requestsIn w.journal ++ asked.map (sessionRequest role duration) ∧
      asked <+: namedBuckets paths := by
  cases h : firstRejection? paths with
  | some e =>
    obtain ⟨log, hrun⟩ := run_obtain_of_rejection h role duration w
    refine ⟨_, _, [], hrun, ?_, List.nil_prefix⟩
    rw [List.map_nil, List.append_nil]
    exact requestsIn_noted _ _
  | none =>
    obtain ⟨log, hrun⟩ := run_obtain_of_read h role duration w
    exact ⟨_, _, _, hrun, requestsIn_asked _ _ _, askedBuckets_prefix _ _⟩

theorem exists_run_obtain_of_bucket (h : bucket? uri = some bucket) (role : Option String)
    (duration : Int) (w : World) : ∃ r w',
      ((sessions role duration).obtain [uri]).run w = (r, w') ∧
      requestsIn w'.journal = requestsIn w.journal ++ [sessionRequest role duration bucket] ∧
      ∀ tokens, r = .ok tokens → tokens.map (·.service) = ["s3://" ++ bucket] := by
  obtain ⟨u, hparse, -, -⟩ := bucket?_eq_some_iff.mp h
  have hread : firstRejection? [uri] = none := by
    unfold firstRejection? rejection?
    rw [List.findSome?_cons, hparse]
    rfl
  have hnamed : namedBuckets [uri] = [bucket] := by
    unfold namedBuckets
    rw [List.filterMap_cons_some h]
    rfl
  obtain ⟨log, hrun⟩ := run_obtain_of_read hread role duration w
  rw [hnamed, askedBuckets_singleton] at hrun
  exact ⟨_, _, hrun, requestsIn_asked _ _ _, fun tokens htokens =>
    map_service_of_answeredTokens htokens⟩

theorem exists_run_obtain_of_no_bucket (h : bucket? uri = none) (role : Option String)
    (duration : Int) (w : World) : ∃ r w',
      ((sessions role duration).obtain [uri]).run w = (r, w') ∧
      requestsIn w'.journal = requestsIn w.journal := by
  have hnamed : namedBuckets [uri] = [] := by
    unfold namedBuckets
    rw [List.filterMap_cons_none h]
    rfl
  obtain ⟨r, w', asked, hrun, hrequests, horder⟩ := exists_run_obtain role duration [uri] w
  rw [hnamed, List.prefix_nil] at horder
  rw [horder, List.map_nil, List.append_nil] at hrequests
  exact ⟨r, w', hrun, hrequests⟩

/-- What a session service asks for, against what storage can address. -/
structure AsksAddressed (role : Option String) (duration : Int) (w : World) : Prop where
  /-- There is one request for a URI that addresses an object, and the token is for its bucket. -/
  addressed : ∀ uri address, ObjectAddress.parse uri = .ok address → ∃ r w',
    ((sessions role duration).obtain [uri]).run w = (r, w') ∧
    requestsIn w'.journal = requestsIn w.journal ++ [sessionRequest role duration address.bucket] ∧
    ∀ tokens, r = .ok tokens → tokens.map (·.service) = ["s3://" ++ address.bucket]
  /-- There is one for the bucket without a name, too, which storage refuses. -/
  nameless : ∀ uri, Nameless uri → (∀ address, ObjectAddress.parse uri ≠ .ok address) ∧ ∃ r w',
    ((sessions role duration).obtain [uri]).run w = (r, w') ∧
    requestsIn w'.journal = requestsIn w.journal ++ [sessionRequest role duration ""] ∧
    ∀ tokens, r = .ok tokens → tokens.map (·.service) = ["s3://"]
  asks_iff : ∀ uri r w', ((sessions role duration).obtain [uri]).run w = (r, w') →
    (requestsIn w'.journal ≠ requestsIn w.journal ↔
      (∃ address, ObjectAddress.parse uri = .ok address) ∨ Nameless uri)
  /-- Nothing else is asked for, however many paths there are. -/
  nothingElse : ∀ paths, ∃ r w', ∃ asked : List String,
    ((sessions role duration).obtain paths).run w = (r, w') ∧
    requestsIn w'.journal = requestsIn w.journal ++ asked.map (sessionRequest role duration) ∧
    ∀ bucket ∈ asked, bucket = "" ∨
      ∃ path ∈ paths, ∃ key, ObjectAddress.parse path = .ok ⟨bucket, key⟩

theorem sessions_asksAddressed (role : Option String) (duration : Int) (w : World) :
    AsksAddressed role duration w where
  addressed uri address h :=
    exists_run_obtain_of_bucket (bucket?_of_address h) role duration w
  nameless uri h :=
    ⟨h.not_addressed, exists_run_obtain_of_bucket (nameless_iff.mp h) role duration w⟩
  asks_iff uri r w' hrun := by
    rw [← exists_bucket_iff]
    cases h : bucket? uri with
    | some bucket =>
      obtain ⟨r', w'', hrun', hrequests, -⟩ := exists_run_obtain_of_bucket h role duration w
      obtain ⟨rfl, rfl⟩ := Prod.mk.inj (hrun.symm.trans hrun')
      rw [hrequests]
      simp
    | none =>
      obtain ⟨r', w'', hrun', hrequests⟩ := exists_run_obtain_of_no_bucket h role duration w
      obtain ⟨rfl, rfl⟩ := Prod.mk.inj (hrun.symm.trans hrun')
      simp [hrequests]
  nothingElse paths := by
    obtain ⟨r, w', asked, hrun, hrequests, horder⟩ := exists_run_obtain role duration paths w
    refine ⟨r, w', asked, hrun, hrequests, fun bucket hasked => ?_⟩
    obtain ⟨path, hpath, hbucket⟩ := mem_namedBuckets.mp (horder.subset hasked)
    by_cases hname : bucket = ""
    · exact Or.inl hname
    · exact Or.inr ⟨path, hpath, exists_address_iff.mpr ⟨bucket?_eq_some_iff.mpr hbucket, hname⟩⟩

/-- A session is asked for where there is nothing to address. -/
theorem not_asks_iff_addressed : ¬ ∀ uri r w',
    ((sessions (some "r") 60).obtain [uri]).run World.bare = (r, w') →
      (requestsIn w'.journal ≠ [] ↔ ∃ address, ObjectAddress.parse uri = .ok address) := by
  intro hiff
  have hnameless : Nameless "s3:///k" := nameless_iff.mpr (by decide +kernel)
  obtain ⟨r, w', hrun, hrequests, -⟩ :=
    exists_run_obtain_of_bucket (nameless_iff.mp hnameless) (some "r") 60 World.bare
  have hasked : requestsIn w'.journal ≠ [] := by
    rw [hrequests]
    exact List.append_ne_nil_of_right_ne_nil _ (List.cons_ne_nil _ _)
  obtain ⟨address, haddress⟩ := (hiff _ r w' hrun).mp hasked
  exact hnameless.not_addressed address haddress

end ClusterAgent.TokenService
