import ClusterAgent.Proofs.Token.Service

/-! What the session service is asked for and what it issues, whatever it answers. -/
namespace ClusterAgent

/-- What the session service answers to the requests from now on. -/
def World.upcoming (w : World) (i : ℕ) : Except ServiceFault SessionKeys :=
  w.sessionAnswer ((TokenService.requestsIn w.journal).length + i)

/-- Why no token comes of an answer: it is a fault, or it lacks a required key. -/
def SessionKeys.fault? : Except ServiceFault SessionKeys → Option ServiceFault
  | .error fault => some fault
  | .ok keys => keys.missing?.map .missingField

namespace TokenService

open SessionKeys

variable {role : Option String} {duration : Int} {bucket : String} {w : World}

/-! ### Policies -/

/-- The two names that a bucket and what it holds have in policies. -/
def bucketNames (bucket : String) : Json :=
  .arr [.text ("arn:aws:s3:::" ++ bucket), .text ("arn:aws:s3:::" ++ bucket ++ "/*")]

/-- The one statement of a bucket's policy. -/
def policyStatement (bucket : String) : Json :=
  .ofFields [("Effect", .text "Allow"), ("Action", .text "s3:*"), ("Resource", bucketNames bucket)]

def policyDocument (bucket : String) : Json :=
  .ofFields [("Version", .text "2012-10-17"), ("Statement", .arr [policyStatement bucket])]

theorem readable_bucketNames (asciiOnly : Bool) (depth : ℕ) (bucket : String) :
    (bucketNames bucket).Readable asciiOnly (depth + 1) := by
  intro v hv
  simp only [List.mem_cons, List.not_mem_nil, or_false] at hv
  rcases hv with rfl | rfl <;> exact Json.readable_text _ _ _

theorem readable_policyDocument (asciiOnly : Bool) (depth : ℕ) (bucket : String) :
    (policyDocument bucket).Readable asciiOnly (depth + 4) := by
  have hstatement : (policyStatement bucket).Readable asciiOnly (depth + 2) := by
    apply Json.readable_ofFields
    simp only [List.forall_mem_cons]
    exact ⟨Json.readable_text _ _ _, Json.readable_text _ _ _, readable_bucketNames _ _ _, nofun⟩
  apply Json.readable_ofFields
  simp only [List.forall_mem_cons]
  refine ⟨Json.readable_text _ _ _, fun v hv => ?_, nofun⟩
  obtain rfl := List.mem_singleton.mp hv
  exact hstatement

theorem merged_policyDocument (bucket : String) :
    (policyDocument bucket).merged = policyDocument bucket := by
  have hstatement : (policyStatement bucket).merged = policyStatement bucket := by
    apply Json.merged_ofFields
    · simp
    · simp [bucketNames, Json.text, Json.merged, Json.mergedItems]
  apply Json.merged_ofFields
  · simp
  · simp [Json.text, Json.merged, Json.mergedItems, hstatement]

/-- The policy of a bucket is a document that names the bucket and nothing else. -/
theorem readLenient_bucketPolicy (bucket : String) {depth : ℕ} (h : 4 ≤ depth) :
    Json.readLenient depth (Utf8.encode (bucketPolicy bucket)) = .ok (policyDocument bucket) := by
  obtain ⟨k, rfl⟩ := Nat.exists_eq_add_of_le' h
  have hrefused : Json.refused? (.lenient (k + 4)) (policyDocument bucket) = none := rfl
  have hprinted : bucketPolicy bucket = Json.printAscii .ascii (policyDocument bucket) := rfl
  rw [hprinted, Json.readLenient_printAscii (readable_policyDocument true k bucket), hrefused,
    merged_policyDocument]
  rfl

theorem sessionRequest_of_role {name : String} (h : role = some name) (hname : name ≠ "")
    (duration : Int) (bucket : String) : sessionRequest role duration bucket =
      .assumeRole name (sessionName bucket) (bucketPolicy bucket) duration := by
  unfold sessionRequest
  rw [h, Option.filter_some_pos (by simpa using hname)]

theorem sessionRequest_of_no_role (h : role = none ∨ role = some "") (duration : Int)
    (bucket : String) : sessionRequest role duration bucket = .sessionToken duration := by
  rcases h with rfl | rfl <;> rfl

/-! ### One request after the other -/

/-- The tokens for some buckets, when these are the answers; the first failure ends it. -/
def answeredTokens (answers : ℕ → Except ServiceFault SessionKeys) :
    List String → Except CredentialError (List Token)
  | [] => .ok []
  | bucket :: rest =>
    match answeredToken bucket (answers 0) with
    | .error e => .error e
    | .ok token => (answeredTokens (fun i => answers (i + 1)) rest).map (token :: ·)

/-- The buckets that a session is asked for, when these are the answers. -/
def askedBuckets (answers : ℕ → Except ServiceFault SessionKeys) : List String → List String
  | [] => []
  | bucket :: rest => bucket ::
    match answeredToken bucket (answers 0) with
    | .error _ => []
    | .ok _ => askedBuckets (fun i => answers (i + 1)) rest

theorem upcoming_append (w : World) (requests : List SessionRequest) (log : List LogEntry) (i : ℕ) :
    World.upcoming { w with journal := w.journal ++ requests.map .sessionRequested, log } i =
      w.upcoming (requests.length + i) := by
  unfold World.upcoming
  rw [requestsIn_append, requestsIn_map, List.length_append, Nat.add_assoc]

theorem run_mapM_bucketToken (role : Option String) (duration : Int) (buckets : List String)
    (w : World) : ∃ log, (buckets.mapM (bucketToken role duration)).run w =
      (answeredTokens w.upcoming buckets, { w with
        journal := w.journal ++ ((askedBuckets w.upcoming buckets).map
          (sessionRequest role duration)).map .sessionRequested
        log }) := by
  induction buckets generalizing w with
  | nil => exact ⟨w.log, by simp [answeredTokens, askedBuckets]⟩
  | cons bucket rest ih =>
    obtain ⟨log, hfirst⟩ := run_bucketToken role duration bucket w
    rw [List.mapM_cons, answeredTokens, askedBuckets]
    change _ = (answeredToken bucket (w.upcoming 0), _) at hfirst
    cases htoken : answeredToken bucket (w.upcoming 0) with
    | error e =>
      rw [htoken] at hfirst
      rw [Action.run_bind_of_error hfirst]
      exact ⟨log, rfl⟩
    | ok token =>
      rw [htoken] at hfirst
      rw [Action.run_bind_of_ok hfirst]
      obtain ⟨log', hrest⟩ := ih { w with
        journal := w.journal ++ [.sessionRequested (sessionRequest role duration bucket)], log }
      have hshift : World.upcoming { w with
          journal := w.journal ++ [.sessionRequested (sessionRequest role duration bucket)], log } =
          fun i => w.upcoming (i + 1) := by
        funext i
        rw [Nat.add_comm i 1]
        exact upcoming_append w [sessionRequest role duration bucket] log i
      rw [hshift] at hrest
      refine ⟨log', ?_⟩
      cases htokens : answeredTokens (fun i => w.upcoming (i + 1)) rest with
      | error e =>
        rw [htokens] at hrest
        rw [Action.run_bind_of_error hrest]
        simp [Except.map]
      | ok tokens =>
        rw [htokens] at hrest
        rw [Action.run_bind_of_ok hrest, Action.run_pure]
        simp [Except.map]

section
variable {answers : ℕ → Except ServiceFault SessionKeys} {buckets : List String}

theorem answeredToken_of_fault {answer : Except ServiceFault SessionKeys} {fault : ServiceFault}
    (h : fault? answer = some fault) (bucket : String) :
    answeredToken bucket answer = .error (.service fault) := by
  cases answer with
  | error fault' =>
    cases h
    rfl
  | ok keys =>
    obtain ⟨name, hname, rfl⟩ := Option.map_eq_some_iff.mp h
    exact sessionToken_of_missing hname bucket

theorem exists_answeredToken {answer : Except ServiceFault SessionKeys}
    (hanswer : ∀ keys, answer = .ok keys → keys.Texts) (h : fault? answer = none)
    (bucket : String) : ∃ keys t, answer = .ok keys ∧ answeredToken bucket answer = .ok t ∧
      TellsSession bucket keys t := by
  cases answer with
  | error fault => cases h
  | ok keys =>
    obtain ⟨t, hmade, htells⟩ :=
      exists_sessionToken (hanswer keys rfl) (Option.map_eq_none_iff.mp h) bucket
    exact ⟨keys, t, rfl, hmade, htells⟩

/-- The answers before the failure have been asked for, and so has the failing one. -/
theorem answeredTokens_of_fault (hanswers : ∀ i keys, answers i = .ok keys → keys.Texts) {k : ℕ}
    (hk : k < buckets.length) (hbefore : ∀ i < k, fault? (answers i) = none) {fault : ServiceFault}
    (hfault : fault? (answers k) = some fault) :
    answeredTokens answers buckets = .error (.service fault) ∧
      askedBuckets answers buckets = buckets.take (k + 1) := by
  induction buckets generalizing answers k with
  | nil => cases hk
  | cons bucket rest ih =>
    unfold answeredTokens askedBuckets
    cases k with
    | zero =>
      rw [answeredToken_of_fault hfault]
      exact ⟨rfl, rfl⟩
    | succ k =>
      obtain ⟨keys, t, -, hmade, -⟩ :=
        exists_answeredToken (hanswers 0) (hbefore 0 k.succ_pos) bucket
      obtain ⟨htokens, hasked⟩ := ih (fun i => hanswers (i + 1)) (Nat.lt_of_succ_lt_succ hk)
        (fun i hi => hbefore (i + 1) (Nat.succ_lt_succ hi)) hfault
      rw [hmade, htokens, hasked]
      exact ⟨rfl, rfl⟩

theorem answeredTokens_of_answers (hanswers : ∀ i keys, answers i = .ok keys → keys.Texts)
    (h : ∀ i < buckets.length, fault? (answers i) = none) : ∃ tokens,
      answeredTokens answers buckets = .ok tokens ∧ askedBuckets answers buckets = buckets ∧
      tokens.length = buckets.length ∧ ∀ i bucket t, buckets[i]? = some bucket →
        tokens[i]? = some t → ∃ keys, answers i = .ok keys ∧ TellsSession bucket keys t := by
  induction buckets generalizing answers with
  | nil => exact ⟨[], rfl, rfl, rfl, nofun⟩
  | cons bucket rest ih =>
    obtain ⟨keys, t, hkeys, hmade, htells⟩ :=
      exists_answeredToken (hanswers 0) (h 0 rest.length.succ_pos) bucket
    obtain ⟨tokens, htokens, hasked, hlength, htold⟩ := ih (fun i => hanswers (i + 1))
      fun i hi => h (i + 1) (Nat.succ_lt_succ hi)
    unfold answeredTokens askedBuckets
    rw [hmade, htokens, hasked]
    refine ⟨t :: tokens, rfl, rfl, congrArg Nat.succ hlength, ?_⟩
    intro i bucket' t' hbucket ht
    cases i with
    | zero =>
      cases hbucket
      cases ht
      exact ⟨keys, hkeys, htells⟩
    | succ i => exact htold i bucket' t' hbucket ht

end

/-! ### The whole service -/

/-- The first path that is no URI. -/
def firstRejection? (paths : List String) : Option UriError := paths.findSome? rejection?

/-- The buckets that some paths lie in, each once. -/
def namedBuckets (paths : List String) : List String := (paths.filterMap bucket?).eraseDups

theorem run_obtain_of_rejection {paths : List String} {e : UriError}
    (h : firstRejection? paths = some e) (role : Option String) (duration : Int) (w : World) :
    ∃ log, ((sessions role duration).obtain paths).run w =
      (.error (.uri e), { w with journal := w.journal ++ [.tokensRequested paths], log }) := by
  obtain ⟨log, hbuckets⟩ := run_bucketsOf List.eraseDups_nil paths
    { w with journal := w.journal ++ [.tokensRequested paths] }
  unfold firstRejection? at h
  rw [h] at hbuckets
  refine ⟨log, ?_⟩
  unfold obtain
  rw [Action.run_bind_of_ok (Action.run_note _ _)]
  exact Action.run_bind_of_error hbuckets _

theorem run_obtain_of_read {paths : List String} (h : firstRejection? paths = none)
    (role : Option String) (duration : Int) (w : World) :
    ∃ log, ((sessions role duration).obtain paths).run w =
      (answeredTokens w.upcoming (namedBuckets paths), { w with
        journal := w.journal ++ [.tokensRequested paths] ++
          ((askedBuckets w.upcoming (namedBuckets paths)).map
            (sessionRequest role duration)).map .sessionRequested
        log }) := by
  obtain ⟨log, hbuckets⟩ := run_bucketsOf List.eraseDups_nil paths
    { w with journal := w.journal ++ [.tokensRequested paths] }
  unfold firstRejection? at h
  rw [h] at hbuckets
  obtain ⟨log', htokens⟩ := run_mapM_bucketToken role duration (namedBuckets paths)
    { w with journal := w.journal ++ [.tokensRequested paths], log }
  have hupcoming : World.upcoming { w with journal := w.journal ++ [.tokensRequested paths], log } =
      w.upcoming := by
    funext i
    unfold World.upcoming
    rw [requestsIn_noted]
  rw [hupcoming] at htokens
  refine ⟨log', ?_⟩
  unfold obtain
  rw [Action.run_bind_of_ok (Action.run_note _ _)]
  exact (Action.run_bind_of_ok hbuckets _).trans htokens

theorem bucket?_eq_some_iff {path : String} : bucket? path = some bucket ↔
    ∃ uri, Uri.parse path = .ok uri ∧ uri.scheme = "s3" ∧ uri.authority = bucket := by
  unfold bucket?
  cases Uri.parse path with
  | error e => simp
  | ok uri =>
    by_cases hscheme : uri.scheme = "s3"
    · simp [hscheme]
    · simp [hscheme]

theorem mem_namedBuckets {paths : List String} : bucket ∈ namedBuckets paths ↔
    ∃ path ∈ paths, ∃ uri, Uri.parse path = .ok uri ∧ uri.scheme = "s3" ∧
      uri.authority = bucket := by
  unfold namedBuckets
  simp only [List.mem_eraseDups, List.mem_filterMap, bucket?_eq_some_iff]

theorem requestsIn_asked (journal : List Event) (paths : List String)
    (requests : List SessionRequest) :
    requestsIn (journal ++ [.tokensRequested paths] ++ requests.map .sessionRequested) =
      requestsIn journal ++ requests := by
  rw [requestsIn_append, requestsIn_noted, requestsIn_map]

/-- How a session service deals with some paths. All of them are read first; then there is one
request for each bucket, in the order in which the buckets first occur, and one token of each
answer, up to the first answer that gives none. -/
structure IssuesInTurn (role : Option String) (duration : Int) (paths : List String) (w : World) :
    Prop where
  distinct : (namedBuckets paths).Nodup
  named : ∀ bucket, bucket ∈ namedBuckets paths ↔
    ∃ path ∈ paths, ∃ uri, Uri.parse path = .ok uri ∧ uri.scheme = "s3" ∧ uri.authority = bucket
  rejected : ∀ e, firstRejection? paths = some e →
    ∃ w', ((sessions role duration).obtain paths).run w = (.error (.uri e), w') ∧
      requestsIn w'.journal = requestsIn w.journal
  failed : firstRejection? paths = none → ∀ k < (namedBuckets paths).length,
    (∀ i < k, fault? (w.upcoming i) = none) → ∀ fault, fault? (w.upcoming k) = some fault →
      ∃ w', ((sessions role duration).obtain paths).run w = (.error (.service fault), w') ∧
        requestsIn w'.journal = requestsIn w.journal ++
          ((namedBuckets paths).take (k + 1)).map (sessionRequest role duration)
  issued : firstRejection? paths = none →
    (∀ i < (namedBuckets paths).length, fault? (w.upcoming i) = none) →
      ∃ tokens w', ((sessions role duration).obtain paths).run w = (.ok tokens, w') ∧
        requestsIn w'.journal = requestsIn w.journal ++
          (namedBuckets paths).map (sessionRequest role duration) ∧
        tokens.length = (namedBuckets paths).length ∧
        ∀ i bucket t, (namedBuckets paths)[i]? = some bucket → tokens[i]? = some t →
          ∃ keys, w.upcoming i = .ok keys ∧ TellsSession bucket keys t
  /-- In a role, the request is limited to the bucket. -/
  limited : ∀ name, role = some name → name ≠ "" → ∀ bucket, ∃ session policy,
    sessionRequest role duration bucket = .assumeRole name session policy duration ∧
      ∀ depth ≥ 4, Json.readLenient depth (Utf8.encode policy) = .ok (policyDocument bucket)
  unlimited : role = none ∨ role = some "" → ∀ bucket,
    sessionRequest role duration bucket = .sessionToken duration
  /-- Nothing but the buckets, as they first occur, and the first rejection counts. -/
  rearranged : ∀ paths', firstRejection? paths' = firstRejection? paths →
    namedBuckets paths' = namedBuckets paths → ∃ r w₁ w₂,
      ((sessions role duration).obtain paths).run w = (r, w₁) ∧
      ((sessions role duration).obtain paths').run w = (r, w₂) ∧
      requestsIn w₂.journal = requestsIn w₁.journal

theorem obtain_issuesInTurn (hanswers : ∀ i keys, w.upcoming i = .ok keys → keys.Texts)
    (role : Option String) (duration : Int) (paths : List String) :
    IssuesInTurn role duration paths w where
  distinct := nodup_eraseDups _
  named _ := mem_namedBuckets
  rejected e h := by
    obtain ⟨log, hrun⟩ := run_obtain_of_rejection h role duration w
    exact ⟨_, hrun, requestsIn_noted _ _⟩
  failed h k hk hbefore fault hfault := by
    obtain ⟨log, hrun⟩ := run_obtain_of_read h role duration w
    obtain ⟨htokens, hasked⟩ := answeredTokens_of_fault hanswers hk hbefore hfault
    rw [htokens, hasked] at hrun
    exact ⟨_, hrun, requestsIn_asked _ _ _⟩
  issued h hcomplete := by
    obtain ⟨log, hrun⟩ := run_obtain_of_read h role duration w
    obtain ⟨tokens, htokens, hasked, hlength, htold⟩ := answeredTokens_of_answers hanswers hcomplete
    rw [htokens, hasked] at hrun
    exact ⟨tokens, _, hrun, requestsIn_asked _ _ _, hlength, htold⟩
  limited name hrole hname bucket :=
    ⟨_, _, sessionRequest_of_role hrole hname duration bucket,
      fun _ hdepth => readLenient_bucketPolicy bucket hdepth⟩
  unlimited hrole bucket := sessionRequest_of_no_role hrole duration bucket
  rearranged paths' hrejection hbuckets := by
    cases h : firstRejection? paths with
    | some e =>
      obtain ⟨log, hrun⟩ := run_obtain_of_rejection h role duration w
      obtain ⟨log', hrun'⟩ := run_obtain_of_rejection (hrejection.trans h) role duration w
      exact ⟨_, _, _, hrun, hrun', (requestsIn_noted _ _).trans (requestsIn_noted _ _).symm⟩
    | none =>
      obtain ⟨log, hrun⟩ := run_obtain_of_read h role duration w
      obtain ⟨log', hrun'⟩ := run_obtain_of_read (hrejection.trans h) role duration w
      rw [hbuckets] at hrun'
      exact ⟨_, _, _, hrun, hrun', (requestsIn_asked _ _ _).trans (requestsIn_asked _ _ _).symm⟩

/-- A service that answers two requests, and no third. -/
def twoAnswers : World := { World.bare with
  sessionAnswer n := if n < 2
    then .ok ⟨some (.string (if n = 0 then "K:\"" else "L")), some (.string "S"),
      some (.string "T"), none⟩
    else .error (.internal "") }

def twoBucketPaths : List String := ["s3://a/x", "/y", "s3://b", "s3://a/z"]

theorem obtain_issuesInTurn_twoBuckets :
    (∀ i keys, twoAnswers.upcoming i = .ok keys → keys.Texts) ∧
    IssuesInTurn (some "r") 60 twoBucketPaths twoAnswers ∧ ∃ tokens w',
      ((sessions (some "r") 60).obtain twoBucketPaths).run twoAnswers = (.ok tokens, w') ∧
      requestsIn w'.journal = ["a", "b"].map (sessionRequest (some "r") 60) ∧
      tokens.length = 2 := by
  have hanswers : ∀ i keys, twoAnswers.upcoming i = .ok keys → keys.Texts := by
    intro i keys h
    unfold World.upcoming twoAnswers at h
    dsimp only at h
    split at h
    · cases h
      exact ⟨fun v hv => ⟨_, (Option.some.inj hv).symm⟩, fun v hv => ⟨_, (Option.some.inj hv).symm⟩,
        fun v hv => ⟨_, (Option.some.inj hv).symm⟩, nofun⟩
    · cases h
  have hlaw := obtain_issuesInTurn hanswers (some "r") 60 twoBucketPaths
  have hread : firstRejection? twoBucketPaths = none := by decide +kernel
  have hbuckets : namedBuckets twoBucketPaths = ["a", "b"] := by decide +kernel
  have hcomplete : ∀ i < (namedBuckets twoBucketPaths).length,
      fault? (twoAnswers.upcoming i) = none := by
    rw [hbuckets]
    decide
  obtain ⟨tokens, w', hrun, hrequests, hlength, -⟩ := hlaw.issued hread hcomplete
  rw [hbuckets] at hrequests hlength
  exact ⟨hanswers, hlaw, tokens, w', hrun, hrequests, hlength⟩

/-- Of two paths that are no URIs, the first one tells why. -/
theorem not_rearranged_rejections :
    ["s3://[", "s3://[x]"].Perm ["s3://[x]", "s3://["] ∧
    namedBuckets ["s3://[", "s3://[x]"] = namedBuckets ["s3://[x]", "s3://["] ∧
    (∃ w', ((sessions none 60).obtain ["s3://[", "s3://[x]"]).run World.bare =
      (.error (.uri .brackets), w')) ∧
    (∃ w', ((sessions none 60).obtain ["s3://[x]", "s3://["]).run World.bare =
      (.error (.uri (.notAnAddress ['x'])), w')) ∧
    UriError.message .brackets ≠ UriError.message (.notAnAddress ['x']) := by
  refine ⟨.swap _ _ _, by decide +kernel, ?_, ?_, by decide +kernel⟩
  · have hrejected : firstRejection? ["s3://[", "s3://[x]"] = some .brackets := by decide +kernel
    obtain ⟨log, hrun⟩ := run_obtain_of_rejection hrejected none 60 World.bare
    exact ⟨_, hrun⟩
  · have hrejected : firstRejection? ["s3://[x]", "s3://["] = some (.notAnAddress ['x']) := by
      decide +kernel
    obtain ⟨log, hrun⟩ := run_obtain_of_rejection hrejected none 60 World.bare
    exact ⟨_, hrun⟩

end TokenService
end ClusterAgent
