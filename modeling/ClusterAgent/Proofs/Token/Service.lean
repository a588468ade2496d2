import ClusterAgent.Proofs.Json.Ascii
import ClusterAgent.Proofs.World
import ClusterAgent.Token.Service
import Mathlib.Data.List.Forall2

/-! The session service: it asks for one session per bucket, in the order in which the buckets first
occur, and makes one token of each answer. -/
namespace ClusterAgent

/-- The keys of a session are texts, and the name of the access key has no colon. -/
structure SessionKeys.Textual (keys : SessionKeys) : Prop where
  accessKeyId : ∀ v, keys.accessKeyId = some v → ∃ id : String, v = .string id ∧ ':' ∉ id.toList
  secretAccessKey : ∀ v, keys.secretAccessKey = some v → ∃ secret : String, v = .string secret
  sessionToken : ∀ v, keys.sessionToken = some v → ∃ token : String, v = .string token
  expiration : ((keys.expiration.map Datum.phrase).getD []).Whole

namespace SessionKeys

/-- The keys of a session are texts. -/
structure Texts (keys : SessionKeys) : Prop where
  accessKeyId : ∀ v, keys.accessKeyId = some v → ∃ id : String, v = .string id
  secretAccessKey : ∀ v, keys.secretAccessKey = some v → ∃ secret : String, v = .string secret
  sessionToken : ∀ v, keys.sessionToken = some v → ∃ token : String, v = .string token
  expiration : ((keys.expiration.map Datum.phrase).getD []).Whole

theorem Textual.texts {keys : SessionKeys} (h : keys.Textual) : keys.Texts where
  accessKeyId v hv := (h.accessKeyId v hv).imp fun _ hid => hid.1
  secretAccessKey := h.secretAccessKey
  sessionToken := h.sessionToken
  expiration := h.expiration

/-- The first required key that a session lacks. -/
def missing? (keys : SessionKeys) : Option String :=
  if keys.accessKeyId.isNone then some "AccessKeyId"
  else if keys.secretAccessKey.isNone then some "SecretAccessKey"
  else if keys.sessionToken.isNone then some "SessionToken"
  else none

end SessionKeys

namespace TokenService

variable {role : Option String} {duration : Int} {bucket : String} {w w' : World}

/-! ### Buckets -/

/-- The bucket that a path lies in: the authority of an `s3` URI. -/
def bucket? (path : String) : Option String :=
  match Uri.parse path with
  | .ok uri => if uri.scheme = "s3" then some uri.authority else none
  | .error _ => none

theorem bucket?_of_parse {path : String} {uri : Uri} (h : Uri.parse path = .ok uri)
    (hscheme : uri.scheme = "s3") : bucket? path = some uri.authority := by
  unfold bucket?
  rw [h]
  exact if_pos hscheme

theorem eraseDups_append_cons_of_mem {found rest : List String} (h : bucket ∈ found) :
    (found ++ bucket :: rest).eraseDups = (found ++ rest).eraseDups := by
  rw [List.eraseDups_append, List.eraseDups_append]
  simp [List.removeAll, h]

theorem eraseDups_concat_of_not_mem {found : List String} (hfound : found.eraseDups = found)
    (h : bucket ∉ found) : (found ++ [bucket]).eraseDups = found ++ [bucket] := by
  rw [List.eraseDups_append, hfound]
  simp [List.removeAll, h, List.eraseDups_cons]

theorem nodup_eraseDups (names : List String) : names.eraseDups.Nodup := by
  induction names using List.reverseRecOn with
  | nil => exact List.nodup_nil
  | append_singleton names bucket ih =>
    by_cases h : bucket ∈ names
    · rwa [eraseDups_append_cons_of_mem h, List.append_nil]
    · have hnew : ∀ name ∈ names, name ≠ bucket := fun name hname heq => h (heq ▸ hname)
      rw [List.eraseDups_append]
      simpa [List.removeAll, h, List.eraseDups_cons, List.nodup_append, ih] using hnew

/-- Why a path is no URI. -/
def rejection? (path : String) : Option UriError :=
  match Uri.parse path with
  | .ok _ => none
  | .error e => some e

theorem exists_parse_of_rejection? {path : String} (h : rejection? path = none) :
    ∃ uri, Uri.parse path = .ok uri := by
  unfold rejection? at h
  split at h
  · next uri hparse => exact ⟨uri, hparse⟩
  · cases h

/-- All paths are read, and the buckets found in them, each once. The first path that is no URI ends
it. -/
theorem run_bucketsOf {found : List String} (hfound : found.eraseDups = found)
    (paths : List String) (w : World) : ∃ log, (bucketsOf found paths).run w =
      ((paths.findSome? rejection?).elim (.ok (found ++ paths.filterMap bucket?).eraseDups)
        (.error <| .uri ·), { w with log }) := by
  induction paths generalizing found w with
  | nil => exact ⟨w.log, by simp [bucketsOf, hfound]⟩
  | cons path paths ih =>
    unfold bucketsOf
    cases hparse : Uri.parse path with
    | error e =>
      have hrejected : rejection? path = some e := by simp [rejection?, hparse]
      rw [List.findSome?_cons_of_isSome (by simp [hrejected]), hrejected]
      exact ⟨w.log, rfl⟩
    | ok uri =>
      have hread : rejection? path = none := by simp [rejection?, hparse]
      rw [List.findSome?_cons_of_isNone (by simp [hread])]
      dsimp only
      by_cases hscheme : uri.scheme = "s3"
      · rw [if_neg (by simp [hscheme]), List.filterMap_cons_some (bucket?_of_parse hparse hscheme)]
        split
        · next hmem =>
          rw [eraseDups_append_cons_of_mem (List.contains_iff_mem.mp hmem)]
          exact ih hfound w
        · next hmem =>
          have hnew := eraseDups_concat_of_not_mem hfound (mt List.contains_iff_mem.mpr hmem)
          rw [List.append_cons found uri.authority (paths.filterMap bucket?)]
          exact ih hnew w
      · have hbucket : bucket? path = none := by
          unfold bucket?
          rw [hparse]
          exact if_neg hscheme
        rw [if_pos (by simp [hscheme]), List.filterMap_cons_none hbucket,
          Action.run_bind_of_ok (Action.run_logDebug _ _)]
        exact ih hfound _

theorem run_bucketsOf_eq_ok {found paths buckets : List String} (hfound : found.eraseDups = found)
    (h : (bucketsOf found paths).run w = (.ok buckets, w')) :
    (∃ log, w' = { w with log }) ∧ (∀ path ∈ paths, ∃ uri, Uri.parse path = .ok uri) ∧
      buckets = (found ++ paths.filterMap bucket?).eraseDups := by
  obtain ⟨log, hrun⟩ := run_bucketsOf hfound paths w
  rw [hrun] at h
  cases hrejected : paths.findSome? rejection? with
  | some e =>
    rw [hrejected] at h
    cases h
  | none =>
    rw [hrejected] at h
    cases h
    have hread := List.findSome?_eq_none_iff.mp hrejected
    exact ⟨⟨log, rfl⟩, fun path hpath => exists_parse_of_rejection? (hread path hpath), rfl⟩

/-! ### Sessions -/

theorem requestsIn_append (journal more : List Event) :
    requestsIn (journal ++ more) = requestsIn journal ++ requestsIn more :=
  List.filterMap_append

theorem requestsIn_noted (journal : List Event) (paths : List String) :
    requestsIn (journal ++ [.tokensRequested paths]) = requestsIn journal :=
  (requestsIn_append _ _).trans (List.append_nil _)

theorem requestsIn_map (requests : List SessionRequest) :
    requestsIn (requests.map .sessionRequested) = requests := by
  unfold requestsIn
  rw [List.filterMap_map]
  exact List.filterMap_some

theorem run_requestSession (request : SessionRequest) (w : World) :
    (requestSession request).run w =
      ((w.sessionAnswer (requestsIn w.journal).length).mapError .service,
        { w with journal := w.journal ++ [.sessionRequested request] }) := by
  unfold requestSession
  rw [Action.run_bind_of_ok (Action.run_get w), Action.run_bind_of_ok (Action.run_note _ _)]
  cases w.sessionAnswer (requestsIn w.journal).length <;> rfl

/-- The token that an answer for a bucket amounts to. -/
def answeredToken (bucket : String) (answer : Except ServiceFault SessionKeys) :
    Except CredentialError Token := do
  let keys ← answer.mapError .service
  sessionToken bucket keys

/-- One session is asked for, whether or not a token comes of it. -/
theorem run_bucketToken (role : Option String) (duration : Int) (bucket : String) (w : World) :
    ∃ log, (bucketToken role duration bucket).run w =
      (answeredToken bucket (w.sessionAnswer (requestsIn w.journal).length), { w with
        journal := w.journal ++
          [.sessionRequested (sessionRequest role duration bucket)], log }) := by
  unfold bucketToken
  have hrequest := run_requestSession (sessionRequest role duration bucket) w
  cases hanswer : w.sessionAnswer (requestsIn w.journal).length with
  | error fault =>
    rw [hanswer] at hrequest
    exact ⟨w.log, Action.run_bind_of_error hrequest _⟩
  | ok keys =>
    rw [hanswer] at hrequest
    rw [Action.run_bind_of_ok hrequest]
    have hlift := Action.run_liftM (sessionToken bucket keys) { w with
      journal := w.journal ++ [.sessionRequested (sessionRequest role duration bucket)] }
    change ∃ log, _ = (sessionToken bucket keys, _)
    cases hmade : sessionToken bucket keys with
    | error e =>
      rw [hmade] at hlift
      exact ⟨w.log, Action.run_bind_of_error hlift _⟩
    | ok token =>
      rw [hmade] at hlift
      rw [Action.run_bind_of_ok hlift]
      exact ⟨_, rfl⟩

theorem answeredToken_eq_ok {answer : Except ServiceFault SessionKeys} {t : Token} :
    answeredToken bucket answer = .ok t ↔
      ∃ keys, answer = .ok keys ∧ sessionToken bucket keys = .ok t := by
  cases answer with
  | error fault =>
    refine iff_of_false nofun ?_
    rintro ⟨keys, hkeys, -⟩
    cases hkeys
  | ok keys => exact ⟨fun h => ⟨keys, rfl, h⟩, fun ⟨_, hkeys, h⟩ => Except.ok.inj hkeys ▸ h⟩

theorem run_bucketToken_eq_ok {t : Token}
    (h : (bucketToken role duration bucket).run w = (.ok t, w')) :
    ∃ keys log, w.sessionAnswer (requestsIn w.journal).length = .ok keys ∧
      sessionToken bucket keys = .ok t ∧
      w' = { w with
        journal := w.journal ++
          [.sessionRequested (sessionRequest role duration bucket)], log } := by
  obtain ⟨log, hrun⟩ := run_bucketToken role duration bucket w
  obtain ⟨hmade, rfl⟩ := Prod.mk.inj (hrun.symm.trans h)
  obtain ⟨keys, hanswer, htoken⟩ := answeredToken_eq_ok.mp hmade
  exact ⟨keys, log, hanswer, htoken, rfl⟩

/-- Sessions are asked for, one after the other, and a token is made of each. -/
structure Issues (role : Option String) (duration : Int) (w : World)
    (sessions : List (String × SessionKeys)) (tokens : List Token) (w' : World) : Prop where
  state : ∃ log, w' = { w with
    journal := w.journal ++
      (sessions.map fun s => sessionRequest role duration s.1).map .sessionRequested
    log }
  answers : ∀ i s, sessions[i]? = some s →
    w.sessionAnswer ((requestsIn w.journal).length + i) = .ok s.2
  tokens : List.Forall₂ (fun s t => sessionToken s.1 s.2 = .ok t) sessions tokens

theorem Issues.exists_token {sessions : List (String × SessionKeys)} {tokens : List Token}
    (h : Issues role duration w sessions tokens w') {s : String × SessionKeys} (hs : s ∈ sessions) :
    ∃ t ∈ tokens, sessionToken s.1 s.2 = .ok t := by
  obtain ⟨i, hi, rfl⟩ := List.mem_iff_getElem.mp hs
  have hi' : i < tokens.length := h.tokens.length_eq ▸ hi
  exact ⟨tokens[i], List.getElem_mem hi', h.tokens.get hi hi'⟩

theorem Issues.exists_session {sessions : List (String × SessionKeys)} {tokens : List Token}
    (h : Issues role duration w sessions tokens w') {t : Token} (ht : t ∈ tokens) :
    ∃ s ∈ sessions, sessionToken s.1 s.2 = .ok t := by
  obtain ⟨i, hi, rfl⟩ := List.mem_iff_getElem.mp ht
  have hi' : i < sessions.length := h.tokens.length_eq ▸ hi
  exact ⟨sessions[i], List.getElem_mem hi', h.tokens.get hi' hi⟩

theorem exists_issues {buckets : List String} {tokens : List Token}
    (h : Action.Runs (bucketToken role duration) w buckets tokens w') :
    ∃ sessions, sessions.map (·.1) = buckets ∧ Issues role duration w sessions tokens w' := by
  induction h with
  | nil w =>
    refine ⟨[], rfl, ⟨w.log, by simp⟩, ?_, .nil⟩
    intro i s hs
    cases hs
  | cons first rest ih =>
    obtain ⟨keys, log, hanswer, hmade, rfl⟩ := run_bucketToken_eq_ok first
    obtain ⟨sessions, hbuckets, ⟨log', rfl⟩, hanswers, htokens⟩ := ih
    refine ⟨(_, keys) :: sessions, by rw [List.map_cons, hbuckets], ⟨log', ?_⟩, ?_,
      .cons hmade htokens⟩
    · rw [List.map_cons, List.map_cons, List.append_assoc, List.singleton_append]
    · intro i s hs
      cases i with
      | zero =>
        cases hs
        exact hanswer
      | succ i =>
        have hnext := hanswers i s hs
        rw [requestsIn_append, List.length_append] at hnext
        rwa [Nat.add_comm i 1, ← Nat.add_assoc]

theorem run_obtain_sessions_eq_ok {paths : List String} {tokens : List Token}
    (h : ((sessions role duration).obtain paths).run w = (.ok tokens, w')) :
    ∃ held, held.map (·.1) = (paths.filterMap bucket?).eraseDups ∧
      (∀ path ∈ paths, ∃ uri, Uri.parse path = .ok uri) ∧
      Issues role duration { w with journal := w.journal ++ [.tokensRequested paths] } held tokens
        w' := by
  unfold obtain at h
  rw [Action.run_bind_of_ok (Action.run_note _ _)] at h
  obtain ⟨buckets, w₁, hbuckets, htokens⟩ := Action.run_bind_eq_ok.mp h
  obtain ⟨⟨log, rfl⟩, hpaths, rfl⟩ := run_bucketsOf_eq_ok rfl hbuckets
  obtain ⟨held, hheld, ⟨log', rfl⟩, hanswers, hmade⟩ :=
    exists_issues (Action.run_mapM_eq_ok.mp htokens)
  exact ⟨held, hheld, hpaths, ⟨log', rfl⟩, hanswers, hmade⟩

/-! ### What services leave as it is -/

section
variable {γ : Type} {v : World → γ}

theorem keeps_bucketsOf (hlog : ∀ w log, v { w with log } = v w) (found paths : List String) :
    (bucketsOf found paths).Keeps v := by
  induction paths generalizing found with
  | nil => exact Action.keeps_pure _
  | cons path rest ih =>
    unfold bucketsOf
    split
    · exact Action.keeps_throw _
    · split
      · exact Action.Keeps.bind (Action.keeps_modify fun w => hlog w _) fun _ => ih found
      · split
        · exact ih found
        · exact ih _

theorem keeps_bucketToken (hlog : ∀ w log, v { w with log } = v w)
    (hsession : ∀ w request,
      v { w with journal := w.journal ++ [.sessionRequested request] } = v w)
    (role : Option String) (duration : Int) (bucket : String) :
    (bucketToken role duration bucket).Keeps v := by
  have hrequest : (requestSession (sessionRequest role duration bucket)).Keeps v := by
    intro w
    rw [run_requestSession]
    exact hsession w _
  refine hrequest.bind fun keys => (Action.keeps_liftM _).bind fun token => ?_
  exact Action.Keeps.bind (Action.keeps_modify fun w => hlog w _) fun _ => Action.keeps_pure _

end

theorem keeps_obtain (service : TokenService) (paths : List String) :
    (service.obtain paths).Keeps World.unrecorded := by
  refine (Action.keeps_note _).bind fun _ => ?_
  cases service with
  | sessions role duration =>
    refine (keeps_bucketsOf (fun _ _ => rfl) [] paths).bind fun buckets => ?_
    exact Action.Keeps.mapM fun bucket _ =>
      keeps_bucketToken (fun _ _ => rfl) (fun _ _ => rfl) role duration bucket
  | fixed tokens => exact Action.keeps_pure _
  | failing fault => exact Action.keeps_throw _

/-! ### What services are asked for -/

/-- The paths that token services were asked for, request by request. -/
def tokenRequestsIn (journal : List Event) : List (List String) :=
  journal.filterMap fun
    | .tokensRequested paths => some paths
    | _ => none

/-- A service notes what it is asked for, once, whether or not it issues tokens. -/
theorem tokenRequestsIn_of_obtain {service : TokenService} {paths : List String}
    {r : Except CredentialError (List Token)} (h : (service.obtain paths).run w = (r, w')) :
    tokenRequestsIn w'.journal = tokenRequestsIn w.journal ++ [paths] := by
  have hasked : tokenRequestsIn (w.journal ++ [.tokensRequested paths]) =
      tokenRequestsIn w.journal ++ [paths] := List.filterMap_append
  have hsession : ∀ (w : World) request,
      tokenRequestsIn (w.journal ++ [.sessionRequested request]) = tokenRequestsIn w.journal :=
    fun w request => List.filterMap_append.trans (List.append_nil _)
  rw [← hasked]
  unfold obtain at h
  rw [Action.run_bind_of_ok (Action.run_note _ _)] at h
  cases service with
  | sessions role duration =>
    have hbuckets := keeps_bucketsOf (v := fun w => tokenRequestsIn w.journal) (fun _ _ => rfl) []
      paths
    have hsessions (buckets : List String) : (buckets.mapM (bucketToken role duration)).Keeps
        fun w => tokenRequestsIn w.journal :=
      Action.Keeps.mapM fun bucket _ =>
        keeps_bucketToken (fun _ _ => rfl) hsession role duration bucket
    exact (hbuckets.bind hsessions).eq h
  | fixed tokens =>
    cases h
    rfl
  | failing fault =>
    cases h
    rfl

/-! ### Tokens of sessions -/

/-- The identifier of a session's token. -/
def sessionIdentifier (bucket id : String) : String := s!"s3:{bucket}:" ++ id

theorem eq_of_append_colon {cs ds key key' : List Char} (hkey : ':' ∉ key) (hkey' : ':' ∉ key')
    (h : cs ++ ':' :: key = ds ++ ':' :: key') : cs = ds := by
  rcases List.append_eq_append_iff.mp h with ⟨between, rfl, hrest⟩ | ⟨between, rfl, hrest⟩
  · cases between with
    | nil => exact (List.append_nil cs).symm
    | cons c between =>
      obtain ⟨-, hrest⟩ := List.cons.inj hrest
      exact absurd (by simp [hrest]) hkey
  · cases between with
    | nil => exact List.append_nil ds
    | cons c between =>
      obtain ⟨-, hrest⟩ := List.cons.inj hrest
      exact absurd (by simp [hrest]) hkey'

/-- The bucket can be told from the identifier, since the name of the access key has no colon. -/
theorem sessionIdentifier_inj {bucket' id id' : String} (hid : ':' ∉ id.toList)
    (hid' : ':' ∉ id'.toList)
    (h : sessionIdentifier bucket id = sessionIdentifier bucket' id') : bucket = bucket' := by
  have hchars (b i : String) : (sessionIdentifier b i).toList =
      ("s3:".toList ++ b.toList) ++ ':' :: i.toList := by
    simp only [sessionIdentifier, String.toList_append, List.append_assoc]
    rfl
  have hsame := congrArg String.toList h
  rw [hchars, hchars] at hsame
  exact String.toList_inj.mp (List.append_cancel_left (eq_of_append_colon hid hid' hsame))

/-- The keys of a session by their names. -/
def secretDocument (id secret token : String) (expiration : WideText) : Json :=
  .ofFields [("aws_access_key_id", .text id), ("aws_secret_access_key", .text secret),
    ("aws_session_token", .text token), ("expiration", .str expiration)]

theorem readLenient_secretDocument (id secret token : String) {expiration : WideText}
    (h : expiration.Whole) {depth : Nat} (hdepth : 1 ≤ depth) :
    Json.readLenient depth (Utf8.encode (Json.printAscii .ascii
      (secretDocument id secret token expiration))) =
        .ok (secretDocument id secret token expiration) := by
  obtain ⟨k, rfl⟩ := Nat.exists_eq_add_of_le' hdepth
  have hexpiration : (Json.str expiration).Readable true k := by
    cases k <;> exact fun _ => h
  have hreadable : (secretDocument id secret token expiration).Readable true (k + 1) := by
    apply Json.readable_ofFields
    simp only [List.forall_mem_cons]
    exact ⟨Json.readable_text _ _ _, Json.readable_text _ _ _, Json.readable_text _ _ _,
      hexpiration, nofun⟩
  have hrefused : Json.refused? (.lenient (k + 1))
      (secretDocument id secret token expiration) = none := by
    apply Json.refused?_ofFields_eq_none.mpr
    simp [Json.text, Json.refused?]
  have hmerged : (secretDocument id secret token expiration).merged =
      secretDocument id secret token expiration := by
    apply Json.merged_ofFields
    · simp
    · simp [Json.text, Json.merged]
  rw [Json.readLenient_printAscii hreadable, hrefused, hmerged]
  rfl

/-- The token of a session is for its bucket, and its secret is the keys. -/
def TellsSession (bucket : String) (keys : SessionKeys) (t : Token) : Prop :=
  ∃ id secret token : String, keys.accessKeyId = some (.string id) ∧
    keys.secretAccessKey = some (.string secret) ∧ keys.sessionToken = some (.string token) ∧
    t.identifier = sessionIdentifier bucket id ∧ t.service = "s3://" ++ bucket ∧
    ∀ depth ≥ 1, Json.readLenient depth t.password =
      .ok (secretDocument id secret token ((keys.expiration.map Datum.phrase).getD []))

theorem sessionToken_of_missing {keys : SessionKeys} {name : String}
    (h : keys.missing? = some name) (bucket : String) :
    sessionToken bucket keys = .error (.service (.missingField name)) := by
  obtain ⟨accessKeyId, secretAccessKey, sessionKey, expiration⟩ := keys
  match accessKeyId, secretAccessKey, sessionKey with
  | none, _, _ | some _, none, _ | some _, some _, none =>
    cases h
    rfl
  | some _, some _, some _ => cases h

/-- The token of a session whose required keys are texts. -/
theorem sessionToken_of_texts (bucket id secret token : String) (expiration : Option Datum) :
    sessionToken bucket ⟨some (.string id), some (.string secret), some (.string token),
      expiration⟩ = .ok {
        identifier := sessionIdentifier bucket id
        password := Utf8.encode (Json.printAscii .ascii
          (secretDocument id secret token ((expiration.map Datum.phrase).getD [])))
        kind := tokenKind
        service := "s3://" ++ bucket } := by
  have hidentifier : WideText.toString? (WideText.ofString s!"s3:{bucket}:" ++
      (Datum.string id).phrase) = some (sessionIdentifier bucket id) := by
    rw [← WideText.toString?_ofString (sessionIdentifier bucket id)]
    simp [sessionIdentifier, WideText.ofString, WideText.ofChars, Datum.phrase, Datum.string]
  unfold sessionToken
  dsimp only [requiredKey, sessionSecret, bind, Except.bind]
  rw [hidentifier]
  rfl

theorem exists_sessionToken {keys : SessionKeys} (hkeys : keys.Texts) (h : keys.missing? = none)
    (bucket : String) : ∃ t, sessionToken bucket keys = .ok t ∧ TellsSession bucket keys t := by
  obtain ⟨accessKeyId, secretAccessKey, sessionKey, expiration⟩ := keys
  match accessKeyId, secretAccessKey, sessionKey with
  | none, _, _ | some _, none, _ | some _, some _, none => cases h
  | some _, some _, some _ =>
    obtain ⟨id, rfl⟩ := hkeys.accessKeyId _ rfl
    obtain ⟨secret, rfl⟩ := hkeys.secretAccessKey _ rfl
    obtain ⟨token, rfl⟩ := hkeys.sessionToken _ rfl
    exact ⟨_, sessionToken_of_texts bucket id secret token expiration, id, secret, token, rfl, rfl,
      rfl, rfl, rfl,
      fun _ hdepth => readLenient_secretDocument id secret token hkeys.expiration hdepth⟩

theorem sessionToken_eq_ok {keys : SessionKeys} {t : Token} (hkeys : keys.Textual)
    (h : sessionToken bucket keys = .ok t) : ∃ id secret token : String,
      keys.accessKeyId = some (.string id) ∧ ':' ∉ id.toList ∧
      keys.secretAccessKey = some (.string secret) ∧ keys.sessionToken = some (.string token) ∧
      t.identifier = sessionIdentifier bucket id ∧ t.service = "s3://" ++ bucket ∧
      ∀ depth ≥ 1, Json.readLenient depth t.password =
        .ok (secretDocument id secret token ((keys.expiration.map Datum.phrase).getD [])) := by
  cases hmissing : keys.missing? with
  | some name =>
    rw [sessionToken_of_missing hmissing] at h
    cases h
  | none =>
    obtain ⟨t', hmade, id, secret, token, hid, hrest⟩ :=
      exists_sessionToken hkeys.texts hmissing bucket
    obtain rfl : t' = t := Except.ok.inj (hmade.symm.trans h)
    obtain ⟨id', hdatum, hcolon⟩ := hkeys.accessKeyId _ hid
    obtain rfl : id = id' := WideText.ofString_injective (Datum.text.inj hdatum)
    exact ⟨id, secret, token, hid, hcolon, hrest⟩

end TokenService
end ClusterAgent
