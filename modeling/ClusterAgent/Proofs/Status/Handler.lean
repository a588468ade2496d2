import ClusterAgent.Proofs.Status.Rendering
import ClusterAgent.Proofs.Status.Reply
import ClusterAgent.Status.Handler

/-! Answers to requests for the running jobs. A request is answered with the jobs, or else with the
message of what went wrong. It goes without an answer when the message has a surrogate, which only
the coordinator can bring into it. -/
namespace ClusterAgent

/-- The message of an outcome that is no success. -/
def Outcome.message? : Outcome → Option WideText
  | success _ => none
  | timeout m | malformedResponse m | unreachable m => some m

/-- The response reports what came of a request: no query, or a query with its result. -/
inductive HttpResponse.Reports : HttpResponse → Option (Except QueryError Outcome) → Prop
  | jobs {records : List JobRecord} {body : List UInt8}
      (hwritable : ∀ r ∈ records, Text.isWritable r.timestamp)
      (h : Utf8.encodeWide? (StatusDocument.renderJobs records) = some body) :
      Reports ⟨200, "application/json", body⟩ (some (.ok (.success records)))
  | unwritable {records : List JobRecord}
      (h : ∃ r ∈ records, Text.isWritable r.timestamp = false) :
      Reports ⟨400, "text/plain", Utf8.encode Text.NumeralError.unwritable.message⟩
        (some (.ok (.success records)))
  | message {outcome : Outcome} {m : WideText} {body : List UInt8}
      (hmessage : outcome.message? = some m) (h : Utf8.encodeWide? m = some body) :
      Reports ⟨400, "text/plain", body⟩ (some (.ok outcome))
  | error (e : QueryError) :
      Reports ⟨400, "text/plain", Utf8.encode e.message⟩ (some (.error e))
  | unresolved :
      Reports ⟨400, "text/plain", Utf8.encode "Coordinator reference is not resolved."⟩ none

/-- The reply is no list of jobs, but an object, nested at most `depth` deep, that names its type,
and the name has a surrogate. -/
def Reply.NamesSurrogate (depth : Nat) (reply : List UInt8) : Prop :=
  (∀ records, ¬ Reply.ListsJobs reply records) ∧ ∃ members name,
    Json.readLenient depth reply = .ok (.obj members) ∧
      Json.member? members "type" = some (.str name) ∧ ¬ name.Whole

namespace StatusDocument

/-! ### Documents and responses -/

theorem respond_of_encodeWide? {d : StatusDocument} {body : List UInt8} {mediaType : String}
    (hbody : Utf8.encodeWide? d.body = some body) (hmedia : d.mediaType = mediaType) :
    d.respond = .ok ⟨d.statusCode, mediaType, body⟩ := by
  unfold respond
  rw [hbody, hmedia, WideText.toString?_ofString]

theorem respond_of_not_whole {d : StatusDocument} (h : ¬ d.body.Whole) :
    d.respond = .error ⟨d.body⟩ := by
  unfold respond
  cases hbody : Utf8.encodeWide? d.body with
  | none => rfl
  | some body => exact absurd (Utf8.whole_of_encodeWide? hbody) h

/-- The document that tells what came of a request. -/
def told : Option (Except QueryError Outcome) → StatusDocument
  | some (.ok outcome) =>
    match outcome.rendered with
    | .ok document => document
    | .error e => failure e.message
  | some (.error e) => failure e.message
  | none => failure "Coordinator reference is not resolved."

theorem run_ofQuery (query : Option (Action QueryError Outcome)) (w : World) :
    ∃ w', (ofQuery (ε := SurrogateError) query).run w =
      (.ok (told (query.map fun q => (q.run w).1)), w') := by
  cases query with
  | none => exact ⟨_, rfl⟩
  | some q =>
    rw [Option.map_some]
    cases hresult : q.run w with
    | mk result w' =>
      unfold ofQuery ExceptT.run at *
      dsimp only
      rw [hresult]
      cases result with
      | ok outcome =>
        unfold told
        dsimp only
        cases outcome.rendered with
        | ok document => exact ⟨_, rfl⟩
        | error e => exact ⟨_, rfl⟩
      | error e => exact ⟨_, rfl⟩

theorem run_handle (query : Option (Action QueryError Outcome)) (w : World) :
    ((handle query).run w).1 = (told (query.map fun q => (q.run w).1)).respond := by
  obtain ⟨w', hdocument⟩ := run_ofQuery query w
  unfold handle
  rw [Action.run_bind_of_ok hdocument]
  cases (told (query.map fun q => (q.run w).1)).respond with
  | ok response => rfl
  | error e => rfl

theorem respond_failure (message : String) :
    (failure message).respond = .ok ⟨400, "text/plain", Utf8.encode message⟩ :=
  respond_of_encodeWide? (Utf8.encodeWide?_ofString message) rfl

theorem told_of_isWritable {outcome : Outcome} (h : outcome.isWritable) :
    told (some (.ok outcome)) = outcome.document := by
  unfold told Outcome.rendered
  dsimp only
  rw [if_pos h]

/-- An outcome that cannot be written is one of jobs, and has a response of its own. -/
theorem respond_of_not_isWritable {outcome : Outcome} (h : outcome.isWritable = false) :
    ∃ response, (told (some (.ok outcome))).respond = .ok response ∧
      response.Reports (some (.ok outcome)) := by
  have htold : told (some (.ok outcome)) = failure Text.NumeralError.unwritable.message := by
    unfold told Outcome.rendered
    simp only [h, Bool.false_eq_true, if_false]
  rw [htold]
  refine ⟨_, respond_failure _, ?_⟩
  cases outcome with
  | success records =>
    have hlong : ¬ ∀ r ∈ records, Text.isWritable r.timestamp :=
      fun hall => Bool.false_ne_true (h.symm.trans (List.all_eq_true.mpr hall))
    simp only [not_forall, Bool.not_eq_true] at hlong
    obtain ⟨r, hr, hlong⟩ := hlong
    exact .unwritable ⟨r, hr, hlong⟩
  | timeout m => cases h
  | malformedResponse m => cases h
  | unreachable m => cases h

/-- A document that has an encoding makes a response, which reports the outcome. -/
theorem reports_of_whole {outcome : Outcome} (hwritable : outcome.isWritable)
    (h : outcome.document.body.Whole) : ∃ response, outcome.document.respond = .ok response ∧
      response.Reports (some (.ok outcome)) := by
  obtain ⟨body, hbody⟩ := Utf8.exists_encodeWide? h
  cases outcome with
  | success records =>
    exact ⟨_, respond_of_encodeWide? hbody rfl, .jobs (List.all_eq_true.mp hwritable) hbody⟩
  | timeout m => exact ⟨_, respond_of_encodeWide? hbody rfl, .message rfl hbody⟩
  | malformedResponse m => exact ⟨_, respond_of_encodeWide? hbody rfl, .message rfl hbody⟩
  | unreachable m => exact ⟨_, respond_of_encodeWide? hbody rfl, .message rfl hbody⟩

/-- A request is answered, unless its query comes to an outcome that has no encoding. -/
theorem run_handle_cases (query : Option (Action QueryError Outcome)) (w : World) :
    (∃ response, ((handle query).run w).1 = .ok response ∧
        response.Reports (query.map fun q => (q.run w).1)) ∨
      ∃ outcome, (query.map fun q => (q.run w).1) = some (.ok outcome) ∧
        outcome.isWritable ∧ ¬ outcome.document.body.Whole ∧
        ((handle query).run w).1 = .error ⟨outcome.document.body⟩ := by
  rw [run_handle]
  cases query.map fun q => (q.run w).1 with
  | none => exact Or.inl ⟨_, respond_failure _, .unresolved⟩
  | some result =>
    cases result with
    | error e => exact Or.inl ⟨_, respond_failure _, .error e⟩
    | ok outcome =>
      by_cases hwritable : outcome.isWritable
      · rw [told_of_isWritable hwritable]
        by_cases hwhole : outcome.document.body.Whole
        · exact Or.inl (reports_of_whole hwritable hwhole)
        · exact Or.inr ⟨outcome, rfl, hwritable, hwhole, respond_of_not_whole hwhole⟩
      · exact Or.inl (respond_of_not_isWritable (Bool.eq_false_iff.mpr hwritable))

/-! ### Requests that are not answered -/

theorem whole_of_membersTell {members : List (WideText × Json)} {r : JobRecord}
    (hmembers : Json.Whole (.obj members)) (h : MembersTell members r) : r.Whole := by
  refine ⟨?_, fun name hr => ?_⟩
  · cases hmembers.of_member? h.id with
    | str hid => exact hid
  · rcases h.name with hname | ⟨-, hnone⟩
    · rw [hr, Option.map_some] at hname
      cases hmembers.of_member? hname with
      | str hwhole => exact hwhole
    · rw [hnone] at hr
      cases hr

/-- The strict reader lets no surrogate into the jobs. -/
theorem whole_of_listsJobs {reply : List UInt8} {records : List JobRecord}
    (h : Reply.ListsJobs reply records) : ∀ r ∈ records, r.Whole := by
  obtain ⟨members, items, hread, -, -, hjobs, htell⟩ := h
  cases (Json.whole_of_readStrict hread).of_member? hjobs with
  | arr hitems =>
    intro r hr
    obtain ⟨v, hv, job, rfl, hjob⟩ := exists_right_of_forall₂ htell.flip hr
    exact whole_of_membersTell (hitems _ hv) hjob

theorem not_whole_typeOf_iff (v : Json) : ¬ (Reply.typeOf v).Whole ↔
    ∃ members name, v = .obj members ∧ Json.member? members "type" = some (.str name) ∧
      ¬ name.Whole := by
  have hkind : (WideText.ofString (Datum.ofJson v).kind).Whole := WideText.whole_ofChars _
  unfold Reply.typeOf
  split
  · next members =>
    split
    · next name hname => simp [hname]
    · next hother =>
      refine iff_of_false (not_not.mpr hkind) ?_
      rintro ⟨_, name, ⟨⟩, hname, -⟩
      exact hother name hname
  · next hother =>
    refine iff_of_false (not_not.mpr hkind) ?_
    rintro ⟨members, name, rfl, -⟩
    exact hother members rfl

theorem not_whole_describe_iff (depth : Nat) (reply : List UInt8) :
    (∃ type, Reply.describe reply depth = .ok type ∧ ¬ type.Whole) ↔
      ∃ members name, Json.readLenient depth reply = .ok (.obj members) ∧
        Json.member? members "type" = some (.str name) ∧ ¬ name.Whole := by
  unfold Reply.describe
  cases hread : Json.readLenient depth reply with
  | ok v => simp [not_whole_typeOf_iff]
  | error e =>
    refine iff_of_false ?_ nofun
    rintro ⟨type, htype, hsurrogate⟩
    split at htype
    · next hok => cases hok
    · cases htype
    · obtain rfl := Except.ok.inj htype
      exact hsurrogate (WideText.whole_ofChars _)

theorem whole_ofForeign_iff (type : WideText) :
    (Outcome.ofForeign type).document.body.Whole ↔ type.Whole := by
  constructor
  · intro h p hp
    exact h p (List.mem_append_left _ (List.mem_append_right _ hp))
  · intro h
    exact ((WideText.whole_ofChars _).append h).append (WideText.whole_ofChars ['.'])

theorem whole_faultOutcome (c : StatusClient) (fault : RpcFault) :
    (c.faultOutcome fault).document.body.Whole := by
  unfold StatusClient.faultOutcome
  split <;> exact WideText.whole_ofChars _

theorem not_whole_ofReply_iff (depth : Nat) (reply : List UInt8) :
    (∃ outcome, Outcome.ofReply depth reply = .ok outcome ∧ ¬ outcome.document.body.Whole) ↔
      Reply.NamesSurrogate depth reply := by
  unfold Reply.NamesSurrogate
  by_cases hjobs : ∃ records, Reply.ListsJobs reply records
  · obtain ⟨records, hrecords⟩ := hjobs
    refine iff_of_false ?_ fun h => h.1 records hrecords
    rw [Outcome.ofReply_eq_success_iff.mpr hrecords]
    rintro ⟨_, ⟨⟩, hsurrogate⟩
    exact hsurrogate (whole_renderJobs (whole_of_listsJobs hrecords))
  · have hforeign : ∀ records, ¬ Reply.ListsJobs reply records := not_exists.mp hjobs
    rw [Outcome.ofReply_of_foreign hforeign, ← not_whole_describe_iff, and_iff_right hforeign]
    cases Reply.describe reply depth with
    | error e => simp [Except.map]
    | ok type => simp [Except.map, whole_ofForeign_iff]

/-- A client's outcome has a surrogate exactly when the coordinator has named one. -/
theorem not_whole_query_iff (c : StatusClient) (w : World) :
    (∃ outcome, (c.query.run w).1 = .ok outcome ∧ ¬ outcome.document.body.Whole) ↔
      w.channelFault = none ∧ ∃ reply, w.coordinator.answer = .ok reply ∧
        Reply.NamesSurrogate w.jsonDepth reply := by
  obtain ⟨fault, hchannel, hquery⟩ | ⟨hchannel, ⟨e, hanswer, hquery⟩ | ⟨reply, hanswer, hquery⟩⟩ :=
    c.query_cases w
  · rw [hquery, hchannel]
    simp [whole_faultOutcome]
  · rw [hquery, hanswer]
    simp
  · rw [hquery, hchannel, hanswer]
    simp only [true_and, Except.ok.injEq, exists_eq_left', ← not_whole_ofReply_iff]
    cases Outcome.ofReply w.jsonDepth reply <;> simp [Except.mapError]

/-- A client's outcome can be written: no reply brings in an integer that is too long. -/
theorem isWritable_of_query (c : StatusClient) {w : World} {outcome : Outcome}
    (h : (c.query.run w).1 = .ok outcome) : outcome.isWritable := by
  cases outcome with
  | success records =>
    obtain ⟨-, reply, -, hjobs⟩ := c.exists_reply_of_success h
    exact List.all_eq_true.mpr hjobs.isWritable
  | timeout m => rfl
  | malformedResponse m => rfl
  | unreachable m => rfl

theorem run_handle_query_error_iff (c : StatusClient) (w : World) :
    (∃ e, ((handle (some c.query)).run w).1 = .error e) ↔
      w.channelFault = none ∧ ∃ reply, w.coordinator.answer = .ok reply ∧
        Reply.NamesSurrogate w.jsonDepth reply := by
  rw [← not_whole_query_iff]
  constructor
  · rintro ⟨e, he⟩
    obtain ⟨response, hresponse, -⟩ | ⟨outcome, houtcome, -, hsurrogate, -⟩ :=
      run_handle_cases (some c.query) w
    · rw [hresponse] at he
      cases he
    · exact ⟨outcome, Option.some.inj houtcome, hsurrogate⟩
  · rintro ⟨outcome, houtcome, hsurrogate⟩
    refine ⟨⟨outcome.document.body⟩, ?_⟩
    rw [run_handle, Option.map_some, houtcome,
      told_of_isWritable (isWritable_of_query c houtcome)]
    exact respond_of_not_whole hsurrogate

/-- The jobs are told exactly when the coordinator has listed them. -/
theorem run_handle_query_jobs_iff (c : StatusClient) (w : World) (body : List UInt8) :
    ((handle (some c.query)).run w).1 = .ok ⟨200, "application/json", body⟩ ↔
      w.channelFault = none ∧ ∃ reply records, w.coordinator.answer = .ok reply ∧
        Reply.ListsJobs reply records ∧ Utf8.encodeWide? (renderJobs records) = some body := by
  constructor
  · intro h
    obtain ⟨response, hresponse, hreports⟩ | ⟨outcome, -, -, -, herror⟩ :=
      run_handle_cases (some c.query) w
    · obtain rfl := Except.ok.inj (hresponse.symm.trans h)
      rw [Option.map_some] at hreports
      generalize hresult : (c.query.run w).1 = result at hreports
      cases hreports with
      | jobs _ hbody =>
        obtain ⟨hchannel, reply, hanswer, hreply⟩ := c.exists_reply_of_success hresult
        exact ⟨hchannel, reply, _, hanswer, hreply, hbody⟩
    · rw [h] at herror
      cases herror
  · rintro ⟨hchannel, reply, records, hanswer, hjobs, hbody⟩
    have hquery : (c.query.run w).1 = .ok (.success records) :=
      (c.query_eq_success_iff w records).mpr ⟨hchannel, reply, hanswer, hjobs⟩
    rw [run_handle, Option.map_some, hquery, told_of_isWritable (isWritable_of_query c hquery)]
    exact respond_of_encodeWide? hbody rfl

/-- A request is answered, and the response reports what the query came to, unless the outcome of
the query has a surrogate. Of a client's query it has one exactly when the coordinator replies with
a document that is no list of jobs and names its type by a text with a surrogate. -/
theorem handle_answers (query : Option (Action QueryError Outcome)) (w : World) :
    ((∃ response, ((handle query).run w).1 = .ok response ∧
          response.Reports (query.map fun q => (q.run w).1)) ∨
        ∃ outcome, (query.map fun q => (q.run w).1) = some (.ok outcome) ∧
          outcome.isWritable ∧ ¬ outcome.document.body.Whole ∧
          ((handle query).run w).1 = .error ⟨outcome.document.body⟩) ∧
      ∀ c : StatusClient, query = some c.query →
        (∀ body, ((handle query).run w).1 = .ok ⟨200, "application/json", body⟩ ↔
          w.channelFault = none ∧ ∃ reply records, w.coordinator.answer = .ok reply ∧
            Reply.ListsJobs reply records ∧
            Utf8.encodeWide? (renderJobs records) = some body) ∧
        ((∃ e, ((handle query).run w).1 = .error e) ↔
          w.channelFault = none ∧ ∃ reply, w.coordinator.answer = .ok reply ∧
            Reply.NamesSurrogate w.jsonDepth reply) := by
  refine ⟨run_handle_cases query w, ?_⟩
  rintro c rfl
  exact ⟨run_handle_query_jobs_iff c w, run_handle_query_error_iff c w⟩

end StatusDocument

/-! ### Replies that name a surrogate -/

namespace Reply

/-- An object that names a surrogate, by its number, as its type. -/
def surrogateDocument (n : Nat) : List Char :=
  ['\x7b', '"', 't', 'y', 'p', 'e', '"', ':', ' ', '"'] ++ Json.escapeHex n ++ ['"', '\x7d']

/-- What follows the colon of the document. -/
def surrogateMember (n : Nat) : Json.Input :=
  .char ' ' :: .char '"' :: (WideText.ofChars (Json.escapeHex n) ++ .char '"' :: [.char '\x7d'])

theorem ofChars_surrogateDocument (n : Nat) : WideText.ofChars (surrogateDocument n) =
    .char '\x7b' :: .char '"' :: (WideText.ofChars ['t', 'y', 'p', 'e'] ++
      .char '"' :: .char ':' :: surrogateMember n) := by
  simp [surrogateDocument, surrogateMember, WideText.ofChars]

theorem readValue_surrogateMember {n : Nat} (h : 0xD800 ≤ n ∧ n < 0xE000) (d : Json.Dialect)
    (depth : Nat) : Json.readValue d depth (Json.skipSpace (surrogateMember n)) =
      if d.loneSurrogates then .ok (.str (CodePoint.ofNat? n).toList, [.char '\x7d'])
      else .error .malformed := by
  have hstring := Json.readString_lone h d.loneSurrogates [.char '\x7d']
  have hskip : Json.skipSpace (surrogateMember n) = .char '"' ::
      (WideText.ofChars (Json.escapeHex n) ++ .char '"' :: [.char '\x7d']) := rfl
  obtain ⟨array, object, hvalue⟩ := Json.exists_readWith d depth
  rw [hskip, hvalue, Json.readWith, hstring]
  cases d.loneSurrogates <;> rfl

/-- Only a reader that lets surrogates pass reads the document. -/
theorem read_surrogateDocument {d : Json.Dialect} (hdepth : 0 < d.maxDepth) {n : Nat}
    (h : 0xD800 ≤ n ∧ n < 0xE000) : Json.read d (WideText.ofChars (surrogateDocument n)) =
      if d.loneSurrogates then
        .ok (.obj [(WideText.ofChars ['t', 'y', 'p', 'e'], .str (CodePoint.ofNat? n).toList)])
      else .error .malformed := by
  obtain ⟨depth, hd⟩ := Nat.exists_eq_add_one.mpr hdepth
  have hname : Json.Plain (WideText.ofChars ['t', 'y', 'p', 'e']) := by decide
  have hmembers := fun fuel => Json.readMembers_name (hname.quotes : Json.Quotes d _ _)
    Json.blank_nil (Json.readValue d depth) fuel [] (surrogateMember n)
  rw [readValue_surrogateMember h] at hmembers
  rw [ofChars_surrogateDocument, Json.read, Json.skipSpace_cons rfl, hd, Json.readValue,
    Json.readWith, Json.readObject, Json.skipSpace_cons rfl]
  change (Json.readMembers d (Json.readValue d depth) (_ + 1) [] ([] ++ .char '"' :: _) >>= _) = _
  rw [hmembers]
  cases d.loneSurrogates <;> rfl

theorem namesSurrogate_surrogateDocument {depth : Nat} (hdepth : 0 < depth) {n : Nat}
    (h : 0xD800 ≤ n ∧ n < 0xE000) :
    NamesSurrogate depth (Utf8.encodeChars (surrogateDocument n)) := by
  have hsurrogate : CodePoint.ofNat? n = some (.surrogate (Fin.ofNat 0x800 (n - 0xD800))) := by
    unfold CodePoint.ofNat?
    rw [if_pos h]
  have hstrict : Json.readStrict (Utf8.encodeChars (surrogateDocument n)) = .error .malformed := by
    unfold Json.readStrict
    rw [Utf8.decodeWide?_encodeChars]
    exact read_surrogateDocument (by decide) h
  have hlenient : Json.readLenient depth (Utf8.encodeChars (surrogateDocument n)) =
      .ok (.obj [(WideText.ofChars ['t', 'y', 'p', 'e'], .str (CodePoint.ofNat? n).toList)]) := by
    have hdecode : Json.decode (Utf8.encodeChars (surrogateDocument n)) =
        .ok (WideText.ofChars (surrogateDocument n)) :=
      Json.decode_encodeChars (.inr rfl) (by decide) _
    unfold Json.readLenient
    rw [hdecode]
    dsimp only [Except.mapError, bind, Except.bind]
    rw [read_surrogateDocument (hdepth : 0 < (Json.Dialect.lenient depth).maxDepth) h]
    rfl
  refine ⟨?_, _, _, hlenient, rfl, ?_⟩
  · rintro records ⟨members, items, hread, -⟩
    rw [hstrict] at hread
    cases hread
  · rw [hsurrogate]
    exact fun hwhole => absurd (hwhole _ List.mem_cons_self) nofun

end Reply

namespace StatusDocument

/-- A reply that names a surrogate leaves a request without an answer. -/
theorem handle_replying_surrogate {n : Nat} (h : 0xD800 ≤ n ∧ n < 0xE000) (c : StatusClient)
    {w : World} (hdepth : 0 < w.jsonDepth) : ∃ e, ((handle (some c.query)).run
      (w.replying (Utf8.encodeChars (Reply.surrogateDocument n)))).1 = .error e :=
  (run_handle_query_error_iff c _).mpr
    ⟨rfl, _, rfl, Reply.namesSurrogate_surrogateDocument hdepth h⟩

theorem handle_surrogateReply : ∃ e, ((handle (some StatusClient.loopbackClient.query)).run
    ((StatusClient.coordinatorWorld []).replying
      (Utf8.encodeChars (Reply.surrogateDocument 0xD800)))).1 = .error e :=
  handle_replying_surrogate (by decide) _ (by decide)

end StatusDocument
end ClusterAgent
