import ClusterAgent.Proofs.Json.Produced
import ClusterAgent.Proofs.World
import ClusterAgent.Subcommand.Run

/-! Listing the running jobs: what is shown of a document that a status server has answered with. -/
namespace ClusterAgent

/-- A host without container runtimes, to which every URL shows one document. -/
def SubcommandHost.showing (d : FetchedDocument) : SubcommandHost where
  containers := {
    docker := .error (.internal "")
    podmanState := .missing
    socketExists _ := false
    podman := { run := .error (.internal "") } }
  fetch _ := .ok d
  temporary := ⟨.root, []⟩

namespace Subcommand

open SubcommandResult

/-- What comes of a document that was fetched with success, where JSON is read to a depth. -/
structure Shows (host : SubcommandHost) (depth : Nat) (d : FetchedDocument)
    (r : SubcommandResult) : Prop where
  /-- A value is shown as a document that is read as the same value. -/
  value : ∀ v, Json.readLenient depth d.body = .ok v → host.unprinted? v = none →
    (r.status = 0 ∧ r.errors = "" ∧ r.failure = none) ∧
      (v.Unpaired → Json.readLenient depth (Utf8.encode r.output) = .ok v)
  /-- A value for which the host has too little room is an error. -/
  unprinted : ∀ v message, Json.readLenient depth d.body = .ok v →
    host.unprinted? v = some message → r = notListed message
  /-- What is no JSON is shown as it is. -/
  verbatim : Json.readLenient depth d.body = .error (.json .malformed) →
    ∀ text, host.text d = .ok text → r = printed text
  /-- What is neither JSON nor text of the character set that it names is an error. -/
  undecoded : Json.readLenient depth d.body = .error (.json .malformed) →
    ∀ f, host.text d = .error f → r = notListed f.message
  /-- Bytes that are no text, and documents with too deep a value or too long an integer, are
  errors. -/
  unread : ∀ e, Json.readLenient depth d.body = .error e → e ≠ .json .malformed →
    r = notListed e.message

variable {host : SubcommandHost} {server : String} {locator : Locator} {document : FetchedDocument}

theorem exists_showJobs (host : SubcommandHost) (h : document.isSuccess) (depth : Nat) :
    ∃ r, showJobs host depth document = .ok r ∧ Shows host depth document r := by
  unfold showJobs
  rw [h, Bool.not_true, if_neg Bool.false_ne_true]
  cases hread : Json.readLenient depth document.body with
  | ok v =>
    have hno : ∀ e, Json.readLenient depth document.body ≠ .error e := fun e he => by
      rw [hread] at he
      cases he
    refine ⟨_, rfl, ?_, ?_, fun he => absurd he (hno _), fun he => absurd he (hno _),
      fun e he => absurd he (hno e)⟩
    · intro u hu hprinted
      obtain rfl : v = u := Except.ok.inj (hread.symm.trans hu)
      rw [hprinted]
      exact ⟨⟨rfl, rfl, rfl⟩, Json.readLenient_printed hread⟩
    · intro u message hu hunprinted
      obtain rfl : v = u := Except.ok.inj (hread.symm.trans hu)
      rw [hunprinted]
  | error e =>
    have hno : ∀ v, Json.readLenient depth document.body ≠ .ok v := fun v hv => by
      rw [hread] at hv
      cases hv
    have hsame : ∀ e', Json.readLenient depth document.body = .error e' → e' = e := fun e' he' =>
      Except.error.inj (he'.symm.trans hread)
    by_cases hmalformed : e = .json .malformed
    · subst hmalformed
      refine ⟨_, rfl, fun v hv => absurd hv (hno v), fun v _ hv => absurd hv (hno v), ?_, ?_,
        fun e' he' hne => absurd (hsame e' he') hne⟩
      · intro _ text htext
        rw [htext]
      · intro _ f hf
        rw [hf]
    · refine ⟨notListed e.message, ?_, fun v hv => absurd hv (hno v),
        fun v _ hv => absurd hv (hno v), fun he => absurd (hsame _ he).symm hmalformed,
        fun he => absurd (hsame _ he).symm hmalformed, fun e' he' _ => hsame e' he' ▸ rfl⟩
      split
      next heq => cases heq
      next heq => exact absurd (Except.error.inj heq) hmalformed
      next heq =>
        rw [Except.error.inj heq]
        rfl

theorem run_jobs (hlocator : jobsLocator host server = .ok locator)
    (hcomplete : locator.isComplete) (hfetch : host.fetch locator.text = .ok document) (w : World) :
    (carryOut host (.jobs server)).run w = (showJobs host w.jsonDepth document,
      { w with journal := w.journal ++ [.documentRequested locator.text] }) := by
  rw [carryOut, fetchedJobs, hlocator]
  dsimp only
  rw [Action.run_bind_of_ok (Action.run_note _ w), hfetch]
  dsimp only
  rw [if_pos hcomplete]
  rfl

/-- A successful answer is asked for once. A JSON document is shown as one that is read as the same
value, what is no JSON as it is, and any other failure to read the answer is reported. -/
theorem exists_shows_of_success (hlocator : jobsLocator host server = .ok locator)
    (hcomplete : locator.isComplete) (hfetch : host.fetch locator.text = .ok document)
    (hsuccess : document.isSuccess) (w : World) :
    ∃ r, (carryOut host (.jobs server)).run w =
        (.ok r, { w with journal := w.journal ++ [.documentRequested locator.text] }) ∧
      Shows host w.jsonDepth document r := by
  obtain ⟨r, hr, hshows⟩ := exists_showJobs host hsuccess w.jsonDepth
  exact ⟨r, by rw [run_jobs hlocator hcomplete hfetch, hr], hshows⟩

/-- The jobs of a server that is named without a port. -/
def plainLocator : Locator := { scheme := "http", host := "s", path := "/jobsInfo" }

theorem jobsLocator_plain (host : SubcommandHost) :
    jobsLocator host "http://s" = .ok plainLocator := rfl

/-- A member that is named twice, with a fraction and with half of a pair. -/
def twiceNamed : FetchedDocument :=
  { status := 200, body := Utf8.encode "\x7b\"a\": [1.50], \"a\": \"\\ud800\"\x7d" }

/-- The value is that of the second member, which no JSON text can hold unescaped. -/
def twiceNamedValue : Json := .obj [(WideText.ofChars ['a'], .str [.surrogate ⟨0, by decide⟩])]

theorem readLenient_twiceNamed (depth : Nat) :
    Json.readLenient (depth + 3) twiceNamed.body = .ok twiceNamedValue := by
  have hchars : "\x7b\"a\": [1.50], \"a\": \"\\ud800\"\x7d".toList =
      ['\x7b', '"', 'a', '"', ':', ' ', '[', '1', '.', '5', '0', ']', ',', ' ', '"', 'a', '"', ':',
        ' ', '"', '\\', 'u', 'd', '8', '0', '0', '"', '\x7d'] := by decide +kernel
  unfold Json.readLenient twiceNamed Utf8.encode
  rw [hchars, Json.decode_encodeChars (.inr rfl) (by decide)]
  rfl

theorem unpaired_twiceNamedValue : twiceNamedValue.Unpaired :=
  .obj (List.forall_mem_singleton.mpr (by decide))
    (List.forall_mem_singleton.mpr (.str (by decide)))

theorem exists_shows_of_twiceNamed :
    let host := SubcommandHost.showing twiceNamed
    jobsLocator host "http://s" = .ok plainLocator ∧ plainLocator.isComplete ∧
      twiceNamed.isSuccess ∧ host.fetch plainLocator.text = .ok twiceNamed ∧
      ∃ r, (carryOut host (.jobs "http://s")).run .bare =
          (.ok r, { World.bare with journal := [.documentRequested plainLocator.text] }) ∧
        r.status = 0 ∧ Json.readLenient Json.usualDepth twiceNamed.body = .ok twiceNamedValue ∧
        Json.readLenient Json.usualDepth (Utf8.encode r.output) = .ok twiceNamedValue := by
  intro host
  have hfetch : host.fetch plainLocator.text = .ok twiceNamed := rfl
  have hsuccess : twiceNamed.isSuccess := rfl
  obtain ⟨r, hrun, hshows⟩ :=
    exists_shows_of_success (jobsLocator_plain host) rfl hfetch hsuccess .bare
  have hread : Json.readLenient Json.usualDepth twiceNamed.body = .ok twiceNamedValue :=
    readLenient_twiceNamed 897
  have hprinted : host.unprinted? twiceNamedValue = none := by decide +kernel
  obtain ⟨⟨hstatus, -, -⟩, hback⟩ := hshows.value twiceNamedValue hread hprinted
  exact ⟨jobsLocator_plain host, rfl, hsuccess, hfetch, r, hrun, hstatus, hread,
    hback unpaired_twiceNamedValue⟩

theorem exists_readLenient_undecodable (depth : Nat) :
    ∃ e, Json.readLenient depth [0xFF] = .error (.encoding e) := by
  have hinvalid : Utf8.decodeWide? true [0xFF] = none := by cbv
  have hdecode : Json.decode [0xFF] = .error (Utf8.firstFault true 0 [0xFF]) := by
    change Utf8.decodeWide true [0xFF] = _
    rw [Utf8.decodeWide, hinvalid]
  refine ⟨Utf8.firstFault true 0 [0xFF], ?_⟩
  unfold Json.readLenient
  rw [hdecode]
  rfl

/-- A byte that starts no character makes listing the jobs fail, and is not shown. -/
theorem jobs_of_undecodable :
    let document : FetchedDocument := { status := 200, body := [0xFF] }
    let host := SubcommandHost.showing document
    host.text document = .ok "\uFFFD" ∧
      ∃ r w, (carryOut host (.jobs "http://s")).run .bare = (.ok r, w) ∧
        r.status = 1 ∧ r.output = "" := by
  intro document host
  have htext : document.text = "\uFFFD" := by cbv
  have hfetch : host.fetch plainLocator.text = .ok document := rfl
  have hsuccess : document.isSuccess := rfl
  obtain ⟨e, he⟩ := exists_readLenient_undecodable World.bare.jsonDepth
  obtain ⟨r, hr, hshows⟩ := exists_showJobs host hsuccess World.bare.jsonDepth
  have hshown := hshows.unread _ he (by simp)
  have hrun := run_jobs (jobsLocator_plain host) rfl hfetch .bare
  rw [hr] at hrun
  refine ⟨congrArg Except.ok htext, r, _, hrun, ?_⟩
  rw [hshown]
  exact ⟨rfl, rfl⟩

end Subcommand
end ClusterAgent
