import ClusterAgent.Proofs.Storage.Files
import ClusterAgent.Proofs.Uri.Basic
import ClusterAgent.Storage.Basic

/-! Storage in a bucket: what its URIs address, and what is uploaded and looked up there. -/
namespace ClusterAgent

theorem ObjectAddress.parse_eq_ok {uri : String} {address : ObjectAddress} :
    parse uri = .ok address ↔ ∃ u, Uri.parse uri = .ok u ∧ u.scheme = "s3" ∧ u.authority ≠ "" ∧
      address = ⟨u.authority, Text.trimStartOf '/' u.path⟩ := by
  unfold parse
  cases Uri.parse uri with
  | error e => simp
  | ok u =>
    dsimp only
    by_cases hbucket : (u.scheme != "s3" || u.authority = "") = true
    · rw [if_pos hbucket]
      refine iff_of_false nofun ?_
      rintro ⟨_, ⟨⟩, hs3, hauthority, -⟩
      simp [hs3, hauthority] at hbucket
    · rw [if_neg hbucket]
      simp only [Bool.or_eq_true, bne_iff_ne, ne_eq, decide_eq_true_eq, not_or, not_not] at hbucket
      constructor
      · intro h
        exact ⟨u, rfl, hbucket.1, hbucket.2, (Except.ok.inj h).symm⟩
      · rintro ⟨_, ⟨⟩, -, -, rfl⟩
        rfl

namespace Storage

variable {name path : String} {w w' : World}

theorem exists_chars_qualifyObject (name path : String) :
    ∃ body, (qualifyObject name path).toList = 's' :: '3' :: ':' :: '/' :: '/' :: body := by
  unfold qualifyObject
  split
  · next hprefix =>
    obtain ⟨body, hbody⟩ := String.startsWith_string_iff.mp hprefix
    exact ⟨body, hbody.symm⟩
  · refine ⟨name.toList ++ '/' :: (Text.trimStartOf '/' path).toList, ?_⟩
    rw [String.toList_append, String.toList_append, String.toList_append, List.append_assoc,
      List.append_assoc]
    rfl

theorem qualifyObject_of_chars {body : List Char}
    (h : path.toList = 's' :: '3' :: ':' :: '/' :: '/' :: body) :
    qualifyObject name path = path := by
  have hprefix : "s3://".isPrefixOf path = true := String.startsWith_string_iff.mpr ⟨body, h.symm⟩
  exact if_pos hprefix

/-- A path is qualified once and for all. -/
theorem qualifyObject_qualifyObject (name path : String) :
    qualifyObject name (qualifyObject name path) = qualifyObject name path := by
  obtain ⟨body, hbody⟩ := exists_chars_qualifyObject name path
  exact qualifyObject_of_chars hbody

theorem scheme_qualifyObject {u : Uri} (h : Uri.parse (qualifyObject name path) = .ok u) :
    u.scheme = "s3" := by
  obtain ⟨body, hbody⟩ := exists_chars_qualifyObject name path
  unfold Uri.parse at h
  rw [hbody, Uri.parseChars_s3] at h
  obtain ⟨-, -, rfl⟩ := Uri.parseAfter_eq_ok.mp h
  rfl

theorem run_upload_eq_ok {source : LocalPath} {address : ObjectAddress}
    (h : (upload source address).run w = (.ok (), w')) :
    ∃ content, (Files.read source).run w = (.ok content, w) ∧
      w' = { w with objects := w.objects.insert address ⟨content, w.now / 1000⟩ } := by
  unfold upload at h
  rw [Action.run_bind_of_ok (Action.run_get w)] at h
  split at h
  · cases h
  · obtain ⟨content, w₁, hread, hmodify⟩ := Action.run_bind_eq_ok.mp h
    obtain rfl := Files.run_query_state hread
    cases hmodify
    exact ⟨content, hread, rfl⟩

theorem run_copy_bucket_eq_ok {source : LocalPath}
    (h : ((bucket name).copy source path).run w = (.ok (), w')) :
    ∃ address content, ObjectAddress.parse (qualifyObject name path) = .ok address ∧
      (Files.read source).run w = (.ok content, w) ∧
      w' = { w with objects := w.objects.insert address ⟨content, w.now / 1000⟩ } := by
  unfold copy at h
  obtain ⟨address, w₁, hparse, hupload⟩ := Action.run_bind_eq_ok.mp h
  obtain ⟨haddress, rfl⟩ := Action.run_liftM_eq_ok.mp hparse
  obtain ⟨content, hread, hstate⟩ := run_upload_eq_ok hupload
  exact ⟨address, content, haddress, hread, hstate⟩

theorem run_stat_bucket_eq_ok {status : FileStatus}
    (h : ((bucket name).stat path).run w = (.ok status, w')) :
    ∃ address object, ObjectAddress.parse (qualifyObject name path) = .ok address ∧
      w.objects.get? address = some object ∧ w' = w ∧
      status = ⟨qualifyObject name path, object.content.length,
        Timestamp.ofObject object.modified⟩ := by
  unfold stat at h
  obtain ⟨address, w₁, hparse, hhead⟩ := Action.run_bind_eq_ok.mp h
  obtain ⟨haddress, hstate⟩ := Action.run_liftM_eq_ok.mp hparse
  subst hstate
  rw [Action.run_bind_of_ok (Action.run_get w₁)] at hhead
  unfold ObjectStore.head at hhead
  cases hobject : w₁.objects.get? address with
  | none =>
    rw [hobject] at hhead
    cases hhead
  | some object =>
    rw [hobject] at hhead
    cases hhead
    exact ⟨address, object, haddress, hobject, rfl, rfl⟩

end Storage
end ClusterAgent
