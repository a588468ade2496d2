import ClusterAgent.Proofs.Storage.Files
import ClusterAgent.Proofs.Storage.LocalPath
import ClusterAgent.Storage.Basic

/-! Storage on a mounted path: what its URIs lead to, and what is copied and looked up there. -/
namespace ClusterAgent

open LocalPath

namespace Storage

theorem localPath_of_parse {uri : String} {path : List Char}
    (h : Uri.parse uri = .ok ⟨"file", "", String.ofList path⟩) :
    localPath uri = .ok (.ofChars (Uri.unquoteChars path)) := by
  unfold localPath
  rw [h]
  change Except.ok (LocalPath.ofText (Uri.unquote (String.ofList path))) = _
  unfold LocalPath.ofText Uri.unquote
  rw [String.toList_ofList, String.toList_ofList]

/-- A quoted path is split off as it stands, with what the URI carries of the rest. -/
theorem parse_quoted {p : LocalPath} (habsolute : p.anchor ≠ .relative) {rest : List Char}
    {uri : String}
    (huri : uri.toList = "file://".toList ++ (Uri.quoteChars p.text.toList ++ rest)) :
    Uri.parse uri = .ok ⟨"file", "",
      String.ofList (Uri.quoteChars p.text.toList ++ Uri.carry rest)⟩ := by
  obtain ⟨path, hpath⟩ : ∃ path, Uri.quoteChars p.text.toList = '/' :: path := by
    obtain ⟨cs, hcs⟩ := exists_chars_text habsolute
    exact ⟨Uri.quoteChars cs, by rw [hcs]; exact Uri.quoteChars_append ['/'] cs⟩
  have hsurvive : ∀ c ∈ Uri.quoteChars p.text.toList, Uri.Survives c := fun c hc =>
    (Uri.survives_of_mem_quoteChars hc).2
  unfold Uri.parse
  rw [huri, ← Uri.carry_append hsurvive, hpath]
  exact Uri.parseChars_file_empty (path ++ rest)

theorem parse_toUri {p : LocalPath} (habsolute : p.anchor ≠ .relative) :
    Uri.parse p.toUri = .ok ⟨"file", "", Uri.quote p.text⟩ := by
  have huri : p.toUri.toList = "file://".toList ++ (Uri.quoteChars p.text.toList ++ []) := by
    rw [toList_toUri, List.append_nil]
  rw [parse_quoted habsolute huri, show Uri.carry [] = [] from rfl, List.append_nil]
  rfl

/-- A quoted path is read as it stands; of what follows it, escapes are read. -/
theorem localPath_quoted {p : LocalPath} (habsolute : p.anchor ≠ .relative) {rest : List Char}
    {uri : String}
    (huri : uri.toList = "file://".toList ++ (Uri.quoteChars p.text.toList ++ rest)) :
    localPath uri = .ok (.ofChars (p.text.toList ++ Uri.unquoteChars (Uri.carry rest))) := by
  rw [localPath_of_parse (parse_quoted habsolute huri), Uri.unquoteChars_quoteChars_append]

theorem localPath_toUri {p : LocalPath} (habsolute : p.anchor ≠ .relative) (hnormal : p.Normal) :
    localPath p.toUri = .ok p := by
  have huri : p.toUri.toList = "file://".toList ++ (Uri.quoteChars p.text.toList ++ []) := by
    rw [toList_toUri, List.append_nil]
  have hread : localPath p.toUri = .ok (.ofChars (p.text.toList ++ [])) :=
    localPath_quoted habsolute huri
  rw [hread, List.append_nil]
  exact congrArg Except.ok (ofText_text habsolute hnormal)

/-! ### Copies and look-ups -/

variable {home : Option String} {path : String} {w w' : World}

theorem run_qualifyLocal_eq_ok {uri : String} :
    (qualifyLocal path).run w = (.ok uri, w') ↔
      ∃ p, localPath path = .ok p ∧ uri = (p.absolute w.workingDirectory).toUri ∧ w' = w := by
  unfold qualifyLocal
  rw [Action.run_bind_eq_ok]
  constructor
  · rintro ⟨p, w₁, hparse, huri⟩
    obtain ⟨hp, rfl⟩ := Action.run_liftM_eq_ok.mp hparse
    cases huri
    exact ⟨p, hp, rfl, rfl⟩
  · rintro ⟨p, hp, rfl, rfl⟩
    exact ⟨p, w', Action.run_liftM_eq_ok.mpr ⟨hp, rfl⟩, rfl⟩

theorem run_copy_mounted_eq_ok {source : LocalPath}
    (h : ((mounted home).copy source path).run w = (.ok (), w')) :
    ∃ target w₁, localPath path = .ok target ∧ w.AddsDirectories w₁ ∧
      (Files.copy source target).run w₁ = (.ok (), w') := by
  unfold copy at h
  obtain ⟨target, w₀, hparse, hcopy⟩ := Action.run_bind_eq_ok.mp h
  obtain ⟨htarget, rfl⟩ := Action.run_liftM_eq_ok.mp hparse
  obtain ⟨_, w₁, hparents, hcopied⟩ := Action.run_bind_eq_ok.mp hcopy
  exact ⟨target, w₁, htarget, (Files.run_ensureDirectory hparents).addsDirectories, hcopied⟩

theorem run_stat_mounted_eq_ok {status : FileStatus}
    (h : ((mounted home).stat path).run w = (.ok status, w')) :
    ∃ p node, localPath path = .ok p ∧ w.files.node? (p.key w.workingDirectory) = some node ∧
      w' = w ∧ ∃ size time,
        nodeStatus (w.directoryStatus w.files (p.key w.workingDirectory)) node = (size, time) ∧
        status = ⟨(p.absolute w.workingDirectory).toUri, size, time⟩ := by
  unfold stat at h
  obtain ⟨p, w₁, hparse, hlook⟩ := Action.run_bind_eq_ok.mp h
  obtain ⟨hp, hstate⟩ := Action.run_liftM_eq_ok.mp hparse
  subst hstate
  obtain ⟨node, w₂, hstat, hdescribe⟩ := Action.run_bind_eq_ok.mp hlook
  obtain ⟨-, hnode, hstate⟩ := Files.run_query_eq_ok.mp hstat
  subst hstate
  obtain ⟨key, hkey, hfound⟩ := FileTree.stat_eq_ok.mp hnode
  obtain rfl := FileTree.key_of_locate hkey
  rw [Action.run_bind_of_ok (run_qualifyLocal_eq_ok.mpr ⟨p, hp, rfl, rfl⟩),
    Action.run_bind_of_ok (Action.run_get _)] at hdescribe
  dsimp only at hdescribe
  rw [hkey] at hdescribe
  cases hdescribe
  exact ⟨p, node, hp, hfound, rfl, _, _, rfl, rfl⟩

end Storage
end ClusterAgent
