import ClusterAgent.Proofs.Storage.Frame
import ClusterAgent.Proofs.Storage.Mounted
import ClusterAgent.Proofs.Storage.Object

/-! Staging that is refused: it may have created directories, but it changes no file and no object.
What is copied can be described, so staging is refused before its copy is made or not at all. -/
namespace ClusterAgent

/-- In the second world the same files and objects are stored. It may have more directories. -/
structure World.KeepsStored (w w' : World) : Prop where
  files : w.files.AddsDirectories w'.files
  objects : w'.objects = w.objects

theorem World.KeepsStored.refl (w : World) : w.KeepsStored w :=
  ⟨FileTree.AddsDirectories.refl _, rfl⟩

theorem World.AddsDirectories.keepsStored {w w' : World} (h : w.AddsDirectories w') :
    w.KeepsStored w' := by
  obtain ⟨files, rfl, hfiles⟩ := h
  exact ⟨hfiles, rfl⟩

/-! ### Files -/

namespace Files

variable {path source target : LocalPath} {content : List UInt8} {mode : Nat} {w w' : World}
  {e : StorageError}

theorem run_write_error (h : (write path content mode).run w = (.error e, w')) : w' = w := by
  unfold write at h
  rw [Action.run_bind_of_ok (Action.run_get w)] at h
  obtain ⟨e', hrun⟩ | ⟨-, files, -, hrun⟩ :=
    run_update path (fun t d => t.writeFile d path content w.now mode) w
  · rw [hrun] at h
    cases h
    rfl
  · rw [hrun] at h
    cases h

theorem run_copy_error (h : (copy source target).run w = (.error e, w')) : w' = w := by
  unfold copy at h
  rcases Action.run_bind_eq_error.mp h with hsame | ⟨b, w₁, hsame, h⟩
  · exact (keeps_same (v := id) source target).eq hsame
  · obtain ⟨rfl, -⟩ := run_same_eq_ok hsame
    cases b with
    | true =>
      cases h
      rfl
    | false =>
      rcases Action.run_bind_eq_error.mp h with hread | ⟨content, w₂, hread, hwrite⟩
      · exact run_query_state hread
      · obtain rfl := run_query_state hread
        exact run_write_error hwrite

/-- What was written can be looked up. -/
theorem run_stat_of_write (h : (write path content mode).run w = (.ok (), w')) :
    ∃ node, (stat path).run w' = (.ok node, w') := by
  unfold write at h
  rw [Action.run_bind_of_ok (Action.run_get w)] at h
  obtain ⟨hname, files, hwrite, rfl⟩ := run_update_eq_ok h
  obtain ⟨key, mode', hkey, hnode, rfl⟩ := FileTree.writeFile_eq_ok hwrite
  have hroot := FileTree.ne_nil_of_node?_ne hnode
  have hextends := FileTree.extends_insert hroot hnode (.file content w.now mode')
  have hfound : FileTree.node? (Table.insert w.files key (.file content w.now mode')) key =
      some (.file content w.now mode') := by
    rw [FileTree.node?_insert hroot, if_pos rfl]
  refine ⟨.file content w.now mode', run_query_eq_ok.mpr ⟨hname, ?_, rfl⟩⟩
  exact FileTree.stat_eq_ok.mpr ⟨key, hextends.locate_eq_ok hkey, hfound⟩

theorem run_stat_of_copy (h : (copy source target).run w = (.ok (), w')) :
    ∃ node, (stat target).run w' = (.ok node, w') := by
  unfold copy at h
  obtain ⟨b, w₁, -, h⟩ := Action.run_bind_eq_ok.mp h
  cases b with
  | true => cases h
  | false =>
    obtain ⟨content, w₂, -, hwrite⟩ := Action.run_bind_eq_ok.mp h
    exact run_stat_of_write hwrite

end Files

/-! ### Storage -/

namespace Storage

variable {storage : Storage} {source : LocalPath} {path : String} {w w' : World} {e : StorageError}

theorem run_upload_error {address : ObjectAddress}
    (h : (upload source address).run w = (.error e, w')) : w' = w := by
  unfold upload at h
  rw [Action.run_bind_of_ok (Action.run_get w)] at h
  split at h
  · cases h
    rfl
  · rcases Action.run_bind_eq_error.mp h with hread | ⟨content, w₁, -, hmodify⟩
    · exact Files.run_query_state hread
    · cases hmodify

/-- The nodes that a path leads through before its last part; objects have none. -/
def Parents : Storage → LocalPath → String → List String → Prop
  | mounted _, workingDirectory, path, key =>
    ∃ target, localPath path = .ok target ∧ target.parent.LeadsThrough workingDirectory key
  | bucket _, _, _, _ => False

/-- A copy that is refused changes nothing but directories above its target. -/
theorem run_copy_error (h : (storage.copy source path).run w = (.error e, w')) :
    w.AddsWithin (storage.Parents w.workingDirectory path) w' := by
  cases storage with
  | mounted home =>
    unfold copy at h
    rcases Action.run_bind_eq_error.mp h with hparse | ⟨target, w₁, hparse, hrest⟩
    · obtain rfl : w' = w := (Action.keeps_liftM (v := id) _).eq hparse
      exact .refl _ w'
    · obtain ⟨htarget, rfl⟩ := Action.run_liftM_eq_ok.mp hparse
      have hleads : ∀ key, target.parent.LeadsThrough w₁.workingDirectory key →
          (mounted home).Parents w₁.workingDirectory path key := fun key hkey =>
        ⟨target, htarget, hkey⟩
      rcases Action.run_bind_eq_error.mp hrest with hparents | ⟨_, w₂, hparents, hcopy⟩
      · exact (Files.run_ensureDirectory hparents).mono hleads
      · obtain rfl := Files.run_copy_error hcopy
        exact (Files.run_ensureDirectory hparents).mono hleads
  | bucket name =>
    unfold copy at h
    rcases Action.run_bind_eq_error.mp h with hparse | ⟨address, w₁, hparse, hupload⟩
    · obtain rfl : w' = w := (Action.keeps_liftM (v := id) _).eq hparse
      exact .refl _ w'
    · obtain ⟨-, rfl⟩ := Action.run_liftM_eq_ok.mp hparse
      obtain rfl := run_upload_error hupload
      exact .refl _ _

/-- What was copied can be described. -/
theorem run_stat_of_copy (h : (storage.copy source path).run w = (.ok (), w')) :
    ∃ status, (storage.stat path).run w' = (.ok status, w') := by
  cases storage with
  | mounted home =>
    obtain ⟨target, w₁, htarget, -, hcopy⟩ := run_copy_mounted_eq_ok h
    obtain ⟨node, hnode⟩ := Files.run_stat_of_copy hcopy
    have hqualify := run_qualifyLocal_eq_ok (w := w').mpr ⟨target, htarget, rfl, rfl⟩
    unfold stat
    rw [Action.run_bind_of_ok (Action.run_liftM_eq_ok.mpr ⟨htarget, rfl⟩),
      Action.run_bind_of_ok hnode, Action.run_bind_of_ok hqualify]
    cases node <;> exact ⟨_, rfl⟩
  | bucket name =>
    obtain ⟨address, content, haddress, -, rfl⟩ := run_copy_bucket_eq_ok h
    have hobject : (w.objects.insert address ⟨content, w.now / 1000⟩).get? address =
        some ⟨content, w.now / 1000⟩ := by
      rw [Table.get?_insert, if_pos (beq_self_eq_true address)]
    unfold stat ObjectStore.head
    rw [Action.run_bind_of_ok (Action.run_liftM_eq_ok.mpr ⟨haddress, rfl⟩),
      Action.run_bind_of_ok (Action.run_get _)]
    dsimp only
    rw [hobject]
    exact ⟨_, rfl⟩

end Storage

/-! ### Resources -/

namespace Resource

variable {storage : Storage} {source : LocalPath} {application : String} {root : Option String}
  {w w' : World} {e : StorageError}

theorem run_register_of_copy {target : String}
    (h : (storage.copy source target).run w = (.ok (), w')) :
    ∃ resource, (register storage target).run w' = (.ok resource, w') := by
  obtain ⟨status, hstat⟩ := Storage.run_stat_of_copy h
  unfold register
  rw [Action.run_bind_of_ok hstat]
  exact ⟨_, rfl⟩

/-- Staging that is refused changes nothing but the log and directories above its target. -/
theorem run_provision_error
    (h : (provision storage source application root).run w = (.error e, w')) :
    w' = w ∨ ∃ target log,
      (stagingPath storage application source.name root).run w = (.ok target, w) ∧
      { w with log }.AddsWithin (storage.Parents w.workingDirectory target) w' := by
  unfold provision at h
  rcases Action.run_bind_eq_error.mp h with htarget | ⟨target, w₁, htarget, hrest⟩
  · exact Or.inl ((keeps_stagingPath (v := id) storage _ _ root).eq htarget)
  · have hstate : w₁ = w := (keeps_stagingPath (v := id) storage _ _ root).eq htarget
    subst hstate
    rw [Action.run_bind_of_ok (Action.run_logInfo _ _)] at hrest
    rcases Action.run_bind_eq_error.mp hrest with hcopy | ⟨_, w₂, hcopy, hregister⟩
    · have hadds := Storage.run_copy_error hcopy
      exact Or.inr ⟨target, _, htarget, hadds⟩
    · obtain ⟨resource, hdescribed⟩ := run_register_of_copy hcopy
      rw [hdescribed] at hregister
      cases hregister

/-- Staging that is refused changes nothing but directories. -/
theorem keepsStored_of_provision_error
    (h : (provision storage source application root).run w = (.error e, w')) :
    w.KeepsStored w' := by
  rcases run_provision_error h with rfl | ⟨target, log, -, hadds⟩
  · exact .refl w'
  · obtain ⟨hfiles, hobjects⟩ := hadds.addsDirectories.keepsStored
    exact ⟨hfiles, hobjects⟩

end Resource
end ClusterAgent
