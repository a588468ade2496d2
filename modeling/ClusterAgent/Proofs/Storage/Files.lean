import ClusterAgent.Proofs.Storage.FileTree
import ClusterAgent.Proofs.World
import ClusterAgent.Storage.Files

/-! Actions on files. Creating a directory changes no file, whether or not it succeeds; a copy that
succeeds writes one file and leaves its source as it was. -/
namespace ClusterAgent

/-- The path can be handed to the file system. -/
def LocalPath.Nameable (path : LocalPath) : Prop := ∀ part ∈ path.parts, '\x00' ∉ part.toList

/-- The second world has more directories than the first, and nothing else is different. -/
def World.AddsDirectories (w w' : World) : Prop :=
  ∃ files, w' = { w with files } ∧ w.files.AddsDirectories files

/-- The second world has more directories than the first, none of them under other keys than these,
and nothing else is different. -/
def World.AddsWithin (keys : List String → Prop) (w w' : World) : Prop :=
  ∃ files, w' = { w with files } ∧ w.files.AddsWithin keys files

namespace World.AddsWithin

variable {keys keys' : List String → Prop} {w w' w'' : World}

theorem addsDirectories (h : w.AddsWithin keys w') : w.AddsDirectories w' := by
  obtain ⟨files, hfiles, hadds⟩ := h
  exact ⟨files, hfiles, hadds.addsDirectories⟩

theorem refl (keys : List String → Prop) (w : World) : w.AddsWithin keys w :=
  ⟨w.files, rfl, .refl keys _⟩

theorem trans (h : w.AddsWithin keys w') (h' : w'.AddsWithin keys w'') : w.AddsWithin keys w'' := by
  obtain ⟨files, rfl, hfiles⟩ := h
  obtain ⟨files', rfl, hfiles'⟩ := h'
  exact ⟨files', rfl, hfiles.trans hfiles'⟩

theorem mono (h : w.AddsWithin keys w') (hkeys : ∀ key, keys key → keys' key) :
    w.AddsWithin keys' w' := by
  obtain ⟨files, hfiles, hadds⟩ := h
  exact ⟨files, hfiles, hadds.mono hkeys⟩

theorem workingDirectory_eq (h : w.AddsWithin keys w') :
    w'.workingDirectory = w.workingDirectory := by
  obtain ⟨files, rfl, -⟩ := h
  rfl

end World.AddsWithin

namespace Files

variable {path source target : LocalPath} {w w' : World} {α : Type}
  {f : FileTree → LocalPath → Except OsCode α}

/-! ### Look-ups -/

theorem run_checkPath (path : LocalPath) (w : World) :
    ∃ r, (checkPath path).run w = (r, w) ∧ (r = .ok () ↔ path.Nameable) := by
  unfold checkPath
  cases hnull : path.parts.any fun part => part.toList.contains '\x00' with
  | true =>
    refine ⟨.error .nullByte, rfl, iff_of_false nofun ?_⟩
    intro h
    obtain ⟨part, hpart, hmem⟩ := List.any_eq_true.mp hnull
    exact h part hpart (by simpa using hmem)
  | false =>
    refine ⟨.ok (), rfl, iff_of_true rfl ?_⟩
    intro part hpart hmem
    exact absurd (by simpa using hmem) (List.any_eq_false.mp hnull part hpart)

theorem run_query (path : LocalPath) (f : FileTree → LocalPath → Except OsCode α) (w : World) :
    ∃ r, (query path f).run w = (r, w) ∧
      ∀ a, r = .ok a ↔ path.Nameable ∧ f w.files w.workingDirectory = .ok a := by
  unfold query
  obtain ⟨r, hcheck, hr⟩ := run_checkPath path w
  cases r with
  | error e =>
    refine ⟨.error e, Action.run_bind_of_error hcheck _, fun a => iff_of_false nofun ?_⟩
    exact fun h => nomatch hr.mpr h.1
  | ok _ =>
    rw [Action.run_bind_of_ok hcheck, Action.run_bind_of_ok (Action.run_get w)]
    cases hf : f w.files w.workingDirectory with
    | ok a => exact ⟨.ok a, rfl, fun b => by simp [hr.mp rfl]⟩
    | error code => exact ⟨_, rfl, fun b => by simp⟩

theorem run_query_eq_ok {a : α} : (query path f).run w = (.ok a, w') ↔
    path.Nameable ∧ f w.files w.workingDirectory = .ok a ∧ w' = w := by
  obtain ⟨r, hrun, hr⟩ := run_query path f w
  rw [hrun]
  constructor
  · intro h
    cases h
    obtain ⟨hname, hf⟩ := (hr a).mp rfl
    exact ⟨hname, hf, rfl⟩
  · rintro ⟨hname, hf, rfl⟩
    rw [(hr a).mpr ⟨hname, hf⟩]

theorem run_query_state {r : Except StorageError α} (h : (query path f).run w = (r, w')) :
    w' = w := by
  obtain ⟨r', hrun, -⟩ := run_query path f w
  rw [hrun] at h
  cases h
  rfl

/-! ### Changes -/

variable {g : FileTree → LocalPath → Except OsCode FileTree}

theorem run_query_eq (path : LocalPath) (f : FileTree → LocalPath → Except OsCode α) (w : World) :
    (query path f).run w = (if path.parts.any (·.toList.contains '\x00') then .error .nullByte
      else (f w.files w.workingDirectory).mapError fun code => .os ⟨code, some path.text⟩, w) := by
  unfold query checkPath
  split
  · rfl
  · rw [Action.run_bind_of_ok (Action.run_pure _ w), Action.run_bind_of_ok (Action.run_get w)]
    cases f w.files w.workingDirectory <;> rfl

theorem run_update_eq (path : LocalPath) (g : FileTree → LocalPath → Except OsCode FileTree)
    (w : World) : (update path g).run w =
      if path.parts.any (·.toList.contains '\x00') then (.error .nullByte, w)
      else match g w.files w.workingDirectory with
        | .ok files => (.ok (), { w with files })
        | .error code => (.error (.os ⟨code, some path.text⟩), w) := by
  have hquery := run_query_eq path g w
  unfold update
  split at hquery
  · rw [Action.run_bind_of_error hquery, if_pos ‹_›]
  · rw [if_neg ‹_›]
    cases hg : g w.files w.workingDirectory with
    | ok files =>
      rw [hg] at hquery
      exact Action.run_bind_of_ok hquery _
    | error code =>
      rw [hg] at hquery
      exact Action.run_bind_of_error hquery _

/-- A change is made as a whole or not at all. -/
theorem run_update (path : LocalPath) (g : FileTree → LocalPath → Except OsCode FileTree)
    (w : World) : (∃ e, (update path g).run w = (.error e, w)) ∨
      path.Nameable ∧ ∃ files, g w.files w.workingDirectory = .ok files ∧
        (update path g).run w = (.ok (), { w with files }) := by
  unfold update
  obtain ⟨r, hquery, hr⟩ := run_query path g w
  cases r with
  | error e => exact Or.inl ⟨e, Action.run_bind_of_error hquery _⟩
  | ok files =>
    obtain ⟨hname, hg⟩ := (hr files).mp rfl
    exact Or.inr ⟨hname, files, hg, Action.run_bind_of_ok hquery _⟩

theorem run_update_eq_ok : (update path g).run w = (.ok (), w') →
    path.Nameable ∧ ∃ files, g w.files w.workingDirectory = .ok files ∧ w' = { w with files } := by
  intro h
  obtain ⟨e, hrun⟩ | ⟨hname, files, hg, hrun⟩ := run_update path g w
  · rw [hrun] at h
    cases h
  · rw [hrun] at h
    cases h
    exact ⟨hname, files, hg, rfl⟩

/-! ### Directories -/

theorem run_isDirectory_state {r : Except StorageError Bool}
    (h : (isDirectory path).run w = (r, w')) : w' = w := by
  unfold isDirectory at h
  rw [Action.run_bind_of_ok (Action.run_get w)] at h
  split at h <;> (cases h; rfl)

theorem run_makeDirectory {r : Except StorageError Unit}
    (h : (makeDirectory path).run w = (r, w')) :
    w.AddsWithin (· = path.key w.workingDirectory) w' := by
  unfold makeDirectory at h
  obtain ⟨e, hrun⟩ | ⟨-, files, hmake, hrun⟩ :=
    run_update path (fun t d => t.makeDirectory d path) w
  · rw [Action.run_tryCatch_of_error hrun] at h
    have hstate : w' = w := by
      cases e with
      | os e =>
        dsimp only at h
        split at h
        · cases h
          rfl
        · cases hdirectory : (isDirectory path).run w with
          | mk result w₁ =>
            obtain rfl := run_isDirectory_state hdirectory
            cases result with
            | error e' =>
              rw [Action.run_bind_of_error hdirectory] at h
              cases h
              rfl
            | ok b =>
              rw [Action.run_bind_of_ok hdirectory] at h
              cases b <;> (cases h; rfl)
      | _ =>
        cases h
        rfl
    rw [hstate]
    exact .refl _ w
  · rw [Action.run_tryCatch_of_ok hrun] at h
    cases h
    exact ⟨files, rfl, FileTree.addsWithin_of_makeDirectory hmake⟩

/-- Directories are created on the way that a path leads. -/
theorem run_makeDirectories {depth : Nat} {r : Except StorageError Unit}
    (h : (makeDirectories path depth).run w = (r, w')) :
    w.AddsWithin (path.LeadsThrough w.workingDirectory) w' := by
  have hlast : ∀ {path r w₁ w₂}, (makeDirectory path).run w₁ = (r, w₂) →
      w₁.AddsWithin (path.LeadsThrough w₁.workingDirectory) w₂ := fun {path} _ _ _ hrun =>
    (run_makeDirectory hrun).mono fun _ hkey => hkey ▸ path.leadsThrough_key _
  induction depth generalizing path w w' r with
  | zero => exact hlast h
  | succ depth ih =>
    rw [makeDirectories] at h
    split at h
    · exact hlast h
    · cases hfirst : (makeDirectory path).run w with
      | mk result w₁ =>
        have hadds := hlast hfirst
        cases result with
        | ok _ =>
          rw [Action.run_tryCatch_of_ok hfirst] at h
          cases h
          exact hadds
        | error e =>
          rw [Action.run_tryCatch_of_error hfirst] at h
          split at h
          · -- the parent was missing
            cases hparent : (makeDirectories path.parent depth).run w₁ with
            | mk result w₂ =>
              have hparents := ih hparent
              rw [hadds.workingDirectory_eq] at hparents
              have hadds' := hadds.trans (hparents.mono fun _ => .of_parent)
              cases result with
              | error e =>
                rw [Action.run_bind_of_error hparent] at h
                cases h
                exact hadds'
              | ok _ =>
                rw [Action.run_bind_of_ok hparent] at h
                have hlast' := hlast h
                rw [hadds'.workingDirectory_eq] at hlast'
                exact hadds'.trans hlast'
          · cases h
            exact hadds

theorem run_ensureDirectory {r : Except StorageError Unit}
    (h : (ensureDirectory path).run w = (r, w')) :
    w.AddsWithin (path.LeadsThrough w.workingDirectory) w' :=
  run_makeDirectories h

/-! ### Copies -/

theorem run_write_eq_ok {content : List UInt8} {mode : Nat}
    (h : (write path content mode).run w = (.ok (), w')) :
    ∃ mode', w.files.locate w.workingDirectory path = .ok (path.key w.workingDirectory) ∧
      w.files.node? (path.key w.workingDirectory) ≠ some .directory ∧
      w' = { w with
        files := w.files.insert (path.key w.workingDirectory) (.file content w.now mode') } := by
  unfold write at h
  rw [Action.run_bind_of_ok (Action.run_get w)] at h
  obtain ⟨-, files, hwrite, rfl⟩ := run_update_eq_ok h
  obtain ⟨key, mode', hkey, hnode, rfl⟩ := FileTree.writeFile_eq_ok hwrite
  obtain rfl := FileTree.key_of_locate hkey
  exact ⟨mode', hkey, hnode, rfl⟩

theorem run_same_eq_ok {b : Bool} (h : (same source target).run w = (.ok b, w')) : w' = w ∧
    (b = false → ∀ key node, w.files.locate w.workingDirectory source = .ok key →
      w.files.node? key = some node → w.files.locate w.workingDirectory target ≠ .ok key) := by
  unfold same at h
  obtain ⟨r, hsource, -⟩ := run_checkPath source w
  obtain ⟨r', htarget, -⟩ := run_checkPath target w
  cases r with
  | error e =>
    rw [Action.run_bind_of_error hsource] at h
    cases h
  | ok _ =>
    rw [Action.run_bind_of_ok hsource] at h
    cases r' with
    | error e =>
      rw [Action.run_bind_of_error htarget] at h
      cases h
    | ok _ =>
      rw [Action.run_bind_of_ok htarget, Action.run_bind_of_ok (Action.run_get w)] at h
      split at h
      · next k l hk hl =>
        cases h
        refine ⟨rfl, ?_⟩
        intro hb key node hkey hnode htarget
        obtain rfl : k = key := Except.ok.inj (hk.symm.trans hkey)
        obtain rfl : l = k := Except.ok.inj (hl.symm.trans htarget)
        simp [hnode] at hb
      · next hother =>
        cases h
        exact ⟨rfl, fun _ key node hkey _ htarget => hother key key hkey htarget⟩

/-- A copy puts the bytes of its source into one file, and the source keeps them. -/
theorem run_copy_eq_ok (h : (copy source target).run w = (.ok (), w')) :
    ∃ content mode, w.files.readFile w.workingDirectory source = .ok content ∧
      w.files.node? (target.key w.workingDirectory) ≠ some .directory ∧
      w' = { w with
        files := w.files.insert (target.key w.workingDirectory) (.file content w.now mode) } ∧
      w'.files.readFile w.workingDirectory source = .ok content := by
  unfold copy at h
  obtain ⟨b, w₁, hsame, h⟩ := Action.run_bind_eq_ok.mp h
  obtain ⟨hstate, hdifferent⟩ := run_same_eq_ok hsame
  subst hstate
  cases b with
  | true => cases h
  | false =>
    obtain ⟨content, w₂, hread, hwrite⟩ := Action.run_bind_eq_ok.mp h
    obtain ⟨-, hread, hstate⟩ := run_query_eq_ok.mp hread
    subst hstate
    obtain ⟨mode, hkey, hnode, rfl⟩ := run_write_eq_ok hwrite
    refine ⟨content, mode, hread, hnode, rfl, ?_⟩
    obtain ⟨source', modified, mode', hsource, hfile⟩ := FileTree.readFile_eq_ok.mp hread
    have hne : source' ≠ target.key w₂.workingDirectory := by
      rintro rfl
      exact hdifferent rfl _ _ hsource hfile hkey
    have hroot := FileTree.ne_nil_of_node?_ne hnode
    have hextends := FileTree.extends_insert hroot hnode (.file content w₂.now mode)
    refine FileTree.readFile_eq_ok.mpr ⟨source', modified, mode', hextends.locate_eq_ok hsource, ?_⟩
    rw [FileTree.node?_insert hroot, if_neg hne, hfile]

end Files
end ClusterAgent
