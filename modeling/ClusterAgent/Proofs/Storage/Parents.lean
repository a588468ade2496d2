import ClusterAgent.Proofs.Storage.Place
import ClusterAgent.Proofs.Storage.Refusal

/-! What a refused copy can leave behind: directories above its target, without a file in them. -/
namespace ClusterAgent

namespace FileTree

variable {t t' : FileTree} {keys : List String → Prop} {key : List String}

/-- Every node lies in a directory. -/
def Closed (t : FileTree) : Prop :=
  ∀ key part, (t.node? (key ++ [part])).isSome → t.isDirectory key

theorem Closed.isSome_node? (h : t.Closed) {rest : List String}
    (hnode : (t.node? (key ++ rest)).isSome) : (t.node? key).isSome := by
  induction rest using List.reverseRecOn with
  | nil => rwa [List.append_nil] at hnode
  | append_singleton rest part ih =>
    rw [← List.append_assoc] at hnode
    have hdirectory := isDirectory_iff.mp (h _ part hnode)
    exact ih (by rw [hdirectory]; rfl)

/-- A directory that was added holds only directories that were added with it. -/
theorem Closed.node?_below (h : t.Closed) (hadds : t.AddsWithin keys t')
    (hnone : t.node? key = none) (rest : List String) :
    t'.node? (key ++ rest) = none ∨ t'.node? (key ++ rest) = some .directory := by
  rcases hadds (key ++ rest) with hsame | ⟨-, -, hdirectory⟩
  · left
    rw [hsame, ← Option.not_isSome_iff_eq_none]
    intro hnode
    have hkey := h.isSome_node? hnode
    rw [hnone] at hkey
    cases hkey
  · exact Or.inr hdirectory

end FileTree

/-- In the second world everything is stored as it was in the first. It may have more directories of
some kind, and none of these holds a file. -/
structure World.Spares (keys : List String → Prop) (w w' : World) : Prop where
  stored : ∀ place, w'.stored? place = w.stored? place ∨ w.stored? place = none ∧
    w'.stored? place = some (.node .directory) ∧ ∃ key, keys key ∧ place = .node key
  empty : w.files.Closed → ∀ key, w.files.node? key = none → ∀ rest,
    w'.files.node? (key ++ rest) = none ∨ w'.files.node? (key ++ rest) = some .directory
  setting : w'.setting = w.setting

theorem World.AddsWithin.spares {keys : List String → Prop} {w w' : World}
    (h : w.AddsWithin keys w') : w.Spares keys w' := by
  obtain ⟨files, rfl, hadds⟩ := h
  refine ⟨?_, fun hclosed key hnone rest => hclosed.node?_below hadds hnone rest, rfl⟩
  intro place
  cases place with
  | object address => exact Or.inl rfl
  | node key =>
    unfold World.stored?
    dsimp only
    rcases hadds key with hsame | ⟨hkey, hnone, hdirectory⟩
    · rw [hsame]
      exact Or.inl rfl
    · rw [hnone, hdirectory]
      exact Or.inr ⟨rfl, rfl, key, hkey, rfl⟩

namespace Resource

open Storage

/-- A copy or staging that is refused changes nothing that is stored. Directories above the target
may have appeared. -/
theorem refusal_spares (storage : Storage) (source : LocalPath) (path application : String)
    (root : Option String) (w w' : World) (e : StorageError) :
    ((storage.copy source path).run w = (.error e, w') →
      w.Spares (storage.Parents w.workingDirectory path) w') ∧
    ((provision storage source application root).run w = (.error e, w') →
      w.Spares (fun key => ∃ target,
        (stagingPath storage application source.name root).run w = (.ok target, w) ∧
          storage.Parents w.workingDirectory target key) w') := by
  constructor
  · exact fun h => (run_copy_error h).spares
  · intro h
    rcases run_provision_error h with rfl | ⟨target, log, htarget, hadds⟩
    · exact (World.AddsWithin.refl _ w').spares
    · have hkeys : ∀ key, storage.Parents w.workingDirectory target key → ∃ target,
          (stagingPath storage application source.name root).run w = (.ok target, w) ∧
            storage.Parents w.workingDirectory target key :=
        fun key hkey => ⟨target, htarget, hkey⟩
      obtain ⟨hstored, hempty, hsetting⟩ := (hadds.mono hkeys).spares
      exact ⟨hstored, hempty, hsetting⟩

/-- One file, in the root directory. -/
def oneRootFile : World := { World.bare with files := [(["k"], .file [7] 3 0o644)] }

/-- The source of the copy is missing, but two directories appear. The staging root is a file. -/
theorem refusal_spares_oneRootFile :
    (∃ e w', ((mounted none).copy ⟨.root, ["f"]⟩ "/a/b/../g").run oneRootFile = (.error e, w') ∧
      w'.files.node? ["a", "b"] = some .directory ∧
      oneRootFile.Spares ((mounted none).Parents oneRootFile.workingDirectory "/a/b/../g") w') ∧
    ∃ e w', (provision (mounted none) ⟨.root, ["k"]⟩ "app" (some "/k")).run oneRootFile =
        (.error e, w') ∧
      oneRootFile.Spares (fun key => ∃ target,
        (stagingPath (mounted none) "app" (LocalPath.name ⟨.root, ["k"]⟩) (some "/k")).run
            oneRootFile = (.ok target, oneRootFile) ∧
          (mounted none).Parents oneRootFile.workingDirectory target key) w' := by
  have hcopy : (((mounted none).copy ⟨.root, ["f"]⟩ "/a/b/../g").run
      oneRootFile).1.toOption = none := by
    decide +kernel
  have hprovision : ((provision (mounted none) ⟨.root, ["k"]⟩ "app" (some "/k")).run
      oneRootFile).1.toOption = none := by
    decide +kernel
  obtain ⟨e, hrun⟩ := Action.run_eq_of_toOption_eq_none hcopy
  obtain ⟨e', hrun'⟩ := Action.run_eq_of_toOption_eq_none hprovision
  refine ⟨⟨e, _, hrun, by decide +kernel, ?_⟩, e', _, hrun', ?_⟩
  · exact (refusal_spares (mounted none) ⟨.root, ["f"]⟩ _ "" none oneRootFile _ e).1 hrun
  · exact (refusal_spares (mounted none) ⟨.root, ["k"]⟩ "" _ _ oneRootFile _ e').2 hrun'

end Resource
end ClusterAgent
