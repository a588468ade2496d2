import ClusterAgent.Proofs.Table
import ClusterAgent.Storage.FileTree

/-! Trees of files: where paths lead, what a change of the tree leaves as it was, and which look-ups
it cannot disturb. -/
namespace ClusterAgent

namespace LocalPath

/-- Where a part leads from a node: two dots lead up, and every other part leads down. -/
def step (key : List String) (part : String) : List String :=
  if part = ".." then key.dropLast else key ++ [part]

/-- Where parts lead from a node. -/
def resolve (key parts : List String) : List String := parts.foldl step key

/-- Where a path leads, if it leads anywhere. -/
def key (path workingDirectory : LocalPath) : List String :=
  resolve (if path.anchor = .relative then workingDirectory.parts else []) path.parts

/-- A path leads through the nodes of its prefixes. -/
def LeadsThrough (path workingDirectory : LocalPath) (key : List String) : Prop :=
  ∃ parts, parts <+: path.parts ∧ key = LocalPath.key ⟨path.anchor, parts⟩ workingDirectory

theorem leadsThrough_key (path workingDirectory : LocalPath) :
    path.LeadsThrough workingDirectory (path.key workingDirectory) :=
  ⟨path.parts, List.prefix_rfl, rfl⟩

/-- What leads to a parent directory leads through nothing else than the path does. -/
theorem LeadsThrough.of_parent {path workingDirectory : LocalPath} {key : List String}
    (h : path.parent.LeadsThrough workingDirectory key) :
    path.LeadsThrough workingDirectory key := by
  obtain ⟨parts, hparts, hkey⟩ := h
  exact ⟨parts, hparts.trans (List.dropLast_prefix _), hkey⟩

theorem resolve_append (key parts more : List String) :
    resolve key (parts ++ more) = resolve (resolve key parts) more :=
  List.foldl_append

theorem resolve_of_no_dots {parts : List String} (h : ∀ part ∈ parts, part ≠ "..")
    (key : List String) : resolve key parts = key ++ parts := by
  induction parts generalizing key with
  | nil => simp [resolve]
  | cons part parts ih =>
    rw [List.forall_mem_cons] at h
    have hstep : resolve key (part :: parts) = resolve (key ++ [part]) parts := by
      simp [resolve, step, h.1]
    rw [hstep, ih h.2, List.append_assoc, List.singleton_append]

/-- Parts only add to where they lead from. -/
theorem resolve_sublist (key parts : List String) : (resolve key parts).Sublist (key ++ parts) := by
  induction parts generalizing key with
  | nil => exact List.sublist_append_left key []
  | cons part parts ih =>
    have hstep : (step key part).Sublist (key ++ [part]) := by
      unfold step
      split
      · exact (List.dropLast_sublist key).trans (List.sublist_append_left key [part])
      · exact List.Sublist.refl _
    rw [← List.singleton_append, ← List.append_assoc]
    exact (ih (step key part)).trans (hstep.append_right parts)

end LocalPath

namespace FileTree

open LocalPath

variable {t t' t'' : FileTree} {workingDirectory path : LocalPath} {key start : List String}

/-! ### Nodes -/

theorem node?_insert (hkey : key ≠ []) (t : FileTree) (node : FileNode) (key' : List String) :
    node? (Table.insert t key node) key' = if key' = key then some node else t.node? key' := by
  unfold node?
  by_cases hroot : key' = []
  · rw [hroot, if_pos rfl, if_pos rfl, if_neg (Ne.symm hkey)]
  · rw [if_neg hroot, if_neg hroot, Table.get?_insert]
    by_cases h : key' = key
    · rw [if_pos h, if_pos (by simp [h])]
    · rw [if_neg h, if_neg (by simpa using Ne.symm h)]

theorem isDirectory_iff : t.isDirectory key ↔ t.node? key = some .directory := by
  unfold isDirectory
  exact beq_iff_eq

/-- The second tree has a node wherever the first has one, and directories stay what they are. -/
structure Extends (t t' : FileTree) : Prop where
  directory : ∀ {key}, t.isDirectory key → t'.isDirectory key
  node : ∀ {key}, (t.node? key).isSome → (t'.node? key).isSome

/-- The second tree has more directories than the first, and nothing else is different. -/
def AddsDirectories (t t' : FileTree) : Prop :=
  ∀ key, t'.node? key = t.node? key ∨ t.node? key = none ∧ t'.node? key = some .directory

/-- The second tree has more directories than the first, none of them under other keys than these,
and nothing else is different. -/
def AddsWithin (keys : List String → Prop) (t t' : FileTree) : Prop :=
  ∀ key, t'.node? key = t.node? key ∨
    keys key ∧ t.node? key = none ∧ t'.node? key = some .directory

theorem AddsWithin.addsDirectories {keys : List String → Prop} (h : t.AddsWithin keys t') :
    t.AddsDirectories t' := fun key => (h key).imp_right And.right

theorem AddsWithin.mono {keys keys' : List String → Prop} (h : t.AddsWithin keys t')
    (hkeys : ∀ key, keys key → keys' key) : t.AddsWithin keys' t' := fun key =>
  (h key).imp_right (And.imp_left (hkeys key))

theorem AddsWithin.refl (keys : List String → Prop) (t : FileTree) : t.AddsWithin keys t :=
  fun _ => Or.inl rfl

theorem AddsWithin.trans {keys : List String → Prop} (h : t.AddsWithin keys t')
    (h' : t'.AddsWithin keys t'') : t.AddsWithin keys t'' := by
  intro key
  rcases h' key with h' | ⟨hkey, hnone, hdirectory⟩
  · rw [h']
    exact h key
  · rcases h key with h | ⟨-, -, hpresent⟩
    · exact Or.inr ⟨hkey, h ▸ hnone, hdirectory⟩
    · rw [hpresent] at hnone
      cases hnone

theorem AddsDirectories.refl (t : FileTree) : t.AddsDirectories t := fun _ => Or.inl rfl

theorem AddsDirectories.node?_eq (h : t.AddsDirectories t') {node : FileNode}
    (hnode : t.node? key = some node) : t'.node? key = some node := by
  rcases h key with h | ⟨hnone, -⟩
  · rw [h, hnode]
  · rw [hnode] at hnone
    cases hnone

theorem AddsDirectories.extends (h : t.AddsDirectories t') : t.Extends t' where
  directory hdirectory := isDirectory_iff.mpr (h.node?_eq (isDirectory_iff.mp hdirectory))
  node hnode := by
    obtain ⟨node, hnode⟩ := Option.isSome_iff_exists.mp hnode
    rw [h.node?_eq hnode, Option.isSome_some]

/-- A node may be put in the place of anything but a directory. -/
theorem extends_insert (hkey : key ≠ []) (h : t.node? key ≠ some .directory) (node : FileNode) :
    t.Extends (Table.insert t key node) where
  directory {key'} hdirectory := by
    rw [isDirectory_iff] at hdirectory ⊢
    rw [node?_insert hkey, if_neg, hdirectory]
    rintro rfl
    exact h hdirectory
  node {key'} hnode := by
    rw [node?_insert hkey]
    split
    · rfl
    · exact hnode

/-! ### Paths -/

theorem locateFrom_cons_eq_ok {part : String} {rest : List String} :
    t.locateFrom start (part :: rest) = .ok key ↔
      t.isDirectory start ∧ nameFits part ∧
        if rest = [] then key = step start part
        else (t.node? (step start part)).isSome ∧
          t.locateFrom (step start part) rest = .ok key := by
  rw [locateFrom]
  dsimp only
  rw [← step]
  cases hdirectory : t.isDirectory start with
  | false => simp
  | true =>
    cases hname : nameFits part with
    | false => simp
    | true =>
      by_cases hrest : rest = []
      · simp [hrest, eq_comm]
      · cases hnode : (t.node? (step start part)).isSome with
        | false => simp [hrest]
        | true => simp [hrest]

theorem resolve_of_locateFrom {parts : List String} (h : t.locateFrom start parts = .ok key) :
    key = resolve start parts := by
  induction parts generalizing start with
  | nil => exact (Except.ok.inj h).symm
  | cons part rest ih =>
    obtain ⟨-, -, h⟩ := locateFrom_cons_eq_ok.mp h
    split at h
    · next hrest => rw [h, hrest]; rfl
    · exact ih h.2

theorem key_of_locate (h : t.locate workingDirectory path = .ok key) :
    key = path.key workingDirectory := by
  unfold locate at h
  split at h
  · cases h
  · exact resolve_of_locateFrom h

/-- A path leads to the same place in a larger tree. -/
theorem Extends.locateFrom_eq_ok (hext : t.Extends t') {parts : List String}
    (h : t.locateFrom start parts = .ok key) : t'.locateFrom start parts = .ok key := by
  induction parts generalizing start with
  | nil => exact h
  | cons part rest ih =>
    rw [locateFrom_cons_eq_ok] at h ⊢
    obtain ⟨hdirectory, hname, h⟩ := h
    refine ⟨hext.directory hdirectory, hname, ?_⟩
    split
    · next hrest => rwa [if_pos hrest] at h
    · next hrest =>
      rw [if_neg hrest] at h
      exact ⟨hext.node h.1, ih h.2⟩

theorem Extends.locate_eq_ok (hext : t.Extends t')
    (h : t.locate workingDirectory path = .ok key) : t'.locate workingDirectory path = .ok key := by
  unfold locate at h ⊢
  split
  · next hlong =>
    rw [if_pos hlong] at h
    cases h
  · next hlong =>
    rw [if_neg hlong] at h
    exact hext.locateFrom_eq_ok h

/-! ### Look-ups and changes -/

theorem stat_eq_ok {node : FileNode} : t.stat workingDirectory path = .ok node ↔
    ∃ key, t.locate workingDirectory path = .ok key ∧ t.node? key = some node := by
  unfold stat
  cases hlocate : t.locate workingDirectory path with
  | error e => simp [bind, Except.bind]
  | ok key =>
    cases hnode : t.node? key with
    | none => simp [bind, Except.bind, hnode]
    | some node' => simp [bind, Except.bind, hnode]

theorem readFile_eq_ok {content : List UInt8} :
    t.readFile workingDirectory path = .ok content ↔ ∃ key modified mode,
      t.locate workingDirectory path = .ok key ∧
        t.node? key = some (.file content modified mode) := by
  unfold readFile
  constructor
  · intro h
    cases hstat : t.stat workingDirectory path with
    | error e =>
      rw [hstat] at h
      cases h
    | ok node =>
      rw [hstat] at h
      obtain ⟨key, hkey, hnode⟩ := stat_eq_ok.mp hstat
      cases node with
      | directory => cases h
      | file content' modified mode =>
        obtain rfl : content' = content := Except.ok.inj h
        exact ⟨key, modified, mode, hkey, hnode⟩
  · rintro ⟨key, modified, mode, hkey, hnode⟩
    rw [stat_eq_ok.mpr ⟨key, hkey, hnode⟩]
    rfl

/-- New directories disturb no reading. -/
theorem AddsDirectories.readFile_eq_ok (h : t.AddsDirectories t') {content : List UInt8}
    (hread : t.readFile workingDirectory path = .ok content) :
    t'.readFile workingDirectory path = .ok content := by
  obtain ⟨key, modified, mode, hkey, hnode⟩ := FileTree.readFile_eq_ok.mp hread
  exact FileTree.readFile_eq_ok.mpr
    ⟨key, modified, mode, h.extends.locate_eq_ok hkey, h.node?_eq hnode⟩

theorem makeDirectory_eq_ok : t.makeDirectory workingDirectory path = .ok t' ↔
    ∃ key, t.locate workingDirectory path = .ok key ∧ t.node? key = none ∧
      t' = Table.insert t key .directory := by
  unfold makeDirectory
  cases hlocate : t.locate workingDirectory path with
  | error e => simp [bind, Except.bind]
  | ok key =>
    cases hnode : t.node? key with
    | none => simp [bind, Except.bind, hnode, eq_comm]
    | some node => simp [bind, Except.bind, hnode]

theorem ne_nil_of_node?_ne (h : t.node? key ≠ some .directory) : key ≠ [] := by
  rintro rfl
  exact h rfl

theorem addsWithin_of_makeDirectory (h : t.makeDirectory workingDirectory path = .ok t') :
    t.AddsWithin (· = path.key workingDirectory) t' := by
  obtain ⟨key, hlocate, hnode, rfl⟩ := makeDirectory_eq_ok.mp h
  have hkey : key ≠ [] := ne_nil_of_node?_ne (by rw [hnode]; exact nofun)
  intro key'
  rw [node?_insert hkey]
  split
  · next heq => exact Or.inr ⟨heq.trans (key_of_locate hlocate), heq ▸ hnode, rfl⟩
  · exact Or.inl rfl

/-- A file is written where no directory is. -/
theorem writeFile_eq_ok {content : List UInt8} {modified : Int} {mode : Nat}
    (h : t.writeFile workingDirectory path content modified mode = .ok t') :
    ∃ key mode', t.locate workingDirectory path = .ok key ∧ t.node? key ≠ some .directory ∧
      t' = Table.insert t key (.file content modified mode') := by
  unfold writeFile at h
  cases hlocate : t.locate workingDirectory path with
  | error e =>
    rw [hlocate] at h
    cases h
  | ok key =>
    rw [hlocate] at h
    dsimp only [bind, Except.bind] at h
    split at h
    · cases h
    · next content' modified' present hnode =>
      exact ⟨key, present, rfl, by rw [hnode]; exact nofun, (Except.ok.inj h).symm⟩
    · next hnode => exact ⟨key, mode, rfl, by rw [hnode]; exact nofun, (Except.ok.inj h).symm⟩

end FileTree
end ClusterAgent
