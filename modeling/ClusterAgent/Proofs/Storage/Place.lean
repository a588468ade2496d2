import ClusterAgent.Proofs.Storage.Mounted
import ClusterAgent.Proofs.Storage.Object

/-! The places of storage: what a path names, what is stored there, and what a copy changes. -/
namespace ClusterAgent

open LocalPath

/-- Where storage keeps something. -/
inductive Place
  | node (key : List String)
  | object (address : ObjectAddress)
  deriving DecidableEq

/-- What is kept at a place. -/
inductive Item
  | node (node : FileNode)
  | object (object : StoredObject)
  deriving DecidableEq

namespace Item

def content? : Item → Option (List UInt8)
  | node .directory => none
  | node (.file content _ _) => some content
  | object o => some o.content

end Item

namespace World

def stored? (w : World) : Place → Option Item
  | .node key => (w.files.node? key).map .node
  | .object address => (w.objects.get? address).map .object

/-- The size and the modification time that storage reports for a place, in bytes and
milliseconds. -/
def status? (w : World) : Place → Option (Nat × Int)
  | .node key => (w.files.node? key).map (Storage.nodeStatus (w.directoryStatus w.files key))
  | .object address => (w.objects.get? address).map fun o =>
    (o.content.length, Timestamp.ofObject o.modified)

theorem status?_node (w : World) (key : List String) :
    w.status? (.node key) =
      (w.files.node? key).map (Storage.nodeStatus (w.directoryStatus w.files key)) := rfl

theorem status?_object (w : World) (address : ObjectAddress) :
    w.status? (.object address) = (w.objects.get? address).map fun o =>
      (o.content.length, Timestamp.ofObject o.modified) := rfl

/-- What has a content is as long as the content. -/
theorem exists_status?_of_content? {w : World} {place : Place} {item : Item} {content : List UInt8}
    (hstored : w.stored? place = some item) (hcontent : item.content? = some content) :
    ∃ time, w.status? place = some (content.length, time) := by
  cases place with
  | node key =>
    obtain ⟨node, hnode, rfl⟩ := Option.map_eq_some_iff.mp hstored
    cases node with
    | directory => cases hcontent
    | file content' modified mode =>
      obtain rfl : content' = content := Option.some.inj hcontent
      refine ⟨Timestamp.ofFile modified, ?_⟩
      rw [status?_node, hnode]
      rfl
  | object address =>
    obtain ⟨o, hobject, rfl⟩ := Option.map_eq_some_iff.mp hstored
    obtain rfl : o.content = content := Option.some.inj hcontent
    refine ⟨Timestamp.ofObject o.modified, ?_⟩
    rw [status?_object, hobject]
    rfl

/-- What is reported of a content that stays depends on nothing else. -/
theorem status?_congr {w w' : World} {place : Place} {item : Item}
    (hstored : w.stored? place = some item) (hstored' : w'.stored? place = some item)
    (hcontent : item.content?.isSome) : w'.status? place = w.status? place := by
  cases place with
  | node key =>
    obtain ⟨node, hnode, rfl⟩ := Option.map_eq_some_iff.mp hstored
    obtain ⟨node', hnode', hsame⟩ := Option.map_eq_some_iff.mp hstored'
    obtain rfl : node' = node := Item.node.inj hsame
    rw [status?_node, status?_node, hnode, hnode']
    cases node' with
    | directory => cases hcontent
    | file content modified mode => rfl
  | object address =>
    obtain ⟨o, hobject, rfl⟩ := Option.map_eq_some_iff.mp hstored
    obtain ⟨o', hobject', hsame⟩ := Option.map_eq_some_iff.mp hstored'
    obtain rfl : o' = o := Item.object.inj hsame
    rw [status?_object, status?_object, hobject, hobject']

/-- In the second world some bytes stand at a place. Everywhere else the two are the same, but for
new directories. -/
structure Stores (w w' : World) (place : Place) (content : List UInt8) : Prop where
  stored : ∃ item, w'.stored? place = some item ∧ item.content? = some content
  others : ∀ q, q ≠ place → w'.stored? q = w.stored? q ∨
    w.stored? q = none ∧ w'.stored? q = some (.node .directory)

variable {w : World}

theorem stores_insert_file {files : FileTree} (hadds : w.files.AddsDirectories files)
    {key : List String} (hnode : files.node? key ≠ some .directory) (content : List UInt8)
    (modified : Int) (mode : Nat) :
    w.Stores { w with files := files.insert key (.file content modified mode) } (.node key)
      content where
  stored := by
    refine ⟨.node (.file content modified mode), ?_, rfl⟩
    change Option.map Item.node (FileTree.node? (Table.insert files key _) key) = _
    rw [FileTree.node?_insert (FileTree.ne_nil_of_node?_ne hnode), if_pos rfl]
    rfl
  others q hq := by
    cases q with
    | object address => exact Or.inl rfl
    | node key' =>
      have hne : key' ≠ key := fun heq => hq (congrArg Place.node heq)
      have hstored : ({ w with files := files.insert key (.file content modified mode) } :
          World).stored? (.node key') = (files.node? key').map .node := by
        change Option.map Item.node (FileTree.node? (Table.insert files key _) key') = _
        rw [FileTree.node?_insert (FileTree.ne_nil_of_node?_ne hnode), if_neg hne]
      rw [hstored]
      rcases hadds key' with hsame | ⟨hnone, hdirectory⟩
      · rw [hsame]
        exact Or.inl rfl
      · refine Or.inr ⟨?_, by rw [hdirectory]; rfl⟩
        change (w.files.node? key').map Item.node = none
        rw [hnone]
        rfl

theorem stores_insert_object (w : World) (address : ObjectAddress) (object : StoredObject) :
    w.Stores { w with objects := w.objects.insert address object } (.object address)
      object.content where
  stored := by
    refine ⟨.object object, ?_, rfl⟩
    change Option.map Item.object ((w.objects.insert address object).get? address) = _
    rw [Table.get?_insert, if_pos (beq_self_eq_true address)]
    rfl
  others q hq := by
    cases q with
    | node key => exact Or.inl rfl
    | object address' =>
      refine Or.inl ?_
      change Option.map Item.object ((w.objects.insert address object).get? address') = _
      rw [Table.get?_insert, if_neg]
      · rfl
      · intro heq
        exact hq (congrArg Place.object (beq_iff_eq.mp heq).symm)

end World

namespace LocalPath

/-- A working directory: an absolute path of names. -/
structure Settled (p : LocalPath) : Prop where
  absolute : p.anchor ≠ .relative
  names : ∀ part ∈ p.parts, IsName part

theorem Settled.normal {p : LocalPath} (h : p.Settled) : p.Normal := fun part hpart =>
  (h.names part hpart).1

variable {p workingDirectory : LocalPath}

theorem absolute_absolute (h : workingDirectory.Settled) :
    (p.absolute workingDirectory).anchor ≠ .relative := by
  unfold LocalPath.absolute append
  split
  · exact h.absolute
  · next hanchor => exact hanchor

theorem normal_absolute (h : workingDirectory.Settled) (hp : p.Normal) :
    (p.absolute workingDirectory).Normal := by
  unfold LocalPath.absolute append
  split
  · intro part hpart
    rcases List.mem_append.mp hpart with hpart | hpart
    · exact h.normal part hpart
    · exact hp part hpart
  · exact hp

theorem resolve_absolute (h : workingDirectory.Settled) (p : LocalPath) :
    resolve [] (p.absolute workingDirectory).parts = p.key workingDirectory := by
  unfold LocalPath.absolute append LocalPath.key
  split
  · next hanchor =>
    have hdots : ∀ part ∈ workingDirectory.parts, part ≠ ".." := fun part hpart =>
      (h.names part hpart).2.1
    rw [resolve_append, resolve_of_no_dots hdots, List.nil_append]
  · rfl

theorem key_of_absolute (habsolute : p.anchor ≠ .relative) :
    p.key workingDirectory = resolve [] p.parts := by
  unfold LocalPath.key
  rw [if_neg habsolute]

end LocalPath

namespace Storage

variable {storage : Storage} {path : String} {w w' : World}

/-- The place that a path names. -/
def place? (storage : Storage) (workingDirectory : LocalPath) (path : String) : Option Place :=
  match storage with
  | mounted _ => (localPath path).toOption.map fun p => .node (p.key workingDirectory)
  | bucket name => (ObjectAddress.parse (qualifyObject name path)).toOption.map .object

theorem place?_mounted {home : Option String} {p workingDirectory : LocalPath}
    (h : localPath path = .ok p) :
    place? (mounted home) workingDirectory path = some (.node (p.key workingDirectory)) := by
  unfold place?
  rw [h]
  rfl

theorem place?_bucket {name : String} {address : ObjectAddress} {workingDirectory : LocalPath}
    (h : ObjectAddress.parse (qualifyObject name path) = .ok address) :
    place? (bucket name) workingDirectory path = some (.object address) := by
  unfold place?
  dsimp only
  rw [h]
  rfl

theorem exists_of_place?_bucket {name : String} {workingDirectory : LocalPath} {place : Place}
    (h : place? (bucket name) workingDirectory path = some place) :
    ∃ address, ObjectAddress.parse (qualifyObject name path) = .ok address ∧
      place = .object address := by
  cases hparse : ObjectAddress.parse (qualifyObject name path) with
  | ok address => exact ⟨address, rfl, Option.some.inj (h.symm.trans (place?_bucket hparse))⟩
  | error e =>
    unfold place? at h
    dsimp only at h
    rw [hparse] at h
    cases h

/-- A copy puts the bytes of its source at one place. -/
theorem run_copy_eq_ok {source : LocalPath} (h : (storage.copy source path).run w = (.ok (), w')) :
    ∃ place content, storage.place? w.workingDirectory path = some place ∧
      w.Stores w' place content ∧
      w'.files.readFile w.workingDirectory source = .ok content ∧
      ∀ bytes, w.files.readFile w.workingDirectory source = .ok bytes → bytes = content := by
  cases storage with
  | mounted home =>
    obtain ⟨target, w₁, htarget, ⟨files, rfl, hadds⟩, hcopy⟩ := run_copy_mounted_eq_ok h
    obtain ⟨content, mode, hread, hnode, rfl, hread'⟩ := Files.run_copy_eq_ok hcopy
    refine ⟨_, content, place?_mounted htarget, ?_, hread', ?_⟩
    · exact World.stores_insert_file hadds hnode content w.now mode
    · intro bytes hbytes
      exact Except.ok.inj ((FileTree.AddsDirectories.readFile_eq_ok hadds hbytes).symm.trans hread)
  | bucket name =>
    obtain ⟨address, content, haddress, hread, rfl⟩ := run_copy_bucket_eq_ok h
    obtain ⟨-, hcontent, -⟩ := Files.run_query_eq_ok.mp hread
    refine ⟨_, content, place?_bucket haddress, World.stores_insert_object w address _, hcontent,
      ?_⟩
    intro bytes hbytes
    exact Except.ok.inj (hbytes.symm.trans hcontent)

theorem normal_of_localPath {p : LocalPath} (h : localPath path = .ok p) : p.Normal := by
  unfold localPath at h
  split at h
  · cases h
  · split at h
    · rw [← Except.ok.inj h]
      exact normal_ofText _
    · split at h
      · rw [← Except.ok.inj h]
        exact normal_ofText _
      · cases h

/-- A path and its qualified URI name one place. -/
theorem place?_absolute {home : Option String} {p workingDirectory : LocalPath}
    (hsettled : workingDirectory.Settled) (h : localPath path = .ok p) :
    place? (mounted home) workingDirectory (p.absolute workingDirectory).toUri =
      place? (mounted home) workingDirectory path := by
  have habsolute := absolute_absolute (p := p) hsettled
  have huri := localPath_toUri habsolute (normal_absolute hsettled (normal_of_localPath h))
  rw [place?_mounted huri, place?_mounted h, key_of_absolute habsolute, resolve_absolute hsettled]

/-- What is looked up is described as it is stored. -/
theorem run_stat_eq_ok {status : FileStatus} (hsettled : w.workingDirectory.Settled)
    (h : (storage.stat path).run w = (.ok status, w')) :
    ∃ place size time, storage.place? w.workingDirectory path = some place ∧
      storage.place? w.workingDirectory status.path = some place ∧
      w.status? place = some (size, time) ∧ status.length = size ∧ status.modified = time := by
  cases storage with
  | mounted home =>
    obtain ⟨p, node, hp, hnode, -, size, time, hstatus, rfl⟩ := run_stat_mounted_eq_ok h
    have hplace : place? (mounted home) w.workingDirectory path =
        some (.node (p.key w.workingDirectory)) := place?_mounted hp
    refine ⟨_, size, time, hplace, (place?_absolute hsettled hp).trans hplace, ?_, rfl, rfl⟩
    rw [World.status?_node, hnode, Option.map_some, hstatus]
  | bucket name =>
    obtain ⟨address, object, haddress, hobject, -, rfl⟩ := run_stat_bucket_eq_ok h
    have hplace : place? (bucket name) w.workingDirectory path = some (.object address) :=
      place?_bucket haddress
    refine ⟨_, _, _, hplace, ?_, ?_, rfl, rfl⟩
    · exact place?_bucket (by rw [qualifyObject_qualifyObject, haddress])
    · rw [World.status?_object, hobject]
      rfl

end Storage
end ClusterAgent
