import ClusterAgent.Launch.Parameters
import ClusterAgent.Proofs.Storage.Place
import ClusterAgent.Proofs.Table
import ClusterAgent.Proofs.Text.Numeral
import ClusterAgent.Resource
import Mathlib.Data.List.DropRight

/-! The mounts of a container: which paths of the host it has, and where. A local resource is
mounted under the path as its URI writes it, in one directory for all. -/
namespace ClusterAgent

namespace LaunchParameters

variable {volumes volumes' : Table String String} {spec : LaunchSpec} {params : LaunchParameters}
  {tokenFile : LocalPath} {command : List String}

/-! ### Base names -/

theorem toList_baseName (path : String) :
    (baseName path).toList = path.toList.rtakeWhile (· != '/') := by
  unfold baseName
  rw [String.toList_ofList]
  rfl

theorem slash_not_mem_baseName (path : String) : '/' ∉ (baseName path).toList := by
  intro h
  rw [toList_baseName] at h
  exact absurd (List.mem_rtakeWhile_imp h) (by decide)

theorem baseName_of_not_mem {path : String} (h : '/' ∉ path.toList) : baseName path = path := by
  rw [← String.toList_inj, toList_baseName, List.rtakeWhile_eq_self_iff]
  intro c hc
  rw [bne_iff_ne]
  rintro rfl
  exact h hc

theorem baseName_of_append {path name : String} (before : List Char)
    (hpath : path.toList = before ++ '/' :: name.toList) (hname : '/' ∉ name.toList) :
    baseName path = name := by
  have hkept : ∀ c ∈ name.toList.reverse, (c != '/') = true := by
    intro c hc
    rw [bne_iff_ne]
    rintro rfl
    exact hname (List.mem_reverse.mp hc)
  rw [← String.toList_inj, toList_baseName, hpath, List.rtakeWhile, List.reverse_append,
    List.reverse_cons, List.append_assoc, List.takeWhile_append_of_pos hkept,
    List.singleton_append, List.takeWhile_cons_of_neg (by decide), List.append_nil,
    List.reverse_reverse]

theorem exists_append_baseName {path : String} (h : '/' ∈ path.toList) :
    ∃ before, path.toList = before ++ '/' :: (baseName path).toList := by
  obtain ⟨name, before, hpath, hname⟩ :=
    List.eq_append_cons_of_mem (List.mem_reverse.mpr h)
  have hchars : path.toList = before.reverse ++ '/' :: name.reverse := by
    rw [← List.reverse_reverse path.toList, hpath]
    simp
  have hbase : baseName path = String.ofList name.reverse :=
    baseName_of_append before.reverse (by rw [String.toList_ofList, hchars]) (by simpa using hname)
  exact ⟨before.reverse, by rw [hbase, String.toList_ofList, hchars]⟩

/-- A path may be quoted before or after its base name is taken. -/
theorem baseName_quote (path : String) : baseName (Uri.quote path) = Uri.quote (baseName path) := by
  have hquote (s : String) : (Uri.quote s).toList = Uri.quoteChars s.toList := by
    rw [Uri.quote, String.toList_ofList]
  by_cases hslash : '/' ∈ path.toList
  · obtain ⟨before, hpath⟩ := exists_append_baseName hslash
    have hname : '/' ∉ (Uri.quote (baseName path)).toList := by
      rw [hquote]
      exact Uri.slash_not_mem_quoteChars (slash_not_mem_baseName path)
    refine baseName_of_append (Uri.quoteChars before) ?_ hname
    rw [hquote, hquote, hpath, ← List.singleton_append, Uri.quoteChars_append,
      Uri.quoteChars_append, Uri.quoteChars_singleton (by decide), List.singleton_append]
  · rw [baseName_of_not_mem hslash, baseName_of_not_mem]
    rw [hquote]
    exact Uri.slash_not_mem_quoteChars hslash

/-! ### Volumes -/

/-- The path of a local resource, as its URI writes it. -/
def filePath? (r : Resource) : Option String :=
  match Uri.parse r.uri with
  | .ok uri => if uri.scheme = "file" then some uri.path else none
  | .error _ => none

def filePaths (resources : List Resource) : List String := resources.filterMap filePath?

/-- Where a path of the host is mounted. -/
def mountTarget (path : String) : String := workingDirectoryPath ++ "/" ++ baseName path

theorem mountResources_of_parse {r : Resource} {uri : Uri} (h : Uri.parse r.uri = .ok uri)
    (volumes : Table String String) (rest : List Resource) :
    mountResources volumes (r :: rest) = mountResources
      ((filePath? r).elim volumes fun path => volumes.insert path (mountTarget path)) rest := by
  unfold filePath?
  rw [mountResources, h]
  dsimp only [bind, Except.bind]
  split <;> rfl

theorem exists_mountResources_iff (volumes : Table String String) {resources : List Resource} :
    (∃ volumes', mountResources volumes resources = .ok volumes') ↔
      ∀ r ∈ resources, ∃ uri, Uri.parse r.uri = .ok uri := by
  induction resources generalizing volumes with
  | nil => exact iff_of_true ⟨volumes, rfl⟩ nofun
  | cons r rest ih =>
    rw [List.forall_mem_cons]
    cases hparse : Uri.parse r.uri with
    | error e =>
      rw [mountResources, hparse]
      exact iff_of_false (by rintro ⟨_, ⟨⟩⟩) (by rintro ⟨⟨_, ⟨⟩⟩, -⟩)
    | ok uri =>
      rw [mountResources_of_parse hparse, ih]
      exact (and_iff_right ⟨uri, rfl⟩).symm

/-- A local path of any of the resources is mounted in the working directory. All other paths are
mounted as before. -/
theorem get?_mountResources {resources : List Resource}
    (h : mountResources volumes resources = .ok volumes') (path : String) :
    volumes'.get? path =
      if path ∈ filePaths resources then some (mountTarget path) else volumes.get? path := by
  induction resources generalizing volumes with
  | nil =>
    cases h
    rfl
  | cons r rest ih =>
    obtain ⟨hfirst, -⟩ := List.forall_mem_cons.mp ((exists_mountResources_iff volumes).mp ⟨_, h⟩)
    obtain ⟨uri, hparse⟩ := hfirst
    rw [mountResources_of_parse hparse] at h
    rw [ih h]
    cases hr : filePath? r with
    | none => simp [filePaths, hr]
    | some mounted =>
      rw [Option.elim_some, Table.get?_insert]
      by_cases hpath : mounted = path
      · simp [filePaths, hr, hpath]
      · have hpath' : path ≠ mounted := Ne.symm hpath
        simp [filePaths, hr, hpath, hpath']

theorem resourcesText_eq_ok {resources : List Resource} {text : String} :
    resourcesText resources = .ok text ↔ (∀ r ∈ resources, r.isWritable) ∧
      text = Json.printAscii .ascii (.arr (resources.map Schema.toJson)) := by
  unfold resourcesText
  rw [← List.all_eq_true]
  split
  next hall =>
    rw [Except.ok.injEq, eq_comm]
    exact (and_iff_right hall).symm
  next hall => exact iff_of_false nofun fun h => hall h.1

theorem ofSpec_eq_ok : ofSpec spec tokenFile command = .ok params ↔
    ∃ text volumes budget, resourcesText spec.resources = .ok text ∧
      mountResources [(tokenFile.text, tokenFilePath)] spec.resources = .ok volumes ∧
      Text.writeInteger spec.budget = .ok budget ∧
      params = ⟨environmentOf spec text, volumes, workingDirectoryPath,
        budget ++ "m", command⟩ := by
  unfold ofSpec
  cases resourcesText spec.resources with
  | error e => exact iff_of_false nofun (by rintro ⟨_, _, _, ⟨⟩, -⟩)
  | ok text =>
    cases mountResources [(tokenFile.text, tokenFilePath)] spec.resources with
    | error e => exact iff_of_false nofun (by rintro ⟨_, _, _, -, ⟨⟩, -⟩)
    | ok volumes =>
      cases Text.writeInteger spec.budget with
      | error e => exact iff_of_false nofun (by rintro ⟨_, _, _, -, -, ⟨⟩, -⟩)
      | ok budget =>
        constructor
        · intro h
          exact ⟨text, volumes, budget, rfl, rfl, rfl, (Except.ok.inj h).symm⟩
        · rintro ⟨_, _, _, ⟨⟩, ⟨⟩, ⟨⟩, rfl⟩
          rfl

end LaunchParameters

/-- A specification has parameters when its numbers can be written and the URIs of its resources can
be read. -/
structure LaunchSpec.HasParameters (spec : LaunchSpec) : Prop where
  numbers : ∀ r ∈ spec.resources, r.isWritable
  budget : Text.isWritable spec.budget
  uris : ∀ r ∈ spec.resources, ∃ uri, Uri.parse r.uri = .ok uri

namespace LaunchParameters

variable {spec : LaunchSpec} {params : LaunchParameters} {tokenFile : LocalPath}
  {command : List String}

theorem exists_ofSpec_iff :
    (∃ params, ofSpec spec tokenFile command = .ok params) ↔ spec.HasParameters := by
  constructor
  · rintro ⟨params, h⟩
    obtain ⟨text, volumes, budget, htext, hvolumes, hbudget, -⟩ := ofSpec_eq_ok.mp h
    exact ⟨(resourcesText_eq_ok.mp htext).1, (Text.writeInteger_eq_ok.mp hbudget).1,
      (exists_mountResources_iff _).mp ⟨volumes, hvolumes⟩⟩
  · rintro ⟨hnumbers, hbudget, huris⟩
    obtain ⟨volumes, hvolumes⟩ :=
      (exists_mountResources_iff [(tokenFile.text, tokenFilePath)]).mpr huris
    exact ⟨_, ofSpec_eq_ok.mpr ⟨_, volumes, _, resourcesText_eq_ok.mpr ⟨hnumbers, rfl⟩, hvolumes,
      Text.writeInteger_eq_ok.mpr ⟨hbudget, rfl⟩, rfl⟩⟩

theorem get?_volumes (h : ofSpec spec tokenFile command = .ok params) (path : String) :
    params.volumes.get? path =
      if path ∈ filePaths spec.resources then some (mountTarget path)
      else if tokenFile.text = path then some tokenFilePath else none := by
  obtain ⟨text, volumes, budget, -, hvolumes, -, rfl⟩ := ofSpec_eq_ok.mp h
  change volumes.get? path = _
  rw [get?_mountResources hvolumes]
  unfold Table.get?
  rw [List.find?_singleton]
  by_cases htoken : tokenFile.text = path <;> simp [htoken]

/-! ### Places of the container -/

/-- Where a path leads in the container. -/
def containerKey (target : String) : List String := (LocalPath.ofText target).key ⟨.root, []⟩

/-- Two names lead from a directory to the same place. Nothing and a dot lead to the directory
itself. -/
def SameEntry (name name' : String) : Prop :=
  name = name' ∨ name ∈ ["", "."] ∧ name' ∈ ["", "."]

instance (name name' : String) : Decidable (SameEntry name name') :=
  inferInstanceAs (Decidable (_ ∨ _ ∧ _))

/-- The working directory is that of the container. -/
theorem ofText_mountTarget (path : String) :
    (LocalPath.ofText (mountTarget path)).anchor ≠ .relative ∧
    (LocalPath.ofText (mountTarget path)).parts =
      ["floe", "work"] ++ if baseName path ∈ ["", "."] then [] else [baseName path] := by
  have hchars : (mountTarget path).toList =
      workingDirectoryPath.toList ++ '/' :: (baseName path).toList := by
    unfold mountTarget
    rw [String.toList_append, String.toList_append, show "/".toList = ['/'] from rfl,
      List.append_assoc, List.singleton_append]
  have hdirectory : (LocalPath.ofChars workingDirectoryPath.toList).parts = ["floe", "work"] := by
    decide +kernel
  unfold LocalPath.ofText
  rw [hchars]
  constructor
  · exact LocalPath.anchor_ofChars_slash _
  · rw [LocalPath.parts_ofChars_append, hdirectory,
      LocalPath.parts_ofChars_slash (slash_not_mem_baseName path)]

theorem containerKey_mountTarget (path : String) : containerKey (mountTarget path) =
    if baseName path ∈ ["", "."] then ["floe", "work"]
    else if baseName path = ".." then ["floe"] else ["floe", "work", baseName path] := by
  obtain ⟨habsolute, hparts⟩ := ofText_mountTarget path
  unfold containerKey
  rw [LocalPath.key_of_absolute habsolute, hparts, LocalPath.resolve_append]
  have hdirectory : LocalPath.resolve [] ["floe", "work"] = ["floe", "work"] := by decide
  rw [hdirectory]
  split
  · rfl
  · by_cases hdots : baseName path = ".."
    · rw [if_pos hdots, hdots]
      decide
    · rw [if_neg hdots, LocalPath.resolve_of_no_dots (by simpa using hdots)]
      rfl

/-- Two paths are mounted at one place when they have the same base name. -/
theorem containerKey_mountTarget_eq_iff {path path' : String} :
    containerKey (mountTarget path) = containerKey (mountTarget path') ↔
      SameEntry (baseName path) (baseName path') := by
  rw [containerKey_mountTarget, containerKey_mountTarget]
  unfold SameEntry
  grind

theorem containerKey_mountTarget_ne (path : String) :
    containerKey (mountTarget path) ≠ containerKey tokenFilePath := by
  have htoken : containerKey tokenFilePath = ["run", "floe", "container_tokens"] := by
    decide +kernel
  rw [htoken, containerKey_mountTarget]
  split_ifs <;> simp

/-- A path of the host is mounted, and nothing else is mounted where it is. -/
structure MountedAlone (volumes : Table String String) (path target : String) : Prop where
  mounted : volumes.get? path = some target
  alone : ∀ other target', volumes.get? other = some target' →
    containerKey target' = containerKey target → other = path

theorem mountedAlone_tokenFile (h : ofSpec spec tokenFile command = .ok params)
    (hfree : tokenFile.text ∉ filePaths spec.resources) :
    MountedAlone params.volumes tokenFile.text tokenFilePath where
  mounted := by
    rw [get?_volumes h, if_neg hfree, if_pos rfl]
  alone other target' hother hplace := by
    rw [get?_volumes h] at hother
    split_ifs at hother with hfile htoken
    · cases hother
      exact absurd hplace (containerKey_mountTarget_ne other)
    · exact htoken.symm

theorem mountedAlone_iff (h : ofSpec spec tokenFile command = .ok params) {path : String}
    (hpath : path ∈ filePaths spec.resources) :
    MountedAlone params.volumes path (mountTarget path) ↔
      ∀ other ∈ filePaths spec.resources, SameEntry (baseName other) (baseName path) →
        other = path := by
  constructor
  · rintro ⟨-, halone⟩ other hother hsame
    refine halone other (mountTarget other) ?_ (containerKey_mountTarget_eq_iff.mpr hsame)
    rw [get?_volumes h, if_pos hother]
  · intro hunique
    refine ⟨by rw [get?_volumes h, if_pos hpath], ?_⟩
    intro other target' hother hplace
    rw [get?_volumes h] at hother
    split_ifs at hother with hfile htoken
    · cases hother
      exact hunique other hfile (containerKey_mountTarget_eq_iff.mp hplace)
    · cases hother
      exact absurd hplace.symm (containerKey_mountTarget_ne path)

/-- The token file and the local resources are all mounted. A resource is alone at its place unless
another has the same base name. -/
theorem ofSpec_mountsAlone (spec : LaunchSpec) (tokenFile : LocalPath) (command : List String) :
    ((∃ params, ofSpec spec tokenFile command = .ok params) ↔ spec.HasParameters) ∧
    ∀ params, ofSpec spec tokenFile command = .ok params →
      (tokenFile.text ∉ filePaths spec.resources →
        MountedAlone params.volumes tokenFile.text tokenFilePath) ∧
      ∀ path ∈ filePaths spec.resources,
        params.volumes.get? path = some (workingDirectoryPath ++ "/" ++ baseName path) ∧
        (MountedAlone params.volumes path (mountTarget path) ↔
          ∀ other ∈ filePaths spec.resources, SameEntry (baseName other) (baseName path) →
            other = path) := by
  refine ⟨exists_ofSpec_iff, ?_⟩
  intro params hparams
  refine ⟨mountedAlone_tokenFile hparams, ?_⟩
  intro path hpath
  refine ⟨?_, mountedAlone_iff hparams hpath⟩
  rw [get?_volumes hparams, if_pos hpath]
  rfl

/-- Files of one name in two directories, and one of another name. -/
def crowdedSpec : LaunchSpec :=
  ⟨1000, 800, [], [⟨"file:///a/x", 1, 0, .application, .file⟩,
    ⟨"s3://b/x", 2, 0, .application, .file⟩, ⟨"file:///b/x", 3, 0, .application, .file⟩,
    ⟨"file:///b/y", 4, 0, .application, .file⟩], [], by decide⟩

theorem ofSpec_crowdedSpec (tokenFile : LocalPath) :
    ∃ params, ofSpec crowdedSpec tokenFile [] = .ok params := by
  have hparse : ∀ r ∈ crowdedSpec.resources, (Uri.parse r.uri).isOk = true := by decide +kernel
  refine exists_ofSpec_iff.mpr ⟨by decide, by decide, ?_⟩
  intro r hr
  cases huri : Uri.parse r.uri with
  | ok uri => exact ⟨uri, rfl⟩
  | error e =>
    have hok := hparse r hr
    rw [huri] at hok
    cases hok

theorem filePaths_crowdedSpec : filePaths crowdedSpec.resources = ["/a/x", "/b/x", "/b/y"] := by
  decide +kernel

theorem ofSpec_mountsAlone_crowdedSpec : ∃ params,
    ofSpec crowdedSpec (.ofText "/t/c.tokens") [] = .ok params ∧
    MountedAlone params.volumes "/t/c.tokens" tokenFilePath ∧
    MountedAlone params.volumes "/b/y" "/floe/work/y" := by
  obtain ⟨params, hparams⟩ := ofSpec_crowdedSpec (.ofText "/t/c.tokens")
  obtain ⟨htoken, hfiles⟩ :=
    (ofSpec_mountsAlone crowdedSpec (.ofText "/t/c.tokens") []).2 params hparams
  rw [filePaths_crowdedSpec] at htoken hfiles
  have hother : ∀ other ∈ ["/a/x", "/b/x", "/b/y"],
      SameEntry (baseName other) (baseName "/b/y") → other = "/b/y" := by
    decide +kernel
  exact ⟨params, hparams, htoken (by decide +kernel),
    ((hfiles "/b/y" (by decide +kernel)).2.mpr hother :)⟩

/-- A URI that cannot be read. -/
def unreadableSpec : LaunchSpec :=
  ⟨1000, 800, [], [⟨"file://[", 1, 0, .application, .file⟩], [], by decide⟩

/-- Two local resources may be at one place, a resource may be mounted in place of the token file,
and not every specification has mounts. -/
theorem not_mountsAlone_crowdedSpec :
    (∃ params, ofSpec crowdedSpec (.ofText "/b/y") [] = .ok params ∧
      params.volumes.get? "/a/x" = some "/floe/work/x" ∧
      params.volumes.get? "/b/x" = some "/floe/work/x" ∧
      params.volumes.get? "/b/y" = some "/floe/work/y") ∧
    ∀ params, ofSpec unreadableSpec (.ofText "/t/c.tokens") [] ≠ .ok params := by
  constructor
  · obtain ⟨params, hparams⟩ := ofSpec_crowdedSpec (.ofText "/b/y")
    have hvolume := get?_volumes hparams
    rw [filePaths_crowdedSpec] at hvolume
    refine ⟨params, hparams, ?_, ?_, ?_⟩
    · exact (hvolume "/a/x").trans (by decide +kernel)
    · exact (hvolume "/b/x").trans (by decide +kernel)
    · exact (hvolume "/b/y").trans (by decide +kernel)
  · intro params hparams
    obtain ⟨uri, huri⟩ := (exists_ofSpec_iff.mp ⟨params, hparams⟩).uris
      ⟨"file://[", 1, 0, .application, .file⟩ List.mem_cons_self
    have hfails : (Uri.parse "file://[").isOk = false := by decide +kernel
    rw [huri] at hfails
    cases hfails

/-! ### Registered resources -/

theorem mem_filePaths_of_register {home : Option String} {path : String} {resource : Resource}
    {w w' : World} (hsettled : w.workingDirectory.Settled)
    (h : (Resource.register (.mounted home) path).run w = (.ok resource, w')) :
    ∃ p node, Storage.localPath path = .ok p ∧
      w.files.node? (p.key w.workingDirectory) = some node ∧
      filePath? resource = some (Uri.quote (p.absolute w.workingDirectory).text) := by
  unfold Resource.register at h
  obtain ⟨status, w₁, hstat, hresource⟩ := Action.run_bind_eq_ok.mp h
  obtain ⟨p, node, hp, hnode, -, size, time, -, rfl⟩ := Storage.run_stat_mounted_eq_ok hstat
  cases hresource
  refine ⟨p, node, hp, hnode, ?_⟩
  unfold filePath?
  dsimp only
  rw [Storage.parse_toUri (LocalPath.absolute_absolute hsettled)]
  rfl

theorem mountTarget_ne_tokenFilePath (path : String) : mountTarget path ≠ tokenFilePath := by
  intro h
  exact containerKey_mountTarget_ne path (congrArg containerKey h)

/-- A registered file is mounted as its URI writes it: its path and base name are quoted. That is
the path itself if nothing in it has to be escaped, and only then. -/
theorem ofSpec_mounts_registered {home : Option String} {path : String} {resource : Resource}
    {w w' : World} (tokenFile : LocalPath) (command : List String)
    (hsettled : w.workingDirectory.Settled)
    (hregister : (Resource.register (.mounted home) path).run w = (.ok resource, w'))
    (hresource : resource ∈ spec.resources) :
    ((∃ params, ofSpec spec tokenFile command = .ok params) ↔ spec.HasParameters) ∧
    ∃ p node host, Storage.localPath path = .ok p ∧
      w.files.node? (p.key w.workingDirectory) = some node ∧
      host = (p.absolute w.workingDirectory).text ∧
      (Uri.quote host = host ↔ ∀ c ∈ host.toList, Uri.isPlain c) ∧
      ∀ params, ofSpec spec tokenFile command = .ok params →
        params.volumes.get? (Uri.quote host) =
          some (workingDirectoryPath ++ "/" ++ Uri.quote (baseName host)) ∧
        (params.volumes.get? host = some (workingDirectoryPath ++ "/" ++ baseName host) ↔
          host ∈ filePaths spec.resources) := by
  obtain ⟨p, node, hp, hnode, hpath⟩ := mem_filePaths_of_register hsettled hregister
  refine ⟨exists_ofSpec_iff, p, node, _, hp, hnode, rfl, Uri.quote_eq_self_iff, ?_⟩
  intro params hparams
  have hmem : Uri.quote (p.absolute w.workingDirectory).text ∈ filePaths spec.resources :=
    List.mem_filterMap.mpr ⟨resource, hresource, hpath⟩
  constructor
  · rw [get?_volumes hparams, if_pos hmem, mountTarget, baseName_quote]
  · rw [get?_volumes hparams]
    constructor
    · intro hbound
      by_contra hother
      rw [if_neg hother] at hbound
      split_ifs at hbound
      exact mountTarget_ne_tokenFilePath _ (Option.some.inj hbound).symm
    · intro hfile
      rw [if_pos hfile]
      rfl

/-- A file with a blank in its name. -/
def spacedName : World := { World.bare with files := [(["a b"], .file [1] 0 0o644)] }

def spacedNameSpec : LaunchSpec :=
  ⟨1000, 800, [], [⟨"file:///a%20b", 1, 0, .application, .file⟩], [], by decide⟩

theorem run_register_spacedName :
    (Resource.register (.mounted none) "/a b").run spacedName =
      (.ok ⟨"file:///a%20b", 1, 0, .application, .file⟩,
        ((Resource.register (.mounted none) "/a b").run spacedName).2) :=
  Action.run_eq_of_toOption (by decide +kernel)

theorem ofSpec_mounts_spacedName : spacedName.workingDirectory.Settled ∧
    (∃ w', (Resource.register (.mounted none) "/a b").run spacedName =
      (.ok ⟨"file:///a%20b", 1, 0, .application, .file⟩, w')) ∧
    ⟨"file:///a%20b", 1, 0, .application, .file⟩ ∈ spacedNameSpec.resources ∧
    ∃ params, ofSpec spacedNameSpec (.ofText "/t/c.tokens") [] = .ok params ∧
      params.volumes.get? "/a%20b" = some "/floe/work/a%20b" := by
  have hsettled : spacedName.workingDirectory.Settled := ⟨by decide, nofun⟩
  have hresource : ⟨"file:///a%20b", 1, 0, .application, .file⟩ ∈ spacedNameSpec.resources :=
    List.mem_cons_self
  have hparse : Uri.parse "file:///a%20b" = .ok ⟨"file", "", "/a%20b"⟩ := by decide +kernel
  have hpath : Storage.localPath "/a b" = .ok ⟨.root, ["a b"]⟩ := by decide +kernel
  obtain ⟨hsome, p, node, host, hp, -, hhost, -, hmounted⟩ :=
    ofSpec_mounts_registered (.ofText "/t/c.tokens") [] hsettled run_register_spacedName hresource
  obtain ⟨params, hparams⟩ :=
    hsome.mpr ⟨by decide, by decide, List.forall_mem_singleton.mpr ⟨_, hparse⟩⟩
  obtain rfl : p = ⟨.root, ["a b"]⟩ := Except.ok.inj (hp.symm.trans hpath)
  have hvolume := (hmounted params hparams).1
  have hquote : Uri.quote host = "/a%20b" := hhost ▸ by decide +kernel
  have hbase : Uri.quote (baseName host) = "a%20b" := hhost ▸ by decide +kernel
  rw [hquote, hbase] at hvolume
  exact ⟨hsettled, ⟨_, run_register_spacedName⟩, hresource, params, hparams, hvolume⟩

/-- Another file is mounted than the one that was registered. -/
theorem not_mounts_spacedName : (∃ w',
    (Resource.register (.mounted none) "/a b").run spacedName =
      (.ok ⟨"file:///a%20b", 1, 0, .application, .file⟩, w')) ∧
    ∃ params, ofSpec spacedNameSpec (.ofText "/t/c.tokens") [] = .ok params ∧
      params.volumes.get? "/a b" = none ∧
      params.volumes.get? "/a%20b" = some "/floe/work/a%20b" := by
  have hparse : Uri.parse "file:///a%20b" = .ok ⟨"file", "", "/a%20b"⟩ := by decide +kernel
  have hpaths : filePaths spacedNameSpec.resources = ["/a%20b"] := by decide +kernel
  obtain ⟨params, hparams⟩ : ∃ params,
      ofSpec spacedNameSpec (.ofText "/t/c.tokens") [] = .ok params :=
    exists_ofSpec_iff.mpr ⟨by decide, by decide, List.forall_mem_singleton.mpr ⟨_, hparse⟩⟩
  have hvolume := get?_volumes hparams
  rw [hpaths] at hvolume
  refine ⟨⟨_, run_register_spacedName⟩, params, hparams, ?_, ?_⟩
  · exact (hvolume "/a b").trans (by decide +kernel)
  · exact (hvolume "/a%20b").trans (by decide +kernel)

end LaunchParameters
end ClusterAgent
