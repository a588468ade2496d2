import ClusterAgent.Proofs.Resource
import ClusterAgent.Proofs.Storage.Qualified

/-! Staging and its descriptions: what is staged is found again by the URI that it is described
under, and what is staged there later takes its place. -/
namespace ClusterAgent

open LocalPath

namespace Storage

variable {storage : Storage} {path : String} {status : FileStatus} {w w' : World}

/-- A path that stands for one place, wherever the process works. -/
def Fixed : Storage → String → Prop
  | mounted _, path => ∃ p, localPath path = .ok p ∧ p.anchor ≠ .relative
  | bucket _, _ => True

/-- A look-up reads nothing else of a path than the local path that it stands for. -/
theorem stat_mounted_congr {home : Option String} {path' : String}
    (h : localPath path = localPath path') :
    (mounted home).stat path = (mounted home).stat path' := by
  unfold stat qualifyLocal
  dsimp only
  rw [h]

/-- What is found by a fixed path is described under one URI, and found by it too. -/
theorem Fixed.run_stat_eq_ok (hfixed : storage.Fixed path)
    (h : (storage.stat path).run w = (.ok status, w')) :
    (∀ w, (storage.qualify path).run w = (.ok status.path, w)) ∧
      storage.stat status.path = storage.stat path := by
  cases storage with
  | mounted home =>
    obtain ⟨p, hp, habsolute⟩ := hfixed
    obtain ⟨p', node, hp', -, -, size, time, -, rfl⟩ := run_stat_mounted_eq_ok h
    obtain rfl := Except.ok.inj (hp'.symm.trans hp)
    dsimp only
    rw [absolute_eq_self habsolute]
    refine ⟨fun w => run_qualifyLocal_eq_ok.mpr ⟨p', hp, ?_, rfl⟩, stat_mounted_congr ?_⟩
    · rw [absolute_eq_self habsolute]
    · rw [localPath_toUri habsolute (normal_of_localPath hp), hp]
  | bucket name =>
    obtain ⟨address, object, -, -, -, rfl⟩ := run_stat_bucket_eq_ok h
    refine ⟨fun w => rfl, ?_⟩
    unfold stat
    dsimp only
    rw [qualifyObject_qualifyObject]

theorem run_qualifyLocal (path : String) (w : World) : (qualifyLocal path).run w =
    ((localPath path).map fun p => (p.absolute w.workingDirectory).toUri, w) := by
  unfold qualifyLocal
  cases localPath path <;> rfl

/-- The user's home depends on the `HOME` variable alone. -/
theorem exists_run_userHome :
    ∃ r : String → Except StorageError String, ∀ w, userHome.run w = (r w.home, w) := by
  refine ⟨fun home =>
    let home := Text.trimEndOf '/' home
    let home := if home = "" then "/" else home
    if home.toList.head? = some '~' then .error .noHome else .ok (LocalPath.ofText home).text, ?_⟩
  intro w
  unfold userHome
  rw [Action.run_bind_of_ok (Action.run_get w)]
  dsimp only
  generalize Text.trimEndOf '/' w.home = home
  generalize (if home = "" then "/" else home) = home
  by_cases htilde : home.toList.head? = some '~'
  · rw [if_pos htilde, if_pos htilde]
    rfl
  · rw [if_neg htilde, if_neg htilde]
    rfl

theorem reads_qualify (storage : Storage) (path : String) :
    (storage.qualify path).Reads World.setting := by
  cases storage with
  | mounted home =>
    intro w w₂ hsetting
    have hdirectory : w₂.workingDirectory = w.workingDirectory :=
      (congrArg World.workingDirectory hsetting :)
    exact ⟨_, run_qualifyLocal path w, by rw [← hdirectory]; exact run_qualifyLocal path w₂⟩
  | bucket name => exact Action.reads_pure _

theorem reads_userHome : userHome.Reads World.setting := by
  obtain ⟨r, hr⟩ := exists_run_userHome
  intro w w₂ hsetting
  have hhome : w₂.home = w.home := (congrArg World.home hsetting :)
  exact ⟨r w.home, hr w, by rw [hr, hhome]⟩

/-- The home of storage is that of the process. -/
theorem reads_home (storage : Storage) : storage.home.Reads World.setting := by
  cases storage with
  | mounted home =>
    unfold Storage.home
    dsimp only
    split
    · exact reads_qualify (.mounted home) _
    · exact reads_userHome.bind fun path => reads_qualify (.mounted home) path
  | bucket name =>
    intro w w₂ hsetting
    have huser : w₂.user = w.user := (congrArg World.user hsetting :)
    exact ⟨.ok ("s3://" ++ name ++ "/user/" ++ w.user), rfl, by rw [← huser]; rfl⟩

end Storage

/-- A run puts the bytes of a file at a place, and changes nothing else but directories. The file
keeps its bytes. -/
structure World.Copies (w w' : World) (source : LocalPath) (place : Place)
    (content : List UInt8) : Prop extends w.Stores w' place content where
  after : w'.files.readFile w.workingDirectory source = .ok content
  before : ∀ bytes, w.files.readFile w.workingDirectory source = .ok bytes → bytes = content

namespace Resource

variable {storage : Storage} {source : LocalPath} {application fileName target : String}
  {root : Option String} {resource : Resource} {w w' w₂ w₂' : World}

/-- Artifacts are staged at fixed paths, whatever the names of the application and the file. -/
theorem fixed_of_stagingPath (hsettled : w.workingDirectory.Settled)
    (h : (stagingPath storage application fileName root).run w = (.ok target, w')) :
    storage.Fixed target := by
  obtain ⟨path, uri, -, huri, rfl, -⟩ := run_stagingPath_eq_ok h
  cases storage with
  | mounted home =>
    obtain ⟨p, hp, rfl, -⟩ := Storage.run_qualifyLocal_eq_ok.mp huri
    have hparts : [stagingNamespace, application, fileName].map (Text.trimOf '/') =
        stagingNamespace :: [application, fileName].map (Text.trimOf '/') := by
      rw [List.map_cons, Text.trimOf_of_not_mem (by decide)]
    have hfirst : stagingNamespace.toList = ['.', 'f', 'l', 'o', 'e'] := rfl
    obtain ⟨q, hq, hanchor, -⟩ := Storage.localPath_joinPath_trimmed (absolute_absolute hsettled)
      (normal_absolute hsettled (Storage.normal_of_localPath hp)) hparts hfirst (by decide)
      (by decide)
    exact ⟨q, hq, hanchor⟩
  | bucket name => trivial

/-- Where an artifact is staged depends on its name, the application and the root, and on the
working directory and the home of the process. -/
theorem stagingPath_congr {target₂ : String}
    (hdirectory : w₂.workingDirectory = w.workingDirectory)
    (hhome : (storage.home.run w₂).1 = (storage.home.run w).1)
    (h : (stagingPath storage application fileName root).run w = (.ok target, w'))
    (h₂ : (stagingPath storage application fileName root).run w₂ = (.ok target₂, w₂')) :
    target₂ = target := by
  obtain ⟨path, uri, hpath, huri, rfl, -⟩ := run_stagingPath_eq_ok h
  obtain ⟨path₂, uri₂, hpath₂, huri₂, rfl, -⟩ := run_stagingPath_eq_ok h₂
  have hsame : path₂ = path := by
    unfold rootOrHome at hpath hpath₂
    cases hroot : root.filter (· != "") with
    | some r =>
      rw [hroot] at hpath hpath₂
      cases hpath
      cases hpath₂
      rfl
    | none =>
      rw [hroot] at hpath hpath₂
      rw [hpath, hpath₂] at hhome
      exact Except.ok.inj hhome
  subst hsame
  cases storage with
  | mounted home =>
    obtain ⟨p, hp, rfl, -⟩ := Storage.run_qualifyLocal_eq_ok.mp huri
    obtain ⟨p₂, hp₂, rfl, -⟩ := Storage.run_qualifyLocal_eq_ok.mp huri₂
    obtain rfl := Except.ok.inj (hp₂.symm.trans hp)
    rw [hdirectory]
  | bucket name =>
    cases huri
    cases huri₂
    rfl

/-- Staging does not change the home of the process. -/
theorem home_of_provision
    (h : (provision storage source application root).run w = (.ok resource, w')) :
    (storage.home.run w').1 = (storage.home.run w).1 :=
  storage.reads_home.congr ((keeps_provision storage source application root).eq h)

theorem reads_stagingPath (storage : Storage) (application fileName : String)
    (root : Option String) :
    (stagingPath storage application fileName root).Reads World.setting := by
  have hroot : (rootOrHome storage root).Reads World.setting := by
    unfold rootOrHome
    split
    · exact Action.reads_pure _
    · exact storage.reads_home
  exact hroot.bind fun path => (storage.reads_qualify path).bind fun _ => Action.reads_pure _

/-- The place where an artifact of this name is staged. -/
def stagingPlace? (storage : Storage) (application : String) (root : Option String) (w : World)
    (fileName : String) : Option Place :=
  ((stagingPath storage application fileName root).run w).1.toOption.bind
    (storage.place? w.workingDirectory)

theorem stagingPlace?_congr (hsetting : w₂.setting = w.setting) :
    stagingPlace? storage application root w₂ fileName =
      stagingPlace? storage application root w fileName := by
  have hdirectory : w₂.workingDirectory = w.workingDirectory :=
    (congrArg World.workingDirectory hsetting :)
  unfold stagingPlace?
  rw [(reads_stagingPath storage application fileName root).congr hsetting, hdirectory]

/-- An artifact is described under a URI of the place where it is staged. -/
theorem place?_of_provision (hsettled : w.workingDirectory.Settled)
    (h : (provision storage source application root).run w = (.ok resource, w')) :
    storage.place? w.workingDirectory resource.uri =
      stagingPlace? storage application root w source.name := by
  have hdirectory := workingDirectory_of_provision h
  obtain ⟨target, log, htarget, -, hregister⟩ := run_provision_eq_ok h
  obtain ⟨-, huri⟩ := describes_of_register (hdirectory ▸ hsettled) hregister
  unfold stagingPlace?
  rw [htarget, ← hdirectory, huri]
  rfl

/-- The description of what is found by a fixed path. -/
theorem run_register_fixed (hfixed : storage.Fixed target)
    (h : (register storage target).run w = (.ok resource, w')) :
    (∀ w, (storage.qualify target).run w = (.ok resource.uri, w)) ∧
      register storage resource.uri = register storage target := by
  unfold register at h
  obtain ⟨status, w₁, hstat, hresource⟩ := Action.run_bind_eq_ok.mp h
  obtain ⟨rfl, -⟩ := Action.run_pure_eq_ok.mp hresource
  obtain ⟨hqualify, hagain⟩ := hfixed.run_stat_eq_ok hstat
  refine ⟨hqualify, ?_⟩
  unfold register
  dsimp only
  rw [hagain]

/-- Staging copies to the place of its description, which gives the number of bytes there. -/
theorem copies_of_provision (hsettled : w.workingDirectory.Settled)
    (h : (provision storage source application root).run w = (.ok resource, w')) :
    ∃ place content, storage.place? w.workingDirectory resource.uri = some place ∧
      w.Copies w' source place content ∧ resource.size = content.length := by
  have hdirectory := workingDirectory_of_provision h
  obtain ⟨target, log, -, hcopy, hregister⟩ := run_provision_eq_ok h
  obtain ⟨place, content, hplace, hstores, hafter, hbefore⟩ := Storage.run_copy_eq_ok hcopy
  obtain ⟨⟨place', size, time, hplace', hstatus, hsize, -⟩, huri⟩ :=
    describes_of_register (hdirectory ▸ hsettled) hregister
  rw [hdirectory] at hplace' huri
  obtain rfl : place' = place := Option.some.inj (hplace'.symm.trans (huri.trans hplace))
  obtain ⟨item, hitem, hcontent⟩ := hstores.stored
  obtain ⟨time', hstatus'⟩ := World.exists_status?_of_content? hitem hcontent
  obtain ⟨rfl, rfl⟩ := Prod.mk.inj (Option.some.inj (hstatus'.symm.trans hstatus))
  exact ⟨place', content, hplace', ⟨⟨hstores.stored, hstores.others⟩, hafter, hbefore⟩, hsize⟩

/-- Staging puts the bytes of an artifact at one place and describes them with their number; the
description can be made again from its own URI. Whatever is staged later under the same names, with
the same root, working directory and home, has the same URI and takes that place. -/
theorem run_provision_law (hsettled : w.workingDirectory.Settled)
    (h : (provision storage source application root).run w = (.ok resource, w')) :
    ∃ place content, w.Copies w' source place content ∧ resource.size = content.length ∧
      (register storage resource.uri).run w' = (.ok resource, w') ∧
      ∀ source₂ w₂ resource₂ w₂', source₂.name = source.name →
        w₂.workingDirectory = w.workingDirectory →
        (storage.home.run w₂).1 = (storage.home.run w).1 →
        (provision storage source₂ application root).run w₂ = (.ok resource₂, w₂') →
        resource₂.uri = resource.uri ∧ ∃ content₂, w₂.Copies w₂' source₂ place content₂ := by
  obtain ⟨place, content, hplace, hcopies, hsize⟩ := copies_of_provision hsettled h
  obtain ⟨target, log, htarget, -, hregister⟩ := run_provision_eq_ok h
  have hfixed := fixed_of_stagingPath hsettled htarget
  obtain ⟨hqualify, hagain⟩ := run_register_fixed hfixed hregister
  refine ⟨place, content, hcopies, hsize, by rw [hagain, hregister], ?_⟩
  intro source₂ w₂ resource₂ w₂' hname hdirectory hhome h₂
  obtain ⟨place₂, content₂, hplace₂, hcopies₂, -⟩ := copies_of_provision (hdirectory ▸ hsettled) h₂
  obtain ⟨target₂, log₂, htarget₂, -, hregister₂⟩ := run_provision_eq_ok h₂
  rw [hname] at htarget₂
  obtain rfl := stagingPath_congr hdirectory hhome htarget htarget₂
  obtain ⟨hqualify₂, -⟩ := run_register_fixed hfixed hregister₂
  have huri : resource₂.uri = resource.uri :=
    Except.ok.inj (Prod.mk.inj ((hqualify₂ w).symm.trans (hqualify w))).1
  rw [huri, hdirectory] at hplace₂
  obtain rfl := Option.some.inj (hplace₂.symm.trans hplace)
  exact ⟨huri, content₂, hcopies₂⟩

/-- Two files of one name, which holds an escape and the start of a query. -/
def twoVersions : World := { World.bare with
  files := [(["v1"], .directory), (["v1", "a%20?b"], .file [1, 2] 0 0o644),
    (["v2"], .directory), (["v2", "a%20?b"], .file [3] 0 0o644)] }

/-- The name is cut off and unquoted on the way, but both versions have one URI and one place. -/
theorem run_provision_law_twoVersions : twoVersions.workingDirectory.Settled ∧
    ∃ first w₁ second w₂ place,
      (provision (.mounted none) ⟨.root, ["v1", "a%20?b"]⟩ "../x" (some "//r t")).run twoVersions =
        (.ok first, w₁) ∧
      (provision (.mounted none) ⟨.root, ["v2", "a%20?b"]⟩ "../x" (some "//r t")).run w₁ =
        (.ok second, w₂) ∧
      first.uri = "file:////r%20t/.floe/../x/a%20" ∧ first.size = 2 ∧
      (register (.mounted none) first.uri).run w₁ = (.ok first, w₁) ∧
      second.uri = first.uri ∧
      twoVersions.Copies w₁ ⟨.root, ["v1", "a%20?b"]⟩ place [1, 2] ∧
      w₁.Copies w₂ ⟨.root, ["v2", "a%20?b"]⟩ place [3] := by
  have hsettled : twoVersions.workingDirectory.Settled := ⟨by decide, nofun⟩
  have hfirst : ((provision (.mounted none) ⟨.root, ["v1", "a%20?b"]⟩ "../x" (some "//r t")).run
      twoVersions).1.toOption =
        some ⟨"file:////r%20t/.floe/../x/a%20", 2, 0, .application, .file⟩ := by
    decide +kernel
  have hrun := Action.run_eq_of_toOption hfirst
  have hsecond : ((provision (.mounted none) ⟨.root, ["v2", "a%20?b"]⟩ "../x" (some "//r t")).run
      ((provision (.mounted none) ⟨.root, ["v1", "a%20?b"]⟩ "../x" (some "//r t")).run
        twoVersions).2).1.toOption =
        some ⟨"file:////r%20t/.floe/../x/a%20", 1, 0, .application, .file⟩ := by
    decide +kernel
  have hrun₂ := Action.run_eq_of_toOption hsecond
  obtain ⟨place, content, hcopies, hsize, hregister, hagain⟩ := run_provision_law hsettled hrun
  obtain ⟨huri, content₂, hcopies₂⟩ := hagain ⟨.root, ["v2", "a%20?b"]⟩ _ _ _ rfl
    (workingDirectory_of_provision hrun) (home_of_provision hrun) hrun₂
  obtain rfl := hcopies.before [1, 2] (by decide +kernel)
  obtain rfl := hcopies₂.before [3] (by decide +kernel)
  exact ⟨hsettled, _, _, _, _, place, hrun, hrun₂, rfl, hsize, hregister, huri, hcopies, hcopies₂⟩

end Resource
end ClusterAgent
