import ClusterAgent.Proofs.Storage.Below
import ClusterAgent.Proofs.Storage.Frame

/-! Resources: where artifacts are staged, and how what is stored is described. -/
namespace ClusterAgent.Resource

open LocalPath

variable {storage : Storage} {source : LocalPath} {application : String} {root : Option String}
  {resource : Resource} {w w' : World}

theorem run_rootOrHome_bucket (name : String) (root : Option String) (w : World) :
    (rootOrHome (.bucket name) root).run w =
      (.ok ((root.filter (· != "")).getD ("s3://" ++ name ++ "/user/" ++ w.user)), w) := by
  unfold rootOrHome
  cases root.filter (· != "") <;> rfl

theorem exists_qualifyObject_of_register {name path : String}
    (h : (register (.bucket name) path).run w = (.ok resource, w')) :
    ∃ path, resource.uri = Storage.qualifyObject name path := by
  unfold register at h
  obtain ⟨status, w₁, hstat, hresource⟩ := Action.run_bind_eq_ok.mp h
  obtain ⟨_, _, -, -, -, rfl⟩ := Storage.run_stat_bucket_eq_ok hstat
  obtain ⟨rfl, -⟩ := Action.run_pure_eq_ok.mp hresource
  exact ⟨path, rfl⟩

theorem run_stagingPath_eq_ok {fileName target : String}
    (h : (stagingPath storage application fileName root).run w = (.ok target, w')) :
    ∃ path uri, (rootOrHome storage root).run w = (.ok path, w) ∧
      (storage.qualify path).run w = (.ok uri, w) ∧
      target = joinPath uri [stagingNamespace, application, fileName] ∧ w' = w := by
  unfold stagingPath at h
  obtain ⟨path, w₁, hpath, hrest⟩ := Action.run_bind_eq_ok.mp h
  obtain rfl := (keeps_rootOrHome (v := id) storage root).eq hpath
  obtain ⟨uri, w₂, huri, htarget⟩ := Action.run_bind_eq_ok.mp hrest
  obtain rfl := (storage.keeps_qualify (v := id) path).eq huri
  obtain ⟨htarget, hstate⟩ := Action.run_pure_eq_ok.mp htarget
  exact ⟨path, uri, hpath, huri, htarget, hstate⟩

theorem run_provision_eq_ok
    (h : (provision storage source application root).run w = (.ok resource, w')) :
    ∃ target log, (stagingPath storage application source.name root).run w = (.ok target, w) ∧
      (storage.copy source target).run { w with log } = (.ok (), w') ∧
      (register storage target).run w' = (.ok resource, w') := by
  unfold provision at h
  obtain ⟨target, w₁, htarget, hrest⟩ := Action.run_bind_eq_ok.mp h
  obtain ⟨_, _, -, -, -, rfl⟩ := run_stagingPath_eq_ok htarget
  rw [Action.run_bind_of_ok (Action.run_logInfo _ _)] at hrest
  obtain ⟨_, w₂, hcopy, hregister⟩ := Action.run_bind_eq_ok.mp hrest
  obtain rfl := (keeps_register (v := id) storage target).eq hregister
  exact ⟨target, _, htarget, hcopy, hregister⟩

theorem workingDirectory_of_provision {r : Except StorageError Resource}
    (h : (provision storage source application root).run w = (r, w')) :
    w'.workingDirectory = w.workingDirectory := by
  have hsetting := (keeps_provision storage source application root).eq h
  exact (congrArg World.workingDirectory hsetting :)

/-! ### Where artifacts are staged -/

/-- An artifact is staged at one place, and nowhere else is a file or an object changed. Below a
root, this is the place that the names of the application and of the file say exactly if a URI
carries them both. Other names say another place. -/
theorem provision_stages {path : String} {base : Place} (hsettled : w.workingDirectory.Settled)
    (hpath : (rootOrHome storage root).run w = (.ok path, w))
    (hbase : storage.place? w.workingDirectory path = some base)
    (hroot : storage.CarriesRoot path) (happlication : IsName application)
    (hname : IsName source.name)
    (h : (provision storage source application root).run w = (.ok resource, w')) :
    (∃ place content, w.Stores w' place content ∧
      (place = base.below [stagingNamespace, application, source.name] ↔
        storage.Carries application ∧ storage.Carries source.name) ∧
      w'.files.readFile w.workingDirectory source = .ok content ∧
      ∀ bytes, w.files.readFile w.workingDirectory source = .ok bytes → bytes = content) ∧
    ∀ application' name', IsName application' → IsName name' →
      base.below [stagingNamespace, application', name'] =
        base.below [stagingNamespace, application, source.name] →
      application' = application ∧ name' = source.name := by
  have hnamespace : IsName stagingNamespace := by decide
  obtain ⟨target, log, htarget, hcopy, -⟩ := run_provision_eq_ok h
  obtain ⟨path', uri, hpath', huri, rfl, -⟩ := run_stagingPath_eq_ok htarget
  obtain rfl : path = path' := by
    rw [hpath] at hpath'
    cases hpath'
    rfl
  have hnames : ∀ name ∈ [stagingNamespace, application, source.name], IsName name := by
    simp [hnamespace, happlication, hname]
  obtain ⟨place, hplace, hcarries⟩ := Storage.place?_joinPath hsettled hbase hroot huri hnames
    (storage.carries_of_all (by decide))
  rw [List.forall_mem_cons, List.forall_mem_singleton] at hcarries
  obtain ⟨place', content, htarget', hstores, hafter, hbefore⟩ := Storage.run_copy_eq_ok hcopy
  obtain rfl : place' = place := Option.some.inj (htarget'.symm.trans hplace)
  have hstores' : w.Stores w' place' content := ⟨hstores.stored, hstores.others⟩
  refine ⟨⟨place', content, hstores', hcarries, hafter, hbefore⟩, ?_⟩
  intro application' name' happlication' hname' heq
  have hparts := Place.below_inj (List.cons_ne_nil _ _) (List.cons_ne_nil _ _)
    (by simp [hnamespace.1, happlication'.1, hname'.1])
    (by simp [hnamespace.1, happlication.1, hname.1]) heq
  simpa using hparts

/-- One file. -/
def oneFile : World := { World.bare with files := [(["f g"], .file [1, 2] 0 0o644)] }

theorem provision_stages_oneFile :
    oneFile.workingDirectory.Settled ∧
    (rootOrHome (.bucket "b") (some "c d")).run oneFile = (.ok "c d", oneFile) ∧
    Storage.place? (.bucket "b") oneFile.workingDirectory "c d" = some (.object ⟨"b", "c d"⟩) ∧
    Storage.CarriesRoot (.bucket "b") "c d" ∧ IsName "app" ∧ Storage.Carries (.bucket "b") "app" ∧
    IsName "f g" ∧ Storage.Carries (.bucket "b") "f g" ∧
    ∃ resource w', (provision (.bucket "b") ⟨.root, ["f g"]⟩ "app" (some "c d")).run oneFile =
        (.ok resource, w') ∧
      (∃ content, oneFile.Stores w'
          (Place.below [stagingNamespace, "app", "f g"] (.object ⟨"b", "c d"⟩)) content ∧
        w'.files.readFile oneFile.workingDirectory ⟨.root, ["f g"]⟩ = .ok content ∧
        ∀ bytes, oneFile.files.readFile oneFile.workingDirectory ⟨.root, ["f g"]⟩ = .ok bytes →
          bytes = content) ∧
      ∀ application' name', IsName application' → IsName name' →
        Place.below [stagingNamespace, application', name'] (.object ⟨"b", "c d"⟩) =
          Place.below [stagingNamespace, "app", "f g"] (.object ⟨"b", "c d"⟩) →
        application' = "app" ∧ name' = "f g" := by
  have hsettled : oneFile.workingDirectory.Settled := ⟨by decide, nofun⟩
  have hbase : Storage.place? (.bucket "b") oneFile.workingDirectory "c d" =
      some (.object ⟨"b", "c d"⟩) := Storage.place?_bucket (by decide +kernel)
  have hcarries (name : String) (h : name.toList.all fun c =>
      Uri.isKept c && Uri.isPathChar c && c != '%') : Storage.Carries (.bucket "b") name :=
    Storage.carries_of_all _ h
  have hroot : Storage.CarriesRoot (.bucket "b") "c d" :=
    hcarries (Storage.qualifyObject "b" "c d") (by decide +kernel)
  have hsome : ((provision (.bucket "b") ⟨.root, ["f g"]⟩ "app" (some "c d")).run
      oneFile).1.toOption.isSome = true := by
    decide +kernel
  obtain ⟨resource, hresource⟩ := Option.isSome_iff_exists.mp hsome
  have hrun := Action.run_eq_of_toOption hresource
  have happlication : Storage.Carries (.bucket "b") "app" := hcarries _ (by decide)
  have hname : Storage.Carries (.bucket "b") "f g" := hcarries _ (by decide)
  obtain ⟨⟨place, content, hstores, hplace, hread⟩, hothers⟩ :=
    provision_stages hsettled rfl hbase hroot (by decide) (by decide) hrun
  obtain rfl := hplace.mpr ⟨happlication, hname⟩
  exact ⟨hsettled, rfl, hbase, hroot, by decide, happlication, by decide, hname, resource, _, hrun,
    ⟨content, hstores, hread⟩, hothers⟩

/-- Two files whose names differ behind a question mark. -/
def questionMarks : World := { World.bare with
  files := [(["x?1"], .file [1] 0 0o644), (["x?2"], .file [2] 0 0o644)] }

/-- A question mark cuts the name off: the first file is staged at another place than its name says,
and the second is staged over it. -/
theorem not_stages_questionMarks : IsName "x?1" ∧ IsName "x?2" ∧
    Storage.place? (.bucket "b") questionMarks.workingDirectory "c" = some (.object ⟨"b", "c"⟩) ∧
    ∃ first second w₁ w₂,
      (provision (.bucket "b") ⟨.root, ["x?1"]⟩ "app" (some "c")).run questionMarks =
        (.ok first, w₁) ∧
      (provision (.bucket "b") ⟨.root, ["x?2"]⟩ "app" (some "c")).run w₁ = (.ok second, w₂) ∧
      w₁.stored? (Place.below [stagingNamespace, "app", "x?1"] (.object ⟨"b", "c"⟩)) = none ∧
      w₁.stored? (.object ⟨"b", "c/.floe/app/x"⟩) = some (.object ⟨[1], 0⟩) ∧
      w₂.stored? (.object ⟨"b", "c/.floe/app/x"⟩) = some (.object ⟨[2], 0⟩) := by
  have hplace : Storage.place? (.bucket "b") questionMarks.workingDirectory "c" =
      some (.object ⟨"b", "c"⟩) := Storage.place?_bucket (by decide +kernel)
  have hfirst : ((provision (.bucket "b") ⟨.root, ["x?1"]⟩ "app" (some "c")).run
      questionMarks).1.toOption = some ⟨"s3://b/c/.floe/app/x?1", 1, 0, .application, .file⟩ := by
    decide +kernel
  have hsecond : ((provision (.bucket "b") ⟨.root, ["x?2"]⟩ "app" (some "c")).run
      ((provision (.bucket "b") ⟨.root, ["x?1"]⟩ "app" (some "c")).run
        questionMarks).2).1.toOption =
        some ⟨"s3://b/c/.floe/app/x?2", 1, 0, .application, .file⟩ := by
    decide +kernel
  exact ⟨by decide, by decide, hplace, _, _, _, _, Action.run_eq_of_toOption hfirst,
    Action.run_eq_of_toOption hsecond, by decide +kernel, by decide +kernel, by decide +kernel⟩

/-! ### What descriptions say -/

/-- A resource is described as it is stored. -/
def Describes (storage : Storage) (w : World) (resource : Resource) : Prop :=
  ∃ place size time, storage.place? w.workingDirectory resource.uri = some place ∧
    w.status? place = some (size, time) ∧ resource.size = size ∧ resource.timestamp = time

theorem describes_of_register {path : String} (hsettled : w.workingDirectory.Settled)
    (h : (register storage path).run w = (.ok resource, w')) :
    resource.Describes storage w ∧ storage.place? w.workingDirectory resource.uri =
      storage.place? w.workingDirectory path := by
  unfold register at h
  obtain ⟨status, w₁, hstat, hresource⟩ := Action.run_bind_eq_ok.mp h
  obtain ⟨rfl, -⟩ := Action.run_pure_eq_ok.mp hresource
  obtain ⟨place, size, time, hpath, huri, hstatus, hsize, htime⟩ :=
    Storage.run_stat_eq_ok hsettled hstat
  exact ⟨⟨place, size, time, huri, hstatus, hsize, htime⟩, huri.trans hpath.symm⟩

/-- What is staged is described, and only the place of the description is written. -/
theorem describes_of_provision (hsettled : w.workingDirectory.Settled)
    (h : (provision storage source application root).run w = (.ok resource, w')) :
    resource.Describes storage w' ∧ ∃ place content,
      storage.place? w.workingDirectory resource.uri = some place ∧ w.Stores w' place content := by
  have hdirectory := workingDirectory_of_provision h
  obtain ⟨target, log, -, hcopy, hregister⟩ := run_provision_eq_ok h
  obtain ⟨place, content, hplace, hstores, -, -⟩ := Storage.run_copy_eq_ok hcopy
  obtain ⟨hdescribes, huri⟩ := describes_of_register (hdirectory ▸ hsettled) hregister
  rw [hdirectory] at huri
  exact ⟨hdescribes, place, content, huri.trans hplace, hstores.stored, hstores.others⟩

/-- What is described has a content, so it is no directory. -/
def HasContent (storage : Storage) (w : World) (resource : Resource) : Prop :=
  ∃ place item, storage.place? w.workingDirectory resource.uri = some place ∧
    w.stored? place = some item ∧ item.content?.isSome

theorem hasContent_of_stores {place : Place} {content : List UInt8}
    (hplace : storage.place? w.workingDirectory resource.uri = some place)
    (hdirectory : w'.workingDirectory = w.workingDirectory) (h : w.Stores w' place content) :
    resource.HasContent storage w' := by
  obtain ⟨item, hstored, hcontent⟩ := h.stored
  exact ⟨place, item, hdirectory ▸ hplace, hstored, Option.isSome_of_eq_some hcontent⟩

/-- The description of a content stays true when another place is written. -/
theorem Describes.of_stores (h : resource.Describes storage w)
    (hcontent : resource.HasContent storage w) {place : Place} {content : List UInt8}
    (hstores : w.Stores w' place content) (hdirectory : w'.workingDirectory = w.workingDirectory)
    (hother : storage.place? w.workingDirectory resource.uri ≠ some place) :
    resource.Describes storage w' ∧ resource.HasContent storage w' := by
  obtain ⟨place', size, time, huri, hstatus, hsize, htime⟩ := h
  obtain ⟨place'', item, huri', hstored, hsome⟩ := hcontent
  obtain rfl : place'' = place' := Option.some.inj (huri'.symm.trans huri)
  have hne : place'' ≠ place := fun heq => hother (heq ▸ huri)
  have hstored' : w'.stored? place'' = some item := by
    rcases hstores.others place'' hne with hsame | ⟨hnone, -⟩
    · rw [hsame, hstored]
    · rw [hstored] at hnone
      cases hnone
  have hstatus' := (World.status?_congr hstored hstored' hsome).trans hstatus
  exact ⟨⟨place'', size, time, hdirectory ▸ huri, hstatus', hsize, htime⟩,
    place'', item, hdirectory ▸ huri, hstored', hsome⟩

/-! ### Staging one artifact after the other -/

theorem Describes.of_runs {artifacts : List LocalPath} {staged : List Resource}
    (h : resource.Describes storage w) (hcontent : resource.HasContent storage w)
    (hsettled : w.workingDirectory.Settled)
    (hruns : Action.Runs (fun a => provision storage a application root) w artifacts staged w')
    (hother : ∀ r ∈ staged, storage.place? w.workingDirectory r.uri ≠
      storage.place? w.workingDirectory resource.uri) :
    resource.Describes storage w' := by
  induction hruns with
  | nil => exact h
  | @cons w w₁ w₂ a r as rs first rest ih =>
    have hdirectory := workingDirectory_of_provision first
    obtain ⟨-, place, content, hplace, hstores⟩ := describes_of_provision hsettled first
    rw [List.forall_mem_cons, hplace] at hother
    obtain ⟨hdescribes, hkept⟩ := h.of_stores hcontent hstores hdirectory (Ne.symm hother.1)
    refine ih hdescribes hkept (hdirectory ▸ hsettled) ?_
    rw [hdirectory]
    exact hother.2

/-- Of the descriptions of staged artifacts, one is true in the end if no later artifact was staged
at its place. -/
theorem describes_of_runs {artifacts : List LocalPath} {staged : List Resource}
    (hsettled : w.workingDirectory.Settled)
    (hruns : Action.Runs (fun a => provision storage a application root) w artifacts staged w')
    {i : Nat} (hi : staged[i]? = some resource)
    (hother : ∀ j r, i < j → staged[j]? = some r → storage.place? w.workingDirectory r.uri ≠
      storage.place? w.workingDirectory resource.uri) :
    resource.Describes storage w' := by
  induction hruns generalizing i with
  | nil => cases hi
  | @cons w w₁ w₂ a r as rs first rest ih =>
    have hdirectory := workingDirectory_of_provision first
    cases i with
    | zero =>
      obtain rfl := Option.some.inj hi
      obtain ⟨hdescribes, place, content, hplace, hstores⟩ := describes_of_provision hsettled first
      have hcontent := hasContent_of_stores hplace hdirectory hstores
      refine hdescribes.of_runs hcontent (hdirectory ▸ hsettled) rest ?_
      intro r' hr'
      obtain ⟨j, hj⟩ := List.mem_iff_getElem?.mp hr'
      rw [hdirectory]
      exact hother (j + 1) r' (Nat.succ_pos j) hj
    | succ i =>
      refine ih (hdirectory ▸ hsettled) hi ?_
      intro j r' hij hj
      rw [hdirectory]
      exact hother (j + 1) r' (Nat.succ_lt_succ hij) hj

/-- Describing what is there changes nothing. -/
theorem eq_of_runs_register {paths : List String} {present : List Resource}
    (h : Action.Runs (register storage) w paths present w') : w' = w :=
  h.keeps (v := id) (keeps_register storage)

end ClusterAgent.Resource
