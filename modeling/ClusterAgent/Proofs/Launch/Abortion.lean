import ClusterAgent.Proofs.Launch.Resources
import ClusterAgent.Proofs.Storage.Refusal

/-! Assemblies that fail. The first failure ends an assembly; what was done before it stays done,
and nothing else is. -/
namespace ClusterAgent

open TokenService

theorem Credentials.keeps_bundle (service : TokenService) (paths : List String)
    (userTokens : List Token) :
    (bundle service paths userTokens).Keeps World.unrecorded := by
  intro w
  cases hissue : (service.obtain paths).run w with
  | mk result w₁ =>
    have hkept := (service.keeps_obtain paths).eq hissue
    cases result with
    | error e => rw [run_bundle_of_error hissue, hkept]
    | ok issued =>
      obtain ⟨log, hrun⟩ := run_bundle_of_ok hissue userTokens
      rw [hrun, ← hkept]
      rfl

namespace LaunchRequest

variable {r : LaunchRequest} {storage : Storage} {service : TokenService} {w w₁ w₂ w' : World}

/-! ### Resources -/

theorem run_resources_of_artifact_error {before after : List LocalPath} {a : LocalPath}
    {staged : List Resource} {e : StorageError} (hartifacts : r.artifacts = before ++ a :: after)
    (hstaged : r.Stages storage w before staged w₁)
    (hfails : (Resource.provision storage a r.application r.root).run w₁ = (.error e, w₂)) :
    (r.resources storage).run w = (.error e, w₂) := by
  unfold LaunchRequest.resources
  rw [hartifacts, Action.run_bind_of_error (hstaged.run_mapM_of_error hfails after)]

theorem run_resources_of_existing_error {before after : List String} {path : String}
    {staged present : List Resource} {e : StorageError}
    (hstaged : r.Stages storage w r.artifacts staged w₁)
    (hexisting : r.existing = before ++ path :: after)
    (hpresent : Action.Runs (Resource.register storage) w₁ before present w₂)
    (hfails : (Resource.register storage path).run w₂ = (.error e, w')) :
    (r.resources storage).run w = (.error e, w') := by
  unfold LaunchRequest.resources
  rw [Action.run_bind_of_ok (Action.run_mapM_eq_ok.mpr hstaged), hexisting,
    Action.run_bind_of_error (hpresent.run_mapM_of_error hfails after)]

theorem run_resources_of_runs {staged present : List Resource}
    (hstaged : r.Stages storage w r.artifacts staged w₁)
    (hpresent : Action.Runs (Resource.register storage) w₁ r.existing present w₂) :
    (r.resources storage).run w = (.ok (staged ++ present), w₂) := by
  unfold LaunchRequest.resources
  rw [Action.run_bind_of_ok (Action.run_mapM_eq_ok.mpr hstaged),
    Action.run_bind_of_ok (Action.run_mapM_eq_ok.mpr hpresent), Action.run_pure]

theorem run_tokenPaths_of_ok (resources : List Resource) {root uri : String}
    (hroot : (Resource.rootOrHome storage r.root).run w = (.ok root, w))
    (huri : (storage.qualify root).run w = (.ok uri, w)) :
    (r.tokenPaths storage resources).run w = (.ok (resources.map (·.uri) ++ [uri]), w) := by
  unfold tokenPaths
  rw [Action.run_bind_of_ok hroot, Action.run_bind_of_ok huri, Action.run_pure]

theorem keeps_tokenPaths {γ : Type} {v : World → γ} (r : LaunchRequest) (storage : Storage)
    (resources : List Resource) : (r.tokenPaths storage resources).Keeps v :=
  (Resource.keeps_rootOrHome storage r.root).bind fun root =>
    (storage.keeps_qualify root).bind fun _ => Action.keeps_pure _

theorem journal_of_stages {artifacts : List LocalPath} {staged : List Resource}
    (h : r.Stages storage w artifacts staged w') : w'.journal = w.journal := by
  have hkept := h.keeps fun a => Resource.keeps_provision storage a r.application r.root
  exact (congrArg World.journal hkept :)

/-! ### Assemblies -/

theorem run_assemble_of_heap_error {e : HeapError}
    (h : heapLimit r.budget r.heapRatio r.heapCap = .error e) :
    (r.assemble storage service).run w = (.error (.heap e), w) := by
  unfold assemble
  rw [Action.run_bind_of_error (Action.run_liftM_mapError_of_error h _ w)]

theorem run_assemble_of_resources_error {heap : Int} {e : StorageError}
    (hheap : heapLimit r.budget r.heapRatio r.heapCap = .ok heap)
    (h : (r.resources storage).run w = (.error e, w')) :
    (r.assemble storage service).run w = (.error (.storage e), w') := by
  unfold assemble
  rw [Action.run_bind_of_ok (run_heapLimit_of_ok hheap w),
    Action.run_bind_of_error (Action.run_mapFailure_of_error h _)]

section
variable {heap : Int} {resources : List Resource} {paths : List String}

/-- Once the artifacts are staged and the other resources are found, the rest of the assembly is
left. -/
theorem run_assemble_of_runs {staged present : List Resource}
    (hheap : heapLimit r.budget r.heapRatio r.heapCap = .ok heap)
    (hstaged : r.Stages storage w r.artifacts staged w₁)
    (hpresent : Action.Runs (Resource.register storage) w₁ r.existing present w₂) :
    (r.assemble storage service).run w =
      (r.equip storage service heap (staged ++ present)).run w₁ := by
  have hresources := run_resources_of_runs hstaged hpresent
  rw [Resource.eq_of_runs_register hpresent] at hresources
  exact run_assemble_of_described hheap hresources

theorem run_equip_of_unwritable (h : Text.isWritable heap = false) :
    (r.equip storage service heap resources).run w = (.error (.numeral .unwritable), w) := by
  unfold equip
  rw [Action.run_bind_of_error
    (Action.run_liftM_mapError_of_error (environment_of_unwritable h r) _ w)]

theorem run_equip_of_tokenPaths_error {e : StorageError} (hheap : Text.isWritable heap)
    (h : (r.tokenPaths storage resources).run w = (.error e, w')) :
    (r.equip storage service heap resources).run w = (.error (.storage e), w') := by
  obtain ⟨environment, henvironment⟩ := exists_environment hheap r
  unfold equip
  rw [Action.run_bind_of_ok (Action.run_liftM_mapError_eq_ok.mpr ⟨henvironment, rfl⟩),
    Action.run_bind_of_error (Action.run_mapFailure_of_error h _)]

theorem run_equip_of_service_error {e : CredentialError} (hheap : Text.isWritable heap)
    (hpaths : (r.tokenPaths storage resources).run w = (.ok paths, w))
    (h : (service.obtain paths).run w = (.error e, w')) :
    (r.equip storage service heap resources).run w = (.error (.credentials e), w') := by
  obtain ⟨environment, henvironment⟩ := exists_environment hheap r
  have hbundle := Credentials.run_bundle_of_error h r.userTokens
  unfold equip
  rw [Action.run_bind_of_ok (Action.run_liftM_mapError_eq_ok.mpr ⟨henvironment, rfl⟩),
    Action.run_bind_of_ok (Action.run_mapFailure_eq_ok.mpr hpaths),
    Action.run_bind_of_error (Action.run_mapFailure_of_error hbundle _)]

theorem keeps_equip (r : LaunchRequest) (storage : Storage) (service : TokenService) (heap : Int)
    (resources : List Resource) :
    (r.equip storage service heap resources).Keeps World.unrecorded := by
  refine (Action.keeps_liftM _).bind fun environment => ?_
  refine ((keeps_tokenPaths r storage resources).mapFailure _).bind fun paths => ?_
  refine ((Credentials.keeps_bundle service paths r.userTokens).mapFailure _).bind
    fun credentials => ?_
  refine (Action.keeps_liftM _).bind fun sizes => ?_
  refine (Action.keeps_logInfo _).bind fun _ => ?_
  cases LaunchSpec.ofParts r.budget heap environment resources credentials with
  | ok spec => exact Action.keeps_pure _
  | error faults => exact Action.keeps_throw _

end

/-- What an assembly has done when it ends, by where it ends. A world `w₁` is what staging some
artifacts, one after the other, makes of the first world. -/
structure EndsInStages (r : LaunchRequest) (storage : Storage) (service : TokenService)
    (w : World) : Prop where
  /-- Without a heap limit nothing is done. -/
  heap : ∀ e, heapLimit r.budget r.heapRatio r.heapCap = .error e →
    (r.assemble storage service).run w = (.error (.heap e), w)
  /-- When an artifact cannot be staged, the files and objects are those that staging the artifacts
  before it leaves, and no service has been asked. -/
  artifact : ∀ heap, heapLimit r.budget r.heapRatio r.heapCap = .ok heap →
    ∀ before a after, r.artifacts = before ++ a :: after →
    ∀ staged w₁, r.Stages storage w before staged w₁ →
    ∀ e w₂, (Resource.provision storage a r.application r.root).run w₁ = (.error e, w₂) →
      (r.assemble storage service).run w = (.error (.storage e), w₂) ∧ w₁.KeepsStored w₂ ∧
        w₂.journal = w.journal
  /-- When a resource cannot be looked up, all artifacts are staged, and no service has been
  asked. -/
  existing : ∀ heap, heapLimit r.budget r.heapRatio r.heapCap = .ok heap →
    ∀ staged w₁, r.Stages storage w r.artifacts staged w₁ →
    ∀ before path after, r.existing = before ++ path :: after →
    ∀ present w₂, Action.Runs (Resource.register storage) w₁ before present w₂ →
    ∀ e w₃, (Resource.register storage path).run w₂ = (.error e, w₃) →
      (r.assemble storage service).run w = (.error (.storage e), w₁) ∧ w₁.journal = w.journal
  /-- The same holds when the heap limit has too many digits to be written. -/
  unwritable : ∀ heap, heapLimit r.budget r.heapRatio r.heapCap = .ok heap →
    Text.isWritable heap = false →
    ∀ staged w₁, r.Stages storage w r.artifacts staged w₁ →
    ∀ present w₂, Action.Runs (Resource.register storage) w₁ r.existing present w₂ →
      (r.assemble storage service).run w = (.error (.numeral .unwritable), w₁) ∧
        w₁.journal = w.journal
  /-- The same holds when the staging root cannot be qualified. -/
  root : ∀ heap, heapLimit r.budget r.heapRatio r.heapCap = .ok heap → Text.isWritable heap →
    ∀ staged w₁, r.Stages storage w r.artifacts staged w₁ →
    ∀ present w₂, Action.Runs (Resource.register storage) w₁ r.existing present w₂ →
    ∀ e w₃, (r.tokenPaths storage (staged ++ present)).run w₂ = (.error e, w₃) →
      (r.assemble storage service).run w = (.error (.storage e), w₁) ∧ w₁.journal = w.journal
  /-- When no tokens are issued, all artifacts are staged. -/
  tokens : ∀ heap, heapLimit r.budget r.heapRatio r.heapCap = .ok heap → Text.isWritable heap →
    ∀ staged w₁, r.Stages storage w r.artifacts staged w₁ →
    ∀ present w₂, Action.Runs (Resource.register storage) w₁ r.existing present w₂ →
    ∀ root uri, (Resource.rootOrHome storage r.root).run w₂ = (.ok root, w₂) →
      (storage.qualify root).run w₂ = (.ok uri, w₂) →
    ∀ e w₃, (service.obtain ((staged ++ present).map (·.uri) ++ [uri])).run w₂ = (.error e, w₃) →
      (r.assemble storage service).run w = (.error (.credentials e), w₃) ∧
        w₃.unrecorded = w₁.unrecorded
  /-- Once all resources are described, nothing but the log and the journal changes, however the
  assembly ends. -/
  described : ∀ heap, heapLimit r.budget r.heapRatio r.heapCap = .ok heap →
    ∀ staged w₁, r.Stages storage w r.artifacts staged w₁ →
    ∀ present w₂, Action.Runs (Resource.register storage) w₁ r.existing present w₂ →
    ∀ result w₃, (r.assemble storage service).run w = (result, w₃) →
      w₃.unrecorded = w₁.unrecorded
  /-- An assembly that succeeds has asked the service once, for the resources in their order and for
  the staging root. -/
  success : ∀ spec w', (r.assemble storage service).run w = (.ok spec, w') →
    ∃ staged present w₁ root uri,
      r.Stages storage w r.artifacts staged w₁ ∧
      Action.Runs (Resource.register storage) w₁ r.existing present w₁ ∧
      spec.resources = staged ++ present ∧
      (Resource.rootOrHome storage r.root).run w₁ = (.ok root, w₁) ∧
      (storage.qualify root).run w₁ = (.ok uri, w₁) ∧
      w'.unrecorded = w₁.unrecorded ∧
      tokenRequestsIn w'.journal =
        tokenRequestsIn w.journal ++ [spec.resources.map (·.uri) ++ [uri]]

theorem assemble_endsInStages (r : LaunchRequest) (storage : Storage) (service : TokenService)
    (w : World) : r.EndsInStages storage service w where
  heap e h := run_assemble_of_heap_error h
  artifact heap hheap before a after hartifacts staged w₁ hstaged e w₂ hfails := by
    have hresources := run_resources_of_artifact_error hartifacts hstaged hfails
    have hjournal : w₂.journal = w₁.journal :=
      (congrArg World.journal ((Resource.keeps_provision storage a _ _).eq hfails) :)
    exact ⟨run_assemble_of_resources_error hheap hresources,
      Resource.keepsStored_of_provision_error hfails,
      hjournal.trans (journal_of_stages hstaged)⟩
  existing heap hheap staged w₁ hstaged before path after hexisting present w₂ hpresent e w₃
      hfails := by
    have hresources := run_resources_of_existing_error hstaged hexisting hpresent hfails
    have hlast : w₃ = w₂ := (Resource.keeps_register (v := id) storage path).eq hfails
    rw [hlast, Resource.eq_of_runs_register hpresent] at hresources
    exact ⟨run_assemble_of_resources_error hheap hresources, journal_of_stages hstaged⟩
  unwritable heap hheap hlong staged w₁ hstaged present w₂ hpresent := by
    rw [run_assemble_of_runs hheap hstaged hpresent]
    exact ⟨run_equip_of_unwritable hlong, journal_of_stages hstaged⟩
  root heap hheap hwritable staged w₁ hstaged present w₂ hpresent e w₃ hfails := by
    have hlast : w₃ = w₂ := (keeps_tokenPaths (v := id) r storage _).eq hfails
    rw [hlast, Resource.eq_of_runs_register hpresent] at hfails
    rw [run_assemble_of_runs hheap hstaged hpresent]
    exact ⟨run_equip_of_tokenPaths_error hwritable hfails, journal_of_stages hstaged⟩
  tokens heap hheap hwritable staged w₁ hstaged present w₂ hpresent root uri hroot huri e w₃
      hfails := by
    rw [run_assemble_of_runs hheap hstaged hpresent]
    obtain rfl := Resource.eq_of_runs_register hpresent
    have hpaths := run_tokenPaths_of_ok (staged ++ present) hroot huri
    exact ⟨run_equip_of_service_error hwritable hpaths hfails, (service.keeps_obtain _).eq hfails⟩
  described heap hheap staged w₁ hstaged present w₂ hpresent result w₃ hrun := by
    rw [run_assemble_of_runs hheap hstaged hpresent] at hrun
    exact (keeps_equip r storage service heap _).eq hrun
  success spec w' h := by
    obtain ⟨w₁, paths, w₂, log, hresources, hpaths, hbundle, rfl⟩ := run_assemble_eq_ok h
    obtain ⟨staged, present, w₀, hstaged, hpresent, hspec⟩ := run_resources_eq_ok hresources
    obtain rfl := Resource.eq_of_runs_register hpresent
    obtain ⟨root, uri, hroot, huri, rfl, -⟩ := run_tokenPaths_eq_ok hpaths
    obtain ⟨issued, w₃, log', hissued, -, rfl⟩ := Credentials.run_bundle_eq_ok hbundle
    have hkept := (service.keeps_obtain _).eq hissued
    have hasked := tokenRequestsIn_of_obtain hissued
    rw [journal_of_stages hstaged] at hasked
    exact ⟨staged, present, w₁, root, uri, hstaged, hpresent, hspec, hroot, huri, hkept, hasked⟩

/-- Of two artifacts, the second is missing. -/
def halfStagedRequest : LaunchRequest where
  budget := 1000
  application := "app"
  artifacts := [.ofText "/a/x", .ofText "/c/x"]
  root := some "s3://b"
  heapRatio := .whole 1

theorem assemble_endsInStages_missingArtifact : ∃ staged w₁ e w₂,
    heapLimit 1000 (.whole 1) defaultHeapCap = .ok 1000 ∧
    halfStagedRequest.Stages (.bucket "b") sameNames [.ofText "/a/x"] staged w₁ ∧
    (Resource.provision (.bucket "b") (.ofText "/c/x") "app" (some "s3://b")).run w₁ =
      (.error e, w₂) ∧
    (halfStagedRequest.assemble (.bucket "b") (.fixed [])).run sameNames =
      (.error (.storage e), w₂) ∧
    w₁.KeepsStored w₂ ∧ w₂.journal = sameNames.journal := by
  have hheap : heapLimit 1000 (.whole 1) defaultHeapCap = .ok 1000 := by decide
  have hfirst : ((Resource.provision (.bucket "b") (.ofText "/a/x") "app" (some "s3://b")).run
      sameNames).1.toOption = some ⟨"s3://b/.floe/app/x", 1, 0, .application, .file⟩ := by
    decide +kernel
  have hrefused : ((Resource.provision (.bucket "b") (.ofText "/c/x") "app" (some "s3://b")).run
      ((Resource.provision (.bucket "b") (.ofText "/a/x") "app" (some "s3://b")).run
        sameNames).2).1.toOption = none := by
    decide +kernel
  have hstaged : halfStagedRequest.Stages (.bucket "b") sameNames [.ofText "/a/x"] _ _ :=
    .cons (Action.run_eq_of_toOption hfirst) (.nil _)
  obtain ⟨e, hsecond⟩ := Action.run_eq_of_toOption_eq_none hrefused
  obtain ⟨hrun, hkept, hjournal⟩ :=
    (assemble_endsInStages halfStagedRequest (.bucket "b") (.fixed [])
      sameNames).artifact 1000 hheap
      [.ofText "/a/x"] (.ofText "/c/x") [] rfl _ _ hstaged e _ hsecond
  exact ⟨_, _, e, _, hheap, hstaged, hsecond, hrun, hkept, hjournal⟩

end LaunchRequest
end ClusterAgent
