import ClusterAgent.Launch.Assembly
import ClusterAgent.Proofs.Resource
import ClusterAgent.Proofs.Text.Numeral
import ClusterAgent.Proofs.Token.Bundle

/-! Assembling launch specifications, step by step. -/
namespace ClusterAgent

namespace LaunchRequest

variable {r : LaunchRequest} {storage : Storage} {service : TokenService} {w w' : World}

/-! ### Steps of the assembly -/

theorem run_resources_eq_ok {resources : List Resource}
    (h : (r.resources storage).run w = (.ok resources, w')) : ∃ staged present w₁,
      Action.Runs (fun a => Resource.provision storage a r.application r.root) w r.artifacts
        staged w₁ ∧
      Action.Runs (Resource.register storage) w₁ r.existing present w' ∧
      resources = staged ++ present := by
  unfold LaunchRequest.resources at h
  obtain ⟨staged, w₁, hstaged, hrest⟩ := Action.run_bind_eq_ok.mp h
  obtain ⟨present, w₂, hpresent, hresources⟩ := Action.run_bind_eq_ok.mp hrest
  cases hresources
  exact ⟨staged, present, w₁, Action.run_mapM_eq_ok.mp hstaged, Action.run_mapM_eq_ok.mp hpresent,
    rfl⟩

theorem keeps_resources (r : LaunchRequest) (storage : Storage) :
    (r.resources storage).Keeps World.setting := by
  refine (Action.Keeps.mapM fun a _ => Resource.keeps_provision storage a _ _).bind fun staged => ?_
  refine (Action.Keeps.mapM fun path _ => Resource.keeps_register storage path).bind
    fun present => ?_
  exact Action.keeps_pure _

theorem run_tokenPaths_eq_ok {resources : List Resource} {paths : List String}
    (h : (r.tokenPaths storage resources).run w = (.ok paths, w')) : ∃ root uri,
      (Resource.rootOrHome storage r.root).run w = (.ok root, w) ∧
      (storage.qualify root).run w = (.ok uri, w) ∧ paths = resources.map (·.uri) ++ [uri] ∧
      w' = w := by
  unfold tokenPaths at h
  obtain ⟨root, w₁, hroot, hrest⟩ := Action.run_bind_eq_ok.mp h
  obtain rfl := (Resource.keeps_rootOrHome (v := id) storage r.root).eq hroot
  obtain ⟨uri, w₂, huri, hpaths⟩ := Action.run_bind_eq_ok.mp hrest
  obtain rfl := (storage.keeps_qualify (v := id) root).eq huri
  cases hpaths
  exact ⟨root, uri, hroot, huri, rfl, rfl⟩

theorem parts_of_ofParts {budget heap : Int} {environment : Environment}
    {resources : List Resource} {credentials : List UInt8} {spec : LaunchSpec}
    (h : LaunchSpec.ofParts budget heap environment resources credentials = .ok spec) :
    spec.resources = resources ∧ spec.credentials = credentials := by
  unfold LaunchSpec.ofParts at h
  split at h
  · cases h
    exact ⟨rfl, rfl⟩
  · cases h

theorem writable_of_environment {heap : Int} {environment : Environment}
    (h : r.environment heap = .ok environment) : Text.isWritable heap := by
  unfold LaunchRequest.environment at h
  cases hheap : Text.writeInteger heap with
  | error e =>
    rw [hheap] at h
    cases h
  | ok text => exact (Text.writeInteger_eq_ok.mp hheap).1

theorem exists_environment {heap : Int} (h : Text.isWritable heap) (r : LaunchRequest) :
    ∃ environment, r.environment heap = .ok environment := by
  unfold LaunchRequest.environment
  rw [Text.writeInteger_eq_ok.mpr ⟨h, rfl⟩]
  exact ⟨_, rfl⟩

theorem environment_of_unwritable {heap : Int} (h : Text.isWritable heap = false)
    (r : LaunchRequest) : r.environment heap = .error .unwritable := by
  unfold LaunchRequest.environment
  rw [Text.writeInteger_eq_error h]
  rfl

theorem exists_sizesText {budget heap : Int} (hbudget : Text.isWritable budget)
    (hheap : Text.isWritable heap) : ∃ text, LaunchSpec.sizesText budget heap = .ok text := by
  unfold LaunchSpec.sizesText
  rw [Text.writeInteger_eq_ok.mpr ⟨hbudget, rfl⟩, Text.writeInteger_eq_ok.mpr ⟨hheap, rfl⟩]
  exact ⟨_, rfl⟩

theorem run_equip_eq_ok {heap : Int} {resources : List Resource} {spec : LaunchSpec}
    (h : (r.equip storage service heap resources).run w = (.ok spec, w')) : ∃ paths w₁ log,
      (r.tokenPaths storage resources).run w = (.ok paths, w) ∧
      (Credentials.bundle service paths r.userTokens).run w = (.ok spec.credentials, w₁) ∧
      spec.resources = resources ∧ w' = { w₁ with log } := by
  unfold equip at h
  obtain ⟨environment, _, henvironment, hask⟩ := Action.run_bind_eq_ok.mp h
  obtain ⟨-, rfl⟩ := Action.run_liftM_mapError_eq_ok.mp henvironment
  obtain ⟨paths, w₁, hpaths, hbundle⟩ := Action.run_bind_eq_ok.mp hask
  obtain ⟨credentials, w₂, hcredentials, hsizes⟩ := Action.run_bind_eq_ok.mp hbundle
  rw [Action.run_mapFailure_eq_ok] at hpaths hcredentials
  obtain ⟨_, _, -, -, -, rfl⟩ := run_tokenPaths_eq_ok hpaths
  obtain ⟨sizes, _, hwritten, hrest⟩ := Action.run_bind_eq_ok.mp hsizes
  obtain ⟨-, rfl⟩ := Action.run_liftM_mapError_eq_ok.mp hwritten
  rw [Action.run_bind_of_ok (Action.run_logInfo _ _)] at hrest
  cases hspec : LaunchSpec.ofParts r.budget heap environment resources credentials with
  | error faults =>
    simp only [hspec] at hrest
    cases hrest
  | ok spec' =>
    simp only [hspec] at hrest
    cases hrest
    obtain ⟨hresources, rfl⟩ := parts_of_ofParts hspec
    exact ⟨paths, _, _, hpaths, hcredentials, hresources, rfl⟩

/-- Once the credentials are bundled, what is left is whether the parts make a specification. -/
theorem run_equip_of_bundle {heap : Int} {environment : Environment} {resources : List Resource}
    {paths : List String} {credentials : List UInt8} {w₁ w₂ : World}
    (hbudget : Text.isWritable r.budget) (henvironment : r.environment heap = .ok environment)
    (hpaths : (r.tokenPaths storage resources).run w = (.ok paths, w₁))
    (hcredentials : (Credentials.bundle service paths r.userTokens).run w₁ =
      (.ok credentials, w₂)) :
    ∃ log, (r.equip storage service heap resources).run w =
      ((LaunchSpec.ofParts r.budget heap environment resources credentials).mapError fun faults =>
        .invalid faults (.record
          (LaunchSpec.partFields r.budget heap environment resources credentials)),
        { w₂ with log }) := by
  obtain ⟨sizes, hsizes⟩ := exists_sizesText hbudget (writable_of_environment henvironment)
  unfold equip
  rw [Action.run_bind_of_ok (Action.run_liftM_mapError_eq_ok.mpr ⟨henvironment, rfl⟩),
    Action.run_bind_of_ok (Action.run_mapFailure_eq_ok.mpr hpaths),
    Action.run_bind_of_ok (Action.run_mapFailure_eq_ok.mpr hcredentials),
    Action.run_bind_of_ok (Action.run_liftM_mapError_eq_ok.mpr ⟨hsizes, rfl⟩),
    Action.run_bind_of_ok (Action.run_logInfo _ _)]
  cases LaunchSpec.ofParts r.budget heap environment resources credentials with
  | error faults => exact ⟨_, rfl⟩
  | ok spec => exact ⟨_, rfl⟩

/-- With a heap that is larger than the memory, all parts are made before they are refused. -/
theorem run_equip_of_oversized {heap : Int} {environment : Environment}
    {resources : List Resource} {paths : List String} {credentials : List UInt8} {w₁ : World}
    (hoversized : r.budget < heap) (hbudget : Text.isWritable r.budget)
    (henvironment : r.environment heap = .ok environment)
    (hpaths : (r.tokenPaths storage resources).run w = (.ok paths, w))
    (hcredentials : (Credentials.bundle service paths r.userTokens).run w =
      (.ok credentials, w₁)) :
    ∃ log, (r.equip storage service heap resources).run w =
      (.error (.invalid [⟨[], .heapExceedsBudget heap r.budget⟩] (.record
        (LaunchSpec.partFields r.budget heap environment resources credentials))),
        { w₁ with log }) := by
  have hspec : LaunchSpec.ofParts r.budget heap environment resources credentials =
      .error [⟨[], .heapExceedsBudget heap r.budget⟩] := dif_neg (Int.not_le.mpr hoversized)
  obtain ⟨log, hequip⟩ := run_equip_of_bundle hbudget henvironment hpaths hcredentials
  rw [hspec] at hequip
  exact ⟨log, hequip⟩

theorem run_heapLimit_of_ok {heap : Int}
    (h : heapLimit r.budget r.heapRatio r.heapCap = .ok heap) (w : World) :
    (liftM ((heapLimit r.budget r.heapRatio r.heapCap).mapError AssemblyError.heap) :
      Action AssemblyError Int).run w = (.ok heap, w) :=
  Action.run_liftM_mapError_eq_ok.mpr ⟨h, rfl⟩

/-- Once the resources are described, the rest of the assembly is left. -/
theorem run_assemble_of_described {heap : Int} {resources : List Resource}
    (hheap : heapLimit r.budget r.heapRatio r.heapCap = .ok heap)
    (hresources : (r.resources storage).run w = (.ok resources, w')) :
    (r.assemble storage service).run w = (r.equip storage service heap resources).run w' := by
  unfold assemble
  rw [Action.run_bind_of_ok (run_heapLimit_of_ok hheap w),
    Action.run_bind_of_ok (Action.run_mapFailure_eq_ok.mpr hresources)]

theorem run_assemble_eq_ok {spec : LaunchSpec}
    (h : (r.assemble storage service).run w = (.ok spec, w')) : ∃ w₁ paths w₂ log,
      (r.resources storage).run w = (.ok spec.resources, w₁) ∧
      (r.tokenPaths storage spec.resources).run w₁ = (.ok paths, w₁) ∧
      (Credentials.bundle service paths r.userTokens).run w₁ = (.ok spec.credentials, w₂) ∧
      w' = { w₂ with log } := by
  unfold assemble at h
  obtain ⟨heap, w₀, hheap, hstage⟩ := Action.run_bind_eq_ok.mp h
  obtain ⟨-, rfl⟩ := Action.run_liftM_eq_ok.mp hheap
  obtain ⟨resources, w₁, hresources, hequip⟩ := Action.run_bind_eq_ok.mp hstage
  obtain ⟨paths, w₂, log, hpaths, hbundle, rfl, hstate⟩ := run_equip_eq_ok hequip
  exact ⟨w₁, paths, w₂, log, Action.run_mapFailure_eq_ok.mp hresources, hpaths, hbundle, hstate⟩

theorem run_assemble_of_ok {heap : Int} {resources : List Resource} {paths : List String}
    {credentials : List UInt8} {w₁ w₂ w₃ : World}
    (hheap : heapLimit r.budget r.heapRatio r.heapCap = .ok heap) (hfits : heap ≤ r.budget)
    (hwritable : Text.isWritable heap ∧ Text.isWritable r.budget)
    (hresources : (r.resources storage).run w = (.ok resources, w₁))
    (hpaths : (r.tokenPaths storage resources).run w₁ = (.ok paths, w₂))
    (hcredentials : (Credentials.bundle service paths r.userTokens).run w₂ =
      (.ok credentials, w₃)) :
    ∃ spec log, (r.assemble storage service).run w = (.ok spec, { w₃ with log }) := by
  obtain ⟨environment, henvironment⟩ := exists_environment hwritable.1 r
  have hspec : LaunchSpec.ofParts r.budget heap environment resources credentials =
      .ok ⟨r.budget, heap, environment, resources, credentials, hfits⟩ := dif_pos hfits
  obtain ⟨log, hequip⟩ := run_equip_of_bundle hwritable.2 henvironment hpaths hcredentials
  rw [hspec] at hequip
  rw [run_assemble_of_described hheap hresources]
  exact ⟨_, log, hequip⟩

end LaunchRequest
end ClusterAgent
