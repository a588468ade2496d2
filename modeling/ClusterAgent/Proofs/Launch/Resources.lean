import ClusterAgent.Proofs.Launch.Assembly
import ClusterAgent.Proofs.Staging
import ClusterAgent.Proofs.Token.Service

/-! The resources of assembled specifications: which of their descriptions are true in the end. -/
namespace ClusterAgent

theorem Resource.Describes.of_unrecorded_eq {storage : Storage} {resource : Resource}
    {w w' : World} (hdescribes : resource.Describes storage w)
    (h : w'.unrecorded = w.unrecorded) : resource.Describes storage w' := by
  have hstatus : w'.status? = w.status? := (congrArg World.status? h :)
  have hdirectory : w'.workingDirectory = w.workingDirectory :=
    (congrArg World.workingDirectory h :)
  unfold Resource.Describes
  rw [hstatus, hdirectory]
  exact hdescribes

namespace LaunchRequest

variable {r : LaunchRequest} {storage : Storage} {service : TokenService} {w w' : World}

/-- After the resources are described, storage stays as it is. -/
theorem unrecorded_of_assemble {spec : LaunchSpec}
    (h : (r.assemble storage service).run w = (.ok spec, w')) :
    ∃ w₁, (r.resources storage).run w = (.ok spec.resources, w₁) ∧
      w'.unrecorded = w₁.unrecorded := by
  obtain ⟨w₁, paths, w₂, log, hresources, -, hbundle, rfl⟩ := run_assemble_eq_ok h
  obtain ⟨issued, w₃, log', hissued, -, rfl⟩ := Credentials.run_bundle_eq_ok hbundle
  have hkept := (service.keeps_obtain paths).eq hissued
  exact ⟨w₁, hresources, hkept⟩

/-- Artifacts are staged, one after the other. -/
def Stages (r : LaunchRequest) (storage : Storage) :
    World → List LocalPath → List Resource → World → Prop :=
  Action.Runs fun a => Resource.provision storage a r.application r.root

/-- The place where an artifact of a request is staged. -/
def stagingPlace? (r : LaunchRequest) (storage : Storage) (w : World) (artifact : LocalPath) :
    Option Place :=
  Resource.stagingPlace? storage r.application r.root w artifact.name

section
variable {artifacts : List LocalPath} {staged : List Resource} {a : LocalPath} {d : Resource}
  {i : Nat}

/-- A description belongs to the artifact that stands where it stands: it names the place where this
artifact is staged. -/
theorem Stages.place?_eq (hsettled : w.workingDirectory.Settled)
    (h : r.Stages storage w artifacts staged w') (ha : artifacts[i]? = some a)
    (hd : staged[i]? = some d) :
    storage.place? w.workingDirectory d.uri = r.stagingPlace? storage w a := by
  obtain ⟨a', w₁, w₂, ha', hrun, hsetting⟩ :=
    h.exists_run (fun a => Resource.keeps_provision storage a r.application r.root) hd
  obtain rfl : a' = a := Option.some.inj (ha'.symm.trans ha)
  have hdirectory : w₁.workingDirectory = w.workingDirectory :=
    (congrArg World.workingDirectory hsetting :)
  have hplace := Resource.place?_of_provision (hdirectory ▸ hsettled) hrun
  rwa [Resource.stagingPlace?_congr hsetting, hdirectory] at hplace

/-- A description is true in the end if no later artifact is staged at the place of its own. -/
theorem Stages.describes (hsettled : w.workingDirectory.Settled)
    (h : r.Stages storage w artifacts staged w') (ha : artifacts[i]? = some a)
    (hd : staged[i]? = some d)
    (hother : ∀ j a', i < j → artifacts[j]? = some a' →
      r.stagingPlace? storage w a' ≠ r.stagingPlace? storage w a) :
    d.Describes storage w' := by
  refine Resource.describes_of_runs hsettled h hd ?_
  intro j d' hij hj
  obtain ⟨a', _, _, ha', -, -⟩ := h.exists_run (v := fun _ => ()) (fun _ _ => rfl) hj
  rw [h.place?_eq hsettled ha hd, h.place?_eq hsettled ha' hj]
  exact hother j a' hij ha'

end

/-- A specification has a description for each artifact, then for each resource that was there, in
their order. In the end, what an artifact was staged as is stored as it is described, unless a later
artifact was staged at the same place; what was there is stored as it is described. -/
theorem assemble_describes {spec : LaunchSpec} (hsettled : w.workingDirectory.Settled)
    (h : (r.assemble storage service).run w = (.ok spec, w')) :
    ∃ staged present w₁,
      r.Stages storage w r.artifacts staged w₁ ∧
      Action.Runs (Resource.register storage) w₁ r.existing present w₁ ∧
      spec.resources = staged ++ present ∧
      staged.length = r.artifacts.length ∧ present.length = r.existing.length ∧
      (∀ (i : Nat) (a : LocalPath) (d : Resource), r.artifacts[i]? = some a →
        staged[i]? = some d →
        storage.place? w.workingDirectory d.uri = r.stagingPlace? storage w a ∧
        ((∀ j a', i < j → r.artifacts[j]? = some a' →
          r.stagingPlace? storage w a' ≠ r.stagingPlace? storage w a) →
            d.Describes storage w')) ∧
      ∀ (i : Nat) (path : String) (d : Resource), r.existing[i]? = some path →
        present[i]? = some d →
        storage.place? w.workingDirectory d.uri = storage.place? w.workingDirectory path ∧
          d.Describes storage w' := by
  obtain ⟨w₁, hresources, hkept⟩ := unrecorded_of_assemble h
  obtain ⟨staged, present, w₂, hstaged, hpresent, hspec⟩ := run_resources_eq_ok hresources
  have hsetting := hstaged.keeps fun a => Resource.keeps_provision storage a r.application r.root
  have hdirectory : w₂.workingDirectory = w.workingDirectory :=
    (congrArg World.workingDirectory hsetting :)
  obtain rfl := Resource.eq_of_runs_register hpresent
  refine ⟨staged, present, w₁, hstaged, hpresent, hspec, hstaged.length_eq, hpresent.length_eq,
    ?_, ?_⟩
  · intro i a d ha hd
    have hstages : r.Stages storage w r.artifacts staged w₁ := hstaged
    refine ⟨hstages.place?_eq hsettled ha hd, fun hother => ?_⟩
    exact (hstages.describes hsettled ha hd hother).of_unrecorded_eq hkept
  · intro i path d hpath hd
    obtain ⟨path', w₂, w₃, hpath', hrun, hsame⟩ :=
      hpresent.exists_run (v := id) (Resource.keeps_register storage) hd
    obtain rfl : path' = path := Option.some.inj (hpath'.symm.trans hpath)
    obtain rfl : w₂ = w₁ := hsame
    obtain ⟨hdescribes, hplace⟩ := Resource.describes_of_register (hdirectory ▸ hsettled) hrun
    rw [hdirectory] at hplace
    exact ⟨hplace, hdescribes.of_unrecorded_eq hkept⟩

/-- Two files of one name. -/
def sameNames : World := { World.bare with
  files := [(["a"], .directory), (["a", "x"], .file [1] 0 0o644), (["b"], .directory),
    (["b", "x"], .file [2, 3] 0 0o644)] }

def sameNamesRequest : LaunchRequest where
  budget := 1000
  application := "app"
  artifacts := [.ofText "/a/x", .ofText "/b/x"]
  root := some "s3://b"
  heapRatio := .whole 1

theorem exists_assemble_sameNames : ∃ spec w',
    (sameNamesRequest.assemble (.bucket "b") (.fixed [])).run sameNames = (.ok spec, w') ∧
      spec.resources = [⟨"s3://b/.floe/app/x", 1, 0, .application, .file⟩,
        ⟨"s3://b/.floe/app/x", 2, 0, .application, .file⟩] ∧
      w'.objects = [(⟨"b", ".floe/app/x"⟩, ⟨[2, 3], 0⟩)] := by
  have hsome : ((sameNamesRequest.assemble (.bucket "b") (.fixed [])).run
      sameNames).1.toOption.isSome = true := by
    decide +kernel
  obtain ⟨spec, hspec⟩ := Option.isSome_iff_exists.mp hsome
  have h := Action.run_eq_of_toOption hspec
  obtain ⟨w₁, hresources, hkept⟩ := unrecorded_of_assemble h
  have hstaged : ((sameNamesRequest.resources (.bucket "b")).run sameNames).1.toOption =
      some [⟨"s3://b/.floe/app/x", 1, 0, .application, .file⟩,
        ⟨"s3://b/.floe/app/x", 2, 0, .application, .file⟩] := by
    decide +kernel
  have hobjects : ((sameNamesRequest.resources (.bucket "b")).run sameNames).2.objects =
      [(⟨"b", ".floe/app/x"⟩, ⟨[2, 3], 0⟩)] := by
    decide +kernel
  rw [hresources] at hstaged hobjects
  exact ⟨spec, _, h, Option.some.inj hstaged, (congrArg World.objects hkept :).trans hobjects⟩

/-- The second copy is described as it is stored. -/
theorem assemble_describes_sameNames : sameNames.workingDirectory.Settled ∧ ∃ spec w',
    (sameNamesRequest.assemble (.bucket "b") (.fixed [])).run sameNames = (.ok spec, w') ∧
      ∃ first second, spec.resources = [first, second] ∧
        Storage.place? (.bucket "b") sameNames.workingDirectory second.uri =
          sameNamesRequest.stagingPlace? (.bucket "b") sameNames (.ofText "/b/x") ∧
        second.Describes (.bucket "b") w' := by
  have hsettled : sameNames.workingDirectory.Settled := ⟨by decide, nofun⟩
  obtain ⟨spec, w', h, -, -⟩ := exists_assemble_sameNames
  obtain ⟨staged, present, w₁, -, -, hspec, hstaged, hpresent, hdescribes, -⟩ :=
    assemble_describes hsettled h
  obtain rfl : present = [] := List.eq_nil_of_length_eq_zero hpresent
  obtain ⟨first, second, rfl⟩ := List.length_eq_two.mp hstaged
  obtain ⟨hplace, htrue⟩ := hdescribes 1 (.ofText "/b/x") second rfl rfl
  refine ⟨hsettled, spec, w', h, first, second, hspec, hplace, htrue ?_⟩
  intro j a' hj ha'
  have hlast : sameNamesRequest.artifacts[j]? = none := List.getElem?_eq_none hj
  rw [hlast] at ha'
  cases ha'

/-- The first copy is replaced after it is described. -/
theorem not_describes_sameNames : sameNames.workingDirectory.Settled ∧ ∃ spec w',
    (sameNamesRequest.assemble (.bucket "b") (.fixed [])).run sameNames = (.ok spec, w') ∧
      ∃ d ∈ spec.resources, ¬ d.Describes (.bucket "b") w' := by
  obtain ⟨spec, w', h, hspec, hobjects⟩ := exists_assemble_sameNames
  refine ⟨⟨by decide, nofun⟩, spec, w', h,
    ⟨"s3://b/.floe/app/x", 1, 0, .application, .file⟩, ?_, ?_⟩
  · rw [hspec]
    exact List.mem_cons_self
  · rintro ⟨place, size, time, hplace, hstatus, hsize, -⟩
    have hplace' : Storage.place? (.bucket "b") w'.workingDirectory "s3://b/.floe/app/x" =
        some (.object ⟨"b", ".floe/app/x"⟩) := Storage.place?_bucket (by decide +kernel)
    obtain rfl : place = .object ⟨"b", ".floe/app/x"⟩ :=
      Option.some.inj (hplace.symm.trans hplace')
    rw [World.status?_object, hobjects] at hstatus
    cases hstatus
    cases hsize

end LaunchRequest
end ClusterAgent
