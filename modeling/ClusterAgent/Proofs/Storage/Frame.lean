import ClusterAgent.Proofs.Storage.Files
import ClusterAgent.Resource

/-! What the operations of storage leave as it is, whether or not they succeed: look-ups everything,
and staging all but files, objects and the log. -/
namespace ClusterAgent

variable {γ : Type} {v : World → γ}

namespace Files

theorem keeps_checkPath (path : LocalPath) : (checkPath path).Keeps v := by
  intro w
  obtain ⟨r, hrun, -⟩ := run_checkPath path w
  rw [hrun]

theorem keeps_query {α : Type} (path : LocalPath) (f : FileTree → LocalPath → Except OsCode α) :
    (query path f).Keeps v := by
  intro w
  obtain ⟨r, hrun, -⟩ := run_query path f w
  rw [hrun]

theorem keeps_update (path : LocalPath) (g : FileTree → LocalPath → Except OsCode FileTree) :
    (update path g).Keeps World.setting := by
  intro w
  obtain ⟨e, hrun⟩ | ⟨-, files, -, hrun⟩ := run_update path g w
  · rw [hrun]
  · rw [hrun]
    rfl

theorem keeps_ensureDirectory (path : LocalPath) : (ensureDirectory path).Keeps World.setting := by
  intro w
  cases hrun : (ensureDirectory path).run w with
  | mk r w' =>
    obtain ⟨files, rfl, -⟩ := run_ensureDirectory hrun
    rfl

theorem keeps_same (p q : LocalPath) : (same p q).Keeps v := by
  unfold same
  refine (keeps_checkPath p).bind fun _ => (keeps_checkPath q).bind fun _ => ?_
  refine Action.keeps_get.bind fun w => ?_
  split <;> exact Action.keeps_pure _

theorem keeps_copy (source target : LocalPath) : (copy source target).Keeps World.setting := by
  unfold copy
  refine (keeps_same source target).bind fun b => ?_
  cases b with
  | true => exact Action.keeps_throw _
  | false =>
    refine (keeps_query source _).bind fun content => ?_
    exact Action.keeps_get.bind fun w => keeps_update target _

end Files

namespace Storage

theorem keeps_qualifyLocal (path : String) : (qualifyLocal path).Keeps v := by
  unfold qualifyLocal
  refine (Action.keeps_liftM _).bind fun p => ?_
  exact Action.keeps_get.bind fun w => Action.keeps_pure _

theorem keeps_qualify (storage : Storage) (path : String) : (storage.qualify path).Keeps v := by
  cases storage with
  | mounted home => exact keeps_qualifyLocal path
  | bucket name => exact Action.keeps_pure _

theorem keeps_userHome : userHome.Keeps v := by
  unfold userHome
  refine Action.keeps_get.bind fun w => ?_
  generalize Text.trimEndOf '/' w.home = home
  dsimp only
  generalize (if home = "" then "/" else home) = home
  by_cases hhome : home.toList.head? = some '~'
  · rw [if_pos hhome]
    exact (Action.keeps_throw _).bind fun _ => Action.keeps_pure _
  · rw [if_neg hhome]
    exact Action.keeps_pure _

theorem keeps_home (storage : Storage) : storage.home.Keeps v := by
  cases storage with
  | mounted home =>
    unfold Storage.home
    dsimp only
    split
    · exact keeps_qualifyLocal _
    · exact keeps_userHome.bind fun home => keeps_qualifyLocal home
  | bucket name => exact Action.keeps_get.bind fun w => Action.keeps_pure _

theorem keeps_upload (source : LocalPath) (address : ObjectAddress) :
    (upload source address).Keeps World.setting := by
  unfold upload
  refine Action.keeps_get.bind fun w => ?_
  split
  · exact Action.keeps_throw _
  · exact (Files.keeps_query source _).bind fun content => Action.keeps_modify fun w => rfl

theorem keeps_copy (storage : Storage) (source : LocalPath) (path : String) :
    (storage.copy source path).Keeps World.setting := by
  cases storage with
  | mounted home =>
    refine (Action.keeps_liftM _).bind fun target => ?_
    exact (Files.keeps_ensureDirectory _).bind fun _ => Files.keeps_copy source target
  | bucket name => exact (Action.keeps_liftM _).bind fun address => keeps_upload source address

theorem keeps_stat (storage : Storage) (path : String) : (storage.stat path).Keeps v := by
  cases storage with
  | mounted home =>
    refine (Action.keeps_liftM _).bind fun p => (Files.keeps_query p _).bind fun node => ?_
    refine (keeps_qualifyLocal path).bind fun uri => ?_
    exact Action.keeps_get.bind fun w => Action.keeps_pure _
  | bucket name =>
    refine (Action.keeps_liftM _).bind fun address => Action.keeps_get.bind fun w => ?_
    cases w.objects.head address with
    | ok object => exact Action.keeps_pure _
    | error fault => exact Action.keeps_throw _

end Storage

namespace Resource

theorem keeps_rootOrHome (storage : Storage) (root : Option String) :
    (rootOrHome storage root).Keeps v := by
  unfold rootOrHome
  split
  · exact Action.keeps_pure _
  · exact storage.keeps_home

theorem keeps_stagingPath (storage : Storage) (application fileName : String)
    (root : Option String) : (stagingPath storage application fileName root).Keeps v := by
  refine (keeps_rootOrHome storage root).bind fun path => ?_
  exact (storage.keeps_qualify path).bind fun uri => Action.keeps_pure _

theorem keeps_register (storage : Storage) (path : String) : (register storage path).Keeps v :=
  (storage.keeps_stat path).bind fun _ => Action.keeps_pure _

theorem keeps_provision (storage : Storage) (source : LocalPath) (application : String)
    (root : Option String) : (provision storage source application root).Keeps World.setting := by
  refine (keeps_stagingPath storage application source.name root).bind fun target => ?_
  refine Action.Keeps.bind (Action.keeps_modify fun w => rfl) fun _ => ?_
  exact (storage.keeps_copy source target).bind fun _ => keeps_register storage target

end Resource
end ClusterAgent
