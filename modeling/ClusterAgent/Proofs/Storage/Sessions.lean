import ClusterAgent.Proofs.Pairing
import ClusterAgent.Resource

/-! Storage needs no sessions: whatever a session service would answer, files and objects are read
and written in the same way. -/
namespace ClusterAgent

open ClusterAgent.Action

namespace Files

theorem ignoresSessions_checkPath (path : LocalPath) : (checkPath path).IgnoresSessions := by
  unfold checkPath
  split
  · exact .throw _
  · exact .pure _

theorem ignoresSessions_query {α : Type} (path : LocalPath)
    (f : FileTree → LocalPath → Except OsCode α) : (query path f).IgnoresSessions := by
  refine (ignoresSessions_checkPath path).bind fun _ => .get_bind (fun w => ?_) fun _ _ => rfl
  split
  · exact .pure _
  · exact .throw _

theorem ignoresSessions_update (path : LocalPath)
    (g : FileTree → LocalPath → Except OsCode FileTree) : (update path g).IgnoresSessions :=
  (ignoresSessions_query path g).bind fun _ => .modify fun _ _ => rfl

theorem ignoresSessions_isDirectory (path : LocalPath) : (isDirectory path).IgnoresSessions := by
  refine .get_bind (fun w => ?_) fun _ _ => rfl
  split
  · exact .pure _
  · exact .throw _
  · exact .pure _

theorem ignoresSessions_makeDirectory (path : LocalPath) :
    (makeDirectory path).IgnoresSessions := by
  refine (ignoresSessions_update path _).tryCatch fun e => ?_
  cases e with
  | os e =>
    dsimp only
    split
    · exact .throw _
    · refine (ignoresSessions_isDirectory path).bind fun b => ?_
      cases b with
      | true => exact .pure _
      | false => exact .throw _
  | _ => exact .throw _

theorem ignoresSessions_makeDirectories (path : LocalPath) (depth : Nat) :
    (makeDirectories path depth).IgnoresSessions := by
  induction depth generalizing path with
  | zero => exact ignoresSessions_makeDirectory path
  | succ depth ih =>
    rw [makeDirectories]
    split
    · exact ignoresSessions_makeDirectory path
    · refine (ignoresSessions_makeDirectory path).tryCatch fun e => ?_
      split
      · exact (ih path.parent).bind fun _ => ignoresSessions_makeDirectory path
      · exact .throw _

theorem ignoresSessions_ensureDirectory (path : LocalPath) :
    (ensureDirectory path).IgnoresSessions := ignoresSessions_makeDirectories path _

theorem ignoresSessions_write (path : LocalPath) (content : List UInt8) (mode : Nat) :
    (write path content mode).IgnoresSessions :=
  .get_bind (fun _ => ignoresSessions_update path _) fun _ _ => rfl

theorem ignoresSessions_same (p q : LocalPath) : (same p q).IgnoresSessions := by
  refine (ignoresSessions_checkPath p).bind fun _ => (ignoresSessions_checkPath q).bind fun _ => ?_
  refine .get_bind (fun w => ?_) fun _ _ => rfl
  split <;> exact .pure _

theorem ignoresSessions_copy (source target : LocalPath) :
    (copy source target).IgnoresSessions := by
  unfold copy
  refine (ignoresSessions_same source target).bind fun b => ?_
  cases b with
  | true => exact .throw _
  | false =>
    exact (ignoresSessions_query source _).bind fun content =>
      ignoresSessions_write target content _

end Files

namespace Storage

theorem ignoresSessions_qualifyLocal (path : String) : (qualifyLocal path).IgnoresSessions :=
  (IgnoresSessions.liftM _).bind fun _ => .get_bind (fun _ => .pure _) fun _ _ => rfl

theorem ignoresSessions_qualify (storage : Storage) (path : String) :
    (storage.qualify path).IgnoresSessions := by
  cases storage with
  | mounted home => exact ignoresSessions_qualifyLocal path
  | bucket name => exact .pure _

theorem ignoresSessions_userHome : userHome.IgnoresSessions := by
  refine .get_bind (fun w => ?_) fun _ _ => rfl
  dsimp only
  generalize (if Text.trimEndOf '/' w.home = "" then "/" else Text.trimEndOf '/' w.home) = home
  split
  · exact (IgnoresSessions.throw _).bind fun _ => .pure _
  · exact .pure _

theorem ignoresSessions_home (storage : Storage) : storage.home.IgnoresSessions := by
  cases storage with
  | mounted home =>
    unfold Storage.home
    dsimp only
    split
    · exact ignoresSessions_qualifyLocal _
    · exact ignoresSessions_userHome.bind ignoresSessions_qualifyLocal
  | bucket name => exact .get_bind (fun _ => .pure _) fun _ _ => rfl

theorem ignoresSessions_upload (source : LocalPath) (address : ObjectAddress) :
    (upload source address).IgnoresSessions := by
  refine .get_bind (fun w => ?_) fun _ _ => rfl
  split
  · exact .throw _
  · exact (Files.ignoresSessions_query source _).bind fun _ => .modify fun _ _ => rfl

theorem ignoresSessions_copy (storage : Storage) (source : LocalPath) (path : String) :
    (storage.copy source path).IgnoresSessions := by
  cases storage with
  | mounted home =>
    refine (IgnoresSessions.liftM _).bind fun target => ?_
    exact (Files.ignoresSessions_ensureDirectory _).bind fun _ =>
      Files.ignoresSessions_copy source target
  | bucket name =>
    exact (IgnoresSessions.liftM _).bind fun address => ignoresSessions_upload source address

theorem ignoresSessions_stat (storage : Storage) (path : String) :
    (storage.stat path).IgnoresSessions := by
  cases storage with
  | mounted home =>
    refine (IgnoresSessions.liftM _).bind fun p => ?_
    refine (Files.ignoresSessions_query p _).bind fun n => ?_
    refine (ignoresSessions_qualifyLocal path).bind fun uri => ?_
    exact .get_bind (fun w => .pure _) fun _ _ => rfl
  | bucket name =>
    refine (IgnoresSessions.liftM _).bind fun address => .get_bind (fun w => ?_) fun _ _ => rfl
    cases w.objects.head address with
    | ok object => exact .pure _
    | error fault => exact .throw _

end Storage

namespace Resource

theorem ignoresSessions_rootOrHome (storage : Storage) (root : Option String) :
    (rootOrHome storage root).IgnoresSessions := by
  unfold rootOrHome
  split
  · exact .pure _
  · exact storage.ignoresSessions_home

theorem ignoresSessions_stagingPath (storage : Storage) (application fileName : String)
    (root : Option String) : (stagingPath storage application fileName root).IgnoresSessions :=
  (ignoresSessions_rootOrHome storage root).bind fun path =>
    (storage.ignoresSessions_qualify path).bind fun _ => .pure _

theorem ignoresSessions_register (storage : Storage) (path : String) :
    (register storage path).IgnoresSessions :=
  (storage.ignoresSessions_stat path).bind fun _ => .pure _

theorem ignoresSessions_provision (storage : Storage) (source : LocalPath) (application : String)
    (root : Option String) : (provision storage source application root).IgnoresSessions := by
  refine (ignoresSessions_stagingPath storage application source.name root).bind fun target => ?_
  refine (IgnoresSessions.modify fun _ _ => rfl).bind fun _ => ?_
  exact (storage.ignoresSessions_copy source target).bind fun _ =>
    ignoresSessions_register storage target

end Resource
end ClusterAgent
