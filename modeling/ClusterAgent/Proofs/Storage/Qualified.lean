import ClusterAgent.Proofs.Storage.Place

/-! Qualified URIs of mounted paths: they are read back as the absolute paths that they were made
of, and qualifying them again changes nothing, wherever the process works by then. -/
namespace ClusterAgent

namespace LocalPath

/-- The working directory does not matter to an absolute path. -/
theorem absolute_eq_self {p : LocalPath} (habsolute : p.anchor ≠ .relative)
    (workingDirectory : LocalPath) : p.absolute workingDirectory = p := if_neg habsolute

end LocalPath

namespace Storage

open LocalPath

variable {home : Option String} {path : String} {p : LocalPath}

/-- A plain path is taken literally, and of a `file` URI the path is, without its escapes. -/
theorem localPath_eq_ok : localPath path = .ok p ↔ ∃ u, Uri.parse path = .ok u ∧
    (u.scheme = "" ∧ p = .ofText path ∨
      u.scheme = "file" ∧ p = .ofText (Uri.unquote u.path)) := by
  unfold localPath
  cases Uri.parse path with
  | error e =>
    refine iff_of_false nofun ?_
    rintro ⟨u, hu, -⟩
    cases hu
  | ok u =>
    dsimp only
    constructor
    · intro h
      refine ⟨u, rfl, ?_⟩
      split at h
      · next hplain => exact Or.inl ⟨hplain, (Except.ok.inj h).symm⟩
      · split at h
        · next hfile => exact Or.inr ⟨hfile, (Except.ok.inj h).symm⟩
        · cases h
    · rintro ⟨_, ⟨⟩, ⟨hplain, rfl⟩ | ⟨hfile, rfl⟩⟩
      · rw [if_pos hplain]
      · have hplain : u.scheme ≠ "" := by
          rw [hfile]
          decide
        rw [if_neg hplain, if_pos hfile]

/-- The URI of an absolute path is its own qualified form. -/
theorem run_qualify_toUri (habsolute : p.anchor ≠ .relative) (hnormal : p.Normal) (w : World) :
    ((mounted home).qualify p.toUri).run w = (.ok p.toUri, w) := by
  refine run_qualifyLocal_eq_ok.mpr ⟨p, localPath_toUri habsolute hnormal, ?_, rfl⟩
  rw [absolute_eq_self habsolute]

/-- A path that is accepted has a qualified URI. This is a `file` URI of its absolute form: it is
read as that path, leads where the path leads from every working directory, and is qualified
already. -/
theorem run_qualify_mounted {w : World} (hsettled : w.workingDirectory.Settled)
    (hpath : localPath path = .ok p) :
    (∃ u, Uri.parse path = .ok u ∧ (u.scheme = "" ∧ p = .ofText path ∨
      u.scheme = "file" ∧ p = .ofText (Uri.unquote u.path))) ∧
    ∃ uri, ((mounted home).qualify path).run w = (.ok uri, w) ∧
      (∃ u, Uri.parse uri = .ok u ∧ u.scheme = "file" ∧ u.authority = "") ∧
      localPath uri = .ok (p.absolute w.workingDirectory) ∧
      (p.absolute w.workingDirectory).anchor ≠ .relative ∧
      ∀ w', ((mounted home).qualify uri).run w' = (.ok uri, w') ∧
        (p.absolute w.workingDirectory).key w'.workingDirectory = p.key w.workingDirectory := by
  have habsolute := absolute_absolute (p := p) hsettled
  have hnormal := normal_absolute hsettled (normal_of_localPath hpath)
  refine ⟨localPath_eq_ok.mp hpath, (p.absolute w.workingDirectory).toUri, ?_, ?_, ?_, habsolute,
    fun w' => ⟨?_, ?_⟩⟩
  · exact run_qualifyLocal_eq_ok.mpr ⟨p, hpath, rfl, rfl⟩
  · exact ⟨_, parse_toUri habsolute, rfl, rfl⟩
  · exact localPath_toUri habsolute hnormal
  · exact run_qualify_toUri habsolute hnormal w'
  · rw [key_of_absolute habsolute, resolve_absolute hsettled]

/-- A relative path of characters that a URI gives a meaning to, in a directory with a space. -/
theorem run_qualify_mounted_reserved :
    LocalPath.Settled ⟨.root, ["a b"]⟩ ∧
      localPath "c%41//d?e#;" = .ok ⟨.relative, ["c%41", "d?e#;"]⟩ ∧
    ∃ uri, ((mounted none).qualify "c%41//d?e#;").run
        { World.bare with workingDirectory := ⟨.root, ["a b"]⟩ } =
        (.ok uri, { World.bare with workingDirectory := ⟨.root, ["a b"]⟩ }) ∧
      uri = "file:///a%20b/c%2541/d%3Fe%23%3B" ∧
      localPath uri = .ok ⟨.root, ["a b", "c%41", "d?e#;"]⟩ ∧
      ((mounted none).qualify uri).run World.bare = (.ok uri, World.bare) := by
  have hsettled : LocalPath.Settled ⟨.root, ["a b"]⟩ := ⟨by decide, by decide⟩
  have hpath : localPath "c%41//d?e#;" = .ok ⟨.relative, ["c%41", "d?e#;"]⟩ := by decide +kernel
  obtain ⟨-, uri, hqualify, -, hlocal, -, hagain⟩ := @run_qualify_mounted none _ _
    { World.bare with workingDirectory := ⟨.root, ["a b"]⟩ } hsettled hpath
  refine ⟨hsettled, hpath, uri, hqualify, ?_, hlocal, (hagain World.bare).1⟩
  obtain ⟨p, hp, huri, -⟩ := run_qualifyLocal_eq_ok.mp hqualify
  obtain rfl := Except.ok.inj (hp.symm.trans hpath)
  rw [huri]
  decide +kernel

end Storage
end ClusterAgent
