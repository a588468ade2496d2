import ClusterAgent.Uri.Basic

/-!
The address that a server listens on, from a URL or from its authority alone.
-/
namespace ClusterAgent

structure BindAddress where
  host : String
  port : Nat
  deriving Repr, DecidableEq

namespace BindAddress

def defaultHost : String := "0.0.0.0"

def defaultPort : Nat := 8081

/-- Whether two slashes stand next to each other somewhere in the text. -/
def hasSlashes : List Char → Bool
  | '/' :: '/' :: _ => true
  | _ :: rest => hasSlashes rest
  | [] => false

/-- Host and port of `http://host[:port][/path]`; the scheme may be left out. A missing host and a
missing or zero port take their defaults. -/
def parse (url : String) : Except UriError BindAddress := do
  let uri ← Uri.parse (if hasSlashes url.toList then url else "//" ++ url)
  let port ← uri.port?
  return {
    host := if uri.host = "" then defaultHost else uri.host
    port := if port.getD 0 = 0 then defaultPort else port.getD 0 }

end BindAddress
end ClusterAgent
