import ClusterAgent.Uri.Quoting

/-!
Paths of the local file system in normal form: an anchor and the parts between the slashes. Empty
parts and single dots are dropped; a pair of dots stays, because only the file system knows where it
leads.
-/
namespace ClusterAgent

/-- Where a path starts. Exactly two leading slashes are kept apart from one. -/
inductive PathAnchor
  | relative
  | root
  | doubleRoot
  deriving Repr, DecidableEq

structure LocalPath where
  anchor : PathAnchor
  parts : List String
  deriving Repr, DecidableEq

namespace LocalPath

/-- The anchor that the number of leading slashes stands for. -/
def anchorOf (slashes : Nat) : PathAnchor :=
  if slashes = 0 then .relative else if slashes = 2 then .doubleRoot else .root

def ofChars (cs : List Char) : LocalPath where
  anchor := anchorOf (cs.takeWhile (· == '/')).length
  parts := ((Uri.splitAll '/' cs).filter fun p => p != [] && p != ['.']).map String.ofList

def ofText (s : String) : LocalPath := ofChars s.toList

def anchorText : PathAnchor → String
  | .relative => ""
  | .root => "/"
  | .doubleRoot => "//"

/-- The path as text; the empty relative path is a dot. -/
def text (p : LocalPath) : String :=
  if p.anchor = .relative && p.parts.isEmpty then "."
  else anchorText p.anchor ++ "/".intercalate p.parts

/-- The last part, or nothing for an anchor alone. -/
def name (p : LocalPath) : String := p.parts.getLast?.getD ""

def parent (p : LocalPath) : LocalPath := { p with parts := p.parts.dropLast }

def append (p q : LocalPath) : LocalPath :=
  if q.anchor = .relative then { p with parts := p.parts ++ q.parts } else q

/-- The path as seen from a working directory. -/
def absolute (p workingDirectory : LocalPath) : LocalPath := workingDirectory.append p

/-- The `file` URI of an absolute path. -/
def toUri (p : LocalPath) : String := "file://" ++ Uri.quote p.text

end LocalPath
end ClusterAgent
