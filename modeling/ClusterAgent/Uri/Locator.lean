import ClusterAgent.Uri.Basic
import ClusterAgent.Uri.Quoting

/-!
Locators: the URIs that are asked for over HTTP. Scheme and host are in lower case, the port is left
out where the scheme implies it, dot segments are resolved, and each part is escaped by its own
rule. What form in ASCII a host name has that is outside ASCII is up to `asciiName`.
-/
namespace ClusterAgent

structure Locator where
  scheme : String := ""
  user : String := ""
  host : String := ""
  port : Option Int := none
  path : String := ""
  query : Option String := none
  fragment : Option String := none
  deriving Repr, DecidableEq

/-- Why a text is no locator. -/
inductive LocatorError
  | tooLong
  | control (c : Char) (position : Nat)
  | quad (host : String)
  | groups (host : String)
  /-- A host name without a form in ASCII. -/
  | name (host : String)
  | port (text : String)
  | slashes
  | colon
  /-- A document counts only when its locator names scheme and host. -/
  | incomplete (text : String)
  deriving Repr, DecidableEq

def LocatorError.message : LocatorError → String
  | tooLong => "URL too long"
  | control c i =>
    "Invalid non-printable ASCII character in URL, " ++ Text.quoted (String.singleton c) ++
      s!" at position {i}."
  | quad host => "Invalid IPv4 address: " ++ Text.quoted host
  | groups host => "Invalid IPv6 address: " ++ Text.quoted host
  | name host => "Invalid IDNA hostname: " ++ Text.quoted host
  | port text => "Invalid port: " ++ Text.quoted text
  | slashes => "Relative URLs cannot have a path starting with '//'"
  | colon => "Relative URLs cannot have a path starting with ':'"
  | incomplete text => "unknown url type: " ++ Text.quoted text

namespace Locator

def maxLength : Nat := 65536

/-- The ports that schemes imply. -/
def impliedPorts : List (String × Int) :=
  [("ftp", 21), ("http", 80), ("https", 443), ("ws", 80), ("wss", 443)]

def escapedInQuery : List Char := [' ', '"', '#', '<', '>']
def escapedInFragment : List Char := [' ', '"', '<', '>', '`']
def escapedInPath : List Char := escapedInQuery ++ ['?', '`', '{', '}']
def escapedInUser : List Char := escapedInPath ++ ['/', ';', '=', '@', '[', '\\', ']', '^', '|']
def escapedInHost : List Char := [' ', '#', '/', ':', '<', '>', '?', '@', '[', ']', '^']

/-- Escapes the given characters and those outside ASCII. -/
def escape (escaped cs : List Char) : String :=
  String.ofList (cs.flatMap fun c =>
    if c.toNat < 0x80 && !escaped.contains c then [c]
    else (Utf8.encodeChars [c]).flatMap Uri.escapeByte)

/-- The scheme as written, and what follows its colon. A colon in front of everything closes an
empty scheme. -/
def splitScheme (cs : List Char) : List Char × List Char :=
  match Uri.cut ':' cs with
  | (name, some rest) =>
    if name.isEmpty || (name.head?.any Char.isAlpha && name.all Uri.isSchemeChar) then (name, rest)
    else ([], cs)
  | (_, none) => ([], cs)

/-- What stands before and after the last of the elements that equal `c`. -/
def cutLast (c : Char) (cs : List Char) : List Char × List Char :=
  let after := cs.reverse.takeWhile (· != c)
  ((cs.reverse.dropWhile (· != c)).drop 1 |>.reverse, after.reverse)

/-- The host, with its brackets if it has any, and the text of the port. -/
def splitPort (cs : List Char) : List Char × List Char :=
  let (host, rest) :=
    if cs.head? = some '[' && cs.contains ']' then
      ((cutLast ']' cs).1 ++ [']'], (cutLast ']' cs).2)
    else (cs.takeWhile (· != ':'), cs.dropWhile (· != ':'))
  (host, if rest.head? = some ':' then rest.drop 1 else rest)

/-- The lengths of the runs of digits in a text. -/
def digitRuns (cs : List Char) : List Nat :=
  (Uri.splitAll '.' (cs.map fun c => if Text.isAsciiDigit c then c else '.')).map List.length

/-- Whether a host is to be a quad: four runs of digits with any one character between two of them,
which may itself be a digit. -/
def isQuadLike (cs : List Char) : Bool :=
  let runs := digitRuns cs
  runs.all (0 < ·) && runs.length ≤ 4 &&
    4 ≤ runs.foldl (fun n run => n + 1 + (run - 1) / 2) 0

/-- The host in its written form. -/
def readHost (asciiName : String → Option String) (cs : List Char) :
    Except LocatorError String :=
  let host := String.ofList cs
  if isQuadLike cs then if Uri.isQuad cs then .ok host else .error (.quad host)
  else if cs.head? = some '[' && cs.getLast? = some ']' then
    let inner := cs.tail.dropLast
    if Uri.isZonedGroups inner then .ok (String.ofList inner) else .error (.groups host)
  else if cs.all (·.toNat < 0x80) then .ok (escape escapedInHost (cs.map Char.toLower))
  else match asciiName (Text.lower host) with
    | some name => .ok name
    | none => .error (.name host)

def readPort (scheme : String) (cs : List Char) : Except LocatorError (Option Int) :=
  if cs.isEmpty then .ok none
  else match Text.readInteger (String.ofList cs) with
    | .error _ => .error (.port (String.ofList cs))
    | .ok n => .ok (if impliedPorts.lookup scheme = some n then none else some n)

/-- The segments of a path in reverse, without those that are `.`, and without each `..` and the
segment before it. -/
def resolveSegments (kept : List (List Char)) : List (List Char) → List (List Char)
  | [] => kept
  | ['.'] :: rest => resolveSegments kept rest
  | ['.', '.'] :: rest => resolveSegments (if kept = [[]] then kept else kept.tail) rest
  | segment :: rest => resolveSegments (segment :: kept) rest

def resolveDots (path : List Char) : List Char :=
  ['/'].intercalate (resolveSegments [] (Uri.splitAll '/' path)).reverse

def parseChars (asciiName : String → Option String) (cs : List Char) :
    Except LocatorError Locator := do
  if maxLength < cs.length then throw .tooLong
  if let some i := cs.findIdx? fun c => c.toNat < 0x20 || c.toNat = 0x7F then
    throw (.control ((cs[i]?).getD ' ') i)
  let (scheme, rest) := splitScheme cs
  let (authority, rest) := Uri.splitAuthority rest
  let (rest, fragment) := Uri.cut '#' rest
  let (path, query) := Uri.cut '?' rest
  let (user, place) := cutLast '@' authority
  let (host, port) := splitPort place
  let host ← readHost asciiName host
  let port ← readPort (String.ofList scheme) port
  let relative := scheme.isEmpty && user.isEmpty && host = "" && port.isNone
  if relative && path.take 2 = ['/', '/'] then throw .slashes
  if relative && path.head? = some ':' then throw .colon
  return {
    scheme := String.ofList (scheme.map Char.toLower)
    user := escape escapedInUser user
    host, port
    path := escape escapedInPath (if relative then path else resolveDots path)
    query := query.map (escape escapedInQuery)
    fragment := fragment.map (escape escapedInFragment) }

def parse (asciiName : String → Option String) (s : String) : Except LocatorError Locator :=
  parseChars asciiName s.toList

/-- Whether both scheme and host are named. -/
def isComplete (l : Locator) : Bool := l.scheme != "" && l.host != ""

/-- A locator that is not complete is asked for as a path below the root. -/
def asked (l : Locator) : Locator :=
  if l.isComplete then l
  else { path := String.ofList ('/' :: l.path.toList.dropWhile (· = '/')), query := l.query }

def authority (l : Locator) : String :=
  (if l.user = "" then "" else l.user ++ "@") ++
  (if l.host.contains ':' then "[" ++ l.host ++ "]" else l.host) ++
  l.port.elim "" fun n => s!":{n}"

def text (l : Locator) : String :=
  (if l.scheme = "" then "" else l.scheme ++ ":") ++
  (if l.authority = "" then "" else "//" ++ l.authority) ++ l.path ++
  l.query.elim "" ("?" ++ ·) ++ l.fragment.elim "" ("#" ++ ·)

end Locator
end ClusterAgent
