import ClusterAgent.Text.Case
import ClusterAgent.Uri.Address

/-!
Splitting a URI into scheme, authority and path. Query and fragment are dropped. An authority with
brackets has to hold an address in them, and no character of an authority may turn into a delimiter
under compatibility normalization.
-/
namespace ClusterAgent

structure Uri where
  scheme : String
  authority : String
  path : String
  deriving Repr, DecidableEq

/-- Why a text is not split. -/
inductive UriError
  | brackets
  | notAnAddress (host : List Char)
  | quadInBrackets
  | futureAddress
  | compatibility (authority : List Char)
  | portNotANumber (port : List Char)
  | portOutOfRange
  | numeral (e : Text.NumeralError)
  deriving Repr, DecidableEq

def UriError.message : UriError → String
  | brackets => "Invalid IPv6 URL"
  | notAnAddress host =>
    Text.quoted (String.ofList host) ++ " does not appear to be an IPv4 or IPv6 address"
  | quadInBrackets => "An IPv4 address cannot be in brackets"
  | futureAddress => "IPvFuture address is invalid"
  | compatibility authority =>
    "netloc '" ++ String.ofList authority ++
    "' contains invalid characters under NFKC normalization"
  | portNotANumber port =>
    "Port could not be cast to integer value as " ++ Text.quoted (String.ofList port)
  | portOutOfRange => "Port out of range 0-65535"
  | numeral e => e.message

namespace Uri

def isSchemeChar (c : Char) : Bool :=
  c.isAlpha || Text.isAsciiDigit c || c == '+' || c == '-' || c == '.'

/-- Control characters and spaces at the start are dropped, and tabs and line ends everywhere. -/
def sanitize (cs : List Char) : List Char :=
  (cs.dropWhile fun c => c.toNat ≤ 0x20).filter fun c => c != '\t' && c != '\n' && c != '\r'

/-- The scheme in lower case, and what follows its colon. A scheme starts with a letter; without one
it is empty and nothing is split off. -/
def splitScheme (cs : List Char) : List Char × List Char :=
  match cut ':' cs with
  | (name, some rest) =>
    if name.head?.any Char.isAlpha && name.all isSchemeChar then (name.map Char.toLower, rest)
    else ([], cs)
  | (_, none) => ([], cs)

def isAuthorityEnd (c : Char) : Bool := c == '/' || c == '?' || c == '#'

/-- The authority after two slashes, and what follows it. -/
def splitAuthority (cs : List Char) : List Char × List Char :=
  match cs with
  | '/' :: '/' :: rest =>
    (rest.takeWhile fun c => !isAuthorityEnd c, rest.dropWhile fun c => !isAuthorityEnd c)
  | _ => ([], cs)

/-- What stands after the last `@`. -/
def hostPart (authority : List Char) : List Char :=
  (authority.reverse.takeWhile (· != '@')).reverse

/-- A host in brackets is an address with groups, or one of a later version. -/
def checkBracketedHost (host : List Char) : Except UriError Unit :=
  if host.head? = some 'v' then
    if isFutureAddress host then .ok () else .error .futureAddress
  else if isQuad host then .error .quadInBrackets
  else if isZonedGroups host then .ok ()
  else .error (.notAnAddress host)

/-- Brackets come in pairs, directly around the host and before the colon of the port. -/
def checkBrackets (authority : List Char) : Except UriError Unit :=
  if authority.contains '[' != authority.contains ']' then .error .brackets
  else if !authority.contains '[' then .ok ()
  else
    let host := hostPart authority
    match cut '[' host with
    | (before, some inner) =>
      if !before.isEmpty then .error .brackets
      else
        let (address, port) := cut ']' inner
        match port.getD [] with
        | [] => checkBracketedHost address
        | c :: _ => if c = ':' then checkBracketedHost address else .error .brackets
    | (_, none) => checkBracketedHost (cut ':' host).1

/-- The characters outside ASCII whose compatibility normalization (Unicode 14) holds one of the
delimiters `/`, `?`, `#`, `@` and `:`. -/
def delimiterLookalikes : List Nat := [
  0x2047, 0x2048, 0x2049, 0x2100, 0x2101, 0x2105, 0x2106, 0x2A74, 0xFE13, 0xFE16, 0xFE55, 0xFE56,
  0xFE5F, 0xFE6B, 0xFF03, 0xFF0F, 0xFF1A, 0xFF1F, 0xFF20]

def parseChars (s : List Char) : Except UriError Uri := do
  let (scheme, rest) := splitScheme (sanitize s)
  let (authority, rest) := splitAuthority rest
  checkBrackets authority
  if authority.any fun c => delimiterLookalikes.contains c.toNat then
    throw (.compatibility authority)
  return {
    scheme := String.ofList scheme
    authority := String.ofList authority
    path := String.ofList (rest.takeWhile fun c => c != '#' && c != '?') }

def parse (s : String) : Except UriError Uri := parseChars s.toList

/-- The host of an authority as written, without brackets, and the text of its port. -/
def hostAndPort (authority : List Char) : List Char × List Char :=
  let host := hostPart authority
  match cut '[' host with
  | (_, some inner) =>
    let (address, port) := cut ']' inner
    (address, ((cut ':' (port.getD [])).2).getD [])
  | (_, none) =>
    let (name, port) := cut ':' host
    (name, port.getD [])

/-- The host in lower case; a zone after a percent sign keeps its letters. -/
def host (u : Uri) : String :=
  let (name, zone) := cut '%' (hostAndPort u.authority.toList).1
  let name := Text.lower (String.ofList name)
  match zone with
  | none => name
  | some z => name ++ String.ofList ('%' :: z)

/-- The port, when one is written. -/
def port? (u : Uri) : Except UriError (Option Nat) :=
  match (hostAndPort u.authority.toList).2 with
  | [] => .ok none
  | ds =>
    if !ds.all Text.isAsciiDigit then .error (.portNotANumber ds)
    else if Text.maxIntegerDigits < ds.length then .error (.numeral (.tooManyDigits ds.length))
    else if 65535 < Text.digitsValue ds then .error .portOutOfRange
    else .ok (some (Text.digitsValue ds))

end Uri
end ClusterAgent
