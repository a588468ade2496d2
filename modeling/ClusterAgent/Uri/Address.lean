import ClusterAgent.Text.Numeral

/-!
Network addresses in their text form: dotted quads, colon-separated groups with an optional zone,
and the open form for later versions.
-/
namespace ClusterAgent.Uri

/-- The parts of a list between the elements that equal `c`; there is always one more part than
there are separators. -/
def splitAll (c : Char) : List Char → List (List Char)
  | [] => [[]]
  | x :: rest =>
    if x = c then [] :: splitAll c rest
    else match splitAll c rest with
      | part :: parts => (x :: part) :: parts
      | [] => [[x]]

/-- What stands before the first `c` and, if there is one, after it. -/
def cut (c : Char) (cs : List Char) : List Char × Option (List Char) :=
  match cs.dropWhile (· != c) with
  | [] => (cs, none)
  | _ :: rest => (cs.takeWhile (· != c), some rest)

/-- A number from 0 to 255 without leading zeros. -/
def isOctet (ds : List Char) : Bool :=
  !ds.isEmpty && ds.all Text.isAsciiDigit && ds.length ≤ 3 &&
    (ds.length == 1 || ds.head? != some '0') && Text.digitsValue ds ≤ 255

/-- Four octets between dots. -/
def isQuad (cs : List Char) : Bool :=
  let parts := splitAll '.' cs
  parts.length == 4 && parts.all isOctet

def isHexDigit (c : Char) : Bool :=
  Text.isAsciiDigit c || ('a' ≤ c && c ≤ 'f') || ('A' ≤ c && c ≤ 'F')

/-- One to four hexadecimal digits. -/
def isGroup (ds : List Char) : Bool := !ds.isEmpty && ds.length ≤ 4 && ds.all isHexDigit

/-- The inner positions of a list of parts at which the part is empty. -/
def gaps (parts : List (List Char)) : List Nat :=
  (List.range parts.length).filter fun i =>
    0 < i && i + 1 < parts.length && (parts[i]?.any List.isEmpty)

/-- Eight groups between colons. The last two may be a quad, and one run of zero groups may be left
out: inside, or at an end together with that end. -/
def isGroups (cs : List Char) : Bool :=
  let parts := splitAll ':' cs
  let last := parts.getLast?.getD []
  let quadEnd := last.contains '.'
  let parts := if quadEnd then parts.dropLast ++ [['0'], ['0']] else parts
  if (splitAll ':' cs).length < 3 || (quadEnd && !isQuad last) || 9 < parts.length then false
  else match gaps parts with
    | [] => parts.length == 8 && parts.all isGroup
    | [i] =>
      let before := parts.take i
      let after := parts.drop (i + 1)
      let before := if before == [[]] then [] else before
      let after := if after == [[]] then [] else after
      before.all isGroup && after.all isGroup && before.length + after.length < 8
    | _ => false

/-- Groups with an optional zone after a percent sign. -/
def isZonedGroups (cs : List Char) : Bool :=
  match cut '%' cs with
  | (address, none) => isGroups address
  | (address, some zone) => !zone.isEmpty && !zone.contains '%' && isGroups address

/-- The form kept for later versions: `v`, hexadecimal digits, a dot, and at least one more
character. -/
def isFutureAddress (cs : List Char) : Bool :=
  match cs with
  | 'v' :: rest =>
    match rest.dropWhile isHexDigit with
    | '.' :: _ :: _ => !(rest.takeWhile isHexDigit).isEmpty
    | _ => false
  | _ => false

end ClusterAgent.Uri
