import ClusterAgent.Schema.Fault
import ClusterAgent.Text.Numeral

/-!
Integers in data: truth values count as zero and one, a number without a fraction as the integer
that it equals, and a text as the integer that it writes.
-/
namespace ClusterAgent.Schema

/-- The blanks that may surround an integer in a text; the separators of ASCII do not count. -/
def isSpace (c : Char) : Bool := Text.isBlank c && !(0x1C ≤ c.toNat && c.toNat ≤ 0x1F)

/-- A plain integer: digits without a needless zero in front, after an optional minus sign. -/
def plainInteger (cs : List Char) : Except FaultKind Int :=
  let (negative, body) := match cs with
    | '-' :: r => (true, r)
    | r => (false, r)
  let ds := body.takeWhile Text.isAsciiDigit
  if ds.head? = some '0' && 1 < ds.length then .error .integerText
  else if Text.maxIntegerDigits < ds.length then .error .integerTooLong
  else if ds.isEmpty || ds.length ≠ body.length then .error .integerText
  else .ok (if negative then -(Text.digitsValue ds : Int) else Text.digitsValue ds)

/-- Drops the zeros and underscores after a leading zero; the zero before a point stays. `last` is
the character before the list. -/
def dropZeros (last : Char) : List Char → Option (List Char)
  | [] => some [last]
  | c :: rest =>
    if c = '0' || c = '_' then dropZeros c rest
    else if '1' ≤ c && c ≤ '9' then some (c :: rest)
    else if c = '.' then some (last :: c :: rest)
    else none

def dropLeadingZeros : List Char → Option (List Char)
  | [] => none
  | c :: rest =>
    if c = '0' then dropZeros c rest
    else if ('1' ≤ c && c ≤ '9') || c = '-' then some (c :: rest)
    else none

/-- Drops a point that only zeros follow. -/
def dropZeroFraction (cs : List Char) : Option (List Char) :=
  match cs.dropWhile (· != '.') with
  | [] => some cs
  | _ :: places =>
    if !places.isEmpty && places.all (· == '0') then some (cs.takeWhile (· != '.')) else none

def hasDoubleUnderscore : List Char → Bool
  | '_' :: '_' :: _ => true
  | _ :: rest => hasDoubleUnderscore rest
  | [] => false

/-- Underscores may stand one at a time between other characters. -/
def dropUnderscores (cs : List Char) : List Char :=
  if cs.head? = some '_' || cs.getLast? = some '_' || hasDoubleUnderscore cs then cs
  else cs.filter (· != '_')

/-- Drops one plus sign in front, which no minus sign may follow. -/
def dropPlus : List Char → Option (List Char)
  | '+' :: '-' :: _ => none
  | '+' :: rest => some rest
  | cs => some cs

/-- A text as a plain integer would be written. -/
def cleanInteger? (cs : List Char) : Option (List Char) := do
  let cs ← dropPlus (Text.trimList isSpace cs)
  return dropUnderscores (← dropZeroFraction (← dropLeadingZeros cs))

/-- The integer that a text writes, with blanks around it, a plus sign, leading zeros, single
underscores, or a fraction of zeros. -/
def readInteger (cs : List Char) : Except FaultKind Int :=
  match plainInteger cs with
  | .error .integerText =>
    match cleanInteger? cs with
    | some clean => plainInteger clean
    | none => .error .integerText
  | r => r

/-- The integer that a number equals. It has to lie strictly between the ends of 64 bits. -/
def integerOfFloat (x : Binary64) : Except FaultKind Int :=
  match x.truncate with
  | .error _ => .error .notFinite
  | .ok i =>
    if !x.eqInt i then .error .fraction
    else if -0x8000000000000000 < i && i < 0x8000000000000000 then .ok i
    else .error .integerTooLong

/-- The integer that a value stands for. -/
def toInteger : Datum → Except FaultKind Int
  | .bool b => .ok b.toNat
  | .int i => .ok i
  | .float x => integerOfFloat x
  | .text t => ((WideText.toChars? t).map readInteger).getD (.error .integerText)
  | .bytes bs => ((Utf8.decode? bs).map fun s => readInteger s.toList).getD (.error .integerText)
  | _ => .error .notInteger

def checkInteger (v : Datum) : Checked Int :=
  match toInteger v with
  | .ok i => pure i
  | .error kind => Checked.fault kind

end ClusterAgent.Schema
