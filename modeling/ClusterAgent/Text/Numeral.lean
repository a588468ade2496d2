import ClusterAgent.Binary64.Basic
import ClusterAgent.Text.Blank
import ClusterAgent.Text.Digit
import ClusterAgent.Text.Quoted

/-!
Numbers written in texts. Digits of all scripts count, one underscore may stand between two digits,
and blanks around the number are ignored.
-/
namespace ClusterAgent.Text

/-- Why a text is no number. -/
inductive NumeralError
  | notInteger (text : String)
  | notNumber (text : String)
  /-- Integers of more than 4300 digits are not read. -/
  | tooManyDigits (count : Nat)
  /-- Nor are they written. -/
  | unwritable
  deriving Repr, DecidableEq

/-- The most digits that an integer may have, read or written. -/
def maxIntegerDigits : Nat := 4300

/-- What is said of an integer of too many digits, with what is known of their number. -/
def limitMessage (count : String) : String :=
  s!"Exceeds the limit ({maxIntegerDigits} digits) for integer string conversion{count}; " ++
    "use sys.set_int_max_str_digits() to increase the limit"

def NumeralError.message : NumeralError → String
  | notInteger s =>
    "invalid literal for int() with base 10: " ++ String.ofList ((quoted s).toList.take 200)
  | notNumber s => "could not convert string to float: " ++ quoted s
  | tooManyDigits n => limitMessage s!": value has {n} digits"
  | unwritable => limitMessage ""

/-- Whether an integer has few enough digits to be written; its sign does not count. -/
def isWritable (i : Int) : Bool := (Nat.toDigits 10 i.natAbs).length ≤ maxIntegerDigits

/-- An integer in decimal. -/
def writeInteger (i : Int) : Except NumeralError String :=
  if isWritable i then .ok s!"{i}" else .error .unwritable

/-- Blanks around a number: those of ASCII text files, and every blank outside ASCII. -/
def isNumeralBlank (c : Char) : Bool :=
  if c.toNat < 0x80 then (9 ≤ c.toNat && c.toNat ≤ 13) || c == ' ' else isBlank c

/-- A digit outside ASCII as the ASCII digit of its value; all else is kept. -/
def asciiDigit (c : Char) : Char :=
  if c.toNat < 0x80 then c
  else match digitValue? c with
    | some v => hexDigit v
    | none => c

def isAsciiDigit (c : Char) : Bool := '0' ≤ c && c ≤ '9'

/-- The value of a list of ASCII digits. -/
def digitsValue (ds : List Char) : Nat := ds.foldl (fun n c => n * 10 + (c.toNat - 0x30)) 0

/-- Removes underscores, each of which has to stand between two digits. -/
def joinDigits? (previous : Char) : List Char → Option (List Char)
  | [] => if previous = '_' then none else some []
  | c :: rest =>
    if c = '_' then if isAsciiDigit previous then joinDigits? c rest else none
    else if previous = '_' && !isAsciiDigit c then none
    else (joinDigits? c rest).map (c :: ·)

/-- Splits off a leading sign; the flag says whether it is a minus. -/
def splitSign : List Char → Bool × List Char
  | '-' :: r => (true, r)
  | '+' :: r => (false, r)
  | r => (false, r)

def numeralBody (s : String) : List Char := (trimList isNumeralBlank s.toList).map asciiDigit

/-- Reads an integer. The size limit is checked on the leading run of digits, before what
follows. -/
def readInteger (s : String) : Except NumeralError Int :=
  let (negative, body) := splitSign (numeralBody s)
  match joinDigits? '_' (body.takeWhile fun c => isAsciiDigit c || c == '_') with
  | none => .error (.notInteger s)
  | some ds =>
    if maxIntegerDigits < ds.length then .error (.tooManyDigits ds.length)
    else if body.any fun c => !(isAsciiDigit c || c == '_') then .error (.notInteger s)
    else .ok (if negative then -(digitsValue ds : Int) else digitsValue ds)

/-- Reads `digits`, `digits.digits`, `digits.` or `.digits`, with an optional exponent. -/
def readUnsigned? (negative : Bool) (cs : List Char) : Option Binary64 :=
  let whole := cs.takeWhile isAsciiDigit
  let afterWhole := cs.dropWhile isAsciiDigit
  let (fraction, afterFraction) := match afterWhole with
    | '.' :: r => (r.takeWhile isAsciiDigit, r.dropWhile isAsciiDigit)
    | r => ([], r)
  if whole.isEmpty && fraction.isEmpty then none
  else
    let value (x : Int) :=
      Binary64.ofDecimal negative (digitsValue (whole ++ fraction)) (x - fraction.length)
    match afterFraction with
    | [] => some (value 0)
    | e :: r =>
      let (minus, ds) := splitSign r
      if (e = 'e' || e = 'E') && !ds.isEmpty && ds.all isAsciiDigit then
        some (value (if minus then -(digitsValue ds : Int) else digitsValue ds))
      else none

/-- Reads a number; infinity and the undefined number have names in any letter case. -/
def readNumber (s : String) : Except NumeralError Binary64 :=
  match joinDigits? '\x00' (numeralBody s) with
  | none => .error (.notNumber s)
  | some cs =>
    let (negative, body) := splitSign cs
    let name := String.ofList (body.map Char.toLower)
    if name = "inf" || name = "infinity" then .ok (.infinity negative)
    else if name = "nan" then .ok .nan
    else match readUnsigned? negative body with
      | some x => .ok x
      | none => .error (.notNumber s)

end ClusterAgent.Text
