import ClusterAgent.Json.Value
import ClusterAgent.Text.Numeral

/-!
Reading JSON. A dialect fixes how deep values may nest, whether an escape may name half of a
surrogate pair, and how long numbers may be. Errors come in the order of the text.
-/
namespace ClusterAgent

inductive JsonError
  | malformed
  | tooManyDigits (count : Nat)
  /-- The value is nested too deeply; it is an array or an object that goes too far. -/
  | tooDeep (inArray : Bool)
  deriving Repr, DecidableEq

namespace Json

structure Dialect where
  /-- How many arrays and objects may stand one inside the other. -/
  maxDepth : Nat
  /-- Whether empty ones count among them. -/
  countsEmpty : Bool := true
  loneSurrogates : Bool
  /-- Whether a number, by its sign and kind, may have so many digits before its point or
  exponent. -/
  sizeFits : (negative isInteger : Bool) → (digits : Nat) → Bool

/-- Messages between programs: the limit on digits holds for all numbers, whatever their sign. -/
def Dialect.strict : Dialect where
  maxDepth := 200
  countsEmpty := false
  loneSurrogates := false
  sizeFits _ _ digits := digits ≤ Text.maxIntegerDigits

/-- Documents of unknown origin: the limit on digits holds for integers. How deep they may nest is
up to the stack of the program that reads them. -/
def Dialect.lenient (maxDepth : Nat) : Dialect where
  maxDepth := maxDepth
  loneSurrogates := true
  sizeFits _ isInteger digits := !isInteger || digits ≤ Text.maxIntegerDigits

abbrev Input := WideText

def isSpace (p : CodePoint) : Bool :=
  p == .char ' ' || p == .char '\t' || p == .char '\n' || p == .char '\r'

def skipSpace (s : Input) : Input := s.dropWhile isSpace

def digit? : CodePoint → Option Char
  | .char c => if Text.isAsciiDigit c then some c else none
  | .surrogate _ => none

/-- The leading digits, and what follows them. -/
def digits (s : Input) : List Char × Input :=
  (s.takeWhile fun p => (digit? p).isSome).filterMap digit? |>
    fun ds => (ds, s.dropWhile fun p => (digit? p).isSome)

def hexDigit? : CodePoint → Option Nat
  | .char c =>
    if '0' ≤ c && c ≤ '9' then some (c.toNat - 0x30)
    else if 'a' ≤ c && c ≤ 'f' then some (c.toNat - 0x61 + 10)
    else if 'A' ≤ c && c ≤ 'F' then some (c.toNat - 0x41 + 10)
    else none
  | .surrogate _ => none

/-- The number that four hexadecimal digits stand for. -/
def hex4? (a b c d : CodePoint) : Option Nat := do
  return (((← hexDigit? a) * 16 + (← hexDigit? b)) * 16 + (← hexDigit? c)) * 16 + (← hexDigit? d)

def isHigh (u : Nat) : Bool := 0xD800 ≤ u && u < 0xDC00

def isLow (u : Nat) : Bool := 0xDC00 ≤ u && u < 0xE000

/-- The character that two surrogates stand for. -/
def joinPair (high low : Nat) : CodePoint :=
  .char (Char.ofNat (0x10000 + (high - 0xD800) * 0x400 + (low - 0xDC00)))

/-- The character of a one-letter escape. -/
def shortEscape? : CodePoint → Option Char
  | .char '"' => some '"'
  | .char '\\' => some '\\'
  | .char '/' => some '/'
  | .char 'b' => some '\x08'
  | .char 'f' => some '\x0c'
  | .char 'n' => some '\n'
  | .char 'r' => some '\r'
  | .char 't' => some '\t'
  | _ => none

/-- What stands inside the quotes, up to the closing one, and what follows it. Two escapes in a row
that name a surrogate pair stand for one character; `lone` tells whether other surrogates pass. -/
def readString (lone : Bool) : (read : WideText) → Input → Except JsonError (WideText × Input)
  | read, .char '"' :: rest => .ok (read.reverse, rest)
  | read, .char '\\' :: .char 'u' :: a :: b :: c :: d :: rest =>
    match hex4? a b c d with
    | none => .error .malformed
    | some u =>
      if isHigh u then
        match rest with
        | .char '\\' :: .char 'u' :: a' :: b' :: c' :: d' :: rest' =>
          match hex4? a' b' c' d' with
          | none => .error .malformed
          | some v =>
            if isLow v then readString lone (joinPair u v :: read) rest'
            else if lone then
              readString lone ((CodePoint.ofNat? u).toList ++ read)
                (.char '\\' :: .char 'u' :: a' :: b' :: c' :: d' :: rest')
            else .error .malformed
        | rest' =>
          if lone then readString lone ((CodePoint.ofNat? u).toList ++ read) rest'
          else .error .malformed
      else if isLow u && !lone then .error .malformed
      else readString lone ((CodePoint.ofNat? u).toList ++ read) rest
  | read, .char '\\' :: e :: rest =>
    match shortEscape? e with
    | some c => readString lone (.char c :: read) rest
    | none => .error .malformed
  | read, p :: rest =>
    if p.toNat < 0x20 then .error .malformed else readString lone (p :: read) rest
  | _, [] => .error .malformed

/-- The digits after a point, when at least one follows it. -/
def readFraction (s : Input) : Option (List Char) × Input :=
  match s with
  | .char '.' :: rest =>
    match digits rest with
    | ([], _) => (none, s)
    | (ds, rest) => (some ds, rest)
  | _ => (none, s)

/-- An exponent, when a digit follows its letter and sign. -/
def readExponent (s : Input) : Option Int × Input :=
  match s with
  | .char e :: rest =>
    if e = 'e' || e = 'E' then
      let (negative, rest) := match rest with
        | .char '-' :: r => (true, r)
        | .char '+' :: r => (false, r)
        | r => (false, r)
      match digits rest with
      | ([], _) => (none, s)
      | (ds, rest) =>
        let n : Int := Text.digitsValue ds
        (some (if negative then -n else n), rest)
    else (none, s)
  | _ => (none, s)

/-- A number after its sign. A leading zero stands alone before the point. -/
def readNumber (d : Dialect) (negative : Bool) (s : Input) : Except JsonError (Json × Input) :=
  let (whole, afterWhole) := match s with
    | .char '0' :: rest => (['0'], rest)
    | _ => digits s
  if whole.isEmpty then .error .malformed
  else
    let (fraction, afterFraction) := readFraction afterWhole
    let (exponent, rest) := readExponent afterFraction
    let isInteger := fraction.isNone && exponent.isNone
    if !d.sizeFits negative isInteger whole.length then .error (.tooManyDigits whole.length)
    else if isInteger then
      let n : Int := Text.digitsValue whole
      .ok (int (if negative then -n else n), rest)
    else
      let places := fraction.getD []
      let x := Binary64.ofDecimal negative (Text.digitsValue (whole ++ places))
        (exponent.getD 0 - places.length)
      .ok (float x, rest)

/-- Takes a word off the input. -/
def word? (w : String) (s : Input) : Option Input :=
  if (WideText.ofString w).isPrefixOf s then some (s.drop w.length) else none

/-- The words that stand for values. -/
def readWord (s : Input) : Except JsonError (Json × Input) :=
  let words : List (String × Json) := [("null", null), ("true", bool true), ("false", bool false),
    ("NaN", float .nan), ("Infinity", float (.infinity false)),
    ("-Infinity", float (.infinity true))]
  match words.findSome? fun (w, v) => (word? w s).map (v, ·) with
  | some r => .ok r
  | none => .error .malformed

/-- A value, with given readers for what follows an opening bracket or brace. -/
def readWith (d : Dialect) (array object : Input → Except JsonError (Json × Input)) (s : Input) :
    Except JsonError (Json × Input) :=
  match s with
  | .char '[' :: rest => array rest
  | .char '\x7b' :: rest => object rest
  | .char '"' :: rest => (readString d.loneSurrogates [] rest).map fun (t, r) => (str t, r)
  | .char '-' :: .char 'I' :: _ => readWord s
  | .char '-' :: rest => readNumber d true rest
  | p :: _ => if (digit? p).isSome then readNumber d false s else readWord s
  | [] => .error .malformed

/-- Items up to the closing bracket; each takes at least one code point of `fuel`. -/
def readItems (item : Input → Except JsonError (Json × Input)) :
    (fuel : Nat) → List Json → Input → Except JsonError (Json × Input)
  | 0, _, _ => .error .malformed
  | fuel + 1, read, s => do
    let (v, rest) ← item (skipSpace s)
    match skipSpace rest with
    | .char ',' :: rest => readItems item fuel (v :: read) rest
    | .char ']' :: rest => return (arr (v :: read).reverse, rest)
    | _ => throw .malformed

def readArray (item : Input → Except JsonError (Json × Input)) (s : Input) :
    Except JsonError (Json × Input) :=
  match skipSpace s with
  | .char ']' :: rest => .ok (arr [], rest)
  | s => readItems item (s.length + 1) [] s

/-- Members up to the closing brace. -/
def readMembers (d : Dialect) (item : Input → Except JsonError (Json × Input)) :
    (fuel : Nat) → List (WideText × Json) → Input → Except JsonError (Json × Input)
  | 0, _, _ => .error .malformed
  | fuel + 1, read, s => do
    let (name, rest) ← match skipSpace s with
      | .char '"' :: rest => readString d.loneSurrogates [] rest
      | _ => throw .malformed
    let rest ← match skipSpace rest with
      | .char ':' :: rest => pure rest
      | _ => throw .malformed
    let (v, rest) ← item (skipSpace rest)
    match skipSpace rest with
    | .char ',' :: rest => readMembers d item fuel ((name, v) :: read) rest
    | .char '\x7d' :: rest => return (obj ((name, v) :: read).reverse, rest)
    | _ => throw .malformed

def readObject (d : Dialect) (item : Input → Except JsonError (Json × Input)) (s : Input) :
    Except JsonError (Json × Input) :=
  match skipSpace s with
  | .char '\x7d' :: rest => .ok (obj [], rest)
  | s => readMembers d item (s.length + 1) [] s

/-- What stands inside an array or an object that nests too deeply. -/
def refuse (inArray : Bool) (_ : Input) : Except JsonError (Json × Input) :=
  .error (.tooDeep inArray)

/-- A value that nests at most `depth` deep, and what follows it. -/
def readValue (d : Dialect) : (depth : Nat) → Input → Except JsonError (Json × Input)
  | 0 =>
    if d.countsEmpty then readWith d (refuse true) (refuse false)
    else readWith d (readArray (refuse true)) (readObject d (refuse false))
  | depth + 1 =>
    readWith d (readArray (readValue d depth)) (readObject d (readValue d depth))

/-- Reads a text that holds one value between spaces. -/
def read (d : Dialect) (s : WideText) : Except JsonError Json := do
  let (v, rest) ← readValue d d.maxDepth (skipSpace s)
  if (skipSpace rest).isEmpty then return v else throw .malformed

end Json
end ClusterAgent
