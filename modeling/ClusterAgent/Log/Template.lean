import ClusterAgent.Binary64.Places
import ClusterAgent.Schema.Literal
import ClusterAgent.Table
import ClusterAgent.Text.Numeral

/-!
Templates: texts with places for values, such as `%(name)s` for a value with a name and `%d` for the
next one of a list. A place may give a width, a precision and the form of the value; a star takes
the width or the precision from the list.
-/
namespace ClusterAgent

namespace Template

/-- A place for a value. -/
structure Place where
  flags : List Char
  width : Nat
  precision : Option Nat
  form : Char
  /-- Where the form stands in the template. -/
  index : Nat
  deriving Repr

inductive Error
  | incomplete
  | incompleteName
  | unknownForm (form : Char) (index : Nat)
  | noSuchValue (name : String)
  /-- A place asks for a name, but the values have none. -/
  | noNames
  | tooFewValues
  | tooManyValues
  | wideWidth
  | widePrecision
  | extentNotInteger
  | extentTooLarge (type : String)
  | notNumber
  | notFinite (e : Binary64.NotFinite)
  | numeral (e : Text.NumeralError)
  | tooLarge
  | notCharacter
  | noSuchCharacter
  deriving Repr, DecidableEq

def Error.message : Error → String
  | incomplete => "incomplete format"
  | incompleteName => "incomplete format key"
  | unknownForm c i =>
    "unsupported format character '" ++ String.ofList [c] ++ "' (0x" ++
      String.ofList (Nat.toDigits 16 c.toNat) ++ s!") at index {i}"
  | noSuchValue name => Text.quoted name
  | notFinite e => e.message
  | numeral e => e.message
  | noNames => "format requires a mapping"
  | tooFewValues => "not enough arguments for format string"
  | tooManyValues => "not all arguments converted during string formatting"
  | wideWidth => "width too big"
  | widePrecision => "precision too big"
  | extentNotInteger => "* wants int"
  | extentTooLarge type => "Python int too large to convert to C " ++ type
  | notNumber => "a number is required"
  | tooLarge => "int too large to convert to float"
  | notCharacter => "%c requires int or char"
  | noSuchCharacter => "%c arg not in range(0x110000)"

/-- The name in parentheses, which may hold parentheses in pairs, and what follows it. -/
def readName : (depth : Nat) → List Char → Option (List Char × List Char)
  | _, [] => none
  | 0, ')' :: rest => some ([], rest)
  | depth, c :: rest =>
    let depth' := if c = '(' then depth + 1 else if c = ')' then depth - 1 else depth
    (readName depth' rest).map fun (name, rest) => (c :: name, rest)

def isFlag (c : Char) : Bool := c == '-' || c == '+' || c == ' ' || c == '#' || c == '0'

def isSizeLetter (c : Char) : Bool := c == 'h' || c == 'l' || c == 'L'

/-- The values for the places of a template. Places with a name take theirs from a table, and all
others the next one of a list. A name puts its value in the place of that list. -/
structure Values where
  named : Option (Table String Datum) := none
  listed : List Datum := []

/-- Values with names. A place without a name takes all of them at once. -/
def Values.ofTable (fields : Table String Datum) : Values where
  named := some fields
  listed := [.map (fields.map fun p => ((p.1 : WideText), p.2))]

/-- The value with a name. -/
def Values.select (values : Values) (name : String) : Except Error Values :=
  match values.named with
  | none => .error .noNames
  | some fields =>
    match Table.get? fields name with
    | some v => .ok { values with listed := [v] }
    | none => .error (.noSuchValue name)

/-- The next value of the list, and the values that are left. -/
def Values.next (values : Values) : Except Error (Datum × Values) :=
  match values.listed with
  | v :: rest => .ok (v, { values with listed := rest })
  | [] => .error .tooFewValues

/-- Whether every value of a list has found its place. -/
def Values.isSpent (values : Values) : Bool := values.named.isSome || values.listed.isEmpty

/-- The largest width that a place may give, and the largest precision. -/
def maxWidth : Nat := 0x7FFFFFFFFFFFFFFF
def maxPrecision : Nat := 0x7FFFFFFF

/-- An extent from the list of values: an integer of a size that is bounded. -/
def Values.extent (values : Values) (most : Nat) (type : String) : Except Error (Int × Values) := do
  let (v, values) ← values.next
  let i ← match v with
    | .int i => pure i
    | .bool b => pure (b.toNat : Int)
    | _ => throw .extentNotInteger
  if -(most : Int) - 1 ≤ i ∧ i ≤ most then return (i, values) else throw (.extentTooLarge type)

/-- The width of a place; a negative one fills up on the right. -/
def readWidth (values : Values) (cs : List Char) :
    Except Error (Int × Values × List Char) := do
  match cs with
  | '*' :: rest =>
    let (i, values) ← values.extent maxWidth "ssize_t"
    return (i, values, rest)
  | cs =>
    let width := Text.digitsValue (cs.takeWhile Text.isAsciiDigit)
    if maxWidth < width then throw .wideWidth
    return (width, values, cs.dropWhile Text.isAsciiDigit)

/-- The precision of a place, after a dot. -/
def readPrecision (values : Values) (cs : List Char) :
    Except Error (Option Nat × Values × List Char) := do
  match cs with
  | '.' :: '*' :: rest =>
    let (i, values) ← values.extent maxPrecision "int"
    return (some i.toNat, values, rest)
  | '.' :: rest =>
    let precision := Text.digitsValue (rest.takeWhile Text.isAsciiDigit)
    if maxPrecision < precision then throw .widePrecision
    return (some precision, values, rest.dropWhile Text.isAsciiDigit)
  | cs => return (none, values, cs)

/-- Reads what follows a percent sign, together with the values that it takes on the way; `length`
is that of the whole template. -/
def readPlace (length : Nat) (values : Values) (cs : List Char) :
    Except Error (Place × Values × List Char) := do
  let (values, cs) ← match cs with
    | '(' :: rest =>
      if values.named.isNone then throw .noNames
      match readName 0 rest with
      | some (name, rest) => pure (← values.select (String.ofList name), rest)
      | none => throw .incompleteName
    | _ => pure (values, cs)
  let flags := cs.takeWhile isFlag
  let (width, values, cs) ← readWidth values (cs.dropWhile isFlag)
  let (precision, values, cs) ← readPrecision values cs
  let cs := match cs with
    | c :: rest => if isSizeLetter c then rest else cs
    | [] => []
  match cs with
  | [] => throw .incomplete
  | form :: rest =>
    let index := length - rest.length - 1
    let flags := if width < 0 then '-' :: flags else flags
    return ({ flags, width := width.natAbs, precision, form, index }, values, rest)

/-- A value as an integer; a binary number loses its fraction. -/
def integerOf (v : Datum) : Except Error Int :=
  match v with
  | .int i => .ok i
  | .bool b => .ok b.toNat
  | .float x => x.truncate.mapError .notFinite
  | _ => .error .notNumber

/-- Fills up to a width: on the left, unless the flags say otherwise, and after the sign when with
zeros. -/
def pad (p : Place) (isNumber : Bool) (sign body : List Char) : List Char :=
  let missing := p.width - (sign.length + body.length)
  if p.flags.contains '-' then sign ++ body ++ List.replicate missing ' '
  else if isNumber && p.flags.contains '0' then sign ++ List.replicate missing '0' ++ body
  else List.replicate missing ' ' ++ sign ++ body

def signOf (p : Place) (negative : Bool) : List Char :=
  if negative then ['-'] else if p.flags.contains '+' then ['+']
  else if p.flags.contains ' ' then [' '] else []

def formatInteger (p : Place) (base : Nat) (mark : List Char) (i : Int) : List Char :=
  let digits := Nat.toDigits base i.natAbs
  let digits := List.replicate (p.precision.getD 1 - digits.length) '0' ++ digits
  pad p true (signOf p (i < 0) ++ if p.flags.contains '#' then mark else []) digits

def formatText (p : Place) (s : String) : List Char :=
  pad p false [] (match p.precision with
    | some n => s.toList.take n
    | none => s.toList)

/-- A value as a binary number. -/
def numberOf (v : Datum) : Except Error Binary64 :=
  let ofInt (i : Int) : Except Error Binary64 :=
    match Binary64.ofInt i with
    | .infinity _ => .error .tooLarge
    | x => .ok x
  match v with
  | .float x => .ok x
  | .int i => ofInt i
  | .bool b => ofInt b.toNat
  | _ => .error .notNumber

/-- The digits of a number in one of the forms `e`, `f` and `g`. -/
def digitsOf (p : Place) (x : Binary64) : List Char :=
  let places := p.precision.getD 6
  let kept := p.flags.contains '#'
  match x with
  | .nan => ['n', 'a', 'n']
  | .infinity _ => ['i', 'n', 'f']
  | .finite _ m e =>
    let n := m * power 2 e
    let d := power 2 (-e)
    match p.form.toLower with
    | 'f' => Decimals.fixed kept n d places
    | 'e' => Decimals.scientific kept n d places
    | _ => Decimals.general kept n d (max places 1)

def formatNumber (p : Place) (x : Binary64) : List Char :=
  let digits := digitsOf p x
  pad p true (signOf p x.isNegative) (if p.form.isUpper then digits.map Char.toUpper else digits)

/-- The character that a value is or has the number of. -/
def characterOf (v : Datum) : Except Error Char :=
  let ofInt (i : Int) : Except Error Char :=
    if 0 ≤ i ∧ i < 0x110000 then .ok (Char.ofNat i.toNat) else .error .noSuchCharacter
  match v with
  | .text [.char c] => .ok c
  | .int i => ofInt i
  | .bool b => ofInt b.toNat
  | _ => .error .notCharacter

/-- A value in the form of its place. -/
def format (p : Place) (v : Datum) : Except Error (List Char) :=
  match p.form with
  | 's' => (v.written.mapError .numeral).map (formatText p)
  | 'r' => if v.isWritable then .ok (formatText p v.literal) else .error (.numeral .unwritable)
  | 'a' =>
    if v.isWritable then .ok (formatText p (Text.escapeForeign v.literal))
    else .error (.numeral .unwritable)
  | 'd' | 'i' | 'u' => do
    let i ← integerOf v
    if Text.isWritable i then return formatInteger p 10 [] i else throw (.numeral .unwritable)
  | 'o' | 'x' | 'X' =>
    match v with
    | .float _ => .error .notNumber
    | v => (integerOf v).map fun i =>
      let base := if p.form = 'o' then 8 else 16
      let text := formatInteger p base ['0', p.form] i
      if p.form = 'X' then text.map Char.toUpper else text
  | 'e' | 'E' | 'f' | 'F' | 'g' | 'G' => (numberOf v).map (formatNumber p)
  | 'c' => (characterOf v).map fun c => pad p false [] [c]
  | form => .error (.unknownForm form p.index)

/-- Fills the places from left to right; `fuel` is at least the number of characters. A doubled
percent sign stands for itself. -/
def fillFrom (length : Nat) : (fuel : Nat) → Values → List Char → Except Error (List Char)
  | 0, values, _ | _, values, [] => if values.isSpent then .ok [] else .error .tooManyValues
  | fuel + 1, values, '%' :: '%' :: rest => do
    return '%' :: (← fillFrom length fuel values rest)
  | fuel + 1, values, '%' :: rest => do
    let (p, values, rest) ← readPlace length values rest
    let (v, values) ← values.next
    let text ← format p v
    return text ++ (← fillFrom length fuel values rest)
  | fuel + 1, values, c :: rest => do return c :: (← fillFrom length fuel values rest)

/-- A template with its places filled. -/
def fill (template : String) (values : Values) : Except Error String :=
  let cs := template.toList
  (fillFrom cs.length (cs.length + 1) values cs).map String.ofList

end Template
end ClusterAgent
