/-!
Binary64 numbers as exact dyadic rationals. There is one rounding: a quotient of natural numbers
goes to the nearest binary64 number, and a quotient midway between two goes to the one with an even
significand.
-/
namespace ClusterAgent

/-- A binary64 number. A finite one is `significand * 2 ^ exponent`, negated when marked so; zero
keeps its mark. -/
inductive Binary64
  | finite (negative : Bool) (significand : Nat) (exponent : Int)
  | infinity (negative : Bool)
  | nan
  deriving Repr, DecidableEq

/-- `base ^ e`; one for a negative `e`. -/
def power (base : Nat) (e : Int) : Nat := Nat.pow base e.toNat

/-- The integer nearest to `n / d`; a half goes to the even neighbour. -/
def roundHalfEven (n d : Nat) : Nat :=
  let q := n / d
  let r := n % d
  if 2 * r < d then q else if d < 2 * r then q + 1 else q + q % 2

/-- The `k` with `2 ^ k ≤ n / d < 2 ^ (k + 1)`, for positive `n` and `d`. -/
def ratioLog2 (n d : Nat) : Int :=
  let k : Int := n.log2 - d.log2
  if d * power 2 k ≤ n * power 2 (-k) then k else k - 1

namespace Binary64

/-- The least significand of a normal number. -/
def normal : Nat := 0x10000000000000

/-- The exponent of the last significand bit of the binary64 numbers around `n / d`. -/
def quantum (n d : Nat) : Int := max (ratioLog2 n d - 52) (-1074)

/-- `n / d`, or its negative, rounded to the nearest binary64 number. -/
def ofRatio (negative : Bool) (n d : Nat) : Binary64 :=
  if n = 0 then finite negative 0 0
  else
    let e := quantum n d
    let m := roundHalfEven (n * power 2 (-e)) (d * power 2 e)
    if e > 971 || (e = 971 && m = 2 * normal) then infinity negative
    else if m = 2 * normal then finite negative normal (e + 1)
    else if m = 0 then finite negative 0 0
    else finite negative m e

def ofRat (q : Rat) : Binary64 := ofRatio (q < 0) q.num.natAbs q.den

def ofInt (i : Int) : Binary64 := ofRatio (i < 0) i.natAbs 1

/-- The nearest binary64 number to a decimal `digits * 10 ^ exponent`. The exponent may be of any
size: far from zero it decides alone. -/
def ofDecimal (negative : Bool) (digits : Nat) (exponent : Int) : Binary64 :=
  let top : Int := (Nat.toDigits 10 digits).length + exponent
  if digits = 0 || top < -400 then finite negative 0 0
  else if top > 400 then infinity negative
  else ofRatio negative (digits * power 10 exponent) (power 10 (-exponent))

/-- The exact value of a finite number. -/
def toRat? : Binary64 → Option Rat
  | finite neg m e =>
    let v := mkRat (m * power 2 e : Nat) (power 2 (-e))
    some (if neg then -v else v)
  | _ => none

def isNegative : Binary64 → Bool
  | finite neg _ _ => neg
  | infinity neg => neg
  | nan => false

def isZero : Binary64 → Bool
  | finite _ m _ => m == 0
  | _ => false

/-- The rounded product. Zero times infinity is undefined. -/
def mul (x y : Binary64) : Binary64 :=
  let neg := x.isNegative != y.isNegative
  match x, y with
  | finite _ m e, finite _ m' e' =>
    ofRatio neg (m * m' * power 2 (e + e')) (power 2 (-(e + e')))
  | nan, _ | _, nan => nan
  | _, _ => if x.isZero || y.isZero then nan else infinity neg

/-- The rounded sum of finite numbers. Opposite infinities have none. -/
def add (x y : Binary64) : Binary64 :=
  match x.toRat?, y.toRat? with
  | some a, some b => if a + b = 0 then finite (x.isNegative && y.isNegative) 0 0 else ofRat (a + b)
  | none, some _ => x
  | some _, none => y
  | none, none => if x = y then x else nan

/-- Why a number has no integer part. -/
inductive NotFinite
  | infinite
  | undefined
  deriving Repr, DecidableEq

def NotFinite.message : NotFinite → String
  | infinite => "cannot convert float infinity to integer"
  | undefined => "cannot convert float NaN to integer"

/-- The integer part: what stands after the point is dropped on both sides of zero. -/
def truncate : Binary64 → Except NotFinite Int
  | finite neg m e =>
    let v : Nat := m * power 2 e / power 2 (-e)
    .ok (if neg then -(v : Int) else v)
  | infinity _ => .error .infinite
  | nan => .error .undefined

/-- The greatest integer that is not above a number. -/
def floor : Binary64 → Except NotFinite Int
  | finite neg m e =>
    let n := m * power 2 e
    let v : Int := if neg then -(n : Int) else n
    .ok (v.fdiv (power 2 (-e)))
  | infinity _ => .error .infinite
  | nan => .error .undefined

/-- Exact equality with an integer. -/
def eqInt (x : Binary64) (i : Int) : Bool := x.toRat? == some (i : Rat)

/-- Whether a number is above zero. -/
def isPositive : Binary64 → Bool
  | finite neg m _ => !neg && m != 0
  | infinity neg => !neg
  | nan => false

end Binary64
end ClusterAgent
