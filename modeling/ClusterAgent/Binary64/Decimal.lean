import ClusterAgent.Binary64.Basic

/-!
The shortest decimal that reads back as a given binary64 number, and its text.
-/
namespace ClusterAgent.Binary64

/-- A decimal `digits * 10 ^ exponent`. -/
structure Decimal where
  digits : Nat
  exponent : Int
  deriving Repr, DecidableEq

/-- The `k` with `10 ^ k ≤ n / d < 10 ^ (k + 1)`, for positive `n` and `d`. -/
def ratioLog10 (n d : Nat) : Int :=
  if d ≤ n then ((Nat.toDigits 10 (n / d)).length : Int) - 1
  else -((Nat.toDigits 10 ((d - 1) / n)).length : Int)

/-- The numbers that round to `significand * 2 ^ exponent`, as numerators over one denominator, with
the value itself. The bounds belong to the set when the significand is even. -/
structure Neighbourhood where
  low : Nat
  value : Nat
  high : Nat
  den : Nat
  closed : Bool

/-- Below a power of two the grid is twice as fine, so the lower bound is nearer there. -/
def neighbourhood (m : Nat) (e : Int) : Neighbourhood :=
  let up := power 2 (e - 2)
  { low := (if m = normal && e > -1074 then 4 * m - 1 else 4 * m - 2) * up
    value := 4 * m * up
    high := (4 * m + 2) * up
    den := power 2 (2 - e)
    closed := m % 2 == 0 }

/-- Whether `digits * 10 ^ exponent` lies in the neighbourhood. -/
def Neighbourhood.holds (r : Neighbourhood) (d : Decimal) : Bool :=
  let x := d.digits * power 10 d.exponent * r.den
  let scale := power 10 (-d.exponent)
  if r.closed then r.low * scale ≤ x && x ≤ r.high * scale
  else r.low * scale < x && x < r.high * scale

/-- The best decimal with `k` digits, of the two that enclose the value: the nearer one that reads
back, and of two as near the one with an even last digit. -/
def Neighbourhood.withDigits? (r : Neighbourhood) (k : Nat) : Option Decimal :=
  let p := ratioLog10 r.value r.den - ((k : Int) - 1)
  let num := r.value * power 10 (-p)
  let den := r.den * power 10 p
  let below : Decimal := ⟨num / den, p⟩
  let above : Decimal := ⟨num / den + 1, p⟩
  match r.holds below, r.holds above with
  | true, true => some (if roundHalfEven num den = below.digits then below else above)
  | true, false => some below
  | false, true => some above
  | false, false => none

/-- The decimal with the fewest digits that reads back as `m * 2 ^ e`; seventeen always do. -/
def shortestDecimal (m : Nat) (e : Int) : Decimal :=
  let r := neighbourhood m e
  ((List.range 17).findSome? fun k => r.withDigits? (k + 1)).getD ⟨m, e⟩

/-- The text of a number with a point or an exponent: positional from `0.0001` up to below `10 ^
16`, with at least one digit after the point, and otherwise with an exponent of at least two
digits. -/
def toText : Binary64 → String
  | nan => "nan"
  | infinity neg => if neg then "-inf" else "inf"
  | finite neg m e =>
    let sign := if neg then "-" else ""
    if m = 0 then sign ++ "0.0"
    else
      let d := shortestDecimal m e
      let digits := Nat.toDigits 10 d.digits
      let digits := (digits.reverse.dropWhile (· == '0')).reverse
      let point : Int := (Nat.toDigits 10 d.digits).length + d.exponent
      let zeros (n : Int) := List.replicate n.toNat '0'
      let body : List Char :=
        if point < -3 || point > 16 then
          let x := point - 1
          let tail := if digits.length > 1 then '.' :: digits.drop 1 else []
          let size := Nat.toDigits 10 x.natAbs
          digits.take 1 ++ tail ++ ['e', if x < 0 then '-' else '+'] ++
            zeros (2 - (size.length : Int)) ++ size
        else if point ≤ 0 then ['0', '.'] ++ zeros (-point) ++ digits
        else
          let whole := digits.take point.toNat ++ zeros (point - digits.length)
          let rest := digits.drop point.toNat
          whole ++ '.' :: (if rest.isEmpty then ['0'] else rest)
      sign ++ String.ofList body

end ClusterAgent.Binary64
