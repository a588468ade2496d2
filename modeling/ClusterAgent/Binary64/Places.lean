import ClusterAgent.Binary64.Decimal

/-!
Quotients of natural numbers in decimal places, rounded once: with a fixed number of places, with a
power of ten, or in the shorter of the two forms. A last place midway goes to the even digit.
-/
namespace ClusterAgent.Decimals

/-- Digits with a point before the last `places` of them. A point that nothing follows is left out
unless it is `kept`. -/
def pointed (kept : Bool) (digits : List Char) (places : Nat) : List Char :=
  let whole := digits.take (digits.length - places)
  if places = 0 && !kept then whole else whole ++ '.' :: digits.drop (digits.length - places)

/-- A number in at least `width` digits. -/
def digitsOf (width n : Nat) : List Char :=
  let digits := Nat.toDigits 10 n
  List.replicate (width - digits.length) '0' ++ digits

/-- `n / d` with a fixed number of places. -/
def fixed (kept : Bool) (n d places : Nat) : List Char :=
  pointed kept (digitsOf (places + 1) (roundHalfEven (n * Nat.pow 10 places) d)) places

/-- The first `places + 1` digits of `n / d`, and the power of ten of the first one. -/
def leading (n d places : Nat) : List Char × Int :=
  if n = 0 then (List.replicate (places + 1) '0', 0)
  else
    let k := Binary64.ratioLog10 n d
    let rounded := roundHalfEven (n * power 10 (places - k)) (d * power 10 (k - places))
    if rounded = Nat.pow 10 (places + 1) then (digitsOf 0 (Nat.pow 10 places), k + 1)
    else (digitsOf 0 rounded, k)

/-- An exponent of at least two digits with its sign. -/
def exponentText (k : Int) : List Char := 'e' :: (if k < 0 then '-' else '+') :: digitsOf 2 k.natAbs

/-- `n / d` with one digit before the point and a power of ten. -/
def scientific (kept : Bool) (n d places : Nat) : List Char :=
  let (digits, k) := leading n d places
  pointed kept digits places ++ exponentText k

/-- Drops zeros at the end, and a point before them. -/
def trimmed (digits : List Char) : List Char :=
  if digits.contains '.' then
    let rest := digits.reverse.dropWhile (· == '0')
    (if rest.head? = some '.' then rest.drop 1 else rest).reverse
  else digits

/-- `n / d` in `precision` significant digits, without zeros at the end unless they are `kept`. -/
def general (kept : Bool) (n d precision : Nat) : List Char :=
  let places := precision - 1
  let (digits, k) := leading n d places
  let trim (cs : List Char) : List Char := if kept then cs else trimmed cs
  if -4 ≤ k && k ≤ places then trim (fixed kept n d (places - k).toNat)
  else trim (pointed kept digits places) ++ exponentText k

end ClusterAgent.Decimals
