import ClusterAgent.Binary64.Basic

/-!
The interchange formats: 64 bits for binary64, and 32 bits for the narrower format that widens
into it.
-/
namespace ClusterAgent.Binary64

/-- Splits a format with `f` fraction bits and the exponent bias `bias` into its fields. -/
def ofFields (f bias : Nat) (negative : Bool) (exponent fraction top : Nat) : Binary64 :=
  if exponent = top then if fraction = 0 then infinity negative else nan
  else if exponent = 0 then finite negative fraction (1 - (bias : Int) - f)
  else finite negative (power 2 f + fraction) ((exponent : Int) - bias - f)

/-- The number with these 64 bits. -/
def ofBits64 (n : Nat) : Binary64 :=
  ofFields 52 1023 (n / 0x8000000000000000 % 2 == 1) (n / normal % 0x800) (n % normal) 0x7FF

/-- The number with these 32 bits of the narrower format. -/
def ofBits32 (n : Nat) : Binary64 :=
  ofFields 23 127 (n / 0x80000000 % 2 == 1) (n / 0x800000 % 0x100) (n % 0x800000) 0xFF

/-- The fields below the sign of a finite number that lies on the binary64 grid. -/
def finiteBits (m : Nat) (e : Int) : Nat :=
  if m < normal then m else (e + 1075).toNat * normal + (m - normal)

/-- The 64 bits of a number; an undefined one has the quiet pattern. -/
def toBits64 : Binary64 → Nat
  | nan => 0x7FF8000000000000
  | infinity neg => (if neg then 0x8000000000000000 else 0) + 0x7FF0000000000000
  | finite neg m e =>
    (if neg then 0x8000000000000000 else 0) +
      match ofRatio neg (m * power 2 e) (power 2 (-e)) with
      | finite _ m' e' => finiteBits m' e'
      | _ => 0x7FF0000000000000

end ClusterAgent.Binary64
