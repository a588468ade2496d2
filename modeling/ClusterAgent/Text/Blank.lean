/-!
Blank characters of all scripts, and trimming.
-/
namespace ClusterAgent.Text

/-- The blank characters: the line and field separators of ASCII, the next-line control, and every
space or line separator of Unicode. A zero-width space is not blank. -/
def isBlank (c : Char) : Bool :=
  let n := c.toNat
  (9 ≤ n && n ≤ 13) || (0x1C ≤ n && n ≤ 0x20) || n == 0x85 || n == 0xA0 || n == 0x1680 ||
    (0x2000 ≤ n && n ≤ 0x200A) || n == 0x2028 || n == 0x2029 || n == 0x202F || n == 0x205F ||
    n == 0x3000

/-- Drops the characters at both ends that satisfy `p`. -/
def trimList (p : Char → Bool) (cs : List Char) : List Char :=
  ((cs.dropWhile p).reverse.dropWhile p).reverse

def trim (s : String) : String := String.ofList (trimList isBlank s.toList)

/-- Drops the characters at the end that equal `c`. -/
def trimEndOf (c : Char) (s : String) : String :=
  String.ofList (s.toList.reverse.dropWhile (· == c)).reverse

/-- Drops the characters at the start that equal `c`. -/
def trimStartOf (c : Char) (s : String) : String :=
  String.ofList (s.toList.dropWhile (· == c))

def trimOf (c : Char) (s : String) : String := String.ofList (trimList (· == c) s.toList)

end ClusterAgent.Text
