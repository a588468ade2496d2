import ClusterAgent.Text.Case
import ClusterAgent.Text.Numeral

/-!
Durations in seconds, written as a number with an optional unit: `100 s`, `500ms`, `2 min`.
-/
namespace ClusterAgent

inductive DurationError
  | malformed (text : String)
  | unknownUnit (unit text : String)
  deriving Repr, DecidableEq

def DurationError.message : DurationError → String
  | malformed s => "Invalid duration: " ++ Text.quoted s
  | unknownUnit u s => "Unknown duration unit " ++ Text.quoted u ++ " in " ++ Text.quoted s

namespace Duration

/-- The units with the seconds that each stands for. -/
def units : List (String × Binary64) :=
  let milli := Binary64.ofDecimal false 1 (-3)
  let second := Binary64.ofInt 1
  let minute := Binary64.ofInt 60
  [("ms", milli), ("millis", milli), ("milliseconds", milli), ("s", second), ("sec", second),
    ("seconds", second), ("min", minute), ("minutes", minute)]

/-- A duration before its unit is looked up: the digits before and after the point, and the unit. -/
structure Parts where
  whole : List Char
  fraction : List Char
  unit : List Char

/-- Blanks, digits with an optional point and more digits, blanks, letters from a to z, blanks. -/
def parts? (cs : List Char) : Option Parts :=
  let cs := cs.dropWhile Text.isBlank
  let whole := cs.takeWhile Text.isDigit
  let rest := cs.dropWhile Text.isDigit
  let (fraction, rest) := match rest with
    | '.' :: r =>
      if (r.takeWhile Text.isDigit).isEmpty then ([], rest)
      else (r.takeWhile Text.isDigit, r.dropWhile Text.isDigit)
    | r => ([], r)
  let rest := rest.dropWhile Text.isBlank
  let isLetter (c : Char) : Bool := 'a' ≤ c && c ≤ 'z'
  if whole.isEmpty || !((rest.dropWhile isLetter).all Text.isBlank) then none
  else some ⟨whole, fraction, rest.takeWhile isLetter⟩

/-- The number that the digits on both sides of the point stand for. -/
def Parts.amount (p : Parts) : Binary64 :=
  .ofDecimal false (Text.digitsValue ((p.whole ++ p.fraction).map Text.asciiDigit))
    (-(p.fraction.length : Int))

/-- Reads a duration. Letter case does not matter, and a number without a unit counts seconds. -/
def parse (s : String) : Except DurationError Binary64 :=
  match parts? (Text.lower s).toList with
  | none => .error (.malformed s)
  | some p =>
    let unit := String.ofList p.unit
    if unit = "" then .ok (p.amount.mul (.ofInt 1))
    else match units.lookup unit with
      | some factor => .ok (p.amount.mul factor)
      | none => .error (.unknownUnit unit s)

end Duration
end ClusterAgent
