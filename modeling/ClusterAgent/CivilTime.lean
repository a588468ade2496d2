/-!
Dates and times of day in the Gregorian calendar, without leap seconds and zones.
-/
namespace ClusterAgent

structure CivilTime where
  year : Int
  /-- From 1 to 12. -/
  month : Nat
  /-- From 1 to 31. -/
  day : Nat
  hour : Nat
  minute : Nat
  second : Nat
  /-- Days since Sunday. -/
  weekday : Nat
  deriving Repr, DecidableEq

namespace CivilTime

/-- The date of a day that is counted from the first of January 1970. Years are counted from March
on, so that a leap day is the last of its year. -/
def dateOf (days : Int) : Int × Nat × Nat :=
  let shifted := days + 719468
  let era := shifted.fdiv 146097
  let dayOfEra := (shifted - era * 146097).toNat
  let yearOfEra := (dayOfEra - dayOfEra / 1460 + dayOfEra / 36524 - dayOfEra / 146096) / 365
  let dayOfYear := dayOfEra - (365 * yearOfEra + yearOfEra / 4 - yearOfEra / 100)
  let monthFromMarch := (5 * dayOfYear + 2) / 153
  let day := dayOfYear - (153 * monthFromMarch + 2) / 5 + 1
  let month := if monthFromMarch < 10 then monthFromMarch + 3 else monthFromMarch - 9
  (yearOfEra + era * 400 + (if month ≤ 2 then 1 else 0), month, day)

/-- The time so many seconds after the start of the year 1970. -/
def ofSeconds (seconds : Int) : CivilTime :=
  let days := seconds.fdiv 86400
  let rest := (seconds - days * 86400).toNat
  let (year, month, day) := dateOf days
  { year, month, day
    hour := rest / 3600
    minute := rest / 60 % 60
    second := rest % 60
    weekday := ((days + 4) - (days + 4).fdiv 7 * 7).toNat }

/-- A number with zeros in front up to a width. -/
def padded (width : Nat) (n : Nat) : String :=
  let digits := toString n
  "".pushn '0' (width - digits.length) ++ digits

def dateText (t : CivilTime) : String := s!"{t.year}-{padded 2 t.month}-{padded 2 t.day}"

def clockText (t : CivilTime) : String :=
  s!"{padded 2 t.hour}:{padded 2 t.minute}:{padded 2 t.second}"

def weekdays : List String :=
  ["Sunday", "Monday", "Tuesday", "Wednesday", "Thursday", "Friday", "Saturday"]

def months : List String :=
  ["January", "February", "March", "April", "May", "June", "July", "August", "September",
    "October", "November", "December"]

/-- A number with a space in front of a single digit. -/
def spaced (n : Nat) : String := (if n < 10 then " " else "") ++ toString n

def isLeap (year : Int) : Bool := year % 4 = 0 && (year % 100 ≠ 0 || year % 400 = 0)

/-- The days from the first of January, which is day 0. -/
def dayOfYear (t : CivilTime) : Nat :=
  let before := [0, 31, 59, 90, 120, 151, 181, 212, 243, 273, 304, 334][t.month - 1]?.getD 0
  before + (if isLeap t.year && 2 < t.month then 1 else 0) + (t.day - 1)

/-- Days since Monday. -/
def dayOfWorkweek (t : CivilTime) : Nat := (t.weekday + 6) % 7

/-- The weeks of a year that start on one day of the week, that day being `sinceStart` days ago. -/
def weekOfYear (t : CivilTime) (sinceStart : Nat) : Nat := (t.dayOfYear + 7 - sinceStart) / 7

/-- The year and the number of a week that starts on Monday; it belongs to the year of its
Thursday. -/
def week (t : CivilTime) : Int × Nat :=
  let daysIn (year : Int) : Int := if isLeap year then 366 else 365
  let thursday : Int := (t.dayOfYear : Int) - t.dayOfWorkweek + 3
  if thursday < 0 then (t.year - 1, ((thursday + daysIn (t.year - 1)) / 7).toNat + 1)
  else if daysIn t.year ≤ thursday then (t.year + 1, ((thursday - daysIn t.year) / 7).toNat + 1)
  else (t.year, (thursday / 7).toNat + 1)

/-- The last two digits of a year. -/
def shortYear (year : Int) : String := padded 2 (year - year.fdiv 100 * 100).toNat

def shortDate (t : CivilTime) : String := s!"{padded 2 t.month}/{padded 2 t.day}/{shortYear t.year}"

def hourOfHalf (t : CivilTime) : Nat := (t.hour + 11) % 12 + 1

def half (t : CivilTime) : String := if t.hour < 12 then "AM" else "PM"

/-- The first three letters of a name. -/
def abbreviation (s : String) : String := String.ofList (s.toList.take 3)

def weekdayName (t : CivilTime) : String := weekdays[t.weekday]?.getD ""

def monthName (t : CivilTime) : String := months[t.month - 1]?.getD ""

/-- The part of a time that a letter after a percent sign stands for. -/
def part? (t : CivilTime) : Char → Option String
  | 'Y' => some (toString t.year)
  | 'C' => some (padded 2 (t.year.fdiv 100).toNat)
  | 'y' => some (shortYear t.year)
  | 'G' => some (toString t.week.1)
  | 'g' => some (shortYear t.week.1)
  | 'V' => some (padded 2 t.week.2)
  | 'U' => some (padded 2 (t.weekOfYear t.weekday))
  | 'W' => some (padded 2 (t.weekOfYear t.dayOfWorkweek))
  | 'j' => some (padded 3 (t.dayOfYear + 1))
  | 'm' => some (padded 2 t.month)
  | 'B' => some t.monthName
  | 'b' | 'h' => some (abbreviation t.monthName)
  | 'd' => some (padded 2 t.day)
  | 'e' => some (spaced t.day)
  | 'A' => some t.weekdayName
  | 'a' => some (abbreviation t.weekdayName)
  | 'w' => some (toString t.weekday)
  | 'u' => some (toString (t.dayOfWorkweek + 1))
  | 'H' => some (padded 2 t.hour)
  | 'k' => some (spaced t.hour)
  | 'I' => some (padded 2 t.hourOfHalf)
  | 'l' => some (spaced t.hourOfHalf)
  | 'M' => some (padded 2 t.minute)
  | 'S' => some (padded 2 t.second)
  | 'p' => some t.half
  | 'P' => some t.half.toLower
  | 'F' => some t.dateText
  | 'D' | 'x' => some t.shortDate
  | 'T' | 'X' => some t.clockText
  | 'R' => some s!"{padded 2 t.hour}:{padded 2 t.minute}"
  | 'r' => some s!"{padded 2 t.hourOfHalf}:{padded 2 t.minute}:{padded 2 t.second} {t.half}"
  | 'c' => some (s!"{abbreviation t.weekdayName} {abbreviation t.monthName} " ++
      s!"{spaced t.day} {t.clockText} {t.year}")
  | 'Z' => some "UTC"
  | 'z' => some "+0000"
  | 'n' => some "\n"
  | 't' => some "\t"
  | '%' => some "%"
  | _ => none

/-- A time in a pattern; letters that stand for no part are kept. -/
def formatChars (t : CivilTime) : List Char → List Char
  | '%' :: letter :: rest =>
    match t.part? letter with
    | some text => text.toList ++ t.formatChars rest
    | none => '%' :: letter :: t.formatChars rest
  | c :: rest => c :: t.formatChars rest
  | [] => []

def format (t : CivilTime) (pattern : String) : String :=
  String.ofList (t.formatChars pattern.toList)

end CivilTime
end ClusterAgent
