import ClusterAgent.Binary64.Decimal
import ClusterAgent.Json.Value
import ClusterAgent.Text.Quoted

/-!
Writing JSON. A style fixes the spacing, and whether characters outside ASCII are escaped.
-/
namespace ClusterAgent.Json

structure Style where
  asciiOnly : Bool
  /-- A space after each comma and colon. -/
  spaced : Bool
  /-- Every item and member on a line of its own, two spaces deeper than its container. -/
  indented : Bool := false

/-- For messages between programs. -/
def Style.compact : Style := { asciiOnly := false, spaced := false }

def Style.ascii : Style := { asciiOnly := true, spaced := true }

/-- For readers. -/
def Style.readable : Style := { asciiOnly := true, spaced := true, indented := true }

def escapeHex (n : Nat) : List Char := '\\' :: 'u' :: Text.hexDigits 4 n

/-- A code point inside quotes. A character past `0xFFFF` is escaped as a surrogate pair. -/
def escapePoint (asciiOnly : Bool) (p : CodePoint) : WideText :=
  match p with
  | .char '"' => "\\\""
  | .char '\\' => "\\\\"
  | .char '\n' => "\\n"
  | .char '\r' => "\\r"
  | .char '\t' => "\\t"
  | .char '\x0c' => "\\f"
  | .char '\x08' => "\\b"
  | p =>
    let n := p.toNat
    if n < 0x20 || (asciiOnly && 0x7F ≤ n && n < 0x10000) then WideText.ofChars (escapeHex n)
    else if asciiOnly && 0x10000 ≤ n then
      WideText.ofChars (escapeHex (0xD800 + (n - 0x10000) / 0x400) ++
        escapeHex (0xDC00 + (n - 0x10000) % 0x400))
    else [p]

def printString (style : Style) (t : WideText) : WideText :=
  .char '"' :: t.flatMap (escapePoint style.asciiOnly) ++ [.char '"']

def printInt (i : Int) : WideText :=
  WideText.ofChars ((if i < 0 then ['-'] else []) ++ Nat.toDigits 10 i.natAbs)

def printFloat (x : Binary64) : WideText :=
  match x with
  | .nan => "NaN"
  | .infinity neg => if neg then "-Infinity" else "Infinity"
  | x => x.toText

/-- A line break with the indentation of a level. -/
def newLine (style : Style) (level : Nat) : WideText :=
  if style.indented then .char '\n' :: List.replicate (2 * level) (.char ' ') else []

/-- What stands between two items on a level. -/
def separator (style : Style) (level : Nat) : WideText :=
  if style.indented then .char ',' :: newLine style level
  else if style.spaced then ", " else ","

mutual

/-- A value as it stands on a level of indentation. -/
def printAt (style : Style) (level : Nat) : Json → WideText
  | null => "null"
  | bool b => if b then "true" else "false"
  | int i => printInt i
  | float x => printFloat x
  | str t => printString style t
  | arr [] => "[]"
  | arr (v :: rest) =>
    .char '[' :: newLine style (level + 1) ++ printAt style (level + 1) v ++
      printItems style (level + 1) rest ++ newLine style level ++ [.char ']']
  | obj [] => "\x7b\x7d"
  | obj ((k, v) :: rest) =>
    .char '\x7b' :: newLine style (level + 1) ++ printMember style (level + 1) k v ++
      printMembers style (level + 1) rest ++ newLine style level ++ [.char '\x7d']

/-- Items after the first. -/
def printItems (style : Style) (level : Nat) : List Json → WideText
  | [] => []
  | v :: rest => separator style level ++ printAt style level v ++ printItems style level rest

def printMember (style : Style) (level : Nat) (k : WideText) (v : Json) : WideText :=
  printString style k ++ (if style.spaced then ": " else ":") ++ printAt style level v

/-- Members after the first. -/
def printMembers (style : Style) (level : Nat) : List (WideText × Json) → WideText
  | [] => []
  | (k, v) :: rest =>
    separator style level ++ printMember style level k v ++ printMembers style level rest

end

def print (style : Style) (v : Json) : WideText := printAt style 0 v

/-- The text of a value whose style escapes all but ASCII. -/
def printAscii (style : Style) (v : Json) : String :=
  String.ofList ((print { style with asciiOnly := true } v).filterMap CodePoint.toChar?)

end ClusterAgent.Json
