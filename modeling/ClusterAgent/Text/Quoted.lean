import ClusterAgent.Text.CodePoint
import ClusterAgent.Text.Printable

/-!
Quoted texts for messages: one line, printable, and with the quote that needs fewer escapes.
-/
namespace ClusterAgent.Text

/-- The digit `n` of a number written in a base of at most sixteen. -/
def hexDigit (n : Nat) : Char :=
  if n < 10 then Char.ofNat (0x30 + n) else Char.ofNat (0x61 + (n - 10))

/-- The last `width` hexadecimal digits of `n`. -/
def hexDigits : Nat → Nat → List Char
  | 0, _ => []
  | width + 1, n => hexDigits width (n / 16) ++ [hexDigit (n % 16)]

/-- A character by its number, in the shortest of three forms. -/
def escapeNumber (c : Char) : List Char :=
  if c.toNat < 0x100 then '\\' :: 'x' :: hexDigits 2 c.toNat
  else if c.toNat < 0x10000 then '\\' :: 'u' :: hexDigits 4 c.toNat
  else '\\' :: 'U' :: hexDigits 8 c.toNat

/-- A character inside quotes: a backslash and the quote are escaped, tabs and line ends have short
escapes, and what has no visible form is written by its number. -/
def quoteChar (quote c : Char) : List Char :=
  if c = quote || c = '\\' then ['\\', c]
  else if c = '\t' then ['\\', 't']
  else if c = '\n' then ['\\', 'n']
  else if c = '\r' then ['\\', 'r']
  else if isPrintable c then [c]
  else escapeNumber c

/-- Surrogates are written by their numbers. -/
def quotePoint (quote : Char) : CodePoint → List Char
  | .char c => quoteChar quote c
  | .surrogate i => '\\' :: 'u' :: hexDigits 4 (0xD800 + i.val)

/-- Single quotes, unless the text holds a single quote and no double one. -/
def quoteFor (t : WideText) : Char :=
  if t.contains (.char '\'') && !t.contains (.char '"') then '"' else '\''

def quotedWide (t : WideText) : String :=
  let q := quoteFor t
  String.ofList (q :: t.flatMap (quotePoint q) ++ [q])

def quoted (s : String) : String := quotedWide s

/-- A byte inside quotes: those of ASCII as characters, all others by their number. -/
def quoteByte (quote : Char) (b : UInt8) : List Char :=
  let c := Char.ofNat b.toNat
  if c = quote || c = '\\' then ['\\', c]
  else if c = '\t' then ['\\', 't']
  else if c = '\n' then ['\\', 'n']
  else if c = '\r' then ['\\', 'r']
  else if 0x20 ≤ b && b < 0x7F then [c]
  else '\\' :: 'x' :: hexDigits 2 b.toNat

/-- A text with its characters outside ASCII by their numbers. -/
def escapeForeign (s : String) : String :=
  String.ofList (s.toList.flatMap fun c => if c.toNat < 0x80 then [c] else escapeNumber c)

def quotedBytes (bs : List UInt8) : String :=
  let q := if bs.contains 0x27 && !bs.contains 0x22 then '"' else '\''
  String.ofList ('b' :: q :: bs.flatMap (quoteByte q) ++ [q])

end ClusterAgent.Text
