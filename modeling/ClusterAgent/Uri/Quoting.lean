import ClusterAgent.Text.Utf8
import ClusterAgent.Text.Quoted
import ClusterAgent.Uri.Address

/-!
Percent escapes in the path of a URI. Writing escapes every byte other than those of ASCII letters,
digits, `/`, `_`, `.`, `-` and `~`; reading takes all escapes and leaves a percent sign that starts
none as it is.
-/
namespace ClusterAgent.Uri

def isPlain (c : Char) : Bool :=
  c.isAlpha || Text.isAsciiDigit c || c == '/' || c == '_' || c == '.' || c == '-' || c == '~'

def escapeByte (b : UInt8) : List Char :=
  ['%', (Text.hexDigit (b.toNat / 16)).toUpper, (Text.hexDigit (b.toNat % 16)).toUpper]

/-- A byte as it stands in a path. -/
def quoteByte (b : UInt8) : List Char :=
  let c := Char.ofNat b.toNat
  if isPlain c then [c] else escapeByte b

def quoteChars (cs : List Char) : List Char := (Utf8.encodeChars cs).flatMap quoteByte

def quote (s : String) : String := String.ofList (quoteChars s.toList)

def hexValue? (c : Char) : Option Nat :=
  if '0' ≤ c && c ≤ '9' then some (c.toNat - 0x30)
  else if 'a' ≤ c && c ≤ 'f' then some (c.toNat - 0x61 + 10)
  else if 'A' ≤ c && c ≤ 'F' then some (c.toNat - 0x41 + 10)
  else none

/-- The bytes that a run of ASCII characters with escapes stands for. -/
def unquoteBytes : List Char → List UInt8
  | [] => []
  | '%' :: a :: b :: rest =>
    match hexValue? a, hexValue? b with
    | some x, some y => (x * 16 + y).toUInt8 :: unquoteBytes rest
    | _, _ => 0x25 :: unquoteBytes (a :: b :: rest)
  | c :: rest => c.toNat.toUInt8 :: unquoteBytes rest

/-- Each run of ASCII characters is read by itself, with U+FFFD for ill-formed bytes. -/
def unquoteChars (cs : List Char) : List Char :=
  (cs.splitBy fun a b => (a.toNat < 0x80) == (b.toNat < 0x80)).flatMap fun run =>
    if run.any (·.toNat < 0x80) then Utf8.decodeReplacing (unquoteBytes run) else run

def unquote (s : String) : String := String.ofList (unquoteChars s.toList)

end ClusterAgent.Uri
