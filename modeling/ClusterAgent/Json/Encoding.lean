import ClusterAgent.Json.Reader
import ClusterAgent.Text.Undecodable

/-!
The encoding of a JSON document in bytes: by its byte-order mark, or else by the zero bytes among
its first four, which stem from characters of ASCII. Encoded surrogates pass as code points.
-/
namespace ClusterAgent.Json

/-- Code units of `width` bytes, and the bytes that are left over. -/
def units (width : Nat) (bigEndian : Bool) (bs : List UInt8) : List Nat × List UInt8 :=
  let count := bs.length / width
  ((List.range count).map fun i =>
    let unit := (bs.drop (i * width)).take width
    (if bigEndian then unit else unit.reverse).foldl (fun n b => n * 0x100 + b.toNat) 0,
    bs.drop (count * width))

/-- Joins surrogate pairs; other surrogates stay. -/
def ofUnits16 : List Nat → WideText
  | u :: v :: rest =>
    if isHigh u && isLow v then joinPair u v :: ofUnits16 rest
    else (CodePoint.ofNat? u).toList ++ ofUnits16 (v :: rest)
  | [u] => (CodePoint.ofNat? u).toList
  | [] => []

def endianName (bigEndian : Bool) : String := if bigEndian then "-be" else "-le"

/-- Reads what follows the first `skipped` bytes. -/
def decode16 (bigEndian : Bool) (skipped : Nat) (bs : List UInt8) : Except DecodeError WideText :=
  let (codes, rest) := units 2 bigEndian bs
  if rest.isEmpty then .ok (ofUnits16 codes)
  else .error ⟨"utf-16" ++ endianName bigEndian, skipped + 2 * codes.length, rest, .truncated⟩

/-- Reads what follows the first `skipped` bytes. -/
def decode32 (bigEndian : Bool) (skipped : Nat) (bs : List UInt8) : Except DecodeError WideText :=
  let (codes, rest) := units 4 bigEndian bs
  let good := codes.takeWhile (· < 0x110000)
  let fault := DecodeError.mk ("utf-32" ++ endianName bigEndian) (skipped + 4 * good.length)
  if good.length < codes.length then
    .error (fault ((bs.drop (4 * good.length)).take 4) .outOfRange)
  else if rest.isEmpty then .ok (codes.filterMap CodePoint.ofNat?)
  else .error (fault rest .truncated)

/-- The text of a document. -/
def decode (bs : List UInt8) : Except DecodeError WideText :=
  match bs with
  | 0x00 :: 0x00 :: 0xFE :: 0xFF :: rest => decode32 true 4 rest
  | 0xFF :: 0xFE :: 0x00 :: 0x00 :: rest => decode32 false 4 rest
  | 0xFE :: 0xFF :: rest => decode16 true 2 rest
  | 0xFF :: 0xFE :: rest => decode16 false 2 rest
  | 0xEF :: 0xBB :: 0xBF :: rest => Utf8.decodeWide true rest
  | a :: b :: c :: d :: _ =>
    if a = 0 then if b = 0 then decode32 true 0 bs else decode16 true 0 bs
    else if b = 0 then if c = 0 && d = 0 then decode32 false 0 bs else decode16 false 0 bs
    else Utf8.decodeWide true bs
  | [a, b] =>
    if a = 0 then decode16 true 0 bs
    else if b = 0 then decode16 false 0 bs
    else Utf8.decodeWide true bs
  | _ => Utf8.decodeWide true bs

/-- Why a document is not read that nests too deeply. -/
def nestingMessage (inArray : Bool) : String :=
  "maximum recursion depth exceeded while decoding a JSON " ++
    (if inArray then "array" else "object") ++ " from a unicode string"

/-- Why bytes are no document. -/
inductive DocumentError
  | encoding (e : DecodeError)
  | json (e : JsonError)
  deriving Repr, DecidableEq

/-- The message of an error; a malformed document has none. -/
def DocumentError.message : DocumentError → String
  | encoding e => e.message
  | json .malformed => ""
  | json (.tooManyDigits n) => (Text.NumeralError.tooManyDigits n).message
  | json (.tooDeep inArray) => nestingMessage inArray

/-- A depth of nesting that programs have room for. -/
def usualDepth : Nat := 900

/-- Reads a document of unknown encoding that nests at most `depth` deep; of repeated names the last
value counts. -/
def readLenient (depth : Nat) (bs : List UInt8) : Except DocumentError Json := do
  let text ← (decode bs).mapError .encoding
  let document ← (read (.lenient depth) text).mapError .json
  return document.merged

/-- Reads a message, which is in UTF-8. Repeated names are kept. -/
def readStrict (bs : List UInt8) : Except JsonError Json :=
  match Utf8.decodeWide? false bs with
  | none => .error .malformed
  | some t => read .strict t

end ClusterAgent.Json
