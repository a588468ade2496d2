import ClusterAgent.MessagePack.Literal
import ClusterAgent.Text.Utf8

/-!
Reading MessagePack. A document is one value and nothing after it. No container may claim more
entries than the document has bytes for, and containers nest at most 1024 deep. Errors come in the
order of the bytes; a key is judged after its value.
-/
namespace ClusterAgent.MessagePack

inductive ReadError
  | incomplete
  | extraData
  /-- A byte that starts no value. -/
  | malformed
  | tooDeep
  | arrayTooLong (length limit : Nat)
  | mapTooLong (length limit : Nat)
  | keyNotAllowed (kind : String)
  | notUtf8
  | timestampLength (length : Nat)
  | timestampNanoseconds
  /-- An extension of a type that is neither an application's nor a time's. -/
  | reservedExtension
  deriving Repr, DecidableEq

def ReadError.message : ReadError → String
  | incomplete => "Unpack failed: incomplete input"
  | extraData => "unpack(b) received extra data."
  | malformed | tooDeep | notUtf8 => ""
  | arrayTooLong n limit => s!"{n} exceeds max_array_len({limit})"
  | mapTooLong n limit => s!"{n} exceeds max_map_len({limit})"
  | keyNotAllowed kind => s!"{kind} is not allowed for map key when strict_map_key=True"
  | timestampLength n => s!"invalid timestamp data (length {n})"
  | timestampNanoseconds => "nanoseconds must be a non-negative integer less than 999999999."
  | reservedExtension => "code must be 0~127"

/-- Takes a value off the bytes. -/
abbrev Reader (α : Type) : Type := StateT (List UInt8) (Except ReadError) α

def nextByte : Reader UInt8
  | [] => .error .incomplete
  | b :: rest => .ok (b, rest)

/-- Splits off the first bytes. -/
def takeBytes : Nat → Reader (List UInt8)
  | 0 => return []
  | n + 1 => do
    let b ← nextByte
    return b :: (← takeBytes n)

/-- The number that bytes stand for, the most significant first. -/
def bigEndian (bs : List UInt8) : Nat := bs.foldl (fun n b => n * 0x100 + b.toNat) 0

/-- A number of `width` bytes. -/
def readWord (width : Nat) : Reader Nat := do return bigEndian (← takeBytes width)

/-- A word of `width` bytes as a signed number. -/
def signed (width n : Nat) : Int :=
  let size := Nat.pow 0x100 width
  if 2 * n < size then n else (n : Int) - size

/-- The bits of a number of the narrower format in the wider one. An undefined number keeps its
payload and becomes quiet. -/
def widenBits (n : Nat) : Nat :=
  if n / 0x800000 % 0x100 = 0xFF && n % 0x800000 ≠ 0 then
    n / 0x80000000 % 2 * 0x8000000000000000 + 0x7FF8000000000000 + n % 0x400000 * 0x20000000
  else (Binary64.ofBits32 n).toBits64

def readText (length : Nat) : Reader Scalar := do
  match Utf8.decode? (← takeBytes length) with
  | some s => return .text s
  | none => throw .notUtf8

def readBytes (length : Nat) : Reader Scalar := do return .bytes (← takeBytes length)

def time (seconds : Int) (nanoseconds : Nat) : Reader Scalar :=
  if h : nanoseconds < 1000000000 then return .timestamp seconds ⟨nanoseconds, h⟩
  else throw .timestampNanoseconds

/-- A time in 32 bits of seconds, in 30 bits of nanoseconds and 34 of seconds, or in 32 bits of
nanoseconds and 64 of signed seconds. -/
def timestamp (data : List UInt8) : Reader Scalar :=
  let n := bigEndian data
  if data.length = 4 then time n 0
  else if data.length = 8 then time (n % 0x400000000 : Nat) (n / 0x400000000)
  else if data.length = 12 then
    time (signed 8 (n % 0x10000000000000000)) (n / 0x10000000000000000)
  else throw (.timestampLength data.length)

/-- An extension: its type in one byte, and its data. The last type is a time; applications have the
lower half. -/
def readExtension (length : Nat) : Reader Scalar := do
  let type ← readWord 1
  let data ← takeBytes length
  if type = 0xFF then timestamp data
  else if h : type < 0x80 then return .ext ⟨type, h⟩ data
  else throw .reservedExtension

/-- Reads a length of `width` bytes, and what it is the length of. -/
def readSized {α : Type} (width : Nat) (read : Nat → Reader α) : Reader α := do
  read (← readWord width)

def readUnsigned (width : Nat) : Reader Scalar := do return .int (← readWord width)

def readSigned (width : Nat) : Reader Scalar := do return .int (signed width (← readWord width))

def readFloat (width : Nat) (widen : Nat → Nat) : Reader Scalar := do
  return .float (UInt64.ofNat (widen (← readWord width)))

/-- The rest of a scalar, by its first byte. -/
def readScalar (first : Nat) : Reader Scalar :=
  if first < 0x80 then return .int first
  else if 0xE0 ≤ first then return .int ((first : Int) - 0x100)
  else if 0xA0 ≤ first && first < 0xC0 then readText (first - 0xA0)
  else match first with
    | 0xC0 => return .nil
    | 0xC2 => return .bool false
    | 0xC3 => return .bool true
    | 0xC4 => readSized 1 readBytes
    | 0xC5 => readSized 2 readBytes
    | 0xC6 => readSized 4 readBytes
    | 0xC7 => readSized 1 readExtension
    | 0xC8 => readSized 2 readExtension
    | 0xC9 => readSized 4 readExtension
    | 0xCA => readFloat 4 widenBits
    | 0xCB => readFloat 8 id
    | 0xCC => readUnsigned 1
    | 0xCD => readUnsigned 2
    | 0xCE => readUnsigned 4
    | 0xCF => readUnsigned 8
    | 0xD0 => readSigned 1
    | 0xD1 => readSigned 2
    | 0xD2 => readSigned 4
    | 0xD3 => readSigned 8
    | 0xD4 => readExtension 1
    | 0xD5 => readExtension 2
    | 0xD6 => readExtension 4
    | 0xD7 => readExtension 8
    | 0xD8 => readExtension 16
    | 0xD9 => readSized 1 readText
    | 0xDA => readSized 2 readText
    | 0xDB => readSized 4 readText
    | _ => throw .malformed

/-- A value, with given readers for the content of an array and of a map. -/
def readWith (array map : Nat → Reader Value) : Reader Value := do
  let first := (← nextByte).toNat
  if 0x80 ≤ first && first < 0x90 then map (first - 0x80)
  else if 0x90 ≤ first && first < 0xA0 then array (first - 0x90)
  else if first = 0xDC then readSized 2 array
  else if first = 0xDD then readSized 4 array
  else if first = 0xDE then readSized 2 map
  else if first = 0xDF then readSized 4 map
  else return .scalar (← readScalar first)

def readItems (item : Reader Value) : Nat → Reader (List Value)
  | 0 => return []
  | n + 1 => do
    let v ← item
    return v :: (← readItems item n)

/-- Only texts and bytes are keys. -/
def key : Value → Reader Key
  | .scalar (.text s) => return .text s
  | .scalar (.bytes bs) => return .bytes bs
  | v => throw (.keyNotAllowed v.kindName)

/-- Entries of a map. The last value of a key counts, at the place of the first. -/
def readEntries (item : Reader Value) : Nat → Table Key Value → Reader (Table Key Value)
  | 0, read => return read
  | n + 1, read => do
    let k ← item
    let v ← item
    readEntries item n (read.insert (← key k) v)

/-- The most items and entries that a container may claim. -/
structure Limits where
  array : Nat
  map : Nat
  deriving Repr, DecidableEq

/-- An item takes at least one byte, and an entry two. -/
def Limits.ofSize (size : Nat) : Limits := ⟨size, size / 2⟩

def readArray (limits : Limits) (item : Reader Value) (length : Nat) : Reader Value :=
  if limits.array < length then throw (.arrayTooLong length limits.array)
  else return .array (← readItems item length)

def readMap (limits : Limits) (item : Reader Value) (length : Nat) : Reader Value :=
  if limits.map < length then throw (.mapTooLong length limits.map)
  else return .map (← readEntries item length [])

/-- A value whose containers nest at most `depth` deep. -/
def readValue (limits : Limits) : (depth : Nat) → Reader Value
  | 0 => readWith (fun _ => throw .tooDeep) (fun _ => throw .tooDeep)
  | depth + 1 =>
    let item := readValue limits depth
    readWith (readArray limits item) (readMap limits item)

def maxDepth : Nat := 1024

/-- Reads a whole document. -/
def decode (document : List UInt8) : Except ReadError Value := do
  let (v, rest) ← readValue (.ofSize document.length) maxDepth document
  if rest.isEmpty then return v else throw .extraData

end ClusterAgent.MessagePack
