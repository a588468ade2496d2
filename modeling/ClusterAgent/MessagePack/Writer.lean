import ClusterAgent.MessagePack.Value
import ClusterAgent.Text.Utf8

/-!
Writing MessagePack in the smallest forms. What is too long for a header of 32 bits, or too large
for 64 bits, cannot be written.
-/
namespace ClusterAgent.MessagePack

/-- The last `width` bytes of a number, the most significant first. -/
def wordBytes : Nat → Nat → List UInt8
  | 0, _ => []
  | width + 1, n => wordBytes width (n / 0x100) ++ [(n % 0x100).toUInt8]

/-- A tag before a word. -/
def tagged (tag : UInt8) (width n : Nat) : List UInt8 := tag :: wordBytes width n

/-- The last 64 bits of an integer, which count down from the top for a negative one. -/
def lastWord (i : Int) : Nat := (i % 0x10000000000000000).toNat

def integerBytes? (i : Int) : Option (List UInt8) :=
  let n := lastWord i
  if 0 ≤ i then
    if i < 0x80 then some [n.toUInt8]
    else if i < 0x100 then some (tagged 0xCC 1 n)
    else if i < 0x10000 then some (tagged 0xCD 2 n)
    else if i < 0x100000000 then some (tagged 0xCE 4 n)
    else if i < 0x10000000000000000 then some (tagged 0xCF 8 n)
    else none
  else if -0x20 ≤ i then some [n.toUInt8]
  else if -0x80 ≤ i then some (tagged 0xD0 1 n)
  else if -0x8000 ≤ i then some (tagged 0xD1 2 n)
  else if -0x80000000 ≤ i then some (tagged 0xD2 4 n)
  else if -0x8000000000000000 ≤ i then some (tagged 0xD3 8 n)
  else none

def textHeader? (n : Nat) : Option (List UInt8) :=
  if n < 0x20 then some [(0xA0 + n).toUInt8]
  else if n < 0x100 then some (tagged 0xD9 1 n)
  else if n < 0x10000 then some (tagged 0xDA 2 n)
  else if n < 0x100000000 then some (tagged 0xDB 4 n)
  else none

def bytesHeader? (n : Nat) : Option (List UInt8) :=
  if n < 0x100 then some (tagged 0xC4 1 n)
  else if n < 0x10000 then some (tagged 0xC5 2 n)
  else if n < 0x100000000 then some (tagged 0xC6 4 n)
  else none

def arrayHeader? (n : Nat) : Option (List UInt8) :=
  if n < 0x10 then some [(0x90 + n).toUInt8]
  else if n < 0x10000 then some (tagged 0xDC 2 n)
  else if n < 0x100000000 then some (tagged 0xDD 4 n)
  else none

def mapHeader? (n : Nat) : Option (List UInt8) :=
  if n < 0x10 then some [(0x80 + n).toUInt8]
  else if n < 0x10000 then some (tagged 0xDE 2 n)
  else if n < 0x100000000 then some (tagged 0xDF 4 n)
  else none

/-- The header of an extension, with its type. -/
def extensionHeader? (type n : Nat) : Option (List UInt8) :=
  if n = 1 then some (tagged 0xD4 1 type)
  else if n = 2 then some (tagged 0xD5 1 type)
  else if n = 4 then some (tagged 0xD6 1 type)
  else if n = 8 then some (tagged 0xD7 1 type)
  else if n = 16 then some (tagged 0xD8 1 type)
  else if n < 0x100 then some (tagged 0xC7 1 n ++ wordBytes 1 type)
  else if n < 0x10000 then some (tagged 0xC8 2 n ++ wordBytes 1 type)
  else if n < 0x100000000 then some (tagged 0xC9 4 n ++ wordBytes 1 type)
  else none

/-- A time in the shortest of its three forms. -/
def timestampData (seconds : Int) (nanoseconds : Nat) : List UInt8 :=
  if 0 ≤ seconds && seconds < 0x400000000 then
    if nanoseconds = 0 && seconds < 0x100000000 then wordBytes 4 seconds.toNat
    else wordBytes 8 (nanoseconds * 0x400000000 + seconds.toNat)
  else wordBytes 4 nanoseconds ++ wordBytes 8 (lastWord seconds)

/-- A header before its content. -/
def withHeader (header : Nat → Option (List UInt8)) (content : List UInt8) : Option (List UInt8) :=
  (header content.length).map (· ++ content)

def Scalar.encode? : Scalar → Option (List UInt8)
  | nil => some [0xC0]
  | bool b => some [if b then 0xC3 else 0xC2]
  | int i => integerBytes? i
  | float bits => some (tagged 0xCB 8 bits.toNat)
  | text s => withHeader textHeader? (Utf8.encode s)
  | bytes bs => withHeader bytesHeader? bs
  | ext code data => withHeader (extensionHeader? code.val) data
  | timestamp s n =>
    if -0x8000000000000000 ≤ s && s < 0x8000000000000000 then
      withHeader (extensionHeader? 0xFF) (timestampData s n.val)
    else none

namespace Value

mutual

def encode? : Value → Option (List UInt8)
  | scalar s => s.encode?
  | array items => do return (← arrayHeader? items.length) ++ (← encodeItems? items)
  | map entries => do return (← mapHeader? entries.length) ++ (← encodeEntries? entries)

def encodeItems? : List Value → Option (List UInt8)
  | [] => some []
  | v :: rest => do return (← encode? v) ++ (← encodeItems? rest)

def encodeEntries? : List (Key × Value) → Option (List UInt8)
  | [] => some []
  | (k, v) :: rest => do
    return (← k.toScalar.encode?) ++ (← encode? v) ++ (← encodeEntries? rest)

end

end Value
end ClusterAgent.MessagePack
