import ClusterAgent.Binary64.Decimal
import ClusterAgent.MessagePack.Value
import ClusterAgent.Text.Quoted

/-!
How values are shown in messages.
-/
namespace ClusterAgent.MessagePack

def Scalar.literal : Scalar → String
  | nil => "None"
  | bool b => if b then "True" else "False"
  | int i => toString i
  | float bits => (Binary64.ofBits64 bits.toNat).toText
  | text s => Text.quoted s
  | bytes bs => Text.quotedBytes bs
  | ext code data => s!"ExtType(code={code}, data=" ++ Text.quotedBytes data ++ ")"
  | timestamp s n => s!"Timestamp(seconds={s}, nanoseconds={n})"

namespace Value

mutual

def literal : Value → String
  | scalar s => s.literal
  | array items => "[" ++ ", ".intercalate (literals items) ++ "]"
  | map entries => "\x7b" ++ ", ".intercalate (entryLiterals entries) ++ "\x7d"

def literals : List Value → List String
  | [] => []
  | v :: rest => literal v :: literals rest

def entryLiterals : List (Key × Value) → List String
  | [] => []
  | (k, v) :: rest => (k.toScalar.literal ++ ": " ++ literal v) :: entryLiterals rest

end

/-- A value inside a sentence: a text stands there as it is. -/
def phrase : Value → String
  | scalar (.text s) => s
  | v => v.literal

/-- What kind of value it is. -/
def kindName : Value → String
  | scalar .nil => "NoneType"
  | scalar (.bool _) => "bool"
  | scalar (.int _) => "int"
  | scalar (.float _) => "float"
  | scalar (.text _) => "str"
  | scalar (.bytes _) => "bytes"
  | scalar (.ext ..) => "ExtType"
  | scalar (.timestamp ..) => "Timestamp"
  | array _ => "list"
  | map _ => "dict"

end Value
end ClusterAgent.MessagePack
