import ClusterAgent.Binary64.Decimal
import ClusterAgent.Schema.Datum
import ClusterAgent.Text.Numeral

/-!
How data are shown in messages.
-/
namespace ClusterAgent.Datum

/-- The kind of a value. -/
def kind : Datum → String
  | null => "NoneType"
  | bool _ => "bool"
  | int _ => "int"
  | float _ => "float"
  | text _ => "str"
  | bytes _ => "bytes"
  | list _ => "list"
  | map _ => "dict"
  | other => "object"

mutual

def literal : Datum → String
  | null | other => "None"
  | bool b => if b then "True" else "False"
  | int i => toString i
  | float x => x.toText
  | text t => Text.quotedWide t
  | bytes bs => Text.quotedBytes bs
  | list items => "[" ++ ", ".intercalate (literals items) ++ "]"
  | map entries => "\x7b" ++ ", ".intercalate (entryLiterals entries) ++ "\x7d"

def literals : List Datum → List String
  | [] => []
  | v :: rest => literal v :: literals rest

def entryLiterals : List (WideText × Datum) → List String
  | [] => []
  | (k, v) :: rest => (Text.quotedWide k ++ ": " ++ literal v) :: entryLiterals rest

end

/-- A value inside a sentence: a text stands there as it is. -/
def phrase : Datum → WideText
  | text t => t
  | v => v.literal

/-- A value inside a sentence that has no place for surrogates: a text with some is quoted. -/
def shown (v : Datum) : String := (WideText.toString? v.phrase).getD v.literal

mutual

/-- Whether all integers in a value are short enough to be written. -/
def isWritable : Datum → Bool
  | int i => Text.isWritable i
  | list items => areWritable items
  | map entries => areEntriesWritable entries
  | _ => true

def areWritable : List Datum → Bool
  | [] => true
  | v :: rest => isWritable v && areWritable rest

def areEntriesWritable : List (WideText × Datum) → Bool
  | [] => true
  | (_, v) :: rest => isWritable v && areEntriesWritable rest

end

/-- A value inside a sentence, if it can be written. -/
def written (v : Datum) : Except Text.NumeralError String :=
  if v.isWritable then .ok v.shown else .error .unwritable

/-- A value as a report shows it; one that cannot be written is shown by its kind. -/
def reported (v : Datum) : String :=
  if v.isWritable then v.literal else s!"<unprintable {v.kind} object>"

mutual

/-- Whether bytes occur anywhere in a value. Such a value has no JSON form. -/
def holdsBytes : Datum → Bool
  | bytes _ => true
  | list items => anyHoldsBytes items
  | map entries => anyEntryHoldsBytes entries
  | _ => false

def anyHoldsBytes : List Datum → Bool
  | [] => false
  | v :: rest => holdsBytes v || anyHoldsBytes rest

def anyEntryHoldsBytes : List (WideText × Datum) → Bool
  | [] => false
  | (_, v) :: rest => holdsBytes v || anyEntryHoldsBytes rest

end

end ClusterAgent.Datum
