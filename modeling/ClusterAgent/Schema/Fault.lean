import ClusterAgent.Schema.Datum
import ClusterAgent.Text.Numeral

/-!
What a schema finds wrong with data. A check reports every fault, each with the path that leads to
it.
-/
namespace ClusterAgent.Schema

/-- A step from a value into one of its parts. -/
inductive Step
  | key (name : WideText)
  | index (i : Nat)
  deriving Repr, DecidableEq

inductive FaultKind
  | missing
  /-- A field that the record does not have. -/
  | extraField
  /-- A field that stays as it was made. -/
  | frozenField
  | notText
  /-- Bytes that are no text in UTF-8. -/
  | notUtf8
  | notBytes
  | notInteger
  /-- A text that is not written as an integer. -/
  | integerText
  | integerTooLong
  /-- A number with a fraction. -/
  | fraction
  | notFinite
  /-- A value outside a fixed list. -/
  | notListed
  | notLiteral
  | notList
  | notTuple
  | notMap
  | notRecord
  /-- A value without the field that selects the variant. -/
  | notVariant
  | noTag
  | unknownTag
  | malformedJson
  | heapExceedsBudget (heap budget : Int)
  deriving Repr, DecidableEq

/-- What a rule across the fields of a record says about a value that breaks it. -/
def FaultKind.explanation? : FaultKind → Option String
  | heapExceedsBudget heap budget =>
    some ("Value error, " ++ if Text.isWritable heap && Text.isWritable budget
      then s!"heap limit {heap}MB exceeds memory budget {budget}MB"
      else Text.NumeralError.unwritable.message)
  | _ => none

structure Fault where
  path : List Step
  kind : FaultKind
  deriving Repr, DecidableEq

/-- A checked value, or all the faults that were found. -/
def Checked (α : Type) : Type := Except (List Fault) α

namespace Checked

variable {α β : Type}

/-- Faults of both sides are kept, those of the function first. -/
def apply (f : Checked (α → β)) (a : Checked α) : Checked β :=
  match f, a with
  | .ok g, .ok x => .ok (g x)
  | .ok _, .error e => .error e
  | .error e, .ok _ => .error e
  | .error e, .error e' => .error (e ++ e')

instance : Applicative Checked where
  pure x := .ok x
  seq f a := apply f (a ())

/-- A value with the one fault that it is of the wrong kind. -/
def fault (kind : FaultKind) : Checked α := .error [⟨[], kind⟩]

/-- The faults of a part, seen from the whole. -/
def within (step : Step) (c : Checked α) : Checked α :=
  match c with
  | .ok x => .ok x
  | .error faults => .error (faults.map fun f => { f with path := step :: f.path })

/-- A check that goes on only after the first one has passed. -/
def andThen (c : Checked α) (f : α → Checked β) : Checked β :=
  match c with
  | .ok x => f x
  | .error faults => .error faults

end Checked
end ClusterAgent.Schema
