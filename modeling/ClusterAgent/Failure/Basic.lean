import ClusterAgent.Schema.Fault
import ClusterAgent.World

/-!
Failures as callers see them: a kind that can be told apart, a message to show, and for data that
break a schema what is wrong with them.
-/
namespace ClusterAgent

inductive FailureKind
  | invalidValue
  | outOfRange
  | wrongType
  /-- A value lacks a part that was asked for. -/
  | noSuchPart
  | missingKey
  | missingItem
  | exhausted
  | os (code : OsCode)
  | inputOutput
  | sameFile
  /-- A service refused a request. -/
  | rejected
  | unreachable
  | internal
  | noCoordinator
  | extraData
  | malformedData
  | nestedData
  | undecodable
  | unencodable
  | unwritable
  | malformedDocument
  | nestedDocument
  | invalidRecord
  deriving Repr, DecidableEq

structure Failure where
  kind : FailureKind
  message : String := ""
  faults : List Schema.Fault := []
  deriving Repr

/-- Errors that can be reported to a caller. -/
class Reportable (ε : Type) where
  failure : ε → Failure

instance : Reportable Failure := ⟨id⟩

/-- An action whose errors are reported. -/
def Action.reported {ε α : Type} [Reportable ε] (a : Action ε α) : Action Failure α :=
  a.mapFailure Reportable.failure

/-- A value or a reported error. -/
def Failure.ofExcept {ε α : Type} [Reportable ε] (r : Except ε α) : Except Failure α :=
  r.mapError Reportable.failure

/-- A checked value, or all faults in one failure. -/
def Failure.ofChecked {α : Type} (c : Schema.Checked α) : Except Failure α :=
  match c with
  | .ok a => .ok a
  | .error faults => .error { kind := .invalidRecord, faults }

end ClusterAgent
