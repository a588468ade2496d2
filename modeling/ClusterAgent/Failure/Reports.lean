import ClusterAgent.Container.Backend
import ClusterAgent.Coordinator.Jobs
import ClusterAgent.Failure.Basic
import ClusterAgent.Launch.Assembly
import ClusterAgent.Launch.Start
import ClusterAgent.Log.Formatter
import ClusterAgent.Settings
import ClusterAgent.Status.Handler

/-!
How every error is reported.
-/
namespace ClusterAgent

open FailureKind

def Text.NumeralError.failure (e : Text.NumeralError) : Failure := ⟨invalidValue, e.message, []⟩

instance : Reportable Text.NumeralError := ⟨Text.NumeralError.failure⟩

instance : Reportable DurationError := ⟨fun e => ⟨invalidValue, e.message, []⟩⟩

instance : Reportable StatusSettingsError := ⟨fun e => ⟨invalidValue, e.message, []⟩⟩

instance : Reportable LevelError := ⟨fun e => ⟨invalidValue, e.message, []⟩⟩

instance : Reportable UriError := ⟨fun e => ⟨invalidValue, e.message, []⟩⟩

def Binary64.NotFinite.kind : Binary64.NotFinite → FailureKind
  | infinite => outOfRange
  | undefined => invalidValue

instance : Reportable HeapError where
  failure e := ⟨match e with
    | .budgetTooLarge => outOfRange
    | .product e => e.kind, e.message, []⟩

def ServiceFault.kind : ServiceFault → FailureKind
  | rejected .. => .rejected
  | unreachable _ => .unreachable
  | internal _ => .internal
  | missingField _ => missingKey
  | invalid _ => invalidValue
  | io _ => inputOutput

instance : Reportable ServiceFault := ⟨fun f => ⟨f.kind, f.message, []⟩⟩

def StorageError.kind : StorageError → FailureKind
  | os e => .os e.code
  | sameFile .. => .sameFile
  | service f => f.kind
  | noHome => internal
  | nullByte | notLocal _ | notObject _ | uri _ | unsupportedScheme .. => invalidValue

instance : Reportable StorageError := ⟨fun e => ⟨e.kind, e.message, []⟩⟩

def MessagePack.ReadError.kind : MessagePack.ReadError → FailureKind
  | extraData => .extraData
  | malformed => malformedData
  | tooDeep => nestedData
  | notUtf8 => undecodable
  | _ => invalidValue

def TokenFile.Error.failure (e : TokenFile.Error) : Failure :=
  match e with
  | document e => ⟨e.kind, e.message, []⟩
  | notIterable | notFields | unusableAlias => ⟨wrongType, e.message, []⟩
  | invalidToken faults => ⟨invalidRecord, e.message, faults⟩
  | _ => ⟨invalidValue, e.message, []⟩

instance : Reportable TokenFile.Error := ⟨TokenFile.Error.failure⟩

def CredentialError.failure (e : CredentialError) : Failure :=
  match e with
  | uri _ | tooLarge => ⟨invalidValue, e.message, []⟩
  | service f => ⟨f.kind, e.message, []⟩
  | notJson => ⟨wrongType, e.message, []⟩
  | notUnicode => ⟨unencodable, e.message, []⟩
  | storage e => ⟨e.kind, e.message, []⟩
  | missingFile _ => ⟨.os .noEntry, e.message, []⟩
  | document e => e.failure

instance : Reportable CredentialError := ⟨CredentialError.failure⟩

def AssemblyError.failure (e : AssemblyError) : Failure :=
  match e with
  | heap e => Reportable.failure e
  | numeral e => e.failure
  | storage e => Reportable.failure e
  | credentials e => e.failure
  | invalid faults _ => ⟨invalidRecord, e.message, faults⟩

instance : Reportable AssemblyError := ⟨AssemblyError.failure⟩

def ContainerError.kind : ContainerError → FailureKind
  | service f => f.kind
  | noIdentifier _ => noSuchPart
  | emptyList | emptyTuple => missingItem
  | exhausted => .exhausted
  | unknownReply => internal
  | notNumber => wrongType
  | notFinite e => e.kind
  | numeral _ | bytesNumeral _ => invalidValue

instance : Reportable ContainerError := ⟨fun e => ⟨e.kind, e.message, []⟩⟩

def LaunchError.kind : LaunchError → FailureKind
  | storage e => e.kind
  | parameters _ | numeral _ => invalidValue
  | container e => e.kind
  | noContainer => internal

instance : Reportable LaunchError := ⟨fun e => ⟨e.kind, e.message, []⟩⟩

def BackendError.kind : BackendError → FailureKind
  | service f => f.kind
  | _ => internal

instance : Reportable BackendError := ⟨fun e => ⟨e.kind, e.message, []⟩⟩

instance : Reportable ConnectError where
  failure e := ⟨match e with
    | .noHost => invalidValue
    | .unavailable _ => noCoordinator, e.message, []⟩

instance : Reportable NestingError := ⟨fun e => ⟨nestedDocument, e.message, []⟩⟩

instance : Reportable EncodingError := ⟨fun e => ⟨unwritable, e.message, []⟩⟩

def QueryError.kind : QueryError → FailureKind
  | nesting _ => nestedDocument
  | encoding _ => unwritable
  | service f => f.kind

instance : Reportable QueryError := ⟨fun e => ⟨e.kind, e.message, []⟩⟩

instance : Reportable SurrogateError where
  failure e := ⟨unencodable, Utf8.surrogateMessage e.text, []⟩

instance : Reportable Schema.AssignError where
  failure
    | .frozen field => { kind := invalidRecord, faults := [⟨[.key field], .frozenField⟩] }
    | e => { kind := invalidValue, message := (Datum.text e.message).shown }

def JsonError.kind : JsonError → FailureKind
  | malformed => malformedDocument
  | tooManyDigits _ => invalidValue
  | tooDeep _ => nestedDocument

def JobsError.failure (e : JobsError) : Failure :=
  match e with
  | storage e => Reportable.failure e
  | notUtf8 => ⟨undecodable, e.message, []⟩
  | document d => ⟨d.kind, e.message, []⟩
  | notJobs => ⟨wrongType, e.message, []⟩
  | invalid faults => ⟨invalidRecord, e.message, faults⟩
  | noTime t => ⟨t.kind, e.message, []⟩

instance : Reportable JobsError := ⟨JobsError.failure⟩

def Template.Error.kind : Template.Error → FailureKind
  | incomplete | incompleteName | unknownForm .. | wideWidth | widePrecision | numeral _ =>
    invalidValue
  | noSuchValue _ => missingKey
  | notFinite e => e.kind
  | tooLarge | noSuchCharacter | extentTooLarge _ => outOfRange
  | noNames | tooFewValues | tooManyValues | extentNotInteger | notNumber | notCharacter =>
      wrongType

def FormatError.kind : FormatError → FailureKind
  | invalidFormat _ | line (.noSuchValue _) => invalidValue
  | levelNotText => noSuchPart
  | message e | line e => e.kind
  | noTime e => e.kind

instance : Reportable FormatError := ⟨fun e => ⟨e.kind, e.text, []⟩⟩

end ClusterAgent
