import ClusterAgent.Container.Service
import ClusterAgent.Schema.Literal
import ClusterAgent.Storage.Error
import ClusterAgent.Text.Numeral
import ClusterAgent.World

/-!
Clients of container services. The two runtimes have the same calls, but differ in what they give
for a container that they have started.
-/
namespace ClusterAgent

inductive ContainerRuntime
  | docker
  | podman
  deriving Repr, DecidableEq

def ContainerRuntime.name : ContainerRuntime → String
  | docker => "docker"
  | podman => "podman"

inductive ContainerError
  | service (f : ServiceFault)
  /-- A reply of some kind has no identifier. -/
  | noIdentifier (kind : String)
  | emptyList
  | emptyTuple
  | exhausted
  | unknownReply
  /-- An exit status of a kind that stands for no number. -/
  | notNumber
  | numeral (e : Text.NumeralError)
  | bytesNumeral (bytes : List UInt8)
  | notFinite (e : Binary64.NotFinite)
  deriving Repr

def ContainerError.message : ContainerError → String
  | service f => f.message
  | noIdentifier kind => s!"'{kind}' object has no attribute 'id'"
  | emptyList => "list index out of range"
  | emptyTuple => "tuple index out of range"
  | exhausted => ""
  | unknownReply => "Unknown container return type from Podman run"
  | notNumber => "exit status is no number"
  | numeral e => e.message
  | bytesNumeral bs => "invalid literal for int() with base 10: " ++ Text.quotedBytes bs
  | notFinite e => e.message

namespace RunReply

/-- What kind of reply it is. -/
def kind : RunReply → String
  | container _ => "object"
  | list _ => "list"
  | tuple _ => "tuple"
  | stream _ => "list_iterator"
  | value v => v.kind

/-- The identifier of a reply that is a container. -/
def containerId : RunReply → Except ContainerError Datum
  | container id => .ok id
  | reply => .error (.noIdentifier reply.kind)

/-- The identifier that an item of a stream stands for: its own, or the item. -/
def itemId : RunReply → Datum
  | container id => id
  | value v => v
  | _ => .other

def firstOfStream : List RunReply → Except ContainerError Datum
  | [] => .error .exhausted
  | item :: _ => .ok item.itemId

def firstOfList (empty : ContainerError) : List RunReply → Except ContainerError Datum
  | [] => .error empty
  | item :: _ => item.containerId

/-- The items that a plain value is made of, when it is made of any. -/
def streamOf? : Datum → Option (List RunReply)
  | .text t => some (t.map fun p => value (.text [p]))
  | .bytes bs => some (bs.map fun b => value (.int b.toNat))
  | .map entries => some (entries.map fun e => value (.text e.1))
  | _ => none

/-- The identifier in a reply that may be a container, a list of containers, or a stream of
containers or identifiers. -/
def anyId : RunReply → Except ContainerError Datum
  | container id => .ok id
  | list items => firstOfList .emptyList items
  | tuple items => firstOfList .emptyTuple items
  | stream items => firstOfStream items
  | value (.list items) => firstOfList .emptyList (items.map value)
  | value v =>
    match streamOf? v with
    | some items => firstOfStream items
    | none => .error .unknownReply

end RunReply

/-- A client of a container service. -/
structure ContainerClient where
  runtime : ContainerRuntime
  service : ContainerService

namespace ContainerClient

def replyId : ContainerRuntime → RunReply → Except ContainerError Datum
  | .docker => RunReply.containerId
  | .podman => RunReply.anyId

/-- The parameter names of a request, in order, as a list of quoted texts. -/
def parameterNames (r : RunRequest) : String :=
  let sorted := (r.parameters.map (·.1)).mergeSort WideText.precedes
  "[" ++ ", ".intercalate (sorted.map Text.quotedWide) ++ "]"

/-- Starts a container, and gives its identifier. -/
def start (c : ContainerClient) (r : RunRequest) : Action ContainerError Datum := do
  Action.logDebug s!"{c.runtime.name} run {r.image} as {r.name}: {parameterNames r}"
  Action.note (.containerCalled (.run r))
  match c.service.run with
  | .error f => throw (.service f)
  | .ok reply => liftM (replyId c.runtime reply)

/-- The output of a container, with U+FFFD for what is not UTF-8. -/
def logs (c : ContainerClient) (id : Datum) : Action ContainerError String := do
  Action.note (.containerCalled (.get id))
  return String.ofList (Utf8.decodeReplacing c.service.logs.flatten)

/-- The number that an exit status stands for. -/
def exitNumber : Datum → Except ContainerError Int
  | .bool b => .ok b.toNat
  | .int i => .ok i
  | .float x => x.truncate.mapError .notFinite
  | .text t =>
    (Text.readInteger (String.ofList (t.map fun p => p.toChar?.getD '\uFFFD'))).mapError .numeral
  | .bytes bs =>
    match Text.readInteger (String.ofList (bs.map fun b => Char.ofNat b.toNat)) with
    | .ok i => if bs.all (· < 0x80) then .ok i else .error (.bytesNumeral bs)
    | .error (.notInteger _) => .error (.bytesNumeral bs)
    | .error e => .error (.numeral e)
  | _ => .error .notNumber

/-- The exit code of a container: the field of a reply that has fields, 1 when it lacks that field,
and otherwise the number that the reply stands for. -/
def exitCode : Datum → Except ContainerError Datum
  | .map entries => .ok ((Datum.entry? entries "StatusCode").getD (.int 1))
  | v => (exitNumber v).map .int

/-- Waits until a container has exited. -/
def wait (c : ContainerClient) (id : Datum) : Action ContainerError Datum := do
  Action.note (.containerCalled (.get id))
  liftM (exitCode c.service.exit)

end ContainerClient
end ClusterAgent
