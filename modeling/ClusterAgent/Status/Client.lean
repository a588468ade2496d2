import ClusterAgent.Status.Reply
import ClusterAgent.Storage.Error
import ClusterAgent.World

/-!
A client of a coordinator. It opens one channel when it connects, and every query is a call of its
own with the client's timeout.
-/
namespace ClusterAgent

inductive ConnectError
  | noHost
  | unavailable (address : CoordinatorAddress)
  deriving Repr, DecidableEq

def ConnectError.message : ConnectError → String
  | noHost => "Coordinator host is not configured"
  | unavailable a => s!"Could not find coordinator at specified address {a.url}."

/-- Why a query has no outcome. -/
inductive QueryError
  | nesting (e : NestingError)
  /-- The coordinator cannot write its answer. -/
  | encoding (e : EncodingError)
  | service (f : ServiceFault)
  deriving Repr, DecidableEq

def QueryError.message : QueryError → String
  | nesting e => e.message
  | encoding e => e.message
  | service f => f.message

structure StatusClient where
  address : CoordinatorAddress
  /-- Seconds. -/
  timeout : Number
  deriving Repr, DecidableEq

namespace StatusClient

def defaultTimeout : Number := .binary (.ofInt 100)

/-- The most bytes that a message may have. -/
def maxMessageSize : Nat := 64 * 1024 * 1024

/-- Connects to a coordinator. A channel that does not become ready is closed again. -/
def connect (host : Option String) (port : Int) (timeout : Number) :
    Action ConnectError StatusClient := do
  let address : CoordinatorAddress := ⟨host.getD "", port⟩
  if address.host = "" then throw .noHost
  Action.note (.channelOpened address.target)
  if !(← get).channelReady then
    Action.note .channelClosed
    throw (.unavailable address)
  Action.logInfo s!"Resolved coordinator at {address.url}"
  return ⟨address, timeout⟩

def close {ε : Type} : Action ε Unit := Action.note .channelClosed

/-- How often a channel was closed. -/
def closings (journal : List Event) : Nat :=
  (journal.filter fun
    | .channelClosed => true
    | _ => false).length

def request : WideText := Schema.encode JobsRequest.mk

/-- Asks for the running jobs. A fault keeps the request from the coordinator. -/
def call (c : StatusClient) : Action QueryError (Except RpcFault (List UInt8)) := do
  Action.note (.methodCalled runningJobsMethod request c.timeout)
  match (← get).channelFault with
  | some fault => return .error fault
  | none =>
    modify fun w => { w with coordinator := w.coordinator.countRequest }
    match (← get).coordinator.answer with
    | .ok reply => return .ok reply
    | .error e => throw (.encoding e)

def faultOutcome (c : StatusClient) (fault : RpcFault) : Outcome :=
  if fault.code = .deadlineExceeded then
    .timeout (WideText.ofString ("Could not retrieve the running jobs from the coordinator: " ++
      s!"no response within {c.timeout.text} seconds."))
  else
    .unreachable (WideText.ofString ("Could not retrieve the running jobs from the coordinator " ++
      s!"at {c.address.url}: {fault.code.name} {fault.details}"))

def logFault (c : StatusClient) (fault : RpcFault) : Action QueryError Unit :=
  if fault.code = .deadlineExceeded then
    Action.logWarning s!"Coordinator at {c.address.url} did not answer within {c.timeout.text}s"
  else
    Action.logEntry .error
      s!"Coordinator at {c.address.url} unreachable: {fault.code.name} {fault.details}"

/-- What comes of asking for the running jobs. -/
def query (c : StatusClient) : Action QueryError Outcome := do
  match ← c.call with
  | .error fault =>
    c.logFault fault
    return c.faultOutcome fault
  | .ok reply =>
    match Outcome.ofReply (← get).jsonDepth reply with
    | .ok outcome => return outcome
    | .error e => throw (.nesting e)

/-- Queries once and closes the channel, also when the query goes wrong. -/
def queryAndClose (c : StatusClient) : Action QueryError Outcome := fun w =>
  let (r, w) := c.query.run w
  ((close (ε := QueryError)).run w).2 |> fun w => (r, w)

end StatusClient
end ClusterAgent
