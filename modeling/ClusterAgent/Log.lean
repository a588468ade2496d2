/-!
Log entries. An operation returns what it logged beside its result, in order.
-/
namespace ClusterAgent

inductive LogLevel
  | debug
  | info
  | warning
  | error
  deriving Repr, DecidableEq

def LogLevel.name : LogLevel → String
  | debug => "DEBUG"
  | info => "INFO"
  | warning => "WARNING"
  | error => "ERROR"

structure LogEntry where
  level : LogLevel
  message : String
  deriving Repr, DecidableEq

end ClusterAgent
