import ClusterAgent.Environment
import ClusterAgent.Json.Value
import ClusterAgent.Text.Case
import ClusterAgent.Text.Quoted

/-!
What is logged, and the document that a server's loggers are configured with.
-/
namespace ClusterAgent

structure LogSettings where
  /-- The name of the level in capitals. -/
  level : String
  /-- Entries below it are not logged. -/
  threshold : Nat
  deriving Repr, DecidableEq

/-- A level that is not known. -/
structure LevelError where
  name : String
  deriving Repr, DecidableEq

def LevelError.message (e : LevelError) : String := "Unknown level: " ++ Text.quoted e.name

namespace LogSettings

def defaultLevel : String := "INFO"

/-- A line of a log. -/
def format : String := "[%(asctime)s] [%(levelname)s] [%(name)s] [%(threadName)s] %(message)s"

/-- The levels by name. A level that is left open takes that of warnings. -/
def thresholds : List (String × Nat) :=
  [("CRITICAL", 50), ("FATAL", 50), ("ERROR", 40), ("WARN", 30), ("WARNING", 30), ("INFO", 20),
    ("DEBUG", 10), ("NOTSET", 30)]

def ofEnvironment (env : Environment) : Except LevelError LogSettings :=
  let level := Text.upper ((Table.get? env "FLOE_LOG_LEVEL").getD defaultLevel)
  match thresholds.lookup level with
  | some threshold => .ok { level, threshold }
  | none => .error ⟨level⟩

/-- The loggers that write to a server's output. -/
def loggers : List String := ["uvicorn", "uvicorn.error", "uvicorn.access", "floe"]

/-- The configuration of a server's loggers, which log from one level and write their lines with one
formatter. -/
def serverConfiguration (formatter level : String) : Json :=
  let handlers : String × Json := ("handlers", .arr [.text "default"])
  let logger : Json := .ofFields [handlers, ("level", .text level), ("propagate", .bool false)]
  .ofFields [
    ("version", .int 1),
    ("disable_existing_loggers", .bool false),
    ("formatters", .ofFields [("custom", .ofFields [
      ("()", .text formatter), ("fmt", .text format), ("color", .bool false)])]),
    ("handlers", .ofFields [("default", .ofFields [
      ("class", .text "logging.StreamHandler"), ("formatter", .text "custom"),
      ("stream", .text "ext://sys.stdout")])]),
    ("loggers", .ofFields (loggers.map fun name => (name, logger))),
    ("root", .ofFields [handlers, ("level", .text level)])]

end LogSettings
end ClusterAgent
