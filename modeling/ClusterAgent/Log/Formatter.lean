import ClusterAgent.CivilTime
import ClusterAgent.Log.Settings
import ClusterAgent.Log.Template
import ClusterAgent.Text.Blank

/-!
Lines of a log. The level, the logger and the thread of a record are painted in colors of a
terminal, unless color is turned off; the record itself is not changed.
-/
namespace ClusterAgent

/-- What is known of an entry, by name. -/
abbrev LogRecord := Table String Datum

namespace LogRecord

def level (r : LogRecord) : Datum := (Table.get? r "levelname").getD (.string "Level None")

def name (r : LogRecord) : Datum := (Table.get? r "name").getD .null

/-- The thread that writes the log. -/
def mainThread : String := "MainThread"

def thread (r : LogRecord) : Datum := (Table.get? r "threadName").getD (.string mainThread)

/-- What a record holds when nothing is said. -/
def defaults : LogRecord :=
  [("levelno", .null), ("pathname", .string ""), ("filename", .string ""), ("module", .string ""),
    ("lineno", .int 0), ("funcName", .null), ("processName", .string "MainProcess"),
    ("args", .string "()"), ("exc_info", .null), ("exc_text", .null), ("stack_info", .null)]

/-- A record's arguments for its message: several in a list, some with names, or a single one. -/
def arguments (r : LogRecord) : Option Template.Values :=
  match (Table.get? r "args").filter fun v => !v.isBlank with
  | none => none
  | some (.list items) => some { listed := items }
  | some (.map entries) =>
    let fields := entries.filterMap fun p => (WideText.toString? p.1).map (·, p.2)
    some { named := some (Table.ofPairs fields), listed := [.map entries] }
  | some v => some { listed := [v] }

/-- Several values as they are shown together. -/
def tupleText (items : List Datum) : String :=
  match items with
  | [v] => "(" ++ v.literal ++ ",)"
  | items => "(" ++ ", ".intercalate (items.map Datum.literal) ++ ")"

/-- What is shown for a list of arguments. -/
def shownArguments (r : LogRecord) : LogRecord :=
  match Table.get? r "args" with
  | some (.list items) => [("args", .string (tupleText items))]
  | _ => []

/-- The message of a record; only with arguments is it a template. -/
def message (r : LogRecord) : Except Template.Error String := do
  let text ← (((Table.get? r "msg").getD (.string "")).written).mapError .numeral
  match r.arguments with
  | none => return text
  | some values => Template.fill text values

end LogRecord

structure LogFormatter where
  /-- The template of a line; without one, a line is the message alone. -/
  format : Option String := none
  /-- How times are written, when not with milliseconds. -/
  timeFormat : Option String := none
  color : Bool := true
  deriving Repr

inductive FormatError
  /-- The format has no place for a value with a name. -/
  | invalidFormat (format : String)
  | levelNotText
  | message (e : Template.Error)
  | line (e : Template.Error)
  | noTime (e : Binary64.NotFinite)
  deriving Repr, DecidableEq

def FormatError.text : FormatError → String
  | invalidFormat s => "Invalid format '" ++ s ++ "' for '%' style"
  | levelNotText => ""
  | message e => e.message
  | line (.noSuchValue name) => "Formatting field not found in record: " ++ Text.quoted name
  | line e => e.message
  | noTime e => e.message

namespace LogFormatter

/-- Switches a terminal to a color or a style. -/
def style (code : Nat) : String := s!"\x1b[{code}m"

def levelColors : List (String × String) :=
  [("DEBUG", style 36), ("INFO", style 32), ("WARNING", style 33), ("ERROR", style 31),
    ("CRITICAL", style 41 ++ style 97)]

def nameColor : String := style 34

def threadColor : String := style 35

def isWordChar (c : Char) : Bool := c.isAlphanum || c == '_' || Text.isCased c || Text.isDigit c

/-- Whether a place with a name starts here. -/
def startsPlace (cs : List Char) : Bool :=
  match cs with
  | '%' :: '(' :: rest =>
    match rest.dropWhile isWordChar with
    | ')' :: tail =>
      let tail := (tail.dropWhile fun c => Template.isFlag c && c != '*')
      let skip (cs : List Char) : List Char :=
        match cs with
        | '*' :: r => r
        | cs => cs.dropWhile Text.isDigit
      let tail := skip tail
      let tail := match tail with
        | '.' :: r => if (skip r).length < r.length then skip r else tail
        | r => r
      (rest.head?.any isWordChar) && tail.head?.any "diouxefgcrsaDIOUXEFGCRSA%".toList.contains
    | _ => false
  | _ => false

/-- Whether a format has a place with a name. -/
def hasPlace : List Char → Bool
  | [] => false
  | c :: rest => startsPlace (c :: rest) || hasPlace rest

def template (f : LogFormatter) : String := (f.format.filter (· != "")).getD "%(message)s"

/-- A formatter has to show something of a record. -/
def isValid (f : LogFormatter) : Bool := hasPlace f.template.toList

def paint (f : LogFormatter) (text color : String) : String :=
  if f.color && color != "" then color ++ text ++ style 0 else text

/-- Fills a text up with spaces on the right. -/
def padRight (width : Nat) (s : String) : String := s.pushn ' ' (width - s.length)

/-- The level is trimmed, padded to seven characters and painted. -/
def paintLevel (f : LogFormatter) (level : String) : String :=
  let level := Text.trim level
  f.paint (padRight 7 level) ((levelColors.lookup level).getD "")

/-- A name is painted even when it is empty. -/
def paintName (f : LogFormatter) (name : Datum) : Datum :=
  if f.color then .string (f.paint name.shown nameColor) else name

/-- Whether a text occurs in another. -/
def occurs (part : List Char) : List Char → Bool
  | [] => part.isEmpty
  | c :: rest => part.isPrefixOf (c :: rest) || occurs part rest

def usesTime (f : LogFormatter) : Bool := occurs "%(asctime)".toList f.template.toList

/-- The time of a record: date and time of day with milliseconds, unless a form is given. -/
def timeText (f : LogFormatter) (r : LogRecord) : Except FormatError String := do
  let seconds ← match Table.get? r "created" with
    | some (.int i) => pure i
    | some (.float x) => (x.floor).mapError .noTime
    | _ => pure 0
  let time := CivilTime.ofSeconds seconds
  match f.timeFormat.filter (· != "") with
  | some pattern => return time.format pattern
  | none =>
    let milliseconds := (Table.get? r "msecs").getD (.int 0)
    let pattern := time.dateText ++ " " ++ time.clockText ++ ",%03d"
    (Template.fill pattern { listed := [milliseconds] }).mapError .message

/-- A further part of an entry, on lines of its own. -/
def appendPart (r : LogRecord) (line name : String) : String :=
  match Table.get? r name with
  | some v => if v.isBlank then line else
    (if line.endsWith "\n" then line else line ++ "\n") ++ v.shown
  | none => line

/-- The line of a record. -/
def formatRecord (f : LogFormatter) (r : LogRecord) : Except FormatError String := do
  if !f.isValid then throw (.invalidFormat f.template)
  let level ← match r.level with
    | .text t => pure ((WideText.toString? t).getD "")
    | _ => throw .levelNotText
  let message ← r.message.mapError .message
  let time ← if f.usesTime then do pure [("asctime", Datum.string (← f.timeText r))] else pure []
  let fields := LogRecord.defaults ++ r ++ r.shownArguments ++ time ++
    [("levelname", .string (f.paintLevel level)), ("name", f.paintName r.name),
      ("threadName", .string (f.paint LogRecord.mainThread threadColor)),
      ("message", .string message)]
  let values := Template.Values.ofTable (Table.ofPairs fields)
  let line ← (Template.fill f.template values).mapError .line
  return appendPart r (appendPart r line "exc_text") "stack_info"

end LogFormatter
end ClusterAgent
