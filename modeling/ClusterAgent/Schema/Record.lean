import ClusterAgent.Json.Encoding
import ClusterAgent.Json.Printer
import ClusterAgent.Schema.Integer

/-!
Schemas of records. A schema is lenient: texts and bytes stand for each other, and so do the forms
of an integer. Of a repeated field the last value counts, but every entry of a map is checked.
-/
namespace ClusterAgent.Schema

variable {α β κ : Type}

def checkText : Datum → Checked WideText
  | .text t => pure t
  | .bytes bs =>
    match Utf8.decode? bs with
    | some s => pure (WideText.ofString s)
    | none => Checked.fault .notUtf8
  | _ => Checked.fault .notText

/-- A text without surrogates. -/
def checkString (v : Datum) : Checked String :=
  (checkText v).andThen fun t =>
    match WideText.toString? t with
    | some s => pure s
    | none => Checked.fault .notUtf8

def checkBytes : Datum → Checked (List UInt8)
  | .bytes bs => pure bs
  | .text t =>
    match Utf8.encodeWide? t with
    | some bs => pure bs
    | none => Checked.fault .notUtf8
  | _ => Checked.fault .notBytes

/-- A value of a fixed list, by its name. -/
def checkNamed (named : List (String × α)) (v : Datum) : Checked α :=
  let name := match v with
    | .text t => WideText.toString? t
    | .bytes bs => Utf8.decode? bs
    | _ => none
  match name.bind fun n => named.lookup n with
  | some x => pure x
  | none => Checked.fault .notListed

/-- One text and nothing else. -/
def checkLiteral (s : String) : Datum → Checked Unit
  | .text t => if t = WideText.ofString s then pure () else Checked.fault .notLiteral
  | _ => Checked.fault .notLiteral

def checkNullable (check : Datum → Checked α) : Datum → Checked (Option α)
  | .null => pure none
  | v => some <$> check v

def checkItems (check : Datum → Checked α) (i : Nat) : List Datum → Checked (List α)
  | [] => pure []
  | v :: rest => List.cons <$> (check v).within (.index i) <*> checkItems check (i + 1) rest

/-- A list; `kind` says what is wrong with any other value. -/
def checkList (kind : FaultKind) (check : Datum → Checked α) : Datum → Checked (List α)
  | .list items => checkItems check 0 items
  | _ => Checked.fault kind

/-- The step that marks a fault of a key, after the key itself. -/
def keyStep : Step := .key "[key]"

def checkEntries (key : Datum → Checked κ) (value : Datum → Checked α) :
    List (WideText × Datum) → Checked (List (κ × α))
  | [] => pure []
  | (k, v) :: rest =>
    let entry := Prod.mk <$> ((key (.text k)).within keyStep).within (.key k) <*>
      (value v).within (.key k)
    List.cons <$> entry <*> checkEntries key value rest

/-- A map. The last value of a key counts, at the place of the first. -/
def checkTable [BEq κ] (key : Datum → Checked κ) (value : Datum → Checked α) :
    Datum → Checked (Table κ α)
  | .map entries => Table.ofPairs <$> checkEntries key value entries
  | _ => Checked.fault .notMap

/-- A field, or `absent` when the record lacks it. -/
def field (entries : List (WideText × Datum)) (name : String) (absent : Checked α)
    (check : Datum → Checked α) : Checked α :=
  match Datum.entry? entries name with
  | none => absent
  | some v => (check v).within (.key name)

def required (entries : List (WideText × Datum)) (name : String) (check : Datum → Checked α) :
    Checked α :=
  field entries name ((Checked.fault .missing : Checked α).within (.key name)) check

def optional (entries : List (WideText × Datum)) (name : String) (default : α)
    (check : Datum → Checked α) : Checked α :=
  field entries name (pure default) check

/-- Refuses fields that are not known. -/
def noOtherFields (entries : List (WideText × Datum)) (known : List String) : Checked Unit :=
  let extra := (entries.map (·.1)).filter fun k => !(known.map WideText.ofString).contains k
  if extra.isEmpty then pure () else .error (extra.map fun k => ⟨[.key k], .extraField⟩)

/-- Records with a schema. -/
class Record (α : Type) where
  name : String
  /-- Whether the fields of a record stay as they were made. -/
  frozen : Bool
  check : Datum → Checked α
  /-- The fields in the order of the record. -/
  fields : α → List (String × Datum)

/-- Checks the entries of a record. -/
def checkRecord (check : List (WideText × Datum) → Checked α) : Datum → Checked α
  | .map entries => check entries
  | _ => Checked.fault .notRecord

/-- Reads a record from a JSON message. -/
def parse [Record α] (message : List UInt8) : Checked α :=
  match Json.readStrict message with
  | .ok v => Record.check (.ofJson v)
  | .error _ => Checked.fault .malformedJson

def toDatum [Record α] (a : α) : Datum := .record (Record.fields a)

def toJson [Record α] (a : α) : Json := (toDatum a).toJson

/-- The JSON message of a record. -/
def encode [Record α] (a : α) : WideText := Json.print .compact (toJson a)

/-- Why a field of a record is not replaced. -/
inductive AssignError
  | frozen (field : WideText)
  | noSuchField (record : String) (field : WideText)
  deriving Repr, DecidableEq

def AssignError.message : AssignError → WideText
  | frozen field => field
  | noSuchField record field =>
    WideText.ofString ("\"" ++ record ++ "\" object has no field \"") ++ field ++ [.char '"']

/-- Replaces one of the fields of a record, without a check. -/
def assignField (record : String) (fields : List (String × Datum)) (field : WideText)
    (value : Datum) : Except AssignError (List (String × Datum)) :=
  if fields.any fun p => WideText.ofString p.1 == field then
    .ok (fields.map fun p => if WideText.ofString p.1 == field then (p.1, value) else p)
  else .error (.noSuchField record field)

/-- Replaces a field, unless the record keeps its fields as they were made. -/
def assign [Record α] (a : α) (field : WideText) (value : Datum) :
    Except AssignError (List (String × Datum)) :=
  if Record.frozen α then .error (.frozen field)
  else assignField (Record.name α) (Record.fields a) field value

end ClusterAgent.Schema
