import ClusterAgent.MessagePack.Reader
import ClusterAgent.MessagePack.Writer
import ClusterAgent.Token.Credentials

/-!
Token files: credentials as MessagePack documents. The writer has one form for each value; the
reader takes all of them.
-/
namespace ClusterAgent.TokenFile

open MessagePack

/-- The word that marks a token file. -/
def magic : String := "FLTS"

def version : Int := 1

/-- Why a document holds no credentials. -/
inductive Error
  | document (e : ReadError)
  | notTokenFile
  | unknownVersion (v : Value)
  /-- The tokens, or one of them, cannot be taken apart. -/
  | notIterable
  | tooFewParts (count : Nat)
  | tooManyParts
  /-- The fields of a token are no map with texts for keys. -/
  | notFields
  | invalidToken (faults : List Schema.Fault)
  /-- A list or a map for an alias. -/
  | unusableAlias
  deriving Repr

def tokenValue (t : Token) : Value :=
  .map [(.text "identifier", .text t.identifier), (.text "password", .scalar (.bytes t.password)),
    (.text "kind", .text t.kind), (.text "service", .text t.service)]

/-- The document of credentials. -/
def document (c : Credentials) : Value :=
  .map [(.text "magic", .text magic), (.text "version", .scalar (.int version)),
    (.text "tokens", .array (c.map fun p => .array [.scalar p.1.value, tokenValue p.2]))]

/-- The bytes of credentials; none when a text, a password or the list of tokens has no header. -/
def write? (c : Credentials) : Option (List UInt8) := (document c).encode?

/-- A field of a token: texts and bytes are taken as they are, and nothing else fits. -/
def fieldDatum : Value → Datum
  | .scalar (.text s) => .string s
  | .scalar (.bytes bs) => .bytes bs
  | _ => .other

def fields? (entries : List (Key × Value)) : Option (List (WideText × Datum)) :=
  entries.mapM fun (k, v) => match k with
    | .text s => some (WideText.ofString s, fieldDatum v)
    | .bytes _ => none

def readToken : Value → Except Error Token
  | .map entries =>
    match fields? entries with
    | none => .error .notFields
    | some fields => (Token.check (.map fields)).mapError .invalidToken
  | _ => .error .notFields

/-- An entry has two parts: an alias, and the fields of a token. -/
def readEntry (v : Value) : Except Error (Alias × Token) :=
  match v.elements? with
  | none => .error .notIterable
  | some [a, fields] => do
    let token ← readToken fields
    match a with
    | .scalar s => return (⟨s⟩, token)
    | _ => throw .unusableAlias
  | some parts => .error (if parts.length < 2 then .tooFewParts parts.length else .tooManyParts)

def readEntries (c : Credentials) : List Value → Except Error Credentials
  | [] => .ok c
  | v :: rest => do
    let (a, t) ← readEntry v
    readEntries (c.add a t) rest

/-- Whether a value equals the version number. -/
def isVersion : Value → Bool
  | .scalar s => s.equals (.int version)
  | _ => false

def ofDocument : Value → Except Error Credentials
  | .map entries =>
    match Value.entry? entries "magic" with
    | some (.scalar (.text m)) =>
      if m ≠ magic then .error .notTokenFile
      else
        let v := (Value.entry? entries "version").getD (.scalar .nil)
        if !isVersion v then .error (.unknownVersion v)
        else match (Value.entry? entries "tokens").getD (.array []) |>.elements? with
          | none => .error .notIterable
          | some items => readEntries .empty items
    | _ => .error .notTokenFile
  | _ => .error .notTokenFile

def read (bytes : List UInt8) : Except Error Credentials :=
  match decode bytes with
  | .error e => .error (.document e)
  | .ok v => ofDocument v

/-- The message of an error; invalid tokens are described by their faults. -/
def Error.message : Error → String
  | document e => e.message
  | notTokenFile => "Not a token storage document"
  | unknownVersion v => "Unknown token storage version " ++ v.phrase
  | tooFewParts n => s!"not enough values to unpack (expected 2, got {n})"
  | tooManyParts => "too many values to unpack (expected 2)"
  | notIterable | notFields | invalidToken _ | unusableAlias => ""

end ClusterAgent.TokenFile
