import ClusterAgent.CommandLine.Option
import ClusterAgent.Text.Digit

/-!
Command lines whose long options may be abbreviated, and on which a word that looks like an option
is never a value. All words are classified before the first option takes effect.
-/
namespace ClusterAgent.CommandLine

/-- What a word is taken for. -/
inductive Word
  | value (text : String)
  /-- An option, with what stands after an equals sign or after a one-letter name. -/
  | option (spec : OptionSpec) (isLong : Bool) (attached : Option String)
  | unknown
  /-- The two dashes after which all words are values. -/
  | separator
  deriving Repr

/-- Whether a word is a negative number such as `-1`, `-.5` or `-2.75`. -/
def isNegativeNumber (word : List Char) : Bool :=
  match word with
  | '-' :: body =>
    let body := if body.getLast? = some '\n' then body.dropLast else body
    match body.dropWhile Text.isDigit with
    | [] => !body.isEmpty
    | '.' :: places => !places.isEmpty && places.all Text.isDigit
    | _ => false
  | _ => false

/-- A word before its first equals sign, and what follows it. -/
def splitEquals (word : String) : String × Option String :=
  let cs := word.toList
  let name := cs.takeWhile (· != '=')
  (String.ofList name,
    if name.length < cs.length then some (String.ofList (cs.drop (name.length + 1))) else none)

/-- The options that an abbreviation may stand for. -/
def abbreviated (options : List OptionSpec) (word : String) : List (OptionSpec × Option String) :=
  let startsWith (part : String) (spec : OptionSpec) : List OptionSpec :=
    (spec.names.filter fun n => part.isPrefixOf n).map fun _ => spec
  match word.toList with
  | '-' :: '-' :: _ =>
    let (name, attached) := splitEquals word
    (options.flatMap (startsWith name)).map (·, attached)
  | '-' :: letter :: rest =>
    options.flatMap fun spec =>
      if spec.names.contains (String.ofList ['-', letter]) then
        [(spec, some (String.ofList rest))]
      else (startsWith word spec).map (·, none)
  | _ => []

/-- Classifies one word. Two options with one abbreviation are a misuse. -/
def classify (options : List OptionSpec) (word : String) : Except Stop Word :=
  let named (name : String) : Option OptionSpec := options.find? fun o => o.names.contains name
  match word.toList with
  | '-' :: second :: _ =>
    let isLong := second == '-'
    let (name, attached) := splitEquals word
    match named word, attached.bind fun _ => named name with
    | some spec, _ => .ok (.option spec isLong none)
    | none, some spec => .ok (.option spec isLong attached)
    | none, none =>
      match abbreviated options word with
      | [(spec, attached)] => .ok (.option spec isLong attached)
      | _ :: _ :: _ => .error .misuse
      | [] =>
        if isNegativeNumber word.toList || word.toList.contains ' ' then .ok (.value word)
        else .ok .unknown
  | _ => .ok (.value word)

/-- Classifies all words; those after the separator are values. -/
def classifyAll (options : List OptionSpec) : List String → Except Stop (List Word)
  | [] => .ok []
  | "--" :: rest => .ok (.separator :: rest.map .value)
  | word :: rest => do return (← classify options word) :: (← classifyAll options rest)

/-- The flags whose letters are written as one word. -/
def flagLetters (options : List OptionSpec) (spec : OptionSpec) :
    List Char → Except Stop (List Setting)
  | [] => .ok [⟨spec.names.headD "", ""⟩]
  | letter :: rest =>
    match options.find? fun o => o.names.contains (String.ofList ['-', letter]) with
    | some next =>
      if next.takesValue then .error .misuse
      else do return ⟨spec.names.headD "", ""⟩ :: (← flagLetters options next rest)
    | none => .error .misuse

/-- The settings that an option with its attached text stands for by itself. -/
def flagsOf (options : List OptionSpec) (spec : OptionSpec) (isLong : Bool) :
    Option String → Except Stop (List Setting)
  | none => .ok [⟨spec.names.headD "", ""⟩]
  | some letters =>
    if isLong || letters = "" then .error .misuse else flagLetters options spec letters.toList

/-- Reads options with their values. Words that are left over are a misuse, after the options that
follow them have taken effect. -/
def settingsOf (check : Setting → Except Stop Unit) (options : List OptionSpec) :
    List Word → Except Stop (List Setting)
  | [] => .ok []
  | .option spec isLong attached :: rest =>
    if !spec.takesValue then do
      let flags ← flagsOf options spec isLong attached
      flags.forM check
      return flags ++ (← settingsOf check options rest)
    else
      let set (value : String) (rest : Except Stop (List Setting)) := do
        let setting : Setting := ⟨spec.names.headD "", value⟩
        check setting
        return setting :: (← rest)
      match attached, rest with
      | some value, rest => set value (settingsOf check options rest)
      | none, .value value :: rest => set value (settingsOf check options rest)
      | none, _ => .error .misuse
  | _ :: rest => do
    let _ ← settingsOf check options rest
    throw .misuse

/-- Reads a command line that has options only. A setting that `check` refuses ends the reading, and
so does a request for help. -/
def readGuarded (check : Setting → Except Stop Unit) (options : List OptionSpec)
    (words : List String) : Except Stop (List Setting) := do
  let options := { names := [helpName, "-h"], takesValue := false } :: options
  let checkOrHelp (s : Setting) : Except Stop Unit :=
    if s.name = helpName then .error .help else check s
  settingsOf checkOrHelp options (← classifyAll options words)

end ClusterAgent.CommandLine
