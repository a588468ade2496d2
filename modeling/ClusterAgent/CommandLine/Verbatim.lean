import ClusterAgent.CommandLine.Option

/-!
Command lines whose options are written in full, and on which the word after an option is its value
whatever it looks like. Options and operands may stand in any order, up to two dashes.
-/
namespace ClusterAgent.CommandLine

/-- What a command line sets, and its operands. -/
structure Reading where
  settings : List Setting := []
  operands : List String := []
  deriving Repr, DecidableEq

/-- An option that sets something, with or without a value. -/
def optionNamed? (options : List OptionSpec) (name : String) : Option OptionSpec :=
  options.find? fun o => o.names.contains name

/-- Reads the letters after one dash. A letter that takes a value takes the rest of the word, or
else the next word. What follows the word is returned. -/
def readLetters (options : List OptionSpec) (rest : List String) :
    List Char → Option (List Setting × List String)
  | [] => some ([], rest)
  | letter :: letters => do
    let spec ← optionNamed? options (String.ofList ['-', letter])
    let name := spec.names.headD ""
    if !spec.takesValue then
      let (settings, rest) ← readLetters options rest letters
      return (⟨name, ""⟩ :: settings, rest)
    else if !letters.isEmpty then return ([⟨name, String.ofList letters⟩], rest)
    else match rest with
      | value :: rest => return ([⟨name, value⟩], rest)
      | [] => none

/-- Reads a word that starts with a dash, with the words that follow it. -/
def readOption (options : List OptionSpec) (word : String) (rest : List String) :
    Option (List Setting × List String) :=
  let cs := word.toList
  let name := String.ofList (cs.takeWhile (· != '='))
  let attached := (cs.dropWhile (· != '=')).tail?.map String.ofList
  let isLong := "--".isPrefixOf word
  match if isLong then optionNamed? options name else none with
  | some spec =>
    let name := spec.names.headD ""
    match spec.takesValue, attached, rest with
    | true, some value, rest => some ([⟨name, value⟩], rest)
    | true, none, value :: rest => some ([⟨name, value⟩], rest)
    | false, none, rest => some ([⟨name, ""⟩], rest)
    | _, _, _ => none
  | none => if isLong then none else readLetters options rest (cs.drop 1)

/-- Reads the words, at most `fuel` of them. When `interleaved` is not set, the first operand ends
the options. -/
def readWords (interleaved : Bool) (options : List OptionSpec) :
    (fuel : Nat) → List String → Option Reading
  | 0, _ | _, [] => some {}
  | _ + 1, "--" :: rest => some { operands := rest }
  | fuel + 1, word :: rest =>
    if "-".isPrefixOf word && word.length > 1 then do
      let (settings, rest) ← readOption options word rest
      let reading ← readWords interleaved options fuel rest
      return { reading with settings := settings ++ reading.settings }
    else if interleaved then do
      let reading ← readWords interleaved options fuel rest
      return { reading with operands := word :: reading.operands }
    else some { operands := word :: rest }

/-- Reads a command line. A request for help counts only when all options are known. -/
def readVerbatim (interleaved : Bool) (options : List OptionSpec) (words : List String) :
    Except Stop Reading :=
  let options := { names := [helpName], takesValue := false } :: options
  match readWords interleaved options words.length words with
  | none => .error .misuse
  | some reading =>
    if reading.settings.any fun s => s.name == helpName then .error .help else .ok reading

end ClusterAgent.CommandLine
