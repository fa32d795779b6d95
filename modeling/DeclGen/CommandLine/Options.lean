import DeclGen.Text.Basic

/-!
Reading command-line options. Long options take their value after an equals sign or as the next word;
short ones can be run together, and the first that takes a value takes the rest of its word. A double
dash ends the options.
-/
namespace DeclGen.CommandLine

inductive Switch where
  | help
  | verbose
  | handlers
  deriving DecidableEq, Repr

structure OptionSpec where
  switch : Switch
  long : Text
  short : CodePoint
  takesValue : Bool

def helpOption : OptionSpec := ⟨.help, "--help".text, 'h', false⟩

def verboseOption : OptionSpec := ⟨.verbose, "--verbose".text, 'v', false⟩

def handlersOption : OptionSpec := ⟨.handlers, "--handlers".text, 'H', true⟩

structure Parsed where
  options : List (Switch × Text)
  words : List Text
  deriving DecidableEq, Repr

/-- What a word of short options says: flags, and perhaps an option that takes a value, which is the
rest of the word or the word after it. -/
structure Cluster where
  flags : List Switch
  valued : Option (Switch × Text)

def readCluster? (specs : List OptionSpec) : Text → Option Cluster
  | [] => some ⟨[], none⟩
  | c :: rest =>
    match specs.find? fun spec => spec.short == c with
    | none => none
    | some spec =>
      if spec.takesValue then some ⟨[], some (spec.switch, rest)⟩
      else (readCluster? specs rest).map fun more => { more with flags := spec.switch :: more.flags }

def longParts (word : Text) : Text × Option Text :=
  match Text.cutFirst? '=' word with
  | some (name, value) => (name, some value)
  | none => (word, none)

def looksLikeOption (word : Text) : Bool :=
  word.head? == some (CodePoint.char '-') && decide (1 < word.length)

inductive OptionWord where
  | complete (options : List (Switch × Text))
  | needsValue (flags : List Switch) (switch : Switch)

def readOptionWord? (specs : List OptionSpec) (word : Text) : Option OptionWord :=
  let (name, value?) := longParts word
  match specs.find? fun spec => spec.long == name with
  | some spec =>
    match spec.takesValue, value? with
    | true, some value => some (.complete [(spec.switch, value)])
    | true, none => some (.needsValue [] spec.switch)
    | false, some _ => none
    | false, none => some (.complete [(spec.switch, [])])
  | none =>
    if "--".text.isPrefixOf word then none
    else
      match readCluster? specs (word.drop 1) with
      | none => none
      | some ⟨flags, none⟩ => some (.complete (flags.map (·, [])))
      | some ⟨flags, some (switch, [])⟩ => some (.needsValue flags switch)
      | some ⟨flags, some (switch, value)⟩ =>
        some (.complete (flags.map (·, []) ++ [(switch, value)]))

/-- Reads options and words. Where options may not follow words, the first word ends the options. -/
def parseWords? (specs : List OptionSpec) (interspersed : Bool) : List Text → Option Parsed
  | [] => some ⟨[], []⟩
  | word :: rest =>
    if word = "--".text then some ⟨[], rest⟩
    else if looksLikeOption word then
      match readOptionWord? specs word, rest with
      | none, _ => none
      | some (.complete options), rest =>
        (parseWords? specs interspersed rest).map fun parsed =>
          { parsed with options := options ++ parsed.options }
      | some (.needsValue _ _), [] => none
      | some (.needsValue flags switch), value :: rest =>
        (parseWords? specs interspersed rest).map fun parsed =>
          { parsed with options := flags.map (·, []) ++ (switch, value) :: parsed.options }
    else if interspersed then
      (parseWords? specs interspersed rest).map fun parsed =>
        { parsed with words := word :: parsed.words }
    else some ⟨[], word :: rest⟩

def Parsed.has (parsed : Parsed) (switch : Switch) : Bool :=
  parsed.options.any fun option => option.1 == switch

def Parsed.values (parsed : Parsed) (switch : Switch) : List Text :=
  (parsed.options.filter fun option => option.1 == switch).map (·.2)

end DeclGen.CommandLine
