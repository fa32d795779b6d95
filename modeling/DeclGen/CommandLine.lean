import DeclGen.CommandLine.Options
import DeclGen.Console.Markup
import DeclGen.Console.Table
import DeclGen.Generation
import DeclGen.Handler.Catalogue
import DeclGen.Inspect
import DeclGen.Project
import DeclGen.Settings

/-!
The command line. `generate` runs handlers over the inputs that a path stands for and writes their
output; `inspect` shows the annotated entities of one file. The outcome says how the program ends,
what it prints, and what it leaves in the file store.
-/
namespace DeclGen.CommandLine

open Console (MarkupError)

inductive Crash where
  | unknownLevel (name : Text)
  | handlers (error : HandlerLoadError)
  | project (error : ProjectError)
  | markup (error : MarkupError)
  | file (error : FileError)
  | parsing (failure : ParseFailure)
  deriving DecidableEq

def Crash.message : Crash → Text
  | .unknownLevel name => "Unknown level: ".text ++ Text.quoted name
  | .handlers error => error.message
  | .project error => error.message
  | .markup error => error.message
  | .file error => error.message
  | .parsing failure => failure.message

inductive Ending where
  | usage
  | help
  | crashed (crash : Crash)
  | finished (succeeded : Bool) (printed : Text)

def Ending.exitCode : Ending → Nat
  | .usage => 2
  | .help => 0
  | .crashed _ => 1
  | .finished succeeded _ => if succeeded then 0 else 1

structure Outcome where
  ending : Ending
  store : FileStore
  notices : List Notice

structure World where
  environment : Settings.Environment
  store : FileStore
  grammar : Grammar

def consoleWidth : Nat := 1000

def asLines (lines : List Text) : Text := lines.flatMap fun line => line ++ [CodePoint.char '\n']

def shownLines (t : Text) : Except MarkupError (List Text) := do
  match (← Console.render t).lines? consoleWidth with
  | some lines => pure lines
  | none => throw .emptyNumber

def printLines (succeeded : Bool) (texts : List Text) : Ending :=
  match texts.mapM shownLines with
  | .ok lines => .finished succeeded (asLines lines.flatten)
  | .error error => .crashed (.markup error)

def errorLine (message : Text) : Text := "[red]Error:[/red] ".text ++ message

def reportLines (inputs : List Path) (set : HandlerSet (Handler Output.Registry))
    (generated : Generated Output.Registry) : List Text :=
  let report := generated.run.report
  let write := generated.write.report
  ["Parsing ".text ++ Text.ofNat inputs.length ++ " file(s) with ".text ++ set.description,
   "[green]Parsed[/green] ".text ++ Text.ofNat report.units.length ++ " unit(s), dispatched ".text
     ++ Text.ofNat report.dispatched ++ ", skipped ".text ++ Text.ofInt report.skippedParameters
     ++ " parameter(s), ".text ++ Text.ofInt report.unattributed
     ++ " unattributed declaration(s)".text]
    ++ report.failed.map (fun (path, failure) =>
      "[yellow]Skipped[/yellow] ".text ++ path.text ++ ": ".text ++ failure.message)
    ++ write.written.map (fun path => "[green]Wrote[/green] ".text ++ path.text)
    ++ write.failed.map (fun (path, error) =>
      "[red]Could not write[/red] ".text ++ path.text ++ ": ".text ++ error.message)

def loadNotices (specs : List Text) : List Notice :=
  (Catalogue.loadedBefore specs).map fun (target, set) => .loadedHandlers set.description target

def projectNotices : Option Project → List Notice
  | none => []
  | some project => [.projectListed project.path project.headers.length]

def runGenerate (world : World) (input output : Path) (specs : List Text) : Outcome :=
  let loading := loadNotices specs
  match Catalogue.loadAll specs with
  | .error (.relativeImport moduleName) =>
    ⟨.crashed (.handlers (.relativeImport moduleName)), world.store, loading⟩
  | .error error => ⟨printLines false [errorLine error.message], world.store, loading⟩
  | .ok set =>
    match Project.discover world.store input with
    | .error error =>
      if error.isExpected then
        ⟨printLines false [errorLine error.message], world.store, loading⟩
      else ⟨.crashed (.project error), world.store, loading⟩
    | .ok (inputs, project) =>
      let generated :=
        generate id set (fileSource world.store world.grammar) inputs {} output world.store
      let notices := loading ++ projectNotices project ++ generated.run.notices
        ++ generated.write.notices
      match generated.run.fatal, generated.write.refused with
      | some failure, _ => ⟨.crashed (.parsing failure), generated.write.store, notices⟩
      | none, some error => ⟨.crashed (.file error), generated.write.store, notices⟩
      | none, none =>
        ⟨printLines generated.write.report.ok (reportLines inputs set generated),
          generated.write.store, notices⟩

def inspectionLines (unit : SourceUnit) : Except MarkupError (List Text) := do
  let rows := Inspect.rows unit
  let cells ← rows.mapM fun row =>
    [row.kind, row.name, row.type, row.properties].mapM fun cell =>
      (Console.render (Console.escape cell)).map fun styled => Console.plainText styled.glyphs
  let header := ["kind".text, "name".text, "type".text, "properties".text]
  pure (Console.drawTable consoleWidth header cells
    ++ ["(".text ++ Text.ofNat rows.length ++ " entities, ".text ++ Text.ofInt unit.skippedParameters
      ++ " skipped parameters)".text])

def runInspect (world : World) (path : Path) : Outcome :=
  let (notices, parsed) := parseUnit (fileSource world.store world.grammar) path
  match parsed with
  | .error failure =>
    if failure.isFatal then ⟨.crashed (.parsing failure), world.store, notices⟩
    else ⟨printLines false [errorLine failure.message], world.store, notices⟩
  | .ok unit =>
    match inspectionLines unit with
    | .error error => ⟨.crashed (.markup error), world.store, notices⟩
    | .ok lines =>
      ⟨.finished true (asLines lines), world.store, notices⟩

/-- What a word of the command line leads to. It must lead to something. -/
def existing (store : FileStore) (word : Text) : Except Ending FileEntry :=
  match store.find? (Path.ofText word) with
  | some entry => .ok entry
  | none => .error .usage

inductive Command where
  | generate (input output : Path) (specs : List Text)
  | inspect (path : Path)

/-- The options and words after a subcommand's name; asking for help ends the reading. -/
def readWords (specs : List OptionSpec) (words : List Text) : Except Ending Parsed :=
  match parseWords? specs true words with
  | none => .error .usage
  | some parsed => if parsed.has .help then .error .help else .ok parsed

def nextWord : List Text → Except Ending (Text × List Text)
  | [] => .error .usage
  | word :: rest => .ok (word, rest)

def readGenerate (world : World) (words : List Text) : Except Ending Command := do
  let parsed ← readWords [helpOption, handlersOption] words
  let (input, rest) ← nextWord parsed.words
  let _ ← existing world.store input
  let (output, rest) ← nextWord rest
  let target ← existing world.store output
  if target = .directory ∧ rest.isEmpty then
    let given := parsed.values .handlers
    let specs :=
      if given.isEmpty then (Settings.ofEnvironment world.environment).handlers else given
    pure (.generate (Path.ofText input) (Path.ofText output) specs)
  else throw .usage

def readInspect (world : World) (words : List Text) : Except Ending Command := do
  let parsed ← readWords [helpOption] words
  let (word, rest) ← nextWord parsed.words
  let found ← existing world.store word
  if found ≠ .directory ∧ rest.isEmpty then pure (.inspect (Path.ofText word)) else throw .usage

def runCommand (world : World) : Command → Outcome
  | .generate input output specs => runGenerate world input output specs
  | .inspect path => runInspect world path

def runIfRead (world : World) : Except Ending Command → Outcome
  | .error ending => ⟨ending, world.store, []⟩
  | .ok command => runCommand world command

def reader? (name : Text) : Option (World → List Text → Except Ending Command) :=
  [("generate".text, readGenerate), ("inspect".text, readInspect)].lookup name

/-- The rank from which on notices are shown. Being verbose settles it without the environment. -/
def shownFrom (world : World) (verbose : Bool) : Except Crash Nat :=
  let name := if verbose then "INFO".text else (Settings.ofEnvironment world.environment).logLevel
  match levelRank? name with
  | some rank => .ok rank
  | none => .error (.unknownLevel name)

/-- The options of the program itself. They come before the name of the subcommand. -/
def readOptions (words : List Text) : Except Ending Parsed :=
  match parseWords? [helpOption, verboseOption] false words with
  | none => .error .usage
  | some parsed => if parsed.has .help then .error .help else .ok parsed

/-- How the program ends on a name that is no subcommand. A name that looks like an option, because it
stands behind a double dash, is read as one once more, so it can still ask for help. -/
def unknownCommand (words : List Text) : Ending :=
  match readOptions words with
  | .error ending => ending
  | .ok _ => .usage

/-- Runs the program. The subcommand's name is looked at before the log level, and the log level
before the subcommand's own words. -/
def run (world : World) (words : List Text) : Outcome :=
  match readOptions words with
  | .error ending => ⟨ending, world.store, []⟩
  | .ok parsed =>
    match parsed.words with
    | [] => ⟨.usage, world.store, []⟩
    | name :: rest =>
      match reader? name with
      | none => ⟨unknownCommand (name :: rest), world.store, []⟩
      | some read =>
        match shownFrom world (parsed.has .verbose) with
        | .error crash => ⟨.crashed crash, world.store, []⟩
        | .ok rank =>
          let outcome := runIfRead world (read world rest)
          { outcome with
            notices := outcome.notices.filter fun notice => rank ≤ notice.gravity.rank }

end DeclGen.CommandLine
