import DeclGen.Handler.Dispatch
import DeclGen.Output.Write

/-!
A generation run: every input is parsed into a unit, and the handlers are run over the units that
have entities. An input that cannot be parsed is reported and contributes nothing; the others are
processed all the same. At the end the registry is written.
-/
namespace DeclGen

/-- Parses one input. The notices are those made up to the end or the failure. -/
def parseUnit (source : DeclarationSource) (path : Path) :
    List Notice × Except ParseFailure SourceUnit :=
  let stream := source path
  let (state, error) := (Scope.State.initial path).run stream.events
  let notices := .parsing path :: state.orphans.map (Notice.orphan path)
  match error, stream.fault with
  | some error, _ => (notices, .error (.scope error))
  | none, some fault => (notices, .error (.source fault))
  | none, none =>
    match state.finish with
    | .error error => (notices, .error (.scope error))
    | .ok unit =>
      if unit.skippedParameters = 0 then (notices, .ok unit)
      else (notices ++ [.skippedParameters path unit.skippedParameters], .ok unit)

structure Report where
  units : List SourceUnit := []
  dispatched : Nat := 0
  failed : List (Path × ParseFailure) := []

namespace Report

def skippedParameters (report : Report) : Int :=
  report.units.foldl (fun count unit => count + unit.skippedParameters) 0

def unattributed (report : Report) : Int :=
  report.units.foldl (fun count unit => count + unit.unattributed) 0

end Report

/-- The state of a run; a fatal failure ends it. -/
structure Run (σ : Type) where
  state : σ
  report : Report
  notices : List Notice
  fatal : Option ParseFailure

namespace Run

variable {σ : Type}

def start (state : σ) : Run σ := ⟨state, {}, [], none⟩

def accept (run : Run σ) (handlers : HandlerSet (Handler σ)) (unit : SourceUnit) : Run σ :=
  let listed := { run.report with units := run.report.units ++ [unit] }
  if unit.isEmpty then
    { run with report := listed, notices := run.notices ++ [.emptyUnit unit.path] }
  else
    { run with
      state := dispatch handlers unit run.state
      report := { listed with dispatched := listed.dispatched + 1 } }

def reject (run : Run σ) (path : Path) (failure : ParseFailure) : Run σ :=
  if failure.isFatal then { run with fatal := some failure }
  else
    { run with
      report := { run.report with failed := run.report.failed ++ [(path, failure)] }
      notices := run.notices ++ [.parseFailed path failure] }

def process (handlers : HandlerSet (Handler σ)) (source : DeclarationSource) (run : Run σ)
    (path : Path) : Run σ :=
  let (notices, parsed) := parseUnit source path
  let noted := { run with notices := run.notices ++ notices }
  match parsed with
  | .ok unit => noted.accept handlers unit
  | .error failure => noted.reject path failure

def processAll (handlers : HandlerSet (Handler σ)) (source : DeclarationSource) (run : Run σ) :
    List Path → Run σ
  | [] => run
  | path :: rest =>
    let next := run.process handlers source path
    if next.fatal.isSome then next else next.processAll handlers source rest

end Run

def runGeneration {σ : Type} (handlers : HandlerSet (Handler σ)) (source : DeclarationSource)
    (inputs : List Path) (state : σ) : Run σ :=
  (Run.start state).processAll handlers source inputs

structure Generated (σ : Type) where
  run : Run σ
  write : Output.WriteRun

def generate {σ : Type} (registry : σ → Output.Registry) (handlers : HandlerSet (Handler σ))
    (source : DeclarationSource) (inputs : List Path) (state : σ) (output : Path)
    (store : FileStore) : Generated σ :=
  let run := runGeneration handlers source inputs state
  if run.fatal.isSome then ⟨run, ⟨store, {}, [], none⟩⟩
  else ⟨run, Output.writeFiles (registry run.state) output store⟩

end DeclGen
