import DeclGen.Notice
import DeclGen.Output.Registry

/-!
Writing a registry below an output directory. Files are written in the order of their names; a file
that the system refuses is reported and does not keep the others from being written.
-/
namespace DeclGen.Output

structure WriteReport where
  written : List Path := []
  failed : List (Path × FileError) := []

def WriteReport.ok (report : WriteReport) : Bool := report.failed.isEmpty

/-- The state of writing. A name that cannot be a file name at all ends it. -/
structure WriteRun where
  store : FileStore
  report : WriteReport
  notices : List Notice
  refused : Option FileError

/-- Where the file under a name goes; an anchored name leaves the output directory. -/
def outputPath (root : Path) (name : Text) : Path := root.join (Path.ofText name)

def WriteRun.writeOne (run : WriteRun) (root : Path) (name : Text) (file : GeneratedFile) :
    WriteRun :=
  let target := outputPath root name
  match run.store.writeWithParents target (Utf8.encode file.render) with
  | (store, none) =>
    { run with
      store := store
      report := { run.report with written := run.report.written ++ [target] }
      notices := run.notices ++ [.wrote target] }
  | (store, some error) =>
    if error.isSystem then
      { run with
        store := store
        report := { run.report with failed := run.report.failed ++ [(target, error)] }
        notices := run.notices ++ [.writeFailed target error] }
    else { run with store := store, refused := some error }

def WriteRun.writeAll (run : WriteRun) (root : Path) : List (Text × GeneratedFile) → WriteRun
  | [] => run
  | (name, file) :: rest =>
    let next := run.writeOne root name file
    if next.refused.isSome then next else next.writeAll root rest

def Registry.sorted (r : Registry) : List (Text × GeneratedFile) :=
  r.files.entries.mergeSort fun a b => Text.le a.1 b.1

def writeFiles (r : Registry) (root : Path) (store : FileStore) : WriteRun :=
  WriteRun.writeAll ⟨store, {}, [], none⟩ root r.sorted

end DeclGen.Output
