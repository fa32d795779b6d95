import DeclGen.CommandLine

/-!
The program around the command line. It sees the files below the current directory, which it knows
under the name of the working directory, and the environment variables of the settings. What the
command line leaves changed is written back. A parser for C++ is not part of the program: `runWith`
takes one, and `main` runs with the grammar in which every source is empty. What is shown or used as a
name outside has a replacement character for a surrogate.
-/
namespace DeclGen.Program

open CommandLine

def shown (t : Text) : String :=
  String.ofList (t.map fun
    | .char c => c
    | .surrogate _ => Char.ofNat 0xFFFD)

def loadStore : IO FileStore := do
  let top ← IO.currentDir
  let found ← top.walkDir
  let above := top.toString.length + 1
  found.foldlM (fun store entry => do
    let path := Path.ofText (entry.toString.text.drop above)
    if ← entry.isDir then pure (store.makeDirectories path).1
    else
      let content ← IO.FS.readBinFile entry
      pure (store.writeWithParents path (.ok content.toList)).1) FileStore.empty

def loadEnvironment : IO Settings.Environment := do
  let names := [Settings.handlersVariable, Settings.logLevelVariable]
  let values ← names.mapM fun name => IO.getEnv (shown name)
  pure ((names.zip values).filterMap fun (name, value) => value.map fun v => (name, v.text))

def relativeTo (work location : Location) : Path :=
  let names :=
    if work.isPrefixOf location then location.drop work.length
    else work.map (fun _ => FileStore.dotDot) ++ location
  Path.normal .relative (names.map FileName.text)

def saveChanges (before after : FileStore) : IO Unit := do
  for (location, entry) in after.entries do
    if before.get? location ≠ some entry then
      let name := shown (relativeTo (FileStore.locationOf Path.here) location).text
      match entry with
      | .directory => IO.FS.createDirAll name
      | .file content => IO.FS.writeBinFile name ⟨content.toArray⟩

def usageText : String :=
  "Usage: declgen [-v] generate INPUT OUTPUT_DIR [-H HANDLERS]...\n"
    ++ "       declgen [-v] inspect FILE"

def report (ending : Ending) : IO Unit :=
  match ending with
  | .usage => IO.eprintln usageText
  | .help => IO.println usageText
  | .crashed crash => IO.eprintln (shown crash.message)
  | .finished _ printed => IO.print (shown printed)

def runWith (grammar : Grammar) (args : List String) : IO UInt32 := do
  let store ← loadStore
  let world : World := ⟨← loadEnvironment, store, grammar⟩
  let outcome := CommandLine.run world (args.map String.text)
  for notice in outcome.notices do
    IO.eprintln (shown (notice.gravity.text ++ [CodePoint.char ' '] ++ notice.message))
  saveChanges store outcome.store
  report outcome.ending
  pure outcome.ending.exitCode.toUInt32

end DeclGen.Program

def main (args : List String) : IO UInt32 :=
  DeclGen.Program.runWith (fun _ => DeclGen.SyntaxTree.Node.emptyRoot) args
