import DeclGen.Output.Render

/-!
The registry of generated files. Its keys are paths relative to the output directory, in order of
first mention. A step is one operation on the registry; the answers of steps can be listed, and the
registry is what remains.
-/
namespace DeclGen.Output

structure Registry where
  files : Table Text GeneratedFile := {}

namespace Registry

def file (r : Registry) (name : Text) : GeneratedFile := r.files.getD name {}

def updateFile (r : Registry) (name : Text) (change : GeneratedFile → GeneratedFile) : Registry :=
  ⟨r.files.update name {} change⟩

def updateFunction (r : Registry) (name key : Text)
    (change : GeneratedFunction → GeneratedFunction) : Registry :=
  r.updateFile name fun file => file.updateFunction key change

def rendered (r : Registry) : List (Text × Text) :=
  r.files.entries.map fun entry => (entry.1, entry.2.render)

end Registry

inductive Step where
  | contains (file : Text)
  | count
  | fileNames
  | file (file : Text)
  | render (file : Text)
  | addInclude (file : Text) (path : Path)
  | rawInclude (file text : Text)
  | header (file text : Text)
  | body (file function text : Text)
  | parameter (file function : Text) (parameter : Variable)
  | leading (file function text : Text)
  | returnType (file function text : Text)
  | headerName (file function text : Text)
  | function (file function : Text)

inductive Answer where
  | flag (value : Bool)
  | number (value : Nat)
  | texts (values : List Text)
  | text (value : Text)
  | file (value : GeneratedFile)
  | function (value : GeneratedFunction)

namespace Step

/-- The registry after a step. Questions change nothing. -/
def apply (r : Registry) : Step → Registry
  | .contains _ | .count | .fileNames => r
  | .file name | .render name => r.updateFile name id
  | .addInclude name path => r.updateFile name fun file => file.addInclude path
  | .rawInclude name text => r.updateFile name fun file => file.insertInclude (.raw text)
  | .header name text => r.updateFile name fun file => file.addHeader text
  | .body name key text => r.updateFunction name key fun f => f.addBody text
  | .parameter name key v => r.updateFunction name key fun f => f.addParameter v
  | .leading name key text => r.updateFunction name key fun f => { f with leading := text }
  | .returnType name key text =>
    r.updateFunction name key fun f => { f with header := { f.header with returnType := text } }
  | .headerName name key text =>
    r.updateFunction name key fun f => { f with header := { f.header with name := text } }
  | .function name key => r.updateFunction name key id

def answer (r : Registry) (step : Step) : Answer :=
  let after := step.apply r
  match step with
  | .contains name => .flag (r.files.contains name)
  | .count => .number r.files.entries.length
  | .fileNames => .texts r.files.keys
  | .file name => .file (after.file name)
  | .render name => .text (after.file name).render
  | .addInclude name _ | .rawInclude name _ => .texts (after.file name).includeTexts
  | .header name _ => .texts (after.file name).header
  | .body name key _ => .texts ((after.file name).function key).body
  | .parameter name key v => .flag (!((r.file name).function key).header.hasParameter v.name)
  | .leading name key _ | .returnType name key _ | .headerName name key _ | .function name key =>
    .function ((after.file name).function key)

end Step

def Registry.run (r : Registry) (steps : List Step) : Registry := steps.foldl Step.apply r

def Registry.answers (r : Registry) : List Step → List Answer
  | [] => []
  | step :: rest => step.answer r :: answers (step.apply r) rest

end DeclGen.Output
