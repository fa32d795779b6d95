import DeclGen.Entity
import DeclGen.Table

/-!
Files that are being generated: what they include, the lines of their header, and their functions in
order of first mention. An include is a path, or a text that was put in as it is; the two are told
apart until the file is rendered.
-/
namespace DeclGen.Output

inductive Include where
  | path (path : Path)
  | raw (text : Text)
  deriving DecidableEq

namespace Include

def text : Include → Text
  | .path p => p.text
  | .raw t => t

def absolute : Include → Path
  | .path p => p.absolute
  | .raw t => (Path.ofText t).absolute

end Include

structure GeneratedFunction where
  /-- Written as it is before the signature, such as a template line. -/
  leading : Text := []
  header : Function := {}
  body : List Text := []

def GeneratedFunction.named (key : Text) : GeneratedFunction := { header := { name := key } }

structure GeneratedFile where
  includes : List Include := []
  header : List Text := []
  functions : Table Text GeneratedFunction := {}

namespace GeneratedFile

/-- Includes are a set: a second mention changes nothing. -/
def insertInclude (file : GeneratedFile) (item : Include) : GeneratedFile :=
  if item ∈ file.includes then file else { file with includes := file.includes ++ [item] }

def addInclude (file : GeneratedFile) (path : Path) : GeneratedFile :=
  file.insertInclude (.path path.absolute)

def addHeader (file : GeneratedFile) (line : Text) : GeneratedFile :=
  { file with header := file.header ++ [line] }

def function (file : GeneratedFile) (key : Text) : GeneratedFunction :=
  file.functions.getD key (.named key)

def updateFunction (file : GeneratedFile) (key : Text)
    (change : GeneratedFunction → GeneratedFunction) : GeneratedFile :=
  { file with functions := file.functions.update key (.named key) change }

def includeTexts (file : GeneratedFile) : List Text :=
  (file.includes.map Include.text).mergeSort Text.le

end GeneratedFile

namespace GeneratedFunction

def addBody (f : GeneratedFunction) (line : Text) : GeneratedFunction :=
  { f with body := f.body ++ [line] }

def addParameter (f : GeneratedFunction) (parameter : Variable) : GeneratedFunction :=
  { f with header := f.header.addParameter parameter }

end GeneratedFunction
end DeclGen.Output
