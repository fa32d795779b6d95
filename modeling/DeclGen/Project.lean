import DeclGen.FileStore
import DeclGen.Language
import DeclGen.Xml.Document

/-!
Finding the inputs of a run: the headers that a project file lists, the headers below a directory, or
one source file. Project files are XML; items are looked up by base name in any namespace.
-/
namespace DeclGen

inductive ProjectError where
  | notAProject (path : Path)
  | notFound (path : Path)
  | malformed (path : Path)
  | notAnInput (path : Path)
  | encoding (error : Xml.EncodingError)
  | file (error : FileError)
  deriving DecidableEq

def ProjectError.message : ProjectError → Text
  | .notAProject path => path.text ++ " is not a .vcxproj project file".text
  | .notFound path => "Project file not found: ".text ++ path.text
  | .malformed path => "Malformed project file ".text ++ path.text ++ ": <xml>".text
  | .notAnInput path =>
    path.text ++ " is not a .vcxproj file, a directory or a C/C++ source file".text
  | .encoding error => error.message
  | .file error => error.message

def ProjectError.isExpected : ProjectError → Bool
  | .encoding _ | .file _ => false
  | _ => true

structure Project where
  path : Path
  headers : List Path
  sources : List Path

namespace Project

def root (project : Project) : Path := project.path.parent

def projectSuffix : Text := ".vcxproj".text

/-- The path that an item names; both kinds of slashes separate its parts. -/
def itemPath (base : Path) (written : Text) : Path :=
  base.join (Path.ofText (written.map fun (c : CodePoint) => if c = '\\' then '/' else c))

def childrenNamed (element : Xml.Element) (name : String) : List Xml.Element :=
  element.children.filter fun child => child.name.base == name.text

def items (root : Xml.Element) (kind : String) (base : Path) : List Path :=
  ((childrenNamed root "ItemGroup").flatMap fun group => childrenNamed group kind).filterMap fun item =>
    match item.attributes.lookup ⟨[], "Include".text⟩ with
    | none | some [] => none
    | some written => some (itemPath base written)

def isProjectFile (path : Path) : Bool := Language.suffixOf path == projectSuffix

def load (store : FileStore) (path : Path) : Except ProjectError Project :=
  if !isProjectFile path then .error (.notAProject path)
  else
    match store.look path with
    | .error error => .error (.file error)
    | .ok (some (.file content)) =>
      match Xml.parse content with
      | .error .malformed => .error (.malformed path)
      | .error (.encoding error) => .error (.encoding error)
      | .ok root =>
        .ok { path := path
              headers := items root "ClInclude" path.parent
              sources := items root "ClCompile" path.parent }
    | .ok _ => .error (.notFound path)

/-- A path that leads to a header. The system is asked, and may refuse the path. -/
def header? (store : FileStore) (path : Path) : Except FileError (Option Path) :=
  (store.look path).map fun
    | some (.file _) => if Language.isHeader path then some path else none
    | _ => none

/-- The headers below a directory, in the order of their path parts. All that lies there is asked
about, one path after the other, up to one that the system refuses. -/
def headersBelow (store : FileStore) (path : Path) : Except FileError (List Path) := do
  let headers ← (store.pathsBelow path).filterMapM (header? store)
  pure (headers.mergeSort Path.le)

def discover (store : FileStore) (path : Path) :
    Except ProjectError (List Path × Option Project) :=
  if isProjectFile path then (load store path).map fun project => (project.headers, some project)
  else
    match store.look path with
    | .error error => .error (.file error)
    | .ok (some .directory) =>
      match headersBelow store path with
      | .error error => .error (.file error)
      | .ok headers => .ok (headers, none)
    | .ok (some (.file _)) =>
      if Language.isSupported path then .ok ([path], none) else .error (.notAnInput path)
    | .ok none => .error (.notAnInput path)

end Project
end DeclGen
