import DeclGen.Path
import DeclGen.Property

/-!
The annotated entities of one source file. Every entity carries the properties of its directive; the
first of them names the directive's keyword.
-/
namespace DeclGen

structure Entity where
  name : Text := []
  fullNamespace : Text := []
  path : Path := Path.here
  properties : List Property := []
  deriving DecidableEq

structure Variable extends Entity where
  type : Text := "int".text
  deriving DecidableEq

structure Function extends Entity where
  returnType : Text := "void".text
  parameters : List Variable := []
  isConstructor : Bool := false
  deriving DecidableEq

structure Class extends Entity where
  members : List Variable := []
  methods : List Function := []
  deriving DecidableEq

structure SourceUnit where
  path : Path
  classes : List Class := []
  functions : List Function := []
  globals : List Variable := []
  /-- Parameters met outside of any open function. -/
  skippedParameters : Int := 0
  /-- Annotated members and methods without an annotated class around them. -/
  unattributed : Int := 0
  deriving DecidableEq

def Function.hasParameter (f : Function) (name : Text) : Bool :=
  f.parameters.any fun p => p.name == name

def Function.addParameter (f : Function) (parameter : Variable) : Function :=
  if f.hasParameter parameter.name then f
  else { f with parameters := f.parameters ++ [parameter] }

def SourceUnit.isEmpty (unit : SourceUnit) : Bool :=
  unit.classes.isEmpty && unit.functions.isEmpty && unit.globals.isEmpty

end DeclGen
