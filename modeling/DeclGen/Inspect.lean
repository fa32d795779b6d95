import DeclGen.Entity
import DeclGen.Output.Render

/-!
The entities of a unit as rows of text: kind, name, type and properties. Functions come first, then
variables, then every class followed by its methods and its members.
-/
namespace DeclGen.Inspect

structure Row where
  kind : Text
  name : Text
  type : Text
  properties : Text
  deriving DecidableEq, Repr

def functionRow (f : Function) : Row :=
  ⟨"function".text, f.fullNamespace, f.returnType, Property.formatArguments f.properties⟩

def variableRow (kind : String) (v : Variable) : Row :=
  ⟨kind.text, v.fullNamespace, v.type, Property.formatArguments v.properties⟩

def methodRow (f : Function) : Row :=
  ⟨if f.isConstructor then "constructor".text else "method".text,
    f.fullNamespace ++ [CodePoint.char '('] ++ Output.parameterList f.parameters
      ++ [CodePoint.char ')'], f.returnType,
    Property.formatArguments f.properties⟩

def classRows (c : Class) : List Row :=
  ⟨"class".text, c.fullNamespace, [], Property.formatArguments c.properties⟩
    :: (c.methods.map methodRow ++ c.members.map (variableRow "member"))

def rows (unit : SourceUnit) : List Row :=
  unit.functions.map functionRow ++ unit.globals.map (variableRow "variable")
    ++ unit.classes.flatMap classRows

end DeclGen.Inspect
