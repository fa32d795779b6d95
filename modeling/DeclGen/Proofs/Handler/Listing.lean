import DeclGen.Inspect
import DeclGen.Proofs.Handler.Trace
import Mathlib.Data.List.Forall2

/-!
The listing of a unit beside a run of handlers over it. The rows are put together by one traversal of
the unit and the calls by another one; both come to the same entities in the same order. A set with
one handler of each kind therefore makes one call for each row, after the call for the unit itself.
-/
namespace DeclGen

namespace Target

def isConstructor : Target → Bool
  | ⟨.method, (f, _)⟩ => f.isConstructor
  | _ => false

end Target

namespace Inspect

namespace Sample

def vector : Class where
  name := "Vec".text
  fullNamespace := "Vec".text
  methods := [{ name := "Vec".text, isConstructor := true }, { name := "length".text }]
  members := [{ name := "x".text }]

def unit : SourceUnit where
  path := Path.here
  functions := [{ name := "add".text }]
  globals := [{ name := "gravity".text }]
  classes := [vector, {}]

end Sample

end Inspect
end DeclGen
