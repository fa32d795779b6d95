import DeclGen.Generation.Source

/-!
The notices of a run: what happened, how grave it is, and its wording.
-/
namespace DeclGen

inductive Gravity where
  | debug
  | info
  | warning
  | error
  deriving DecidableEq, Repr

namespace Gravity

def text : Gravity → Text
  | .debug => "DEBUG".text
  | .info => "INFO".text
  | .warning => "WARNING".text
  | .error => "ERROR".text

def rank : Gravity → Nat
  | .debug => 10
  | .info => 20
  | .warning => 30
  | .error => 40

end Gravity

inductive Notice where
  | loadedHandlers (description target : Text)
  | projectListed (path : Path) (headers : Nat)
  | parsing (path : Path)
  | orphan (path : Path) (orphan : Scope.Orphan)
  | skippedParameters (path : Path) (count : Int)
  | parseFailed (path : Path) (failure : ParseFailure)
  | emptyUnit (path : Path)
  | wrote (path : Path)
  | writeFailed (path : Path) (error : FileError)

namespace Notice

def gravity : Notice → Gravity
  | .loadedHandlers .. | .emptyUnit _ => .debug
  | .projectListed .. | .parsing _ | .skippedParameters .. | .wrote _ => .info
  | .orphan .. => .warning
  | .parseFailed .. | .writeFailed .. => .error

def roleText : Scope.OrphanRole → Text
  | .member => "member".text
  | .method => "method".text

def message : Notice → Text
  | .loadedHandlers description target =>
    "Loaded ".text ++ description ++ " from ".text ++ target
  | .projectListed path headers =>
    "Project ".text ++ path.text ++ " lists ".text ++ Text.ofNat headers ++ " header(s)".text
  | .parsing path => "Parsing ".text ++ path.text
  | .orphan path found =>
    "Annotated ".text ++ roleText found.role ++ " ".text ++ found.qualifiedName ++ " in ".text
      ++ path.text ++ " has no annotated enclosing class, skipping".text
  | .skippedParameters path count =>
    "Skipped ".text ++ Text.ofInt count ++ " parameter(s) in ".text ++ path.text
      ++ ", likely function pointers".text
  | .parseFailed path failure =>
    "Failed to parse ".text ++ path.text ++ ": ".text ++ failure.message
  | .emptyUnit path => "No annotated declarations in ".text ++ path.text
  | .wrote path => "Wrote ".text ++ path.text
  | .writeFailed path error =>
    "Could not write ".text ++ path.text ++ ": ".text ++ error.message

end Notice
end DeclGen
