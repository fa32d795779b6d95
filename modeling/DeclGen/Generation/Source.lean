import DeclGen.FileStore
import DeclGen.Language
import DeclGen.Scope
import DeclGen.SyntaxTree.Reader

/-!
Where declarations come from. A source gives a stream for a path: events, and perhaps a fault that
ends them early. The usual source reads a file and has the grammar parse it with its directives
blanked out.
-/
namespace DeclGen

inductive SourceError where
  | unsupported (suffix : Text)
  /-- The file is missing; it is named the way it was asked for. -/
  | notFound (written : Text)
  | file (error : FileError)
  /-- A fault reported by another source; a fatal one ends the whole run. -/
  | reported (message : Text) (isFatal : Bool)
  deriving DecidableEq

namespace SourceError

def message : SourceError → Text
  | .unsupported suffix => Language.unsupportedMessage suffix
  | .notFound written => "File not found: ".text ++ written
  | .file error => error.message
  | .reported message _ => message

def isFatal : SourceError → Bool
  | .reported _ isFatal => isFatal
  | _ => false

end SourceError

/-- A declaration stream; a fault comes after all its events. -/
structure DeclStream where
  events : List Event
  fault : Option SourceError

abbrev DeclarationSource := Path → DeclStream

/-- The tree that a parser finds in a source whose directives are blanked out. -/
abbrev Grammar := Utf8.Bytes → SyntaxTree.Node

/-- The declarations in a file, which the caller wrote as `written`. The suffix is looked at before
the file. -/
def readDeclarations (store : FileStore) (grammar : Grammar) (path : Path) (written : Text) :
    Except SourceError (List Event) :=
  match Language.detect path with
  | .error suffix => .error (.unsupported suffix)
  | .ok _ =>
    match store.read path with
    | .error (.missing _) => .error (.notFound written)
    | .error error => .error (.file error)
    | .ok content => .ok (SyntaxTree.events path content (grammar (Directive.mask content)))

def fileSource (store : FileStore) (grammar : Grammar) : DeclarationSource := fun path =>
  match readDeclarations store grammar path path.text with
  | .ok events => ⟨events, none⟩
  | .error error => ⟨[], some error⟩

inductive ParseFailure where
  | source (error : SourceError)
  | scope (error : Scope.ScopeError)
  deriving DecidableEq

namespace ParseFailure

def message : ParseFailure → Text
  | .source error => error.message
  | .scope error => error.message

def isFatal : ParseFailure → Bool
  | .source error => error.isFatal
  | .scope _ => false

end ParseFailure
end DeclGen
