import DeclGen.Choice
import DeclGen.Path

/-!
Declarations and the event streams that carry them. A stream announces every declaration twice, when
its extent begins and when it ends; a forest of declarations is the nested view of such a stream, and
`Forest.events` lists it depth first.
-/
namespace DeclGen

inductive DeclKind where
  | record
  | field
  | method
  | constructor
  | parameter
  | variable
  | function
  | unknown (name : Text)
  deriving DecidableEq, Repr

namespace DeclKind

def text : DeclKind → Text
  | .record => "record".text
  | .field => "field".text
  | .method => "method".text
  | .constructor => "constructor".text
  | .parameter => "parameter".text
  | .variable => "variable".text
  | .function => "function".text
  | .unknown name => name

def known : List DeclKind :=
  [.record, .field, .method, .constructor, .parameter, .variable, .function]

def ofText (name : Text) : DeclKind := (known.find? fun kind => kind.text == name).getD (.unknown name)

def isFunctionKind : DeclKind → Bool
  | .method | .constructor | .function => true
  | _ => false

end DeclKind

structure Declaration where
  kind : DeclKind
  qualifiedName : Text
  name : Text
  /-- The source line above the declared name, where a directive may stand. -/
  lineAbove : Text
  file : Path
  /-- The text from which a type is spelled; empty for records. -/
  sourceText : Text
  deriving DecidableEq

inductive Event where
  | enter (decl : Declaration)
  | exit (decl : Declaration)
  deriving DecidableEq

def Event.ofPhase (phase : Text) (decl : Declaration) : Except InvalidChoice Event :=
  if phase = "enter".text then .ok (.enter decl)
  else if phase = "exit".text then .ok (.exit decl)
  else .error ⟨"Phase".text, phase⟩

inductive DeclTree where
  | node (decl : Declaration) (children : List DeclTree)

abbrev Forest := List DeclTree

namespace DeclTree

def decl : DeclTree → Declaration
  | .node decl _ => decl

def children : DeclTree → List DeclTree
  | .node _ children => children

def leaf (decl : Declaration) : DeclTree := .node decl []

mutual

def events : DeclTree → List Event
  | .node decl children => .enter decl :: (eventsOf children ++ [.exit decl])

def eventsOf : List DeclTree → List Event
  | [] => []
  | tree :: rest => events tree ++ eventsOf rest

end

end DeclTree

def Forest.events (forest : Forest) : List Event := DeclTree.eventsOf forest

end DeclGen
