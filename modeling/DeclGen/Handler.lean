import DeclGen.Choice
import DeclGen.Entity

/-!
Handler sets. A set has a list of handlers for each kind of entity; handlers of one kind run in the
order in which they were registered. What a handler is stays open: `Handler σ` changes a state, and
other payloads serve to follow which handler is called when.
-/
namespace DeclGen

open CodePoint (char)

inductive HandlerKind where
  | unit
  | function
  | variable
  | classType
  | method
  | member
  deriving DecidableEq, Repr

namespace HandlerKind

def all : List HandlerKind := [.unit, .function, .variable, .classType, .method, .member]

def text : HandlerKind → Text
  | .unit => "unit".text
  | .function => "function".text
  | .variable => "variable".text
  | .classType => "class".text
  | .method => "method".text
  | .member => "member".text

def ofText (name : Text) : Except InvalidChoice HandlerKind :=
  match all.find? fun kind => kind.text == name with
  | some kind => .ok kind
  | none => .error ⟨"HandlerKind".text, name⟩

end HandlerKind

/-- What a handler of a kind is called with. Methods and members come with their class. -/
def Subject : HandlerKind → Type
  | .unit => SourceUnit
  | .function => Function
  | .variable => Variable
  | .classType => Class
  | .method => Function × Class
  | .member => Variable × Class

def Handler (σ : Type) (kind : HandlerKind) : Type := Subject kind → σ → σ

structure HandlerSet (H : HandlerKind → Type) where
  name : Text
  handlersFor : (kind : HandlerKind) → List (H kind)

namespace HandlerSet

variable {H : HandlerKind → Type}

def empty (H : HandlerKind → Type) (name : Text) : HandlerSet H := ⟨name, fun _ => []⟩

def defaultName : Text := "handlers".text

def register (set : HandlerSet H) (kind : HandlerKind) (handler : H kind) : HandlerSet H where
  name := set.name
  handlersFor := fun other =>
    if h : kind = other then set.handlersFor other ++ [h ▸ handler] else set.handlersFor other

def merge (first second : HandlerSet H) : HandlerSet H where
  name := first.name ++ [char '+'] ++ second.name
  handlersFor := fun kind => first.handlersFor kind ++ second.handlersFor kind

/-- Merges from the left; a single set stays as it is. -/
def mergeAll? : List (HandlerSet H) → Option (HandlerSet H)
  | [] => none
  | set :: rest => some (rest.foldl merge set)

def map {K : HandlerKind → Type} (set : HandlerSet H) (f : (kind : HandlerKind) → H kind → K kind) :
    HandlerSet K where
  name := set.name
  handlersFor := fun kind => (set.handlersFor kind).map (f kind)

def count (set : HandlerSet H) (kind : HandlerKind) : Nat := (set.handlersFor kind).length

def size (set : HandlerSet H) : Nat := HandlerKind.all.foldl (fun total kind => total + set.count kind) 0

def kinds (set : HandlerSet H) : List HandlerKind :=
  HandlerKind.all.filter fun kind => decide (0 < set.count kind)

def description (set : HandlerSet H) : Text :=
  let counts := set.kinds.map fun kind => kind.text ++ [char '='] ++ Text.ofNat (set.count kind)
  "HandlerSet(".text ++ Text.quoted set.name ++ ", ".text ++ joinWith ", ".text counts ++ [char ')']

end HandlerSet
end DeclGen
