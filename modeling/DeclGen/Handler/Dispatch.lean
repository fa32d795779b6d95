import DeclGen.Handler

/-!
Running a handler set over a unit. The order is fixed: the unit, its functions, its variables, then
for each class the class, its methods and its members. The calls are listed first and then made, one
after the other on one state.
-/
namespace DeclGen

structure Call (H : HandlerKind → Type) where
  kind : HandlerKind
  handler : H kind
  subject : Subject kind

namespace HandlerSet

variable {H : HandlerKind → Type}

def callsWith (set : HandlerSet H) (kind : HandlerKind) (subject : Subject kind) : List (Call H) :=
  (set.handlersFor kind).map fun handler => ⟨kind, handler, subject⟩

def classCalls (set : HandlerSet H) (c : Class) : List (Call H) :=
  set.callsWith .classType c
    ++ c.methods.flatMap (fun method => set.callsWith .method (method, c))
    ++ c.members.flatMap (fun member => set.callsWith .member (member, c))

def calls (set : HandlerSet H) (unit : SourceUnit) : List (Call H) :=
  set.callsWith .unit unit
    ++ unit.functions.flatMap (set.callsWith .function)
    ++ unit.globals.flatMap (set.callsWith .variable)
    ++ unit.classes.flatMap set.classCalls

end HandlerSet

def Call.run {σ : Type} (call : Call (Handler σ)) (state : σ) : σ := call.handler call.subject state

def dispatch {σ : Type} (set : HandlerSet (Handler σ)) (unit : SourceUnit) (state : σ) : σ :=
  (set.calls unit).foldl (fun s call => call.run s) state

end DeclGen
