import DeclGen.Handler.Dispatch

/-!
What a run of the handlers looks like from outside. The handlers are replaced by ones that note their
own call and do nothing else; what they have noted at the end is the trace of the run. The entities of
a unit are listed beside it, and the trace goes through this list once, calling at each entity all
handlers of its kind.
-/
namespace DeclGen

structure Target where
  kind : HandlerKind
  subject : Subject kind

def Class.targets (c : Class) : List Target :=
  ⟨.classType, c⟩
    :: (c.methods.map (fun method => ⟨.method, (method, c)⟩)
      ++ c.members.map (fun member => ⟨.member, (member, c)⟩))

def SourceUnit.contents (unit : SourceUnit) : List Target :=
  unit.functions.map (fun f => ⟨.function, f⟩) ++ unit.globals.map (fun v => ⟨.variable, v⟩)
    ++ unit.classes.flatMap Class.targets

def SourceUnit.targets (unit : SourceUnit) : List Target := ⟨.unit, unit⟩ :: unit.contents

namespace Call

variable {H K : HandlerKind → Type}

def target (call : Call H) : Target := ⟨call.kind, call.subject⟩

def map (f : (kind : HandlerKind) → H kind → K kind) (call : Call H) : Call K :=
  ⟨call.kind, f call.kind call.handler, call.subject⟩

/-- Stands in for a handler and notes that it was called. -/
def note (kind : HandlerKind) (handler : H kind) : Handler (List (Call H)) kind :=
  fun subject noted => noted ++ [⟨kind, handler, subject⟩]

theorem foldl_note (calls noted : List (Call H)) :
    (calls.map (Call.map note)).foldl (fun s call => call.run s) noted = noted ++ calls := by
  induction calls generalizing noted with
  | nil => rw [List.append_nil]; rfl
  | cons call rest ih =>
    rw [List.map_cons, List.foldl_cons, ih]
    exact List.append_assoc noted [call] rest

end Call

namespace HandlerSet

variable {H K : HandlerKind → Type}

def callsAt (set : HandlerSet H) (target : Target) : List (Call H) :=
  set.callsWith target.kind target.subject

def trace (set : HandlerSet H) (unit : SourceUnit) : List (Call H) :=
  dispatch (set.map Call.note) unit []

theorem classCalls_eq_flatMap (set : HandlerSet H) (c : Class) :
    set.classCalls c = c.targets.flatMap set.callsAt := by
  simp only [classCalls, Class.targets, List.flatMap_cons, List.flatMap_append, List.flatMap_map,
    List.append_assoc]
  rfl

theorem calls_eq_flatMap (set : HandlerSet H) (unit : SourceUnit) :
    set.calls unit = unit.targets.flatMap set.callsAt := by
  have classes : set.classCalls = fun c => c.targets.flatMap set.callsAt :=
    funext set.classCalls_eq_flatMap
  simp only [calls, SourceUnit.targets, SourceUnit.contents, List.flatMap_cons, List.flatMap_append,
    List.flatMap_map, List.flatMap_assoc, classes, List.append_assoc]
  rfl

theorem callsAt_map (set : HandlerSet H) (f : (kind : HandlerKind) → H kind → K kind)
    (target : Target) : (set.map f).callsAt target = (set.callsAt target).map (Call.map f) := by
  simp only [callsAt, callsWith, HandlerSet.map, List.map_map]
  rfl

theorem calls_map (set : HandlerSet H) (f : (kind : HandlerKind) → H kind → K kind)
    (unit : SourceUnit) : (set.map f).calls unit = (set.calls unit).map (Call.map f) := by
  rw [calls_eq_flatMap, calls_eq_flatMap, List.map_flatMap]
  exact congrArg unit.targets.flatMap (funext (set.callsAt_map f))

theorem trace_eq_calls (set : HandlerSet H) (unit : SourceUnit) : set.trace unit = set.calls unit := by
  rw [trace, dispatch, calls_map, Call.foldl_note, List.nil_append]

theorem trace_map (set : HandlerSet H) (f : (kind : HandlerKind) → H kind → K kind)
    (unit : SourceUnit) : (set.map f).trace unit = (set.trace unit).map (Call.map f) := by
  rw [trace_eq_calls, trace_eq_calls, calls_map]

theorem trace_eq_flatMap (set : HandlerSet H) (unit : SourceUnit) :
    set.trace unit = unit.targets.flatMap set.callsAt := by
  rw [trace_eq_calls, calls_eq_flatMap]

end HandlerSet
end DeclGen
