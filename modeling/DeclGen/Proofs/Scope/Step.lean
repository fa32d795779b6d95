import DeclGen.Scope

/-!
What one event does to a tracker. `Accepts` lists the steps an event can take, with the guard of
each; a step that is not on the list is refused and leaves the state as it was. Everything about runs
is derived from this list, so that the tracker's own code is opened here only.
-/
namespace DeclGen.Scope

section Branches

variable {s : State} {d : Declaration}

theorem enterRecord_bare (bare : attached d = []) :
    s.enterRecord d = { s with classStack := none :: s.classStack } := by
  simp [State.enterRecord, bare]

theorem enterRecord_annotated (annotated : attached d ≠ []) :
    s.enterRecord d =
      { s with
        unit := { s.unit with classes := s.unit.classes ++ [classOf s.path d (attached d)] }
        classStack := some s.unit.classes.length :: s.classStack } := by
  simp [State.enterRecord]

theorem enterField_bare (bare : attached d = []) : s.enterField d = s := by
  simp [State.enterField, bare]

theorem enterField_orphan (annotated : attached d ≠ []) (homeless : s.openClass? = none) :
    s.enterField d = s.orphan .member d := by
  simp [State.enterField, homeless]

theorem enterField_owned {position : Nat} (annotated : attached d ≠ [])
    (owner : s.openClass? = some position) :
    s.enterField d = s.modifyClass position fun c =>
      { c with members := c.members ++ [variableOf s.path d (attached d)] } := by
  simp [State.enterField, owner]

theorem enterVariable_bare (bare : attached d = []) : s.enterVariable d = s := by
  simp [State.enterVariable, bare]

theorem enterVariable_annotated (annotated : attached d ≠ []) :
    s.enterVariable d =
      { s with
        unit := { s.unit with
          globals := s.unit.globals ++ [variableOf s.path d (attached d)] } } := by
  simp [State.enterVariable]

theorem enterParameter_outside (outside : s.functionStack = []) :
    s.enterParameter d =
      { s with unit := { s.unit with skippedParameters := s.unit.skippedParameters + 1 } } := by
  simp [State.enterParameter, outside]

theorem enterParameter_inside {f : Function} {outer : List Function}
    (inside : s.functionStack = f :: outer) :
    s.enterParameter d =
      { s with functionStack := f.addParameter (variableOf s.path d []) :: outer } := by
  simp [State.enterParameter, inside]

theorem storeMethod_orphan {f : Function} (homeless : s.openClass? = none) :
    s.storeMethod f d = s.orphan .method d := by
  simp [State.storeMethod, homeless]

theorem storeMethod_owned {f : Function} {position : Nat} (owner : s.openClass? = some position) :
    s.storeMethod f d =
      s.modifyClass position fun c => { c with methods := c.methods ++ [f] } := by
  simp [State.storeMethod, owner]

end Branches

/-- The step that an accepted event takes from `s`. -/
inductive Accepts (s : State) : Event → State → Prop where
  | deeper (d : Declaration) (skipping : 0 < s.skipDepth) :
      Accepts s (.enter d) { s with skipDepth := s.skipDepth + 1 }
  | foreign (d : Declaration) (reading : s.skipDepth = 0) (elsewhere : d.file ≠ s.path) :
      Accepts s (.enter d) { s with skipDepth := 1 }
  | record (d : Declaration) (reading : s.skipDepth = 0) (own : d.file = s.path)
      (kind : d.kind = .record) : Accepts s (.enter d) ((s.enterRecord d).push .classBody)
  | field (d : Declaration) (reading : s.skipDepth = 0) (own : d.file = s.path)
      (kind : d.kind = .field) : Accepts s (.enter d) ((s.enterField d).push .plain)
  | parameter (d : Declaration) (reading : s.skipDepth = 0) (own : d.file = s.path)
      (kind : d.kind = .parameter) : Accepts s (.enter d) ((s.enterParameter d).push .plain)
  | global (d : Declaration) (reading : s.skipDepth = 0) (own : d.file = s.path)
      (kind : d.kind = .variable) : Accepts s (.enter d) ((s.enterVariable d).push .plain)
  | passOver (d : Declaration) (reading : s.skipDepth = 0) (own : d.file = s.path)
      (kind : d.kind.isFunctionKind = true) (alone : s.functionStack = [])
      (bare : attached d = []) : Accepts s (.enter d) { s with skipDepth := 1 }
  | function (d : Declaration) (reading : s.skipDepth = 0) (own : d.file = s.path)
      (kind : d.kind.isFunctionKind = true) (alone : s.functionStack = [])
      (annotated : attached d ≠ []) :
      Accepts s (.enter d)
        (({ s with functionStack := [functionOf s.path d (attached d)] } : State).push
          (if d.kind = .function then .function else .method))
  | shallower (d : Declaration) (skipping : 0 < s.skipDepth) :
      Accepts s (.exit d) { s with skipDepth := s.skipDepth - 1 }
  | endPlain (d : Declaration) (outer : List Frame) (reading : s.skipDepth = 0)
      (top : s.frames = .plain :: outer) : Accepts s (.exit d) { s with frames := outer }
  | endClass (d : Declaration) (outer : List Frame) (reading : s.skipDepth = 0)
      (top : s.frames = .classBody :: outer) :
      Accepts s (.exit d) { s with frames := outer, classStack := s.classStack.tail }
  | endMethod (d : Declaration) (outer : List Frame) (f : Function) (functions : List Function)
      (reading : s.skipDepth = 0) (top : s.frames = .method :: outer)
      (current : s.functionStack = f :: functions) :
      Accepts s (.exit d)
        (({ s with frames := outer, functionStack := functions } : State).storeMethod f d)
  | endFunction (d : Declaration) (outer : List Frame) (f : Function) (functions : List Function)
      (reading : s.skipDepth = 0) (top : s.frames = .function :: outer)
      (current : s.functionStack = f :: functions) :
      Accepts s (.exit d)
        { s with
          frames := outer
          functionStack := functions
          unit := { s.unit with functions := s.unit.functions ++ [f] } }

def Supplied (s : State) : Prop :=
  s.functionStack.length = s.frames.count .method + s.frames.count .function

theorem enter_functionKind {s : State} {d : Declaration} (reading : s.skipDepth = 0)
    (own : d.file = s.path) (kind : d.kind.isFunctionKind = true) :
    s.enter d = s.enterFunction d := by
  cases same : d.kind <;> simp [DeclKind.isFunctionKind, same] at kind <;>
    simp [State.enter, reading, own, same]

theorem enterFunction_cases (s : State) (d : Declaration) (reading : s.skipDepth = 0)
    (own : d.file = s.path) (kind : d.kind.isFunctionKind = true) :
    (Accepts s (.enter d) (s.enterFunction d).1 ∧ (s.enterFunction d).2 = none) ∨
      ((s.enterFunction d).1 = s ∧ ∃ error, (s.enterFunction d).2 = some error) := by
  cases stack : s.functionStack with
  | cons f outer =>
    have refused : s.enterFunction d =
        (s, some (.nestedFunction d.qualifiedName s.path f.fullNamespace)) := by
      simp [State.enterFunction, stack]
    exact .inr ⟨by rw [refused], _, by rw [refused]⟩
  | nil =>
    by_cases bare : attached d = []
    · have skipped : s.enterFunction d = ({ s with skipDepth := 1 }, none) := by
        simp [State.enterFunction, stack, bare]
      rw [skipped]
      exact .inl ⟨.passOver d reading own kind stack bare, rfl⟩
    · have opened : s.enterFunction d =
          (({ s with functionStack := [functionOf s.path d (attached d)] } : State).push
            (if d.kind = .function then .function else .method), none) := by
        simp [State.enterFunction, stack]
      rw [opened]
      exact .inl ⟨.function d reading own kind stack bare, rfl⟩

theorem enter_cases (s : State) (d : Declaration) :
    (Accepts s (.enter d) (s.enter d).1 ∧ (s.enter d).2 = none) ∨
      ((s.enter d).1 = s ∧ ∃ error, (s.enter d).2 = some error) := by
  unfold State.enter
  split
  · next skipping => exact .inl ⟨.deeper d skipping, rfl⟩
  · next idle =>
    have reading : s.skipDepth = 0 := by omega
    split
    · next elsewhere => exact .inl ⟨.foreign d reading elsewhere, rfl⟩
    · next file =>
      have own : d.file = s.path := Classical.not_not.mp file
      cases kind : d.kind with
      | record => exact .inl ⟨.record d reading own kind, rfl⟩
      | field => exact .inl ⟨.field d reading own kind, rfl⟩
      | method => exact enterFunction_cases s d reading own (by rw [kind]; rfl)
      | constructor => exact enterFunction_cases s d reading own (by rw [kind]; rfl)
      | parameter => exact .inl ⟨.parameter d reading own kind, rfl⟩
      | «variable» => exact .inl ⟨.global d reading own kind, rfl⟩
      | function => exact enterFunction_cases s d reading own (by rw [kind]; rfl)
      | unknown name => exact .inr ⟨rfl, _, rfl⟩

theorem exit_cases (s : State) (d : Declaration) (supplied : Supplied s) :
    (Accepts s (.exit d) (s.exit d).1 ∧ (s.exit d).2 = none) ∨
      ((s.exit d).1 = s ∧ ∃ error, (s.exit d).2 = some error) := by
  unfold State.exit
  split
  · next skipping => exact .inl ⟨.shallower d skipping, rfl⟩
  · next idle =>
    have reading : s.skipDepth = 0 := by omega
    cases top : s.frames with
    | nil => exact .inr ⟨rfl, _, rfl⟩
    | cons frame outer =>
      cases frame with
      | plain => exact .inl ⟨.endPlain d outer reading top, rfl⟩
      | classBody => exact .inl ⟨.endClass d outer reading top, rfl⟩
      | method =>
        cases current : s.functionStack with
        | nil => simp [Supplied, top, current] at supplied; omega
        | cons f functions =>
          exact .inl ⟨.endMethod d outer f functions reading top current, rfl⟩
      | function =>
        cases current : s.functionStack with
        | nil => simp [Supplied, top, current] at supplied
        | cons f functions =>
          exact .inl ⟨.endFunction d outer f functions reading top current, rfl⟩

theorem feed_cases (s : State) (event : Event) (supplied : Supplied s) :
    (Accepts s event (s.feed event).1 ∧ (s.feed event).2 = none) ∨
      ((s.feed event).1 = s ∧ ∃ error, (s.feed event).2 = some error) := by
  cases event with
  | enter d => exact enter_cases s d
  | exit d => exact exit_cases s d supplied

theorem feed_of_accepts {s next : State} {event : Event} (step : Accepts s event next) :
    s.feed event = (next, none) := by
  cases step with
  | deeper d skipping => simp [State.feed, State.enter, skipping]
  | foreign d reading elsewhere => simp [State.feed, State.enter, reading, elsewhere]
  | record d reading own kind => simp [State.feed, State.enter, reading, own, kind]
  | field d reading own kind => simp [State.feed, State.enter, reading, own, kind]
  | parameter d reading own kind => simp [State.feed, State.enter, reading, own, kind]
  | global d reading own kind => simp [State.feed, State.enter, reading, own, kind]
  | passOver d reading own kind alone bare =>
    rw [State.feed, enter_functionKind reading own kind]
    simp [State.enterFunction, alone, bare]
  | function d reading own kind alone annotated =>
    rw [State.feed, enter_functionKind reading own kind]
    simp [State.enterFunction, alone]
  | shallower d skipping => simp [State.feed, State.exit, skipping]
  | endPlain d outer reading top => simp [State.feed, State.exit, reading, top]
  | endClass d outer reading top => simp [State.feed, State.exit, reading, top]
  | endMethod d outer f functions reading top current =>
    simp [State.feed, State.exit, reading, top, current]
  | endFunction d outer f functions reading top current =>
    simp [State.feed, State.exit, reading, top, current]

/-- A declaration for closed instances; its file is the current directory unless one is named. -/
def Sample.declaration (kind : DeclKind) (name lineAbove : String) (file : Path := Path.here) :
    Declaration where
  kind := kind
  qualifiedName := name.text
  name := name.text
  lineAbove := lineAbove.text
  file := file
  sourceText := []

end DeclGen.Scope
