import DeclGen.Proofs.Scope.Step

/-!
What a forest of declarations means, put together from what its parts mean, and the tracker computes
it. A part does not know what stands around it, so its meaning keeps apart what is for the class
around it, what is for the function around it, and what is for the unit. The tracker's stacks and
counters do not occur in it.
-/
namespace DeclGen.Scope

structure Yield where
  /-- For the class around the part. -/
  members : List Variable := []
  methods : List Function := []
  /-- For the function around the part. -/
  parameters : List Variable := []
  classes : List Class := []
  functions : List Function := []
  globals : List Variable := []
  /-- Members and methods of the part's own classes without a directive. -/
  lost : Nat := 0

namespace Yield

def append (a b : Yield) : Yield where
  members := a.members ++ b.members
  methods := a.methods ++ b.methods
  parameters := a.parameters ++ b.parameters
  classes := a.classes ++ b.classes
  functions := a.functions ++ b.functions
  globals := a.globals ++ b.globals
  lost := a.lost + b.lost

def ownClass (path : Path) (d : Declaration) (members : List Variable) (methods : List Function) :
    List Class :=
  if attached d = [] then []
  else [{ classOf path d (attached d) with members := members, methods := methods }]

/-- The yield of a record around what its body yields: members and methods stay with it. -/
def ofRecord (path : Path) (d : Declaration) (body : Yield) : Yield :=
  { body with
    members := []
    methods := []
    classes := ownClass path d body.members body.methods ++ body.classes
    lost := body.lost + if attached d = [] then body.members.length + body.methods.length else 0 }

def ownVariable (path : Path) (d : Declaration) : List Variable :=
  if attached d = [] then [] else [variableOf path d (attached d)]

/-- What a declaration that is neither a record nor a function yields by itself. -/
def own (path : Path) (d : Declaration) : Yield :=
  match d.kind with
  | .field => { members := ownVariable path d }
  | .variable => { globals := ownVariable path d }
  | .parameter => { parameters := [variableOf path d []] }
  | _ => {}

def ownFunction (path : Path) (d : Declaration) (parameters : List Variable) : Function :=
  parameters.foldl Function.addParameter (functionOf path d (attached d))

/-- The yield of a function around what its extent yields: parameters stay with it, and all of it is
nothing without a directive. -/
def ofFunction (path : Path) (d : Declaration) (extent : Yield) : Yield :=
  if attached d = [] then {}
  else if d.kind = .function then
    append { extent with parameters := [] } { functions := [ownFunction path d extent.parameters] }
  else append { extent with parameters := [] } { methods := [ownFunction path d extent.parameters] }

def ofDeclaration (path : Path) (d : Declaration) (inner : Yield) : Yield :=
  if d.file ≠ path then {}
  else
    match d.kind with
    | .record => ofRecord path d inner
    | .field | .variable | .parameter => append (own path d) inner
    | .method | .constructor | .function => ofFunction path d inner
    | .unknown _ => {}

end Yield

mutual

def meaning (path : Path) : DeclTree → Yield
  | .node d children => .ofDeclaration path d (meaningOf path children)

def meaningOf (path : Path) : List DeclTree → Yield
  | [] => {}
  | tree :: rest => (meaning path tree).append (meaningOf path rest)

end

mutual

/-- Whether the tracker gets through a tree: kinds are known, and no function is met inside an open
one. What it passes over may be anything. -/
def Fits (path : Path) (inFunction : Bool) : DeclTree → Prop
  | .node d children =>
    d.file = path →
      if d.kind.isFunctionKind then
        inFunction = false ∧ (attached d ≠ [] → FitsAll path true children)
      else d.kind ∈ DeclKind.known ∧ FitsAll path inFunction children

def FitsAll (path : Path) (inFunction : Bool) : List DeclTree → Prop
  | [] => True
  | tree :: rest => Fits path inFunction tree ∧ FitsAll path inFunction rest

end

def addContents (owner : Option Nat) (members : List Variable) (methods : List Function)
    (classes : List Class) : List Class :=
  match owner with
  | none => classes
  | some i => classes.modify i fun c =>
      { c with members := c.members ++ members, methods := c.methods ++ methods }

/-- The state after a part of a forest, if nothing of the part stays open. -/
def State.absorb (s : State) (y : Yield) : State :=
  { s with
    unit :=
      { s.unit with
        classes := addContents s.openClass? y.members y.methods s.unit.classes ++ y.classes
        functions := s.unit.functions ++ y.functions
        globals := s.unit.globals ++ y.globals
        skippedParameters := s.unit.skippedParameters +
          (if s.functionStack.isEmpty then y.parameters.length else 0 : Nat)
        unattributed := s.unit.unattributed +
          (y.lost + if s.openClass?.isNone then y.members.length + y.methods.length else 0 : Nat) }
    functionStack :=
      match s.functionStack with
      | [] => []
      | f :: outer => y.parameters.foldl Function.addParameter f :: outer }

theorem modify_append_of_lt {change : Class → Class} {classes : List Class} {i : Nat}
    (inside : i < classes.length) (more : List Class) :
    (classes ++ more).modify i change = classes.modify i change ++ more := by
  induction classes generalizing i with
  | nil => simp at inside
  | cons c rest ih =>
    cases i with
    | zero => rfl
    | succ n => simp [ih (Nat.lt_of_succ_lt_succ inside)]

theorem addContents_nil (owner : Option Nat) (classes : List Class) :
    addContents owner [] [] classes = classes := by
  cases owner with
  | none => rfl
  | some i =>
    simp only [addContents, List.append_nil]
    exact List.modify_id i classes

theorem addContents_append {owner : Option Nat} {classes : List Class}
    (stored : ∀ i, owner = some i → i < classes.length) (members more : List Variable)
    (methods others : List Function) (new : List Class) :
    addContents owner more others (addContents owner members methods classes ++ new) =
      addContents owner (members ++ more) (methods ++ others) classes ++ new := by
  cases owner with
  | none => rfl
  | some i =>
    have inside := stored i rfl
    simp only [addContents]
    rw [modify_append_of_lt (by simpa using inside), List.modify_modify_eq]
    simp [Function.comp_def]

theorem addContents_new (classes : List Class) (c : Class) (members : List Variable)
    (methods : List Function) :
    addContents (some classes.length) members methods (classes ++ [c]) =
      classes ++ [{ c with members := c.members ++ members, methods := c.methods ++ methods }] := by
  simp only [addContents]
  induction classes with
  | nil => rfl
  | cons first rest ih => simp [ih]

theorem length_addContents (owner : Option Nat) (members : List Variable) (methods : List Function)
    (classes : List Class) : (addContents owner members methods classes).length = classes.length := by
  cases owner <;> simp [addContents]

theorem absorb_empty (s : State) : s.absorb {} = s := by
  cases s with
  | mk unit classStack functionStack frames skipDepth orphans =>
    cases functionStack <;> simp [State.absorb, addContents_nil]

/-- The state in which a part of a forest begins, inside an open function or outside of one. -/
structure Prepared (path : Path) (inFunction : Bool) (s : State) : Prop where
  reading : s.skipDepth = 0
  path : s.path = path
  stored : ∀ i, s.openClass? = some i → i < s.unit.classes.length
  function : s.functionStack.isEmpty = !inFunction

theorem Prepared.absorb {path : Path} {inFunction : Bool} {s : State}
    (prepared : Prepared path inFunction s) (y : Yield) :
    Prepared path inFunction (s.absorb y) := by
  refine ⟨prepared.reading, prepared.path, ?_, ?_⟩
  · intro i owner
    have inside := prepared.stored i owner
    simp only [State.absorb, List.length_append, length_addContents]
    omega
  · rw [← prepared.function]
    cases functions : s.functionStack <;> simp [State.absorb, functions]

theorem absorb_append {path : Path} {inFunction : Bool} {s : State}
    (prepared : Prepared path inFunction s) (a b : Yield) :
    (s.absorb a).absorb b = s.absorb (a.append b) := by
  have owner : (s.absorb a).openClass? = s.openClass? := rfl
  have empty : (s.absorb a).functionStack.isEmpty = s.functionStack.isEmpty := by
    rw [(prepared.absorb a).function, prepared.function]
  rw [State.absorb, owner, empty]
  simp only [State.absorb, Yield.append, State.mk.injEq, SourceUnit.mk.injEq, true_and, and_true]
  refine ⟨⟨?_, ?_, ?_, ?_, ?_⟩, ?_⟩
  · rw [addContents_append prepared.stored, List.append_assoc]
  · rw [List.append_assoc]
  · rw [List.append_assoc]
  · split
    · simp only [List.length_append]; omega
    · omega
  · split
    · simp only [List.length_append]; omega
    · omega
  · cases s.functionStack with
    | nil => rfl
    | cons f outer => simp [List.foldl_append]

theorem run_of_accepts {s next : State} {event : Event} (step : Accepts s event next)
    (rest : List Event) : s.run (event :: rest) = next.run rest := by
  simp [State.run, feed_of_accepts step]

theorem run_append {s t : State} {first : List Event} (run : s.run first = (t, none))
    (second : List Event) : s.run (first ++ second) = t.run second := by
  induction first generalizing s with
  | nil =>
    obtain ⟨rfl, _⟩ := Prod.mk.inj run
    rfl
  | cons event rest ih =>
    simp only [List.cons_append, State.run] at run ⊢
    split at run
    · next next fed => exact ih run
    · next failed other =>
      rw [run] at other
      exact absurd rfl (other t)

theorem run_node {s opened last closed : State} {d : Declaration} {children : List DeclTree}
    (opens : Accepts s (.enter d) opened)
    (extent : opened.run (DeclTree.eventsOf children) = (last, none))
    (closes : Accepts last (.exit d) closed) :
    s.run (DeclTree.node d children).events = (closed, none) := by
  rw [DeclTree.events, run_of_accepts opens, run_append extent, run_of_accepts closes]
  rfl

mutual

theorem run_skipped_tree (s : State) (skipping : 0 < s.skipDepth) :
    (tree : DeclTree) → s.run tree.events = (s, none)
  | .node d children => by
    have inner := run_skipped_forest { s with skipDepth := s.skipDepth + 1 } (Nat.succ_pos _) children
    exact run_node (.deeper d skipping) inner (.shallower d (Nat.succ_pos _))

theorem run_skipped_forest (s : State) (skipping : 0 < s.skipDepth) :
    (forest : List DeclTree) → s.run (DeclTree.eventsOf forest) = (s, none)
  | [] => rfl
  | tree :: rest => by
    rw [DeclTree.eventsOf, run_append (run_skipped_tree s skipping tree)]
    exact run_skipped_forest s skipping rest

end

theorem run_passed_over {s : State} {d : Declaration} (reading : s.skipDepth = 0)
    (step : Accepts s (.enter d) { s with skipDepth := 1 }) (children : List DeclTree) :
    s.run (DeclTree.node d children).events = (s, none) := by
  have inner := run_skipped_forest { s with skipDepth := 1 } Nat.one_pos children
  rw [run_node step inner (.shallower d Nat.one_pos)]
  simp only [Nat.sub_self, ← reading]

/-- The events lead from `s` to the state that has absorbed `y`. Which unattributed declarations were
met on the way, and in which order, is left open; their number is part of the state. -/
def Yields (s : State) (events : List Event) (y : Yield) : Prop :=
  ∃ orphans, s.run events = ({ s.absorb y with orphans := orphans }, none)

theorem Yields.of_run {s : State} {events : List Event} (run : s.run events = (s, none)) :
    Yields s events {} := by
  refine ⟨s.orphans, ?_⟩
  rw [absorb_empty]
  exact run

theorem Yields.append {path : Path} {inFunction : Bool} {s : State} {first second : List Event}
    {a b : Yield} (prepared : Prepared path inFunction s) (front : Yields s first a)
    (back : ∀ t, Prepared path inFunction t → Yields t second b) :
    Yields s (first ++ second) (a.append b) := by
  obtain ⟨orphans, run⟩ := front
  have middle : Prepared path inFunction { s.absorb a with orphans := orphans } :=
    ⟨(prepared.absorb a).reading, (prepared.absorb a).path, (prepared.absorb a).stored,
      (prepared.absorb a).function⟩
  obtain ⟨more, rest⟩ := back _ middle
  refine ⟨more, ?_⟩
  rw [run_append run, rest, ← absorb_append prepared]
  rfl

theorem enterField_absorbs (s : State) (d : Declaration) :
    ∃ orphans, s.enterField d =
      { s.absorb { members := Yield.ownVariable s.path d } with orphans := orphans } := by
  by_cases bare : attached d = []
  · refine ⟨s.orphans, ?_⟩
    rw [enterField_bare bare, Yield.ownVariable, if_pos bare, absorb_empty]
  · rw [Yield.ownVariable, if_neg bare]
    cases owner : s.openClass? with
    | none =>
      rw [enterField_orphan bare owner]
      refine ⟨(s.orphan .member d).orphans, ?_⟩
      cases functions : s.functionStack <;>
        simp [State.orphan, State.absorb, owner, addContents, functions]
    | some i =>
      rw [enterField_owned bare owner]
      refine ⟨s.orphans, ?_⟩
      cases functions : s.functionStack <;>
        simp [State.modifyClass, State.absorb, owner, addContents, functions]

theorem enterVariable_absorbs (s : State) (d : Declaration) :
    s.enterVariable d = s.absorb { globals := Yield.ownVariable s.path d } := by
  by_cases bare : attached d = []
  · rw [enterVariable_bare bare, Yield.ownVariable, if_pos bare, absorb_empty]
  · rw [enterVariable_annotated bare, Yield.ownVariable, if_neg bare]
    cases functions : s.functionStack <;> simp [State.absorb, addContents_nil, functions]

theorem enterParameter_absorbs (s : State) (d : Declaration) :
    s.enterParameter d = s.absorb { parameters := [variableOf s.path d []] } := by
  cases functions : s.functionStack with
  | nil =>
    rw [enterParameter_outside functions]
    simp [State.absorb, addContents_nil, functions]
  | cons f outer =>
    rw [enterParameter_inside functions]
    simp [State.absorb, addContents_nil, functions]

theorem storeMethod_absorbs (s : State) (f : Function) (d : Declaration) :
    ∃ orphans, s.storeMethod f d =
      { s.absorb { methods := [f] } with orphans := orphans } := by
  cases owner : s.openClass? with
  | none =>
    rw [storeMethod_orphan owner]
    refine ⟨(s.orphan .method d).orphans, ?_⟩
    cases functions : s.functionStack <;>
      simp [State.orphan, State.absorb, owner, addContents, functions]
  | some i =>
    rw [storeMethod_owned owner]
    refine ⟨s.orphans, ?_⟩
    cases functions : s.functionStack <;>
      simp [State.modifyClass, State.absorb, owner, addContents, functions]

section Nodes

variable {path : Path} {inFunction : Bool} {s : State} {d : Declaration} {children : List DeclTree}
  {inner : Yield}

theorem yields_plain {own : Yield} {opened : State} (prepared : Prepared path inFunction s)
    (step : Accepts s (.enter d) (opened.push .plain))
    (adds : ∃ orphans, opened = { s.absorb own with orphans := orphans })
    (extent : ∀ t, Prepared path inFunction t → Yields t (DeclTree.eventsOf children) inner) :
    Yields s (DeclTree.node d children).events (own.append inner) := by
  obtain ⟨orphans, rfl⟩ := adds
  have ready := prepared.absorb own
  obtain ⟨more, run⟩ := extent (State.push { s.absorb own with orphans := orphans } .plain)
    ⟨ready.reading, ready.path, ready.stored, ready.function⟩
  refine ⟨more, (run_node step run (.endPlain d s.frames ready.reading rfl)).trans ?_⟩
  rw [← absorb_append prepared]
  rfl

theorem yields_record (prepared : Prepared path inFunction s) (own : d.file = path)
    (kind : d.kind = .record)
    (body : ∀ t, Prepared path inFunction t → Yields t (DeclTree.eventsOf children) inner) :
    Yields s (DeclTree.node d children).events (.ofRecord path d inner) := by
  obtain rfl := prepared.path
  have step := Accepts.record d prepared.reading own kind
  by_cases bare : attached d = []
  · rw [enterRecord_bare bare] at step
    obtain ⟨orphans, run⟩ := body
      (State.push { s with classStack := none :: s.classStack } .classBody)
      ⟨prepared.reading, prepared.path, by simp [State.openClass?, State.push], prepared.function⟩
    refine ⟨orphans, (run_node step run (.endClass d s.frames prepared.reading rfl)).trans ?_⟩
    simp only [State.absorb, Yield.ofRecord, Yield.ownClass, addContents_nil]
    simp [State.push, State.openClass?, addContents, bare]
  · rw [enterRecord_annotated bare] at step
    obtain ⟨orphans, run⟩ := body
      (State.push { s with
        unit := { s.unit with classes := s.unit.classes ++ [classOf s.path d (attached d)] }
        classStack := some s.unit.classes.length :: s.classStack } .classBody)
      ⟨prepared.reading, prepared.path, by simp [State.openClass?, State.push], prepared.function⟩
    refine ⟨orphans, (run_node step run (.endClass d s.frames prepared.reading rfl)).trans ?_⟩
    simp only [State.absorb, Yield.ofRecord, Yield.ownClass, addContents_nil]
    simp [State.push, State.openClass?, addContents_new, classOf, bare]

theorem yields_extent {own : Yield} {frame : Frame} {f : Function} {orphans : List Orphan}
    (prepared : Prepared path false s)
    (step : Accepts s (.enter d) (State.push { s with functionStack := [f] } frame))
    (run : (State.push { s with functionStack := [f] } frame).run (DeclTree.eventsOf children) =
      ({ (State.push { s with functionStack := [f] } frame).absorb inner with
        orphans := orphans }, none))
    (ends : ∀ t : State, t.skipDepth = 0 → t.frames = frame :: s.frames →
      t.functionStack = [inner.parameters.foldl Function.addParameter f] →
      ∃ more, Accepts t (.exit d)
        { ({ t with frames := s.frames, functionStack := [] } : State).absorb own with
          orphans := more }) :
    Yields s (DeclTree.node d children).events (.append { inner with parameters := [] } own) := by
  have alone : s.functionStack = [] := List.isEmpty_iff.mp prepared.function
  obtain ⟨more, ending⟩ := ends
    { (State.push { s with functionStack := [f] } frame).absorb inner with orphans := orphans }
    prepared.reading rfl rfl
  have closed : ({ (State.push { s with functionStack := [f] } frame).absorb inner with
        orphans := orphans, functionStack := [], frames := s.frames } : State) =
      { s.absorb { inner with parameters := [] } with orphans := orphans } := by
    simp [State.absorb, alone, State.push, State.openClass?]
  refine ⟨more, (run_node step run ending).trans ?_⟩
  rw [closed, ← absorb_append prepared]
  rfl

theorem ends_method {outer : List Frame} {f : Function} (reading : s.skipDepth = 0)
    (top : s.frames = .method :: outer) (current : s.functionStack = [f]) :
    ∃ more, Accepts s (.exit d)
      { ({ s with frames := outer, functionStack := [] } : State).absorb { methods := [f] } with
        orphans := more } := by
  obtain ⟨more, stored⟩ :=
    storeMethod_absorbs { s with frames := outer, functionStack := [] } f d
  refine ⟨more, ?_⟩
  rw [← stored]
  exact .endMethod d outer f [] reading top current

theorem ends_function {outer : List Frame} {f : Function} (reading : s.skipDepth = 0)
    (top : s.frames = .function :: outer) (current : s.functionStack = [f]) :
    ∃ more, Accepts s (.exit d)
      { ({ s with frames := outer, functionStack := [] } : State).absorb { functions := [f] } with
        orphans := more } := by
  have stored : ({ s with
        frames := outer
        functionStack := []
        unit := { s.unit with functions := s.unit.functions ++ [f] } } : State) =
      ({ s with frames := outer, functionStack := [] } : State).absorb { functions := [f] } := by
    simp [State.absorb, addContents_nil]
  refine ⟨s.orphans, ?_⟩
  have ending := Accepts.endFunction d outer f [] reading top current
  rw [stored] at ending
  exact ending

theorem yields_function (prepared : Prepared path false s) (own : d.file = path)
    (kind : d.kind.isFunctionKind = true)
    (extent : attached d ≠ [] →
      ∀ t, Prepared path true t → Yields t (DeclTree.eventsOf children) inner) :
    Yields s (DeclTree.node d children).events (.ofFunction path d inner) := by
  obtain rfl := prepared.path
  have alone : s.functionStack = [] := List.isEmpty_iff.mp prepared.function
  by_cases bare : attached d = []
  · have step := Accepts.passOver d prepared.reading own kind alone bare
    rw [Yield.ofFunction, if_pos bare]
    exact .of_run (run_passed_over prepared.reading step children)
  · have step := Accepts.function d prepared.reading own kind alone bare
    obtain ⟨orphans, run⟩ := extent bare
      (State.push { s with functionStack := [functionOf s.path d (attached d)] }
        (if d.kind = .function then .function else .method))
      ⟨prepared.reading, prepared.path, prepared.stored, rfl⟩
    rw [Yield.ofFunction, if_neg bare]
    by_cases free : d.kind = .function
    · rw [if_pos free] at step run ⊢
      exact yields_extent prepared step run fun t => ends_function
    · rw [if_neg free] at step run ⊢
      exact yields_extent prepared step run fun t => ends_method

end Nodes

theorem fits_extent {path : Path} {inFunction : Bool} {d : Declaration} {children : List DeclTree}
    (fits : Fits path inFunction (.node d children)) (own : d.file = path)
    (kind : d.kind.isFunctionKind = false) : FitsAll path inFunction children := by
  have inside := fits own
  rw [kind] at inside
  exact inside.2

theorem fits_function {path : Path} {inFunction : Bool} {d : Declaration} {children : List DeclTree}
    (fits : Fits path inFunction (.node d children)) (own : d.file = path)
    (kind : d.kind.isFunctionKind = true) :
    inFunction = false ∧ (attached d ≠ [] → FitsAll path true children) := by
  have inside := fits own
  rw [kind] at inside
  exact inside

mutual

theorem yields_meaning {path : Path} {inFunction : Bool} {s : State}
    (prepared : Prepared path inFunction s) :
    (tree : DeclTree) → Fits path inFunction tree → Yields s tree.events (meaning path tree)
  | .node d children => by
    intro fits
    have reading := prepared.reading
    rw [meaning, Yield.ofDeclaration]
    by_cases own : d.file = path
    · have here : d.file = s.path := own.trans prepared.path.symm
      have function (kind : d.kind.isFunctionKind = true) :
          Yields s (DeclTree.node d children).events
            (.ofFunction path d (meaningOf path children)) := by
        obtain ⟨rfl, below⟩ := fits_function fits own kind
        exact yields_function prepared own kind fun annotated t ready =>
          yields_meaningOf ready children (below annotated)
      have extent (kind : d.kind.isFunctionKind = false) : ∀ t, Prepared path inFunction t →
          Yields t (DeclTree.eventsOf children) (meaningOf path children) :=
        fun t ready => yields_meaningOf ready children (fits_extent fits own kind)
      rw [if_neg (not_not_intro own)]
      cases kind : d.kind with
      | record => exact yields_record prepared own kind (extent (by rw [kind]; rfl))
      | field =>
        have adds := prepared.path ▸ enterField_absorbs s d
        simp only [Yield.own, kind]
        exact yields_plain prepared (.field d reading here kind) adds (extent (by rw [kind]; rfl))
      | «variable» =>
        have adds := prepared.path ▸ enterVariable_absorbs s d
        simp only [Yield.own, kind]
        exact yields_plain prepared (.global d reading here kind) ⟨s.orphans, adds⟩
          (extent (by rw [kind]; rfl))
      | parameter =>
        have adds := prepared.path ▸ enterParameter_absorbs s d
        simp only [Yield.own, kind]
        exact yields_plain prepared (.parameter d reading here kind) ⟨s.orphans, adds⟩
          (extent (by rw [kind]; rfl))
      | method => exact function (by rw [kind]; rfl)
      | constructor => exact function (by rw [kind]; rfl)
      | function => exact function (by rw [kind]; rfl)
      | unknown name =>
        have inside := fits own
        simp [kind, DeclKind.isFunctionKind, DeclKind.known] at inside
    · rw [if_pos own]
      have step := Accepts.foreign d reading (prepared.path ▸ own)
      exact .of_run (run_passed_over reading step children)

theorem yields_meaningOf {path : Path} {inFunction : Bool} {s : State}
    (prepared : Prepared path inFunction s) :
    (forest : List DeclTree) → FitsAll path inFunction forest →
      Yields s (DeclTree.eventsOf forest) (meaningOf path forest)
  | [], _ => .of_run rfl
  | tree :: rest, fits => by
    rw [DeclTree.eventsOf, meaningOf]
    exact Yields.append prepared (yields_meaning prepared tree fits.1)
      fun t next => yields_meaningOf next rest fits.2

end

def unitOf (path : Path) (y : Yield) : SourceUnit where
  path := path
  classes := y.classes
  functions := y.functions
  globals := y.globals
  skippedParameters := y.parameters.length
  unattributed := (y.lost + (y.members.length + y.methods.length) : Nat)

theorem track_of_fits {path : Path} {forest : Forest} (fits : FitsAll path false forest) :
    track path forest.events = .ok (unitOf path (meaningOf path forest)) := by
  have prepared : Prepared path false (State.initial path) :=
    ⟨rfl, rfl, by simp [State.openClass?, State.initial], rfl⟩
  obtain ⟨orphans, run⟩ := yields_meaningOf prepared forest fits
  rw [track, Forest.events, run]
  simp [State.finish, State.absorb, State.initial, State.openClass?, addContents, unitOf]

end DeclGen.Scope
