import DeclGen.Proofs.Scope.Step

/-!
The stacks of a tracker agree with each other in every state that it can reach, whatever events it
is fed and however many of them it refuses. From this it follows that nothing is ever taken off an
empty stack and that no class is looked up outside the unit.
-/
namespace DeclGen.Scope

def heading (f : Function) : Function := { f with parameters := [] }

/-- The positions of the open classes that have a directive, outermost first. -/
def State.openClasses (s : State) : List Nat := s.classStack.reverse.filterMap id

/-- How many declarations are open, those of a subtree that is passed over included. -/
def State.openCount (s : State) : Nat := s.frames.length + s.skipDepth

/-- Nothing but the contents of entities differs: the same declarations are open and the same
classes exist. -/
structure SameOutline (s t : State) : Prop where
  path : t.path = s.path
  classStack : t.classStack = s.classStack
  functionStack : t.functionStack.map heading = s.functionStack.map heading
  frames : t.frames = s.frames
  skipDepth : t.skipDepth = s.skipDepth
  classes : t.unit.classes.map Class.toEntity = s.unit.classes.map Class.toEntity

theorem map_toEntity_modify {change : Class → Class} (keeps : ∀ c, (change c).toEntity = c.toEntity)
    (classes : List Class) (position : Nat) :
    (classes.modify position change).map Class.toEntity = classes.map Class.toEntity := by
  induction classes generalizing position with
  | nil => cases position <;> rfl
  | cons c rest ih =>
    cases position with
    | zero => simp [keeps]
    | succ n => simp [ih]

theorem SameOutline.refl (s : State) : SameOutline s s := ⟨rfl, rfl, rfl, rfl, rfl, rfl⟩

theorem modifyClass_outline (s : State) (position : Nat) {change : Class → Class}
    (keeps : ∀ c, (change c).toEntity = c.toEntity) : SameOutline s (s.modifyClass position change) :=
  ⟨rfl, rfl, rfl, rfl, rfl, map_toEntity_modify keeps _ _⟩

theorem orphan_outline (s : State) (role : OrphanRole) (d : Declaration) :
    SameOutline s (s.orphan role d) := ⟨rfl, rfl, rfl, rfl, rfl, rfl⟩

theorem enterField_outline (s : State) (d : Declaration) : SameOutline s (s.enterField d) := by
  unfold State.enterField
  split
  · exact .refl s
  · split
    · exact orphan_outline s _ d
    · exact modifyClass_outline s _ fun c => rfl

theorem enterVariable_outline (s : State) (d : Declaration) : SameOutline s (s.enterVariable d) := by
  unfold State.enterVariable
  split
  · exact .refl s
  · exact ⟨rfl, rfl, rfl, rfl, rfl, rfl⟩

theorem heading_addParameter (f : Function) (parameter : Variable) :
    heading (f.addParameter parameter) = heading f := by
  unfold Function.addParameter
  split <;> rfl

theorem enterParameter_outline (s : State) (d : Declaration) : SameOutline s (s.enterParameter d) := by
  unfold State.enterParameter
  split
  · exact ⟨rfl, rfl, rfl, rfl, rfl, rfl⟩
  · next f outer current =>
    refine ⟨rfl, rfl, ?_, rfl, rfl, rfl⟩
    simp [current, heading_addParameter]

theorem storeMethod_outline (s : State) (f : Function) (d : Declaration) :
    SameOutline s (s.storeMethod f d) := by
  unfold State.storeMethod
  split
  · exact orphan_outline s _ d
  · exact modifyClass_outline s _ fun c => rfl

/-- The classes and functions that are open are those the frames stand for; the open classes are
positions in the unit, and an inner one comes after an outer one. -/
structure StacksAgree (s : State) : Prop where
  classes : s.classStack.length = s.frames.count .classBody
  functions : s.functionStack.length = s.frames.count .method + s.frames.count .function
  single : s.functionStack.length ≤ 1
  ascending : s.openClasses.Pairwise (· < ·)
  stored : ∀ i ∈ s.openClasses, i < s.unit.classes.length

theorem SameOutline.length_functions {s t : State} (same : SameOutline s t) :
    t.functionStack.length = s.functionStack.length := by
  simpa using congrArg List.length same.functionStack

theorem SameOutline.length_classes {s t : State} (same : SameOutline s t) :
    t.unit.classes.length = s.unit.classes.length := by
  simpa using congrArg List.length same.classes

theorem StacksAgree.of_outline {s t : State} (same : SameOutline s t) (agree : StacksAgree s) :
    StacksAgree t := by
  have lengths := same.length_functions
  have positions : t.openClasses = s.openClasses := by
    simp only [State.openClasses, same.classStack]
  refine ⟨?_, ?_, ?_, ?_, ?_⟩
  · rw [same.classStack, same.frames, agree.classes]
  · rw [lengths, same.frames, agree.functions]
  · rw [lengths]; exact agree.single
  · rw [positions]; exact agree.ascending
  · rw [positions, same.length_classes]; exact agree.stored

theorem StacksAgree.push_plain {s : State} (agree : StacksAgree s) : StacksAgree (s.push .plain) := by
  refine ⟨?_, ?_, agree.single, agree.ascending, agree.stored⟩
  · simpa [State.push] using agree.classes
  · simpa [State.push] using agree.functions

theorem openClasses_eq {s t : State} {position : Option Nat}
    (stack : t.classStack = position :: s.classStack) :
    t.openClasses = s.openClasses ++ position.toList := by
  cases position <;> simp [State.openClasses, stack]

theorem StacksAgree.open_class {s t : State} (agree : StacksAgree s) (position : Option Nat)
    (stack : t.classStack = position :: s.classStack) (frames : t.frames = .classBody :: s.frames)
    (functions : t.functionStack = s.functionStack)
    (grown : s.unit.classes.length ≤ t.unit.classes.length)
    (new : ∀ i ∈ position, s.unit.classes.length ≤ i ∧ i < t.unit.classes.length) :
    StacksAgree t := by
  have positions := openClasses_eq stack
  refine ⟨?_, ?_, ?_, ?_, ?_⟩
  · simp [stack, frames, agree.classes]
  · simpa [functions, frames] using agree.functions
  · rw [functions]; exact agree.single
  · rw [positions, List.pairwise_append]
    refine ⟨agree.ascending, by cases position <;> simp, ?_⟩
    intro outer isOpen inner isNew
    have before := agree.stored outer isOpen
    have behind := new inner (Option.mem_toList.mp isNew)
    omega
  · intro i member
    rw [positions] at member
    rcases List.mem_append.mp member with older | isNew
    · have before := agree.stored i older
      omega
    · exact (new i (Option.mem_toList.mp isNew)).2

theorem StacksAgree.enterRecord {s : State} (agree : StacksAgree s) (d : Declaration) :
    StacksAgree ((s.enterRecord d).push .classBody) := by
  by_cases bare : attached d = []
  · rw [enterRecord_bare bare]
    exact agree.open_class none rfl rfl rfl (Nat.le_refl _) (by simp)
  · rw [enterRecord_annotated bare]
    refine agree.open_class (some s.unit.classes.length) rfl rfl rfl ?_ ?_
    · simp [State.push]
    · simp [State.push]

theorem StacksAgree.step {s next : State} {event : Event} (agree : StacksAgree s)
    (step : Accepts s event next) : StacksAgree next := by
  have counted := agree.classes
  have supplied := agree.functions
  have single := agree.single
  cases step with
  | deeper d skipping => exact ⟨counted, supplied, single, agree.ascending, agree.stored⟩
  | foreign d reading elsewhere => exact ⟨counted, supplied, single, agree.ascending, agree.stored⟩
  | record d reading own kind => exact agree.enterRecord d
  | field d reading own kind => exact (agree.of_outline (enterField_outline s d)).push_plain
  | parameter d reading own kind =>
    exact (agree.of_outline (enterParameter_outline s d)).push_plain
  | global d reading own kind => exact (agree.of_outline (enterVariable_outline s d)).push_plain
  | passOver d reading own kind alone bare =>
    exact ⟨counted, supplied, single, agree.ascending, agree.stored⟩
  | function d reading own kind alone annotated =>
    rw [alone, List.length_nil] at supplied
    refine ⟨?_, ?_, by simp [State.push], agree.ascending, agree.stored⟩
    · rw [State.push]
      split <;> simpa using counted
    · rw [State.push]
      split <;> simp <;> omega
  | shallower d skipping => exact ⟨counted, supplied, single, agree.ascending, agree.stored⟩
  | endPlain d outer reading top =>
    refine ⟨?_, ?_, single, agree.ascending, agree.stored⟩
    · simpa [top] using counted
    · simpa [top] using supplied
  | endClass d outer reading top =>
    -- The frame says that a class is open, so the stack has one to give.
    cases stack : s.classStack with
    | nil => simp [stack, top] at counted
    | cons position below =>
      have positions : s.openClasses =
          ({ s with frames := outer, classStack := below } : State).openClasses
            ++ position.toList := openClasses_eq stack
      have ascending := agree.ascending
      have stored := agree.stored
      rw [positions] at ascending stored
      refine ⟨?_, ?_, single, (List.pairwise_append.mp ascending).1, ?_⟩
      · simpa [stack, top] using counted
      · simpa [top] using supplied
      · intro i member
        exact stored i (List.mem_append_left _ member)
  | endMethod d outer f functions reading top current =>
    refine StacksAgree.of_outline (storeMethod_outline _ f d) ?_
    rw [top, current] at supplied
    rw [current] at single
    refine ⟨by simpa [top] using counted, ?_, ?_, agree.ascending, agree.stored⟩
    · simp at supplied ⊢; omega
    · rw [List.length_cons] at single
      change functions.length ≤ 1
      omega
  | endFunction d outer f functions reading top current =>
    rw [top, current] at supplied
    rw [current] at single
    refine ⟨by simpa [top] using counted, ?_, ?_, agree.ascending, agree.stored⟩
    · simp at supplied ⊢; omega
    · rw [List.length_cons] at single
      change functions.length ≤ 1
      omega

theorem stacksAgree_initial (path : Path) : StacksAgree (State.initial path) :=
  ⟨rfl, rfl, Nat.zero_le _, .nil, by simp [State.openClasses, State.initial]⟩

theorem StacksAgree.feed {s : State} (agree : StacksAgree s) (event : Event) :
    StacksAgree (s.feed event).1 := by
  rcases feed_cases s event agree.functions with ⟨step, _⟩ | ⟨refused, _⟩
  · exact agree.step step
  · rw [refused]; exact agree

theorem StacksAgree.feedAll {s : State} (agree : StacksAgree s) (events : List Event) :
    StacksAgree (s.feedAll events) := by
  induction events generalizing s with
  | nil => exact agree
  | cons event rest ih => exact ih (agree.feed event)

def State.accepted (s : State) : List Event → List Event
  | [] => []
  | event :: rest =>
    match (s.feed event).2 with
    | none => event :: State.accepted (s.feed event).1 rest
    | some _ => State.accepted (s.feed event).1 rest

def enters (events : List Event) : Nat := events.countP fun e => e matches .enter _

def exits (events : List Event) : Nat := events.countP fun e => e matches .exit _

theorem SameOutline.openCount {s t : State} (same : SameOutline s t) :
    t.openCount = s.openCount := by
  simp only [State.openCount, same.frames, same.skipDepth]

theorem openCount_push (s : State) (frame : Frame) : (s.push frame).openCount = s.openCount + 1 := by
  simp only [State.openCount, State.push, List.length_cons]
  omega

theorem openCount_enterRecord (s : State) (d : Declaration) :
    (s.enterRecord d).openCount = s.openCount := by
  by_cases bare : attached d = []
  · rw [enterRecord_bare bare]; rfl
  · rw [enterRecord_annotated bare]; rfl

theorem openCount_pop {s t : State} {frame : Frame} {outer : List Frame}
    (top : s.frames = frame :: outer) (frames : t.frames = outer) (skip : t.skipDepth = s.skipDepth) :
    t.openCount + 1 = s.openCount := by
  simp only [State.openCount, top, frames, skip, List.length_cons]
  omega

theorem openCount_step {s next : State} {event : Event} (step : Accepts s event next) :
    next.openCount + exits [event] = s.openCount + enters [event] := by
  cases step with
  | deeper d skipping => simp [State.openCount, enters, exits]; omega
  | foreign d reading elsewhere => simp [State.openCount, enters, exits, reading]
  | record d reading own kind => simp [openCount_push, openCount_enterRecord, enters, exits]
  | field d reading own kind =>
    simp [openCount_push, (enterField_outline s d).openCount, enters, exits]
  | parameter d reading own kind =>
    simp [openCount_push, (enterParameter_outline s d).openCount, enters, exits]
  | global d reading own kind =>
    simp [openCount_push, (enterVariable_outline s d).openCount, enters, exits]
  | passOver d reading own kind alone bare => simp [State.openCount, enters, exits, reading]
  | function d reading own kind alone annotated =>
    rw [openCount_push]
    simp [State.openCount, enters, exits]
  | shallower d skipping => simp [State.openCount, enters, exits]; omega
  | endPlain d outer reading top => exact openCount_pop top rfl rfl
  | endClass d outer reading top => exact openCount_pop top rfl rfl
  | endMethod d outer f functions reading top current =>
    have same := storeMethod_outline
      ({ s with frames := outer, functionStack := functions } : State) f d
    exact openCount_pop top same.frames same.skipDepth
  | endFunction d outer f functions reading top current => exact openCount_pop top rfl rfl

theorem openCount_feedAll {s : State} (agree : StacksAgree s) (events : List Event) :
    (s.feedAll events).openCount + exits (s.accepted events) =
      s.openCount + enters (s.accepted events) := by
  induction events generalizing s with
  | nil => rfl
  | cons event rest ih =>
    have tail := ih (agree.feed event)
    change ((s.feed event).1.feedAll rest).openCount + _ = _
    rcases feed_cases s event agree.functions with ⟨step, none⟩ | ⟨refused, error, some⟩
    · have one := openCount_step step
      simp only [State.accepted, none]
      simp only [enters, exits, List.countP_cons, List.countP_nil] at one tail ⊢
      omega
    · rw [refused] at tail ⊢
      simp only [State.accepted, some, refused]
      exact tail

/-- Everything that the next event would take off a stack or look up is there: the class or function
that the top frame stands for, and the class that is open. -/
structure Ready (s : State) : Prop where
  class_there : s.frames.head? = some .classBody → s.classStack ≠ []
  method_there : s.frames.head? = some .method → s.functionStack ≠ []
  function_there : s.frames.head? = some .function → s.functionStack ≠ []
  owner_there : ∀ i, s.openClass? = some i → i < s.unit.classes.length

theorem StacksAgree.ready {s : State} (agree : StacksAgree s) : Ready s := by
  have counted := agree.classes
  have supplied := agree.functions
  refine ⟨?_, ?_, ?_, ?_⟩
  · intro top empty
    obtain ⟨outer, frames⟩ := List.head?_eq_some_iff.mp top
    simp [frames, empty] at counted
  · intro top empty
    obtain ⟨outer, frames⟩ := List.head?_eq_some_iff.mp top
    simp [frames, empty] at supplied
    omega
  · intro top empty
    obtain ⟨outer, frames⟩ := List.head?_eq_some_iff.mp top
    simp [frames, empty] at supplied
  · intro i owner
    apply agree.stored i
    obtain ⟨rest, stack⟩ := List.head?_eq_some_iff.mp (Option.join_eq_some_iff.mp owner)
    simp [State.openClasses, stack]

end DeclGen.Scope
